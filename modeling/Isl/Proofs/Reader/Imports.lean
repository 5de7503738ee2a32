import Isl.Proofs.Reader.Document
import Isl.Proofs.Reader.Unordered
/-!
# Documents that list the same imports

Each import in a header is read by itself, whatever stands before and behind it. So values whose
header lists its imports in another order are read as documents that differ in nothing else, or none
of them is accepted.

* `SchemaDocument.SameImports`: documents whose headers list the same imports;
* `Reader.Relisted`: values with the imports of a header in another order;
* `Reader.document_relisted`: how such values are read.
-/
namespace Isl

/-- Headers list the same imports, in any order and any number of times. Nothing else differs. -/
inductive SchemaItem.SameImports : SchemaItem → SchemaItem → Prop where
  | header {is js : List HeaderImport} {reserved : ReservedFields} {openContent : List Field}
      (same : ∀ i, i ∈ is ↔ i ∈ js) :
      SameImports (.header ⟨is, reserved, openContent⟩) (.header ⟨js, reserved, openContent⟩)
  | rest (x : SchemaItem) : SameImports x x

/-- Documents differ in nothing but how their headers list the imports. -/
structure SchemaDocument.SameImports (d e : SchemaDocument) : Prop where
  id : d.id = e.id
  version : d.version = e.version
  items : List.Forall₂ SchemaItem.SameImports d.items e.items

theorem SchemaItem.SameImports.symm {x y : SchemaItem} (same : x.SameImports y) :
    y.SameImports x := by
  cases same with
  | header same => exact .header fun i => (same i).symm
  | rest => exact .rest x

namespace SchemaDocument.SameImports

variable {d e : SchemaDocument}

theorem symm (same : d.SameImports e) : e.SameImports d :=
  ⟨same.id.symm, same.version.symm, same.items.flip.imp fun _ _ => SchemaItem.SameImports.symm⟩

theorem withId (same : d.SameImports e) (id : String) : (d.withId id).SameImports (e.withId id) :=
  ⟨rfl, same.version, same.items⟩

/-- The items tell the same of everything but imports. -/
theorem map_items {α : Type} {f : SchemaItem → α} (same : d.SameImports e)
    (told : ∀ x y, x.SameImports y → f x = f y) : d.items.map f = e.items.map f := by
  rw [← List.forall₂_eq_eq_eq, List.forall₂_map_left_iff, List.forall₂_map_right_iff]
  exact same.items.imp told

theorem types (same : d.SameImports e) : d.types = e.types := by
  have told := same.map_items (f := SchemaItem.type?) fun x y alike => by cases alike <;> rfl
  have types := congrArg (List.filterMap fun t => t) told
  rwa [List.filterMap_map, List.filterMap_map] at types

theorem footer (same : d.SameImports e) : d.footer? = e.footer? := by
  have told := same.map_items (f := SchemaItem.footer?) fun x y alike => by cases alike <;> rfl
  have footer := congrArg (List.findSome? fun f => f) told
  rwa [List.findSome?_map, List.findSome?_map] at footer

/-- Neither has a header, or both have one with the same imports. -/
theorem header (same : d.SameImports e) :
    d.header? = none ∧ e.header? = none ∨
      ∃ h k, d.header? = some h ∧ e.header? = some k ∧ ∀ i, i ∈ h.imports ↔ i ∈ k.imports := by
  have each : ∀ {xs ys : List SchemaItem}, xs.Forall₂ SchemaItem.SameImports ys →
      xs.findSome? SchemaItem.header? = none ∧ ys.findSome? SchemaItem.header? = none ∨
        ∃ h k, xs.findSome? SchemaItem.header? = some h ∧
          ys.findSome? SchemaItem.header? = some k ∧ ∀ i, i ∈ h.imports ↔ i ∈ k.imports := by
    intro xs ys items
    induction items with
    | nil => exact .inl ⟨rfl, rfl⟩
    | @cons x _ _ _ first _ ih =>
      cases first with
      | header same => exact .inr ⟨_, _, rfl, rfl, same⟩
      | rest =>
        cases found : x.header? with
        | none => simpa only [List.findSome?_cons, found] using ih
        | some h => exact .inr ⟨h, h, by simp [found], by simp [found], fun _ => .rfl⟩
  exact each same.items

theorem imports (same : d.SameImports e) (i : HeaderImport) : i ∈ d.imports ↔ i ∈ e.imports := by
  obtain ⟨bare, bare'⟩ | ⟨h, k, found, found', listed⟩ := same.header
  · simp [SchemaDocument.imports, bare, bare']
  · simpa [SchemaDocument.imports, found, found'] using listed i

end SchemaDocument.SameImports

/-! ## Reading -/

namespace Reader

/-- A header lists its imports in another order. -/
inductive Relisted : Element → Element → Prop where
  | header {front back : List Field} {annotations : List String} {es es' : List Element}
      (perm : es.Perm es') :
      Relisted ⟨["schema_header"], .struct (front ++ ⟨"imports", annotations, .list es⟩ :: back)⟩
        ⟨["schema_header"], .struct (front ++ ⟨"imports", annotations, .list es'⟩ :: back)⟩
  | rest (e : Element) : Relisted e e

theorem Relisted.isMarker {e e' : Element} (relisted : Relisted e e') :
    isMarker e = isMarker e' := by
  cases relisted <;> rfl

/-- The imports are read one by one. -/
theorem accepted?_importsFrom (ctx : Context) (path : TreePath) (i : Nat) (es : List Element) :
    accepted? (importsFrom ctx path i es) =
      es.mapM fun e => (headerImport ctx.vocabulary e).toOption := by
  induction es generalizing i with
  | nil => rfl
  | cons e es ih => rw [accepted?_importsFrom_cons, mapM_option_cons, ih]

section

variable {front back : List Field} {annotations : List String} {es es' : List Element}
  (ctx : Context) (path : TreePath)

theorem getAll_imports (es : List Element) :
    Field.getAll (front ++ ⟨"imports", annotations, .list es⟩ :: back) "imports" =
      Field.getAll front "imports" ++ ⟨annotations, .list es⟩ :: Field.getAll back "imports" := by
  simp [Field.getAll]

theorem getAll_other {name : String} (other : name ≠ "imports") :
    Field.getAll (front ++ ⟨"imports", annotations, .list es⟩ :: back) name =
      Field.getAll (front ++ ⟨"imports", annotations, .list es'⟩ :: back) name := by
  simp [Field.getAll, other.symm]

theorem optionalField_other {name : String} (other : name ≠ "imports") (shape : Shape) :
    optionalField (front ++ ⟨"imports", annotations, .list es⟩ :: back) name shape =
      optionalField (front ++ ⟨"imports", annotations, .list es'⟩ :: back) name shape := by
  rw [optionalField, getAll_other other, optionalField]

/-- The list is read if no other field has its name and it is not annotated. -/
theorem accepted?_headerImports_listed (es : List Element) :
    accepted? (headerImports ctx path (front ++ ⟨"imports", annotations, .list es⟩ :: back)) =
      if (Field.getAll front "imports" ++ Field.getAll back "imports").isEmpty &&
          annotations.isEmpty then
        es.mapM fun e => (headerImport ctx.vocabulary e).toOption
      else none := by
  rw [accepted?_headerImports]
  unfold optionalField
  rw [getAll_imports]
  match Field.getAll front "imports", Field.getAll back "imports" with
  | [], [] =>
    cases annotations with
    | nil => exact accepted?_importsFrom ctx _ 0 es
    | cons => rfl
  | [], _ :: _ => rfl
  | [_], _ => rfl
  | _ :: _ :: _, _ => rfl

theorem rel_headerImports (perm : es.Perm es') :
    Option.Rel List.Perm
      (accepted? (headerImports ctx path (front ++ ⟨"imports", annotations, .list es⟩ :: back)))
      (accepted? (headerImports ctx path
        (front ++ ⟨"imports", annotations, .list es'⟩ :: back))) := by
  rw [accepted?_headerImports_listed, accepted?_headerImports_listed]
  exact rel_ite rfl (mapM_perm perm _)

/-- What the header declares is in another field. -/
theorem declaredBy_relisted (vocabulary : Vocabulary) :
    declaredBy vocabulary (front ++ ⟨"imports", annotations, .list es⟩ :: back) =
      declaredBy vocabulary (front ++ ⟨"imports", annotations, .list es'⟩ :: back) := by
  unfold declaredBy reservedFields
  rw [optionalField_other (by decide)]

/-- Drafts of a header with its imports in any order. -/
inductive HeaderDraft.Relisted : HeaderDraft → HeaderDraft → Prop where
  | listed {front back : List Field} {annotations : List String} {es es' : List Element}
      {is js : List HeaderImport} (e e' : Element) (perm : is.Perm js) (reserved : ReservedFields) :
      Relisted ⟨e, front ++ ⟨"imports", annotations, .list es⟩ :: back, is, reserved⟩
        ⟨e', front ++ ⟨"imports", annotations, .list es'⟩ :: back, js, reserved⟩
  | same (d : HeaderDraft) : Relisted d d

theorem HeaderDraft.Relisted.reserved {d d' : HeaderDraft} (drafts : d.Relisted d') :
    d.reserved = d'.reserved := by
  cases drafts <;> rfl

theorem rel_headerDraft (perm : es.Perm es') :
    Option.Rel HeaderDraft.Relisted
      (accepted? (headerDraft ctx path ⟨["schema_header"],
        .struct (front ++ ⟨"imports", annotations, .list es⟩ :: back)⟩))
      (accepted? (headerDraft ctx path ⟨["schema_header"],
        .struct (front ++ ⟨"imports", annotations, .list es'⟩ :: back)⟩)) := by
  rw [accepted?_headerDraft rfl, accepted?_headerDraft rfl, declaredBy_relisted]
  refine rel_ite rfl (rel_bind (rel_headerImports ctx path perm) fun is js imports => ?_)
  exact rel_map (rel_self (fun _ => rfl) _) fun reserved _ same =>
    same ▸ .listed _ _ imports reserved

/-- The open content of a header has no field for imports. -/
theorem HeaderDraft.Relisted.close {d d' : HeaderDraft} (drafts : d.Relisted d')
    (vocabulary : Vocabulary) :
    Option.Rel (fun h k => SchemaItem.SameImports (.header h) (.header k))
      (d.close vocabulary).toOption (d'.close vocabulary).toOption := by
  cases drafts with
  | same => exact rel_self (fun h => .rest (.header h)) _
  | @listed front back annotations es es' is js e e' perm reserved =>
    have keyword : vocabulary.isHeaderKeyword "imports" = true := by
      unfold Vocabulary.isHeaderKeyword Vocabulary.headerKeywords
      split <;> rfl
    have names : (front ++ ⟨"imports", annotations, .list es⟩ :: back).map Field.name =
        (front ++ ⟨"imports", annotations, .list es'⟩ :: back).map Field.name := by simp
    have left : (front ++ ⟨"imports", annotations, .list es⟩ :: back).filter
          (fun f : Field => !vocabulary.isHeaderKeyword f.name) =
        (front ++ ⟨"imports", annotations, .list es'⟩ :: back).filter
          fun f : Field => !vocabulary.isHeaderKeyword f.name := by
      simp [keyword]
    have listed : ∀ openContent : List Field, SchemaItem.SameImports
        (.header ⟨is, reserved, openContent⟩) (.header ⟨js, reserved, openContent⟩) :=
      fun _ => .header fun _ => perm.mem_iff
    unfold HeaderDraft.close undeclared
    simp only [names, left]
    refine Agree.toOption ?_
    cases vocabulary.declaresReserved with
    | false => exact .ok (listed _)
    | true => exact agree_then (agree_require rfl _ _) fun _ => .ok (listed _)

end

/-! ## Documents -/

/-- Two reads of a document have come equally far. -/
structure Progress.SameImports (p q : Progress) : Prop where
  context : p.context = q.context
  place : p.place = q.place
  items : List.Forall₂ SchemaItem.SameImports p.items q.items
  stopped : p.stopped = q.stopped

section

variable {p q : Progress} {e e' : Element}

theorem Progress.SameImports.extend (same : p.SameImports q) (context : Context) (place : Section)
    {x y : SchemaItem} (item : x.SameImports y) :
    SameImports ⟨context, place, p.items ++ [x], p.stopped⟩
      ⟨context, place, q.items ++ [y], q.stopped⟩ :=
  ⟨rfl, rfl, List.rel_append same.items (.cons item .nil), same.stopped⟩

theorem concur_report (ctx : Context) (path : TreePath) (fault fault' : ReadFault) :
    Concur Progress.SameImports (report ctx path fault >>= fun _ => pure p)
      (report ctx path fault' >>= fun _ => pure q) := by
  rw [Concur, accepted?_report_bind, accepted?_report_bind]
  exact .none

theorem concur_markerItem (d : Dialect) (same : p.SameImports q) (path : TreePath)
    (marker : String) :
    Concur Progress.SameImports (markerItem d p path marker) (markerItem d q path marker) := by
  unfold markerItem
  rw [same.place, same.context]
  split
  · split
    · exact concur_pure ⟨rfl, rfl, same.items, same.stopped⟩
    · exact concur_report ..
  · exact concur_report ..

theorem concur_bodyItem_header (same : p.SameImports q) (path : TreePath) (relisted : Relisted e e')
    (header : isAnnotatedStruct e "schema_header" = true) :
    Concur Progress.SameImports (bodyItem p path e) (bodyItem q path e') := by
  have header' : isAnnotatedStruct e' "schema_header" = true := by
    cases relisted with
    | header => rfl
    | rest => exact header
  rw [Concur, accepted?_bodyItem_header p path header, accepted?_bodyItem_header q path header',
    same.place, same.context]
  split
  · have drafts : Option.Rel HeaderDraft.Relisted (accepted? (headerDraft q.context path e))
        (accepted? (headerDraft q.context path e')) := by
      cases relisted with
      | header perm => exact rel_headerDraft q.context path perm
      | rest => exact rel_self .same _
    refine rel_bind drafts fun d d' both => ?_
    rw [both.reserved]
    exact rel_map (both.close q.context.vocabulary) fun h k listed => same.extend _ _ listed
  · exact .none

theorem concur_bodyItem_relisted (same : p.SameImports q) (path : TreePath)
    (relisted : Relisted e e') :
    Concur Progress.SameImports (bodyItem p path e) (bodyItem q path e') := by
  cases header : isAnnotatedStruct e "schema_header" with
  | true => exact concur_bodyItem_header same path relisted header
  | false =>
    cases relisted with
    | header => cases header
    | rest =>
      rw [Concur]
      cases type : isAnnotatedStruct e "type" with
      | true =>
        rw [accepted?_bodyItem_type p path header type, accepted?_bodyItem_type q path header type,
          same.context]
        exact rel_map (rel_self (fun _ => rfl) _) fun t _ own =>
          own ▸ same.extend q.context .types (.rest (.type t))
      | false =>
        cases footer : isAnnotatedStruct e "schema_footer" with
        | true =>
          rw [accepted?_bodyItem_footer p path header type footer,
            accepted?_bodyItem_footer q path header type footer, same.context]
          exact rel_map (rel_self (fun _ => rfl) _) fun f _ own =>
            own ▸ same.extend q.context .afterFooter (.rest (.footer f))
        | false =>
          rw [accepted?_bodyItem_open p path header type footer,
            accepted?_bodyItem_open q path header type footer, same.context]
          split
          · exact .none
          · rw [Progress.add, Progress.add, same.context, same.place]
            exact .some (same.extend q.context q.place (.rest (.openContent e)))

theorem concur_item_relisted (d : Dialect) (same : p.SameImports q) (path : TreePath)
    (relisted : Relisted e e') :
    Concur Progress.SameImports (item d p path e) (item d q path e') := by
  unfold item
  rw [relisted.isMarker, same.place]
  split
  · cases relisted with
    | header => contradiction
    | rest => exact concur_markerItem d same path _
  · split
    · exact concur_pure same
    · rw [same.context]
      exact concur_report ..
    · exact concur_bodyItem_relisted same path relisted

end

/-- Values with imports in another order are read as documents that list the same imports, or both
reads fail. -/
theorem document_relisted (d : Dialect) {values values' : List Element}
    (each : values.Forall₂ Relisted values') (failFast : Bool) :
    (∃ a b, document d values failFast = .ok a ∧ document d values' failFast = .ok b ∧
        a.SameImports b) ∨
      ∃ errors errors', document d values failFast = .error errors ∧
        document d values' failFast = .error errors' := by
  have start : (beginning d values' failFast).SameImports (beginning d values' failFast) :=
    ⟨rfl, rfl, List.forall₂_same.2 fun x _ => .rest x, rfl⟩
  have items : Concur Progress.SameImports (itemsFrom d 0 (beginning d values' failFast) values)
      (itemsFrom d 0 (beginning d values' failFast) values') :=
    rel_itemsFrom (fun same relisted path => concur_item_relisted d same path relisted)
      (fun same => same.stopped) each start 0
  have marked := any_isMarker_of (fun _ _ relisted => relisted.isMarker) each
  have beginnings : beginning d values failFast = beginning d values' failFast := by
    unfold beginning
    rw [marked]
  have read := concur_finish items .root .root
  unfold document
  rw [beginnings]
  obtain ⟨p, q, done, done', same⟩ | ⟨errors, errors', failed, failed'⟩ := read
  · rw [done, done']
    have version : p.version = q.version := congrArg Context.version same.context
    exact .inl ⟨_, _, rfl, rfl, rfl, version, same.items⟩
  · rw [failed, failed']
    exact .inr ⟨_, _, rfl, rfl⟩

end Reader
end Isl
