import Isl.Proofs.Reader.Document
import Isl.Proofs.Reader.Unordered
/-!
# Documents however they are spelled

A document of version 2.0 is read for its data. Top-level values that are equal one by one, with
the fields of structs in any order at any depth, make equal documents or none.

* `concur_headerDraft`, `concur_namedType`, `agree_footer`: the kinds of items;
* `concur_itemsFrom`: equal values behind the marker;
* `SchemaReader.readSchema_same`: whole documents.
-/
namespace Isl
namespace Reader

/-! ## Headers -/

section
variable {e e' : Element} (h : e.same e' = true)
include h

theorem agree_headerImport (vocabulary : Vocabulary) :
    Agree Eq (headerImport vocabulary e) (headerImport vocabulary e') := by
  have fields := Element.struct?_same h
  unfold headerImport
  generalize e.struct? = o, e'.struct? = o' at fields
  cases fields with
  | none => exact .error _ _
  | some fields =>
    refine agree_then (agree_require (Field.all_same fields vocabulary.isImportKeyword) _ _)
      fun _ => ?_
    refine agree_then (agree_require (by rw [Element.annotations_same h]) _ _) fun _ => ?_
    refine agree_bind (agree_requiredField fields "id" .text e e') fun id id' sameId => ?_
    refine agree_bind (agree_optionalField fields "type" .symbol) fun _ _ type => ?_
    refine agree_bind (agree_optionalField fields "as" .symbol) fun _ _ newName => ?_
    cases type with
    | none =>
      cases newName with
      | none => exact .ok (congrArg _ (textOf_same sameId))
      | some newName => exact .error _ _
    | some type =>
      refine .ok ?_
      rw [textOf_same sameId, textOf_same type]
      cases newName with
      | none => rfl
      | some newName => rw [Option.map_some, Option.map_some, textOf_same newName]

theorem agree_reservedWord (name : String) (isKeyword : String → Bool) (list list' : Element)
    (words : NameSet) :
    Agree Eq (reservedWord name isKeyword list words e)
      (reservedWord name isKeyword list' words e') := by
  unfold reservedWord
  rw [Element.symbol?_same h, Element.annotations_same h]
  cases e'.symbol? with
  | none => exact .error _ _
  | some word => exact agree_ite rfl (.error _ _) (agree_ite rfl (.error _ _) (.ok rfl))

end

theorem agree_reservedWords {es es' : List Element}
    (each : List.Forall₂ (fun a b => a.same b = true) es es') (name : String)
    (isKeyword : String → Bool) (list list' : Element) (words : NameSet) :
    Agree Eq (es.foldlM (reservedWord name isKeyword list) words)
      (es'.foldlM (reservedWord name isKeyword list') words) := by
  induction each generalizing words with
  | nil => exact .ok rfl
  | cons first _ ih =>
    rw [List.foldlM_cons, List.foldlM_cons]
    exact agree_then (agree_reservedWord first name isKeyword list list' words) ih

theorem concur_importsFrom {es es' : List Element}
    (each : List.Forall₂ (fun a b => a.same b = true) es es') (ctx : Context) (path : TreePath)
    (i : Nat) : Concur Eq (importsFrom ctx path i es) (importsFrom ctx path i es') := by
  induction each generalizing i with
  | nil => exact concur_pure rfl
  | cons first _ ih =>
    rw [Concur, accepted?_importsFrom_cons, accepted?_importsFrom_cons]
    refine rel_bind (agree_headerImport first ctx.vocabulary).toOption fun a b same => ?_
    exact rel_map (ih (i + 1)) fun _ _ rest => by rw [same, rest]

/-- The items of a list that may be missing. -/
theorem items_same {list list' : Element} (same : list.same list' = true) :
    List.Forall₂ (fun a b => a.same b = true) (list.list?.getD []) (list'.list?.getD []) := by
  have items := Element.list?_same same
  generalize list.list? = o, list'.list? = o' at items
  cases items with
  | none => exact .nil
  | some each => exact each

section
variable {fs gs : List Field} (fields : Rearranged (fun f g => f.same g = true) fs gs)
include fields

theorem agree_reservedList (name : String) (isKeyword : String → Bool) :
    Agree Eq (reservedList fs name isKeyword) (reservedList gs name isKeyword) := by
  refine agree_bind (agree_optionalField fields name .list) fun _ _ list => ?_
  cases list with
  | none => exact .ok rfl
  | some same => exact agree_reservedWords (items_same same) name isKeyword _ _ []

theorem agree_reservedFields (vocabulary : Vocabulary) :
    Agree Eq (reservedFields vocabulary fs) (reservedFields vocabulary gs) := by
  refine agree_bind (agree_optionalField fields "user_reserved_fields" .struct) fun _ _ words => ?_
  cases words with
  | none => exact .ok rfl
  | @some e e' same =>
    have inner : Rearranged (fun f g => f.same g = true) (e.struct?.getD [])
        (e'.struct?.getD []) := by
      have fields := Element.struct?_same same
      generalize e.struct? = o, e'.struct? = o' at fields
      cases fields with
      | none => exact ⟨[], .nil, .refl _⟩
      | some fields => exact fields
    refine agree_then (agree_require (Field.all_same inner fun name =>
      ["schema_header", "type", "schema_footer"].contains name) _ _) fun _ => ?_
    refine agree_then (agree_require (by rw [Element.annotations_same same]) _ _) fun _ => ?_
    refine agree_then (agree_reservedList inner _ _) fun header => ?_
    refine agree_then (agree_reservedList inner _ _) fun type => ?_
    exact agree_then (agree_reservedList inner _ _) fun footer => .ok rfl

theorem agree_declaredBy (vocabulary : Vocabulary) :
    Agree Eq (declaredBy vocabulary fs) (declaredBy vocabulary gs) :=
  agree_ite rfl (agree_reservedFields fields vocabulary) (.ok rfl)

theorem concur_headerImports (ctx : Context) (path : TreePath) :
    Concur Eq (headerImports ctx path fs) (headerImports ctx path gs) := by
  rw [Concur, accepted?_headerImports, accepted?_headerImports]
  refine rel_bind (agree_optionalField fields "imports" .list).toOption fun _ _ list => ?_
  cases list with
  | none => exact .some rfl
  | some same =>
    exact rel_ite (by rw [Element.annotations_same same])
      (concur_importsFrom (items_same same) ctx _ 0)

theorem undeclared_same (vocabulary : Vocabulary) (isKeyword : String → Bool)
    (declared : NameSet) :
    (undeclared vocabulary isKeyword declared fs).isEmpty =
      (undeclared vocabulary isKeyword declared gs).isEmpty := by
  have perm : (undeclared vocabulary isKeyword declared fs).Perm
      (undeclared vocabulary isKeyword declared gs) := (Field.names_perm fields).filter _
  exact perm.isEmpty_eq

/-- The fields that are kept by name are equal as open content. -/
theorem sameItems_filter (keep : String → Bool) :
    Bag.sameItems Field.same (fs.filter fun f => keep f.name) (gs.filter fun f => keep f.name) =
      true := by
  refine Rearranged.sameItems Field.same_self Field.isClass (fields.filter fun _ _ same => ?_)
  rw [(Field.same_iff.1 same).1]

end

/-- Drafts of equal headers. -/
structure HeaderDraft.Alike (d d' : HeaderDraft) : Prop where
  fields : Rearranged (fun f g => f.same g = true) d.fields d'.fields
  imports : d.imports = d'.imports
  reserved : d.reserved = d'.reserved

section
variable {e e' : Element} (h : e.same e' = true)
include h

theorem concur_headerDraft (ctx : Context) (path : TreePath) :
    Concur HeaderDraft.Alike (headerDraft ctx path e) (headerDraft ctx path e') := by
  match own : e.struct?, own' : e'.struct?, Element.struct?_same h with
  | none, none, .none =>
    unfold headerDraft
    rw [own, own']
    exact concur_invalid _ _
  | some fs, some gs, .some fields =>
    rw [Concur, accepted?_headerDraft own, accepted?_headerDraft own']
    refine rel_ite (by rw [Element.annotations_same h]) ?_
    refine rel_bind (concur_headerImports fields ctx path) fun _ _ imports => ?_
    exact rel_map (agree_declaredBy fields ctx.vocabulary).toOption fun _ _ reserved =>
      ⟨fields, imports, reserved⟩

omit h in
theorem agree_close {d d' : HeaderDraft} (alike : d.Alike d') (vocabulary : Vocabulary) :
    Agree (fun k l => k.same l = true) (d.close vocabulary) (d'.close vocabulary) := by
  have closed : SchemaHeader.same
      ⟨d.imports, d.reserved, d.fields.filter fun f => !vocabulary.isHeaderKeyword f.name⟩
      ⟨d'.imports, d'.reserved, d'.fields.filter fun f => !vocabulary.isHeaderKeyword f.name⟩ =
        true := by
    simp [SchemaHeader.same, alike.imports, alike.reserved,
      sameItems_filter alike.fields fun name => !vocabulary.isHeaderKeyword name]
  unfold HeaderDraft.close
  refine agree_ite rfl (agree_then (agree_require ?_ _ _) fun _ => .ok closed) (.ok closed)
  rw [alike.reserved]
  exact undeclared_same alike.fields _ _ _

theorem agree_footer (ctx : Context) :
    Agree (fun k l => k.same l = true) (footer ctx e) (footer ctx e') := by
  have fields := Element.struct?_same h
  unfold footer
  generalize e.struct? = o, e'.struct? = o' at fields
  cases fields with
  | none => exact .error _ _
  | some fields =>
    refine agree_then (agree_require (by rw [Element.annotations_same h]) _ _) fun _ => ?_
    refine agree_then (agree_require (undeclared_same fields _ _ _) _ _) fun _ => .ok ?_
    exact fields.sameItems Field.same_self Field.isClass

/-! ## Types -/

theorem concur_namedType {ctx : Context} (v2 : ctx.version = .v2) (path : TreePath) :
    Concur (fun s t => s.same t = true) (namedType ctx path e) (namedType ctx path e') := by
  match own : e.struct?, own' : e'.struct?, Element.struct?_same h with
  | none, none, .none =>
    unfold namedType
    rw [own, own']
    exact concur_invalid _ _
  | some fs, some gs, .some fields =>
    rw [Concur, accepted?_namedType own, accepted?_namedType own']
    refine rel_ite (by rw [Element.annotations_same h, Field.has_same fields]) ?_
    refine rel_bind (agree_requiredField fields "name" .symbol e e').toOption fun n n' name => ?_
    refine rel_map (concur_definitionParts v2 fields path) fun p q parts => ?_
    simp [NamedType.same, textOf_same name, parts.definition]

/-! ## Items -/

theorem isMarker_same : isMarker e = isMarker e' := by
  rw [isMarker, isMarker, Element.annotations_same h, Element.symbol?_same h]

theorem isAnnotatedStruct_same (name : String) :
    isAnnotatedStruct e name = isAnnotatedStruct e' name := by
  have fields := Element.struct?_same h
  have isSome : e.struct?.isSome = e'.struct?.isSome := by
    generalize e.struct? = o, e'.struct? = o' at fields
    cases fields <;> rfl
  rw [isAnnotatedStruct, isAnnotatedStruct, isSome, Element.annotations_same h]

end

/-- Two documents of version 2.0 that have been read equally far behind their markers. -/
structure Progress.Abreast (p q : Progress) : Prop where
  context : p.context = q.context
  version : p.context.version = .v2
  place : p.place = q.place
  behind : p.place ≠ .beforeMarker
  stopped : p.stopped = q.stopped
  items : List.Forall₂ (fun s t => s.same t = true) p.items q.items

section
variable {p q : Progress} (alike : p.Abreast q)
include alike

theorem alike_add {s t : SchemaItem} (same : s.same t = true) :
    List.Forall₂ (fun s t => s.same t = true) (p.items ++ [s]) (q.items ++ [t]) :=
  List.rel_append alike.items (.cons same .nil)

theorem concur_bodyItem {e e' : Element} (h : e.same e' = true) (path : TreePath) :
    Concur Progress.Abreast (bodyItem p path e) (bodyItem q path e') := by
  have sort (name : String) := isAnnotatedStruct_same h name
  cases header : isAnnotatedStruct e "schema_header" with
  | true =>
    rw [Concur, accepted?_bodyItem_header p path header,
      accepted?_bodyItem_header q path (sort _ ▸ header), ← alike.place, ← alike.context]
    split
    · refine rel_bind (concur_headerDraft h p.context path) fun draft draft' drafts => ?_
      refine rel_map (agree_close drafts _).toOption fun k l same => ?_
      refine ⟨by rw [drafts.reserved], alike.version, rfl, by simp, alike.stopped, ?_⟩
      exact alike_add alike same
    · exact .none
  | false =>
    cases type : isAnnotatedStruct e "type" with
    | true =>
      rw [Concur, accepted?_bodyItem_type p path header type,
        accepted?_bodyItem_type q path (sort _ ▸ header) (sort _ ▸ type), ← alike.context]
      refine rel_map (concur_namedType h alike.version path) fun s t same => ?_
      exact ⟨rfl, alike.version, rfl, by simp, alike.stopped, alike_add alike same⟩
    | false =>
      cases footer : isAnnotatedStruct e "schema_footer" with
      | true =>
        rw [Concur, accepted?_bodyItem_footer p path header type footer,
          accepted?_bodyItem_footer q path (sort _ ▸ header) (sort _ ▸ type) (sort _ ▸ footer),
          ← alike.context]
        refine rel_map (agree_footer h p.context).toOption fun k l same => ?_
        exact ⟨rfl, alike.version, rfl, by simp, alike.stopped, alike_add alike same⟩
      | false =>
        rw [Concur, accepted?_bodyItem_open p path header type footer,
          accepted?_bodyItem_open q path (sort _ ▸ header) (sort _ ▸ type) (sort _ ▸ footer),
          ← alike.context, Element.annotations_same h]
        split
        · exact .none
        · exact .some ⟨alike.context, alike.version, alike.place, alike.behind, alike.stopped,
            alike_add alike h⟩

theorem concur_item {e e' : Element} (h : e.same e' = true) (d : Dialect) (path : TreePath) :
    Concur Progress.Abreast (item d p path e) (item d q path e') := by
  rw [Concur, accepted?_item alike.behind, accepted?_item (alike.place ▸ alike.behind),
    isMarker_same h, alike.place]
  split
  · exact .none
  · exact concur_bodyItem alike h path

end

variable {es es' : List Element} (each : List.Forall₂ (fun a b => a.same b = true) es es')
include each

/-- Behind the marker equal values are read alike, one after the other. -/
theorem concur_itemsFrom {p q : Progress} (alike : p.Abreast q) (d : Dialect) (i : Nat) :
    Concur Progress.Abreast (itemsFrom d i p es) (itemsFrom d i q es') :=
  rel_itemsFrom (fun alike same path => concur_item alike same d path) (fun alike => alike.stopped)
    each alike i

theorem any_isMarker_same : es.any isMarker = es'.any isMarker :=
  any_isMarker_of (fun _ _ same => isMarker_same same) each

/-- What stands in front of the marker does not count, and the marker is the same. -/
theorem concur_document (v2 : es.find? isMarker = some (.symbol "$ion_schema_2_0"))
    (ctx : Context) (d : Dialect) (i : Nat) :
    Concur Progress.Abreast (itemsFrom d i ⟨ctx, .beforeMarker, [], false⟩ es)
      (itemsFrom d i ⟨ctx, .beforeMarker, [], false⟩ es') := by
  induction each generalizing i with
  | nil => cases v2
  | @cons e e' es es' first rest ih =>
    rw [Concur, accepted?_itemsFrom_cons, accepted?_itemsFrom_cons, item, item,
      ← isMarker_same first, ← Element.symbol?_same first]
    cases marker : isMarker e with
    | true =>
      rw [List.find?_cons_of_pos marker] at v2
      injection v2 with v2
      subst v2
      have start : Progress.Abreast
          ⟨{ ctx with vocabulary := d.vocabulary .v2 }, .beforeHeader, [], false⟩
          ⟨{ ctx with vocabulary := d.vocabulary .v2 }, .beforeHeader, [], false⟩ :=
        ⟨rfl, rfl, rfl, by simp, rfl, .nil⟩
      exact concur_itemsFrom rest start d (i + 1)
    | false =>
      rw [List.find?_cons_of_neg (by simp [marker])] at v2
      exact ih v2 (i + 1)

end Reader

open Reader

/-- Two lists of values that are equal one by one, the fields of structs in any order, and that are
documents of version 2.0: both are read, as equal documents, or both are refused. -/
theorem SchemaReader.readSchema_same (r : SchemaReader) {values values' : List Element}
    (v2 : values.find? isMarker = some (.symbol "$ion_schema_2_0"))
    (same : Element.sameAll values values' = true) (failFast : Bool) :
    (∃ d d', r.readSchema values failFast = .ok d ∧ r.readSchema values' failFast = .ok d' ∧
        d.same d' = true) ∨
      ∃ errors errors', r.readSchema values failFast = .error errors ∧
        r.readSchema values' failFast = .error errors' := by
  rw [Element.sameAll_eq, isEqv_iff] at same
  have marked : values.any isMarker = true :=
    List.any_eq_true.2 ⟨_, List.mem_of_find?_eq_some v2, List.find?_some v2⟩
  have read := concur_document same v2 (r.dialect.context .v2 failFast) r.dialect 0
  unfold readSchema document beginning
  rw [← any_isMarker_same same, if_pos marked]
  obtain ⟨p, q, own, own', alike⟩ | ⟨errors, errors', own, own'⟩ := concur_finish read .root .root
  · rw [own, own']
    refine .inl ⟨_, _, rfl, rfl, ?_⟩
    have items : SchemaItem.sameAll p.items q.items = true := by
      rw [SchemaItem.sameAll_eq, isEqv_iff]
      exact alike.items
    simp [SchemaDocument.same, Progress.version, alike.context, items]
  · rw [own, own']
    exact .inr ⟨errors, errors', rfl, rfl⟩

/-- `type::{ name: a, fields: { b: int, c: { occurs: 1, type: int } }, Note: { d: 1, e: 2 } }` -/
def orderedType : List Element :=
  [.symbol "$ion_schema_2_0",
    ⟨["type"], .struct [⟨"name", .symbol "a"⟩,
      ⟨"fields", ⟨[], .struct [⟨"b", .symbol "int"⟩,
        ⟨"c", ⟨[], .struct [⟨"occurs", .int 1⟩, ⟨"type", .symbol "int"⟩]⟩⟩]⟩⟩,
      ⟨"Note", ⟨[], .struct [⟨"d", .int 1⟩, ⟨"e", .int 2⟩]⟩⟩]⟩]

/-- `type::{ Note: { e: 2, d: 1 }, fields: { c: { type: int, occurs: 1 }, b: int }, name: a }` -/
def reorderedType : List Element :=
  [.symbol "$ion_schema_2_0",
    ⟨["type"], .struct [⟨"Note", ⟨[], .struct [⟨"e", .int 2⟩, ⟨"d", .int 1⟩]⟩⟩,
      ⟨"fields", ⟨[], .struct [
        ⟨"c", ⟨[], .struct [⟨"type", .symbol "int"⟩, ⟨"occurs", .int 1⟩]⟩⟩,
        ⟨"b", .symbol "int"⟩]⟩⟩,
      ⟨"name", .symbol "a"⟩]⟩]

theorem readSchema_same_reordered :
    orderedType.find? isMarker = some (.symbol "$ion_schema_2_0") ∧
      Element.sameAll orderedType reorderedType = true ∧
      ∃ d d', SchemaReader.standard.readSchema orderedType false = .ok d ∧
        SchemaReader.standard.readSchema reorderedType false = .ok d' ∧ d.same d' = true := by
  have v2 : orderedType.find? isMarker = some (.symbol "$ion_schema_2_0") := rfl
  have same : Element.sameAll orderedType reorderedType = true := by decide +kernel
  refine ⟨v2, same, ?_⟩
  obtain accepted | ⟨errors, errors', refused, _⟩ :=
    SchemaReader.standard.readSchema_same v2 same false
  · exact accepted
  · have accepted : (SchemaReader.standard.readSchema orderedType false).isOk = true := rfl
    rw [refused] at accepted
    cases accepted

end Isl
