import Isl.Proofs.Reader.Shape
/-!
# Reserved words in open content

What a document of version 2.0 keeps as open content is not reserved, or its author has declared it
in the header. The words are declared once and are in force for every type behind the header, at any
depth, and for the footer.

* `TypeDefinition.Contains`: the definitions within a definition;
* `Reader.readIn_contains`: each of them is read with the words that are declared for the type;
* `Reader.Unmixed`: the values that are kept so far carry no reserved annotation;
* `SchemaReader.readSchema_unreserved`: no reserved word slips in as open content.
-/
namespace Isl

/-- The definitions within a definition: itself, and those within the types in place that its
constraints take. -/
inductive TypeDefinition.Contains : TypeDefinition → TypeDefinition → Prop where
  | self (d : TypeDefinition) : Contains d d
  | argument {d inner e : TypeDefinition} {c : Constraint} {n : Nullability}
      (states : c ∈ d.constraints) (takes : TypeArgument.inline inner n ∈ c.arguments)
      (deeper : Contains inner e) : Contains d e

namespace Reader

section
variable {ctx : Context} {path : TreePath}

/-! ## Definitions at any depth -/

/-- The definition is what the fields of some struct are read as. -/
def ReadIn (ctx : Context) (d : TypeDefinition) : Prop :=
  ∃ path fs p, accepted? (definitionParts ctx path fs) = some p ∧ p.definition = d

theorem readIn_of_typeArgument {names : List String} {v : Value} {d : TypeDefinition}
    {n : Nullability} (h : accepted? (typeArgument ctx path names v) = some (.inline d n)) :
    ReadIn ctx d := by
  cases v with
  | struct fs =>
    rw [accepted?_typeArgument_struct] at h
    split at h
    · split at h
      · obtain ⟨id, typeName, same⟩ := inlineImport_ok (toOption_eq_some_iff.1 h)
        cases same
      · split at h
        · cases h
        · obtain ⟨p, read, same⟩ := Option.map_eq_some_iff.1 h
          cases same
          exact ⟨path, fs, p, read, rfl⟩
    · cases h
  | _ =>
    rw [accepted?_typeArgument_word (by simp)] at h
    split at h
    · obtain ⟨name, _, same⟩ := Option.map_eq_some_iff.1 h
      cases same
    · cases h

theorem readIn_of_occurringArgument {byDefault : IntRange} {e : Element} {o : OccurringArgument}
    {d : TypeDefinition} {n : Nullability}
    (h : accepted? (occurringArgument ctx path byDefault e) = some o)
    (inline : o.argument = .inline d n) : ReadIn ctx d := by
  cases counted : Field.has (e.struct?.getD []) "occurs" with
  | false =>
    rw [accepted?_occurringArgument_plain ctx path byDefault counted] at h
    obtain ⟨a, read, rfl⟩ := Option.map_eq_some_iff.1 h
    dsimp only at inline
    subst inline
    exact readIn_of_typeArgument read
  | true =>
    obtain ⟨names, v⟩ := e
    cases v with
    | struct fs =>
      have counted : Field.has fs "occurs" = true := counted
      rw [accepted?_occurringArgument_struct ctx path byDefault counted] at h
      obtain ⟨occurs, _, h⟩ := Option.bind_eq_some_iff.1 h
      obtain ⟨p, read, rfl⟩ := Option.map_eq_some_iff.1 h
      cases inline
      exact ⟨path, fs, p, read, rfl⟩
    | _ => cases counted

theorem readIn_of_argumentsFrom {i : Nat} {es : List Element} {as : List TypeArgument}
    {d : TypeDefinition} {n : Nullability}
    (h : accepted? (argumentsFrom ctx path i es) = some as) (mem : .inline d n ∈ as) :
    ReadIn ctx d := by
  induction es generalizing i as with
  | nil =>
    rw [accepted?_argumentsFrom_nil] at h
    cases h
    cases mem
  | cons e es ih =>
    rw [accepted?_argumentsFrom_cons] at h
    obtain ⟨a, first, h⟩ := Option.bind_eq_some_iff.1 h
    obtain ⟨rest, others, rfl⟩ := Option.map_eq_some_iff.1 h
    rcases List.mem_cons.1 mem with rfl | mem
    · exact readIn_of_typeArgument first
    · exact ih others mem

theorem readIn_of_fieldArgumentsFrom {fs : List Field} {as : List FieldArgument}
    {f : FieldArgument} {d : TypeDefinition} {n : Nullability}
    (h : accepted? (fieldArgumentsFrom ctx path fs) = some as) (mem : f ∈ as)
    (inline : f.argument.argument = .inline d n) : ReadIn ctx d := by
  induction fs generalizing as with
  | nil =>
    rw [accepted?_fieldArgumentsFrom_nil] at h
    cases h
    cases mem
  | cons g gs ih =>
    rw [accepted?_fieldArgumentsFrom_cons] at h
    obtain ⟨o, first, h⟩ := Option.bind_eq_some_iff.1 h
    obtain ⟨rest, others, rfl⟩ := Option.map_eq_some_iff.1 h
    rcases List.mem_cons.1 mem with rfl | mem
    · exact readIn_of_occurringArgument first inline
    · exact ih others mem

theorem readIn_of_orderedElementsFrom {i : Nat} {es : List Element} {os : List OccurringArgument}
    {o : OccurringArgument} {d : TypeDefinition} {n : Nullability}
    (h : accepted? (orderedElementsFrom ctx path i es) = some os) (mem : o ∈ os)
    (inline : o.argument = .inline d n) : ReadIn ctx d := by
  induction es generalizing i os with
  | nil =>
    rw [accepted?_orderedElementsFrom_nil] at h
    cases h
    cases mem
  | cons e es ih =>
    rw [accepted?_orderedElementsFrom_cons] at h
    obtain ⟨o, first, h⟩ := Option.bind_eq_some_iff.1 h
    obtain ⟨rest, others, rfl⟩ := Option.map_eq_some_iff.1 h
    rcases List.mem_cons.1 mem with rfl | mem
    · exact readIn_of_occurringArgument first inline
    · exact ih others mem

theorem arguments_of_leaf {version : IslVersion} {e : Element} {c : Constraint}
    (leaf : Writer.LeafOf version e c) : c.arguments = [] := by
  cases leaf with
  | annotationList v1 given =>
    obtain ⟨_, _, _, rfl⟩ := Writer.annotationList_ok given
    rfl
  | annotationSet v2 list given =>
    obtain ⟨_, _, rfl, _⟩ := Writer.annotationSet_ok given
    rfl
  | named known given =>
    cases c with
    | contains | regex | validValues | timestampPrecision | timestampOffset | ieee754Float
    | measure => rfl
    | _ => cases known

/-- A type in place that a constraint takes is read with the words that are declared for the
constraint. -/
theorem readIn_of_constraintOf {name : String} {e : Element} {c : Constraint}
    {d : TypeDefinition} {n : Nullability}
    (h : accepted? (constraintOf ctx path name e) = some c) (mem : .inline d n ∈ c.arguments) :
    ReadIn ctx d := by
  cases Writer.readAs_of_constraintOf h with
  | leaf named leaf =>
    rw [arguments_of_leaf leaf] at mem
    cases mem
  | allOf read | anyOf read | oneOf read =>
    rw [accepted?_listedArguments] at read
    obtain ⟨items, _, read⟩ := Option.bind_eq_some_iff.1 read
    exact readIn_of_argumentsFrom read mem
  | type read | not read | element read | fieldNames read | annotationType _ read =>
    rw [Constraint.arguments, List.mem_singleton] at mem
    subst mem
    exact readIn_of_typeArgument read
  | fields read =>
    rw [accepted?_fieldArguments] at read
    obtain ⟨fs, _, read⟩ := Option.bind_eq_some_iff.1 read
    split at read
    · obtain ⟨f, listed, inline⟩ := List.mem_map.1 mem
      exact readIn_of_fieldArgumentsFrom read (mem_sortFields listed) inline
    · cases read
  | orderedElements read =>
    rw [accepted?_orderedElements] at read
    obtain ⟨items, _, read⟩ := Option.bind_eq_some_iff.1 read
    obtain ⟨o, listed, inline⟩ := List.mem_map.1 mem
    exact readIn_of_orderedElementsFrom read listed inline

/-- Closing the content of a definition brings no arguments in. -/
theorem arguments_of_closeFields {cs : List Constraint} {c : Constraint}
    (mem : c ∈ Parts.closeFields cs) : c.arguments = [] ∨ ∃ d ∈ cs, d.arguments = c.arguments := by
  induction cs with
  | nil =>
    rw [Parts.closeFields, List.mem_singleton] at mem
    exact .inl (mem ▸ rfl)
  | cons d ds ih =>
    by_cases fields : ∃ fs closed, d = .fields fs closed
    · obtain ⟨fs, closed, rfl⟩ := fields
      rw [Parts.closeFields] at mem
      rcases List.mem_cons.1 mem with rfl | mem
      · exact .inr ⟨.fields fs closed, List.mem_cons_self .., rfl⟩
      · exact .inr ⟨c, List.mem_cons_of_mem _ mem, rfl⟩
    · rw [Parts.closeFields.eq_3 d ds fun fs closed same => fields ⟨fs, closed, same⟩] at mem
      rcases List.mem_cons.1 mem with rfl | mem
      · exact .inr ⟨c, List.mem_cons_self .., rfl⟩
      · refine (ih mem).imp_right ?_
        rintro ⟨k, listed, same⟩
        exact ⟨k, List.mem_cons_of_mem _ listed, same⟩

/-- Every constraint of a definition was read, and every field of its open content may be open. -/
theorem parts_of_definitionParts {fs : List Field} {p : Parts}
    (h : accepted? (definitionParts ctx path fs) = some p) :
    (∀ c ∈ p.constraints, ∃ path name e, accepted? (constraintOf ctx path name e) = some c) ∧
      ∀ f ∈ p.openContent, ctx.isOpen f.name = true := by
  induction fs generalizing p with
  | nil =>
    rw [accepted?_definitionParts_nil] at h
    cases h
    exact ⟨nofun, nofun⟩
  | cons f fs ih =>
    rw [accepted?_definitionParts_cons] at h
    obtain ⟨p, first, h⟩ := Option.bind_eq_some_iff.1 h
    obtain ⟨q, rest, rfl⟩ := Option.map_eq_some_iff.1 h
    obtain ⟨name, e⟩ := f
    obtain ⟨constraints, fields⟩ := ih rest
    rcases definitionField_cases first with rfl | ⟨_, rfl⟩ | ⟨_, c, read, rfl⟩ | ⟨isOpen, rfl⟩
    · exact ⟨constraints, fields⟩
    · exact ⟨constraints, fields⟩
    · refine ⟨?_, fields⟩
      intro d mem
      rcases List.mem_cons.1 mem with rfl | mem
      · exact ⟨_, _, _, read⟩
      · exact constraints d mem
    · refine ⟨constraints, ?_⟩
      intro g mem
      rcases List.mem_cons.1 mem with rfl | mem
      · exact isOpen
      · exact fields g mem

theorem ReadIn.argument {d inner : TypeDefinition} {c : Constraint} {n : Nullability}
    (h : ReadIn ctx d) (states : c ∈ d.constraints) (takes : .inline inner n ∈ c.arguments) :
    ReadIn ctx inner := by
  obtain ⟨path, fs, p, read, rfl⟩ := h
  have parts := (parts_of_definitionParts read).1
  have known : ∀ k ∈ p.constraints, .inline inner n ∈ k.arguments → ReadIn ctx inner := by
    intro k listed mem
    obtain ⟨path, name, e, read⟩ := parts k listed
    exact readIn_of_constraintOf read mem
  rw [Parts.definition] at states
  dsimp only at states
  split at states
  · rcases arguments_of_closeFields states with none | ⟨k, listed, same⟩
    · rw [none] at takes
      cases takes
    · exact known k listed (same ▸ takes)
  · exact known c states takes

/-- Every definition within one that was read was read with the same words declared. -/
theorem readIn_contains {d e : TypeDefinition} (h : ReadIn ctx d) (within : d.Contains e) :
    ReadIn ctx e := by
  induction within with
  | self => exact h
  | argument states takes _ ih => exact ih (h.argument states takes)

theorem readIn_of_namedType {e : Element} {t : NamedType}
    (read : accepted? (namedType ctx path e) = some t) : ReadIn ctx t.definition := by
  cases struct : e.struct? with
  | none =>
    unfold namedType at read
    rw [struct] at read
    cases read
  | some fs =>
    rw [accepted?_namedType struct] at read
    split at read
    · obtain ⟨name, _, read⟩ := Option.bind_eq_some_iff.1 read
      obtain ⟨p, parts, rfl⟩ := Option.map_eq_some_iff.1 read
      exact ⟨path, fs, p, parts, rfl⟩
    · cases read

theorem readIn_of_anonymousType {e : Element} {d : TypeDefinition}
    (read : accepted? (anonymousType ctx path e) = some d) : ReadIn ctx d := by
  unfold anonymousType typeDefinition at read
  cases struct : e.struct? with
  | none =>
    rw [struct] at read
    cases read
  | some fs =>
    simp only [struct] at read
    have steady : Steady (definitionParts ctx path fs >>= fun p => pure p.definition) :=
      steady_bind (steady_definitionParts ctx path fs) fun _ => steady_pure _
    rw [accepted?_require_bind fun _ => steady_bind (steady_lift _) fun _ => steady] at read
    split at read
    · rw [accepted?_require_bind fun _ => steady] at read
      split at read
      · obtain ⟨p, parts, rfl⟩ := accepted?_bind_pure_eq_some_iff.1 read
        exact ⟨path, fs, p, parts, rfl⟩
      · cases read
    · cases read

/-- A name that is not reserved, or one that is declared. -/
def Free (isReserved : String → Bool) (declared : NameSet) (name : String) : Prop :=
  isReserved name = false ∨ name ∈ declared

theorem ReadIn.free {d : TypeDefinition} (h : ReadIn ctx d) :
    ∀ f ∈ d.openContent, Free ctx.vocabulary.isReserved ctx.declared.type f.name := by
  obtain ⟨path, fs, p, read, rfl⟩ := h
  intro f mem
  have isOpen := (parts_of_definitionParts read).2 f mem
  simp only [Context.isOpen, Bool.and_eq_true, Bool.or_eq_true, Bool.not_eq_true',
    List.contains_iff_mem] at isOpen
  exact isOpen.2

end

/-! ## Kept values -/

/-- How far a document has been read in the words of its version: nothing is kept in front of the
marker, and no value that is kept carries a reserved annotation. -/
structure Unmixed (d : Dialect) (p : Progress) : Prop where
  vocabulary : p.context.vocabulary = d.vocabulary p.version
  fresh : p.place = .beforeMarker → p.items = []
  kept : ∀ e, .openContent e ∈ p.items → ∀ a ∈ e.annotations, d.isReserved p.version a = false

section
variable {d : Dialect} {p p' : Progress} {path : TreePath} {e : Element}

/-- An item that keeps no value, or one without a reserved annotation, is added behind the
marker. -/
theorem Unmixed.add {s : SchemaItem} (h : Unmixed d p)
    (vocabulary : p'.context.vocabulary = p.context.vocabulary) (place : p'.place ≠ .beforeMarker)
    (added : p'.items = p.items ++ [s])
    (clean : ∀ e, s = .openContent e →
      ∀ a ∈ e.annotations, p.context.vocabulary.isReserved a = false) :
    Unmixed d p' := by
  have version : p'.version = p.version := congrArg Vocabulary.version vocabulary
  refine ⟨?_, fun before => absurd before place, ?_⟩
  · rw [vocabulary, version]
    exact h.vocabulary
  · intro e mem a carried
    rw [version]
    rw [added] at mem
    rcases List.mem_append.1 mem with mem | mem
    · exact h.kept e mem a carried
    · have own := clean e (List.mem_singleton.1 mem).symm a carried
      rw [h.vocabulary] at own
      exact own

theorem unmixed_bodyItem (h : Unmixed d p) (behind : p.place ≠ .beforeMarker)
    (read : accepted? (bodyItem p path e) = some p') : Unmixed d p' := by
  by_cases header : isAnnotatedStruct e "schema_header" = true
  · rw [accepted?_bodyItem_header p path header] at read
    split at read
    · obtain ⟨draft, _, read⟩ := Option.bind_eq_some_iff.1 read
      obtain ⟨k, _, rfl⟩ := Option.map_eq_some_iff.1 read
      exact h.add rfl nofun rfl nofun
    · cases read
  · have noHeader := Bool.eq_false_iff.2 header
    by_cases type : isAnnotatedStruct e "type" = true
    · rw [accepted?_bodyItem_type p path noHeader type] at read
      obtain ⟨t, _, rfl⟩ := Option.map_eq_some_iff.1 read
      exact h.add rfl nofun rfl nofun
    · have noType := Bool.eq_false_iff.2 type
      by_cases footer : isAnnotatedStruct e "schema_footer" = true
      · rw [accepted?_bodyItem_footer p path noHeader noType footer] at read
        obtain ⟨f, _, rfl⟩ := Option.map_eq_some_iff.1 read
        exact h.add rfl nofun rfl nofun
      · rw [accepted?_bodyItem_open p path noHeader noType (Bool.eq_false_iff.2 footer)] at read
        split at read
        · cases read
        · rename_i clean
          cases read
          refine h.add rfl behind rfl ?_
          rintro o ⟨⟩ a carried
          rw [List.any_eq_true, not_exists] at clean
          simpa [carried] using clean a

theorem unmixed_item (h : Unmixed d p) (read : accepted? (item d p path e) = some p') :
    Unmixed d p' := by
  unfold item at read
  split at read
  · unfold markerItem at read
    split at read
    · rename_i place
      split at read
      · cases read
        refine ⟨rfl, fun _ => h.fresh place, ?_⟩
        intro e mem
        rw [h.fresh place] at mem
        cases mem
      · rw [accepted?_report_bind] at read
        cases read
    · rw [accepted?_report_bind] at read
      cases read
  · split at read
    · cases read
      exact h
    · rw [accepted?_report_bind] at read
      cases read
    · rename_i before _
      exact unmixed_bodyItem h before read

theorem unmixed_itemsFrom {es : List Element} {i : Nat} (h : Unmixed d p)
    (read : accepted? (itemsFrom d i p es) = some p') : Unmixed d p' := by
  induction es generalizing p i with
  | nil =>
    rw [accepted?_itemsFrom_nil] at read
    cases read
    exact h
  | cons e es ih =>
    rw [accepted?_itemsFrom_cons] at read
    obtain ⟨q, first, read⟩ := Option.bind_eq_some_iff.1 read
    have next := unmixed_item h first
    split at read
    · cases read
      exact next
    · exact ih next read

theorem unmixed_beginning (d : Dialect) (values : List Element) (failFast : Bool) :
    Unmixed d (beginning d values failFast) := by
  unfold beginning
  split
  · exact ⟨rfl, fun _ => rfl, nofun⟩
  · exact ⟨rfl, fun _ => rfl, nofun⟩

end

/-! ## Headers and footers -/

theorem HeaderShape.free {vocabulary : Vocabulary} {h : SchemaHeader}
    (shape : HeaderShape vocabulary h) (declares : vocabulary.declaresReserved = true) :
    ∀ f ∈ h.openContent, Free vocabulary.isReserved h.reserved.header f.name := by
  intro f mem
  have opens := shape.openContent f mem
  simp only [opensHeader, declares, Bool.not_true, Bool.false_or, Bool.and_eq_true,
    Bool.or_eq_true, Bool.not_eq_true', List.contains_iff_mem] at opens
  exact opens.2

theorem footer_free {ctx : Context} {e : Element} {f : SchemaFooter} (read : footer ctx e = .ok f) :
    ∀ g ∈ f.openContent, Free ctx.vocabulary.isReserved ctx.declared.footer g.name := by
  unfold footer at read
  split at read
  · cases read
  · obtain ⟨_, _, read⟩ := check_bind_eq_ok_iff.1 read
    obtain ⟨_, none, read⟩ := check_bind_eq_ok_iff.1 read
    cases read
    intro g mem
    have legal := require_eq_ok_iff.1 none
    simp only [undeclared, List.isEmpty_iff, List.filter_eq_nil_iff, List.mem_map] at legal
    have own := legal g.name ⟨g, mem, rfl⟩
    simp only [Vocabulary.isFooterKeyword, Bool.not_false, Bool.true_and, Bool.and_eq_true,
      Bool.not_eq_true', not_and, Bool.not_eq_false, List.contains_iff_mem] at own
    cases reserved : ctx.vocabulary.isReserved g.name with
    | false => exact .inl reserved
    | true => exact .inr (own reserved)

theorem exists_of_forall₂ {α β : Type} {R : α → β → Prop} {as : List α} {bs : List β} {b : β}
    (h : List.Forall₂ R as bs) (mem : b ∈ bs) : ∃ a, R a b := by
  obtain ⟨length, each⟩ := List.forall₂_iff_get.1 h
  obtain ⟨i, rfl⟩ := List.mem_iff_get.1 mem
  exact ⟨_, each i (by omega) i.2⟩

end Reader

/-! ## Documents -/

open Reader

/-- No reserved word is kept as open content unless the header declares it for that section, and
nothing is declared that means something in its section. -/
structure SchemaDocument.Unreserved (vocabulary : Vocabulary) (d : SchemaDocument) : Prop where
  header : ∀ h, .header h ∈ d.items →
    ∀ f ∈ h.openContent, Free vocabulary.isReserved d.declared.header f.name
  types : ∀ t, .type t ∈ d.items → ∀ inner, t.definition.Contains inner →
    ∀ f ∈ inner.openContent, Free vocabulary.isReserved d.declared.type f.name
  footer : ∀ g, .footer g ∈ d.items →
    ∀ f ∈ g.openContent, Free vocabulary.isReserved d.declared.footer f.name
  keywords : (∀ word ∈ d.declared.header, vocabulary.isHeaderKeyword word = false) ∧
    (∀ word ∈ d.declared.type, vocabulary.isTypeKeyword word = false) ∧
    ∀ word ∈ d.declared.footer, vocabulary.isFooterKeyword word = false
  values : ∀ e, .openContent e ∈ d.items → ∀ a ∈ e.annotations, vocabulary.isReserved a = false

/-- The only header of a document is the one that declares its words. -/
theorem SchemaDocument.declared_eq {d : SchemaDocument} (ordered : Ordered d.items)
    {h : SchemaHeader} (mem : .header h ∈ d.items) : d.declared = h.reserved := by
  have found : d.header? = some h := by
    cases first : d.header? with
    | none =>
      have none := List.findSome?_eq_none_iff.1 first _ mem
      cases none
    | some k =>
      obtain ⟨s, listed, header⟩ := List.exists_of_findSome?_eq_some first
      cases s with
      | header k' =>
        cases header
        obtain ⟨i, first⟩ := List.mem_iff_getElem?.1 listed
        obtain ⟨j, second⟩ := List.mem_iff_getElem?.1 mem
        obtain rfl := ordered.oneHeader i j k h first second
        rw [first] at second
        cases second
        rfl
      | type | footer | openContent => cases header
  rw [SchemaDocument.declared, found]
  rfl

/-- No reserved word slips in as open content, whatever words are reserved. In a document of version
2.0 each field that the header, the footer or a type at any depth keeps as open content is not
reserved or declared by the header for that section. What is declared is no keyword of its section,
and no value that is kept at top level carries a reserved annotation. -/
theorem SchemaReader.readSchema_unreserved (r : SchemaReader) {values : List Element}
    {failFast : Bool} {document : SchemaDocument}
    (h : r.readSchema values failFast = .ok document) (v2 : document.version = .v2) :
    document.Unreserved (r.dialect.vocabulary .v2) := by
  obtain ⟨body, _, lays⟩ := lays_document h
  have ordered := lays.inOrder.ordered
  rw [v2] at lays
  have shape : ∀ k, .header k ∈ document.items → HeaderShape (r.dialect.vocabulary .v2) k := by
    intro k mem
    obtain ⟨e, read⟩ := exists_of_forall₂ lays.itemOf mem
    cases read with
    | header own read => exact header_shape read
  refine ⟨?_, ?_, ?_, ?_, ?_⟩
  · intro k mem
    rw [SchemaDocument.declared_eq ordered mem]
    exact (shape k mem).free rfl
  · intro t mem inner within
    obtain ⟨e, read⟩ := exists_of_forall₂ lays.itemOf mem
    cases read with
    | type own read => exact (readIn_contains (readIn_of_namedType read) within).free
  · intro g mem
    obtain ⟨e, read⟩ := exists_of_forall₂ lays.itemOf mem
    cases read with
    | footer own read => exact footer_free read
  · have declared : DeclaredFields (r.dialect.vocabulary .v2) document.declared := by
      rw [SchemaDocument.declared]
      cases found : document.header? with
      | none => exact declaredFields_none _
      | some k =>
        obtain ⟨s, listed, header⟩ := List.exists_of_findSome?_eq_some found
        cases s with
        | header =>
          cases header
          exact (shape k listed).declared
        | type | footer | openContent => cases header
    exact ⟨declared.header.2, declared.type.2, declared.footer.2⟩
  · obtain ⟨q, read, rfl⟩ := Writer.document_eq_ok_iff.1 h
    have unmixed := unmixed_itemsFrom (unmixed_beginning r.dialect values failFast) read
    have version : q.version = .v2 := v2
    intro e mem a carried
    rw [← version]
    exact unmixed.kept e mem a carried

/-- `$ion_schema_2_0 schema_header::{ user_reserved_fields: { type: [note], schema_footer: [foo] } }
type::{ name: a, note: "x", element: { note: 1, _own: 2 } } schema_footer::{ foo: 1 }` -/
def reservingValues : List Element :=
  [.symbol "$ion_schema_2_0",
    ⟨["schema_header"], .struct [⟨"user_reserved_fields", .struct
      [⟨"type", .list [.symbol "note"]⟩, ⟨"schema_footer", .list [.symbol "foo"]⟩]⟩]⟩,
    ⟨["type"], .struct [⟨"name", .symbol "a"⟩, ⟨"note", .string "x"⟩,
      ⟨"element", .struct [⟨"note", .int 1⟩, ⟨"_own", .int 2⟩]⟩]⟩,
    ⟨["schema_footer"], .struct [⟨"foo", .int 1⟩]⟩]

def reservingDocument : SchemaDocument :=
  ⟨none, .v2, [.header ⟨[], ⟨[], ["note"], ["foo"]⟩, []⟩,
    .type ⟨"a", ⟨[.element (.inline ⟨[], [⟨"note", .int 1⟩, ⟨"_own", .int 2⟩]⟩ .unmarked) false],
      [⟨"note", .string "x"⟩]⟩⟩,
    .footer ⟨[⟨"foo", .int 1⟩]⟩]⟩

/-- The header declares words for the types, at any depth, and others for the footer. -/
theorem readSchema_unreserved_reserving :
    SchemaReader.standard.readSchema reservingValues false = .ok reservingDocument ∧
      reservingDocument.version = .v2 ∧
      reservingDocument.Unreserved (SchemaReader.standard.dialect.vocabulary .v2) := by
  have read : SchemaReader.standard.readSchema reservingValues false = .ok reservingDocument := rfl
  exact ⟨read, rfl, SchemaReader.standard.readSchema_unreserved read rfl⟩

end Isl
