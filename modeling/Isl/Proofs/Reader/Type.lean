import Isl.Proofs.Reader.Local
/-!
# The types that a read accepts

What is accepted of an argument, a definition or a constraint, in terms of what is accepted of its
parts. Every list is read item by item (`accepted?_argumentsFrom_cons` and its siblings), a
definition field by field (`accepted?_definitionParts_append`).
-/
namespace Isl.Reader

theorem accepted?_bind_pure {α β : Type} (r : Read α) (f : α → β) :
    accepted? (r >>= fun a => pure (f a)) = (accepted? r).map f := by
  rw [accepted?_bind fun _ => steady_pure _]
  cases accepted? r <;> rfl

theorem accepted?_bind_pure_eq_some_iff {α β : Type} {r : Read α} {f : α → β} {b : β} :
    accepted? (r >>= fun a => pure (f a)) = some b ↔ ∃ a, accepted? r = some a ∧ f a = b := by
  rw [accepted?_bind_pure, Option.map_eq_some_iff]

theorem accepted?_lift_bind {α β : Type} {check : Check α} {f : α → Read β}
    (hf : ∀ a, Steady (f a)) :
    accepted? (lift check >>= f) = check.toOption.bind fun a => accepted? (f a) := by
  rw [accepted?_bind hf, accepted?_lift]

theorem accepted?_require_bind {α : Type} {condition : Bool} {fault : ReadFault}
    {f : Unit → Read α} (hf : ∀ u, Steady (f u)) :
    accepted? (lift (require condition fault) >>= f) =
      if condition then accepted? (f ()) else none := by
  rw [accepted?_lift_bind hf]
  cases condition <;> rfl

/-! ## Arguments -/

/-- What is accepted of a struct as an argument: an import if it has an `id`, else a type. -/
theorem accepted?_typeArgument_struct (ctx : Context) (path : TreePath) (names : List String)
    (fs : List Field) :
    accepted? (typeArgument ctx path names (.struct fs)) =
      if onlyAnnotated ⟨names, .struct fs⟩ [(nullMarker ctx.version).1] then
        if Field.has fs "id" then
          (inlineImport ctx.version ⟨names, .struct fs⟩ fs).toOption
        else if Field.has fs "name" || Field.has fs "occurs" then none
        else (accepted? (definitionParts ctx path fs)).map fun p =>
          .inline p.definition (nullabilityOf ctx.version ⟨names, .struct fs⟩)
      else none := by
  have parts : ∀ u v : Unit, Steady (definitionParts ctx path fs >>= fun p =>
      (pure (TypeArgument.inline p.definition
        (nullabilityOf ctx.version ⟨names, .struct fs⟩)) : Read TypeArgument)) := fun _ _ =>
    steady_bind (steady_definitionParts ctx path fs) fun _ => steady_pure _
  rw [typeArgument]
  split
  · rw [accepted?_require_bind fun _ => steady_lift _, accepted?_lift]
  · rw [accepted?_require_bind fun u => steady_bind (steady_lift _) fun v =>
      steady_bind (steady_lift _) fun w => parts v w,
      accepted?_require_bind fun u => steady_bind (steady_lift _) fun v => parts u v,
      accepted?_require_bind fun u => parts u u, accepted?_bind_pure]
    cases Field.has fs "name" <;> cases Field.has fs "occurs" <;> rfl

theorem accepted?_typeArgument_word {v : Value} (plain : ∀ fs, v ≠ .struct fs) (ctx : Context)
    (path : TreePath) (names : List String) :
    accepted? (typeArgument ctx path names v) =
      if onlyAnnotated ⟨names, v⟩ [(nullMarker ctx.version).1] then
        (Element.symbol? ⟨names, v⟩).map fun name =>
          .reference name (nullabilityOf ctx.version ⟨names, v⟩)
      else none := by
  rw [typeArgument.eq_2 ctx path names v plain, accepted?_require_bind]
  · cases Element.symbol? ⟨names, v⟩ <;> rfl
  · intro _
    cases Element.symbol? ⟨names, v⟩
    · exact steady_invalid _
    · exact steady_pure _

theorem inlineImport_ok {version : IslVersion} {e : Element} {fs : List Field} {a : TypeArgument}
    (h : inlineImport version e fs = .ok a) :
    ∃ id typeName, a = .imported id typeName (nullabilityOf version e) := by
  obtain ⟨_, _, h⟩ := check_bind_eq_ok_iff.1 h
  obtain ⟨id, _, h⟩ := check_bind_eq_ok_iff.1 h
  obtain ⟨typeName, _, h⟩ := check_bind_eq_ok_iff.1 h
  injection h with h
  exact ⟨_, _, h.symm⟩

/-! ## Definitions -/

theorem accepted?_definitionParts_nil (ctx : Context) (path : TreePath) :
    accepted? (definitionParts ctx path []) = some .empty := by
  rw [definitionParts, accepted?_pure]

theorem accepted?_definitionParts_cons (ctx : Context) (path : TreePath) (f : Field)
    (fs : List Field) :
    accepted? (definitionParts ctx path (f :: fs)) =
      (accepted? (definitionField ctx path f)).bind fun p =>
        (accepted? (definitionParts ctx path fs)).map p.append := by
  rw [definitionParts, accepted?_bind fun _ =>
    steady_bind (steady_definitionParts ctx path fs) fun _ => steady_pure _]
  simp only [accepted?_bind_pure]

theorem Parts.empty_append (p : Parts) : Parts.empty.append p = p := by
  simp [append, empty]

theorem Parts.append_assoc (p q r : Parts) : (p.append q).append r = p.append (q.append r) := by
  simp [append, Bool.or_assoc]

theorem accepted?_definitionParts_append (ctx : Context) (path : TreePath) (fs gs : List Field) :
    accepted? (definitionParts ctx path (fs ++ gs)) =
      (accepted? (definitionParts ctx path fs)).bind fun p =>
        (accepted? (definitionParts ctx path gs)).map p.append := by
  induction fs with
  | nil =>
    rw [List.nil_append, accepted?_definitionParts_nil, Option.bind_some]
    cases accepted? (definitionParts ctx path gs) <;> simp [Parts.empty_append]
  | cons f fs ih =>
    rw [List.cons_append, accepted?_definitionParts_cons, accepted?_definitionParts_cons, ih]
    cases accepted? (definitionField ctx path f) with
    | none => rfl
    | some p =>
      cases accepted? (definitionParts ctx path fs) with
      | none => rfl
      | some q =>
        cases accepted? (definitionParts ctx path gs) with
        | none => rfl
        | some r => simp [Parts.append_assoc]

/-- A field that states a constraint. -/
def Context.states (ctx : Context) (name : String) : Bool :=
  name != "name" && name != "occurs" && !(name == "content" && ctx.version == .v1) &&
    ctx.vocabulary.isConstraint name

/-- A field that is open content of a definition. -/
def Context.isOpen (ctx : Context) (name : String) : Bool :=
  name != "name" && name != "occurs" && !(name == "content" && ctx.version == .v1) &&
    !ctx.vocabulary.isConstraint name &&
    (!ctx.vocabulary.isReserved name || ctx.declared.type.contains name)

theorem accepted?_definitionField_skipped {name : String} (h : name = "name" ∨ name = "occurs")
    (ctx : Context) (path : TreePath) (e : Element) :
    accepted? (definitionField ctx path ⟨name, e⟩) = some .empty := by
  have skipped : (name == "name" || name == "occurs") = true := by
    rcases h with rfl | rfl <;> rfl
  rw [definitionField, if_pos skipped, accepted?_pure]

theorem accepted?_definitionField_content {ctx : Context} (v1 : ctx.version = .v1)
    (path : TreePath) (e : Element) :
    accepted? (definitionField ctx path ⟨"content", e⟩) =
      (contentClosed e).toOption.map fun _ => ⟨[], [], true⟩ := by
  have here : ("content" == "content" && ctx.version == .v1) = true := by rw [v1]; rfl
  rw [definitionField, if_neg (by decide), if_pos here, accepted?_bind_pure, accepted?_catching,
    accepted?_lift]
  cases contentClosed e <;> rfl

theorem accepted?_definitionField_constraint {ctx : Context} {name : String}
    (h : ctx.states name = true) (path : TreePath) (e : Element) :
    accepted? (definitionField ctx path ⟨name, e⟩) =
      (accepted? (constraintOf ctx (path.field name) name e)).map fun c => ⟨[c], [], false⟩ := by
  simp only [Context.states, Bool.and_eq_true, bne_iff_ne, Bool.not_eq_true'] at h
  obtain ⟨⟨⟨noName, noOccurs⟩, noContent⟩, constraint⟩ := h
  rw [definitionField, if_neg (by simp [noName, noOccurs]), if_neg (by simp [noContent]),
    if_pos constraint, accepted?_bind_pure, accepted?_catching]
  cases accepted? (constraintOf ctx (path.field name) name e) <;> rfl

theorem accepted?_definitionField_open {ctx : Context} {name : String}
    (h : ctx.isOpen name = true) (path : TreePath) (e : Element) :
    accepted? (definitionField ctx path ⟨name, e⟩) = some ⟨[], [⟨name, e⟩], false⟩ := by
  simp only [Context.isOpen, Bool.and_eq_true, bne_iff_ne, Bool.not_eq_true'] at h
  obtain ⟨⟨⟨⟨noName, noOccurs⟩, noContent⟩, noConstraint⟩, declared⟩ := h
  have known : (ctx.vocabulary.isReserved name && !ctx.declared.type.contains name) = false := by
    revert declared
    cases ctx.vocabulary.isReserved name <;> cases ctx.declared.type.contains name <;> simp
  rw [definitionField, if_neg (by simp [noName, noOccurs]), if_neg (by simp [noContent]),
    if_neg (by simp [noConstraint]), if_neg (by rw [known]; decide), accepted?_pure]
  rfl

/-- Every field that is accepted is skipped, closes the content, states a constraint or is open. -/
theorem definitionField_cases {ctx : Context} {path : TreePath} {name : String} {e : Element}
    {p : Parts} (h : accepted? (definitionField ctx path ⟨name, e⟩) = some p) :
    p = .empty ∨ (ctx.version = .v1 ∧ p = ⟨[], [], true⟩) ∨
      (ctx.states name = true ∧ ∃ c,
        accepted? (constraintOf ctx (path.field name) name e) = some c ∧ p = ⟨[c], [], false⟩) ∨
      (ctx.isOpen name = true ∧ p = ⟨[], [⟨name, e⟩], false⟩) := by
  by_cases skipped : name = "name" ∨ name = "occurs"
  · rw [accepted?_definitionField_skipped skipped] at h
    injection h with h
    exact .inl h.symm
  · have named : name ≠ "name" ∧ name ≠ "occurs" := not_or.1 skipped
    by_cases content : name = "content" ∧ ctx.version = .v1
    · obtain ⟨rfl, v1⟩ := content
      rw [accepted?_definitionField_content v1] at h
      obtain ⟨_, _, rfl⟩ := Option.map_eq_some_iff.1 h
      exact .inr (.inl ⟨v1, rfl⟩)
    · have noContent : (name == "content" && ctx.version == .v1) = false := by
        simpa using content
      cases constraint : ctx.vocabulary.isConstraint name with
      | true =>
        have states : ctx.states name = true := by
          simp [Context.states, named, noContent, constraint]
        rw [accepted?_definitionField_constraint states] at h
        obtain ⟨c, read, rfl⟩ := Option.map_eq_some_iff.1 h
        exact .inr (.inr (.inl ⟨states, c, read, rfl⟩))
      | false =>
        cases known : ctx.vocabulary.isReserved name && !ctx.declared.type.contains name with
        | true =>
          rw [definitionField, if_neg (by simp [named]), if_neg (by simp [noContent]),
            if_neg (by simp [constraint]), if_pos known, accepted?_bind_pure,
            accepted?_report] at h
          cases h
        | false =>
          have isOpen : ctx.isOpen name = true := by
            revert known
            simp only [Context.isOpen, noContent, constraint]
            cases ctx.vocabulary.isReserved name <;> simp [named]
          rw [accepted?_definitionField_open isOpen] at h
          injection h with h
          exact .inr (.inr (.inr ⟨isOpen, h.symm⟩))

/-! ## Lists of arguments -/

theorem accepted?_argumentsFrom_nil (ctx : Context) (path : TreePath) (i : Nat) :
    accepted? (argumentsFrom ctx path i []) = some [] := by
  rw [argumentsFrom, accepted?_pure]

theorem accepted?_argumentsFrom_cons (ctx : Context) (path : TreePath) (i : Nat) (e : Element)
    (es : List Element) :
    accepted? (argumentsFrom ctx path i (e :: es)) =
      (accepted? (typeArgument ctx (path.index i) e.annotations e.value)).bind fun a =>
        (accepted? (argumentsFrom ctx path (i + 1) es)).map (a :: ·) := by
  cases e with
  | mk names v =>
    rw [argumentsFrom, accepted?_bind fun _ =>
      steady_bind (steady_argumentsFrom ctx path (i + 1) es) fun _ => steady_pure _]
    simp only [accepted?_bind_pure, accepted?_catching]
    cases accepted? (typeArgument ctx (path.index i) names v) <;> simp

theorem accepted?_orderedElementsFrom_nil (ctx : Context) (path : TreePath) (i : Nat) :
    accepted? (orderedElementsFrom ctx path i []) = some [] := by
  rw [orderedElementsFrom, accepted?_pure]

theorem accepted?_orderedElementsFrom_cons (ctx : Context) (path : TreePath) (i : Nat)
    (e : Element) (es : List Element) :
    accepted? (orderedElementsFrom ctx path i (e :: es)) =
      (accepted? (occurringArgument ctx (path.index i) .required e)).bind fun o =>
        (accepted? (orderedElementsFrom ctx path (i + 1) es)).map (o :: ·) := by
  rw [orderedElementsFrom, accepted?_bind fun _ =>
    steady_bind (steady_orderedElementsFrom ctx path (i + 1) es) fun _ => steady_pure _]
  simp only [accepted?_bind_pure, accepted?_catching]
  cases accepted? (occurringArgument ctx (path.index i) .required e) <;> simp

theorem accepted?_fieldArgumentsFrom_nil (ctx : Context) (path : TreePath) :
    accepted? (fieldArgumentsFrom ctx path []) = some [] := by
  rw [fieldArgumentsFrom, accepted?_pure]

theorem accepted?_fieldArgumentsFrom_cons (ctx : Context) (path : TreePath) (f : Field)
    (fs : List Field) :
    accepted? (fieldArgumentsFrom ctx path (f :: fs)) =
      (accepted? (occurringArgument ctx (path.field f.name) .optional f.value)).bind fun o =>
        (accepted? (fieldArgumentsFrom ctx path fs)).map (⟨f.name, o⟩ :: ·) := by
  cases f with
  | mk name e =>
    rw [fieldArgumentsFrom, accepted?_bind fun _ =>
      steady_bind (steady_fieldArgumentsFrom ctx path fs) fun _ => steady_pure _]
    simp only [accepted?_bind_pure, accepted?_catching]
    cases accepted? (occurringArgument ctx (path.field name) .optional e) <;> simp

theorem names_of_fieldArgumentsFrom {ctx : Context} {path : TreePath} {fs : List Field}
    {as : List FieldArgument} (h : accepted? (fieldArgumentsFrom ctx path fs) = some as) :
    as.map (·.name) = fs.map (·.name) := by
  induction fs generalizing as with
  | nil =>
    rw [accepted?_fieldArgumentsFrom_nil] at h
    injection h with h
    rw [← h]
    rfl
  | cons f fs ih =>
    rw [accepted?_fieldArgumentsFrom_cons] at h
    obtain ⟨o, _, h⟩ := Option.bind_eq_some_iff.1 h
    obtain ⟨rest, read, rfl⟩ := Option.map_eq_some_iff.1 h
    simp [ih read]

/-! ## Occurring arguments -/

theorem accepted?_occurringArgument_plain {e : Element} (ctx : Context) (path : TreePath)
    (byDefault : IntRange) (plain : Field.has (e.struct?.getD []) "occurs" = false) :
    accepted? (occurringArgument ctx path byDefault e) =
      (accepted? (typeArgument ctx path e.annotations e.value)).map (⟨byDefault, ·⟩) := by
  cases e with
  | mk names v => rw [occurringArgument, if_neg (by rw [plain]; decide), accepted?_bind_pure]

theorem accepted?_occurringArgument_struct {names : List String} {fs : List Field} (ctx : Context)
    (path : TreePath) (byDefault : IntRange) (counted : Field.has fs "occurs" = true) :
    accepted? (occurringArgument ctx path byDefault ⟨names, .struct fs⟩) =
      (occursOf ⟨names, .struct fs⟩ fs).toOption.bind fun occurs =>
        (accepted? (definitionParts ctx path fs)).map fun p =>
          ⟨occurs, .inline p.definition .unmarked⟩ := by
  have here : Field.has ((Element.struct? ⟨names, .struct fs⟩).getD []) "occurs" = true := counted
  rw [occurringArgument, if_pos here, occurringDefinition, accepted?_lift_bind fun _ =>
    steady_bind (steady_definitionParts ctx path fs) fun _ => steady_pure _]
  simp only [accepted?_bind_pure]

/-! ## Constraints -/

section
variable (ctx : Context) (path : TreePath) (e : Element)

/-- What is accepted of a constraint that takes a list of arguments. -/
theorem accepted?_listedArguments (name : String) :
    accepted? (listedArguments ctx path name e.annotations e.value) =
      (plainList name e).toOption.bind fun items => accepted? (argumentsFrom ctx path 0 items) := by
  cases e with
  | mk names v =>
    cases v with
    | list items =>
      rw [listedArguments, accepted?_lift_bind fun _ => steady_argumentsFrom ctx path 0 items]
      simp only [plainList, Element.list?]
      split <;> rfl
    | _ =>
      rw [listedArguments]
      · exact accepted?_lift _
      · simp

theorem accepted?_orderedElements :
    accepted? (orderedElements ctx path e.annotations e.value) =
      (plainList "ordered_elements" e).toOption.bind fun items =>
        accepted? (orderedElementsFrom ctx path 0 items) := by
  cases e with
  | mk names v =>
    cases v with
    | list items =>
      rw [orderedElements, accepted?_lift_bind fun _ => steady_orderedElementsFrom ctx path 0 items]
      simp only [plainList, Element.list?]
      split <;> rfl
    | _ =>
      rw [orderedElements]
      · exact accepted?_lift _
      · simp

theorem accepted?_fieldArguments :
    accepted? (fieldArguments ctx path e.annotations e.value) =
      e.struct?.bind fun fs =>
        if (fieldsShape ctx.version e fs).toOption.isSome then
          accepted? (fieldArgumentsFrom ctx path fs)
        else none := by
  cases e with
  | mk names v =>
    cases v with
    | struct fs =>
      rw [fieldArguments, accepted?_lift_bind fun _ => steady_fieldArgumentsFrom ctx path fs]
      simp only [Element.struct?, Option.bind_some]
      cases fieldsShape ctx.version ⟨names, .struct fs⟩ fs <;> rfl
    | _ =>
      rw [fieldArguments]
      · exact accepted?_lift _
      · simp

theorem accepted?_allOf : accepted? (constraintOf ctx path "all_of" e) =
    (accepted? (listedArguments ctx path "all_of" e.annotations e.value)).map .allOf := by
  cases e with
  | mk names v =>
    rw [constraintOf.eq_def]
    exact accepted?_bind_pure _ _

theorem accepted?_anyOf : accepted? (constraintOf ctx path "any_of" e) =
    (accepted? (listedArguments ctx path "any_of" e.annotations e.value)).map .anyOf := by
  cases e with
  | mk names v =>
    rw [constraintOf.eq_def]
    exact accepted?_bind_pure _ _

theorem accepted?_oneOf : accepted? (constraintOf ctx path "one_of" e) =
    (accepted? (listedArguments ctx path "one_of" e.annotations e.value)).map .oneOf := by
  cases e with
  | mk names v =>
    rw [constraintOf.eq_def]
    exact accepted?_bind_pure _ _

theorem accepted?_type : accepted? (constraintOf ctx path "type" e) =
    (accepted? (typeArgument ctx path e.annotations e.value)).map .type := by
  cases e with
  | mk names v =>
    rw [constraintOf.eq_def]
    exact accepted?_bind_pure _ _

theorem accepted?_not : accepted? (constraintOf ctx path "not" e) =
    (accepted? (typeArgument ctx path e.annotations e.value)).map .not := by
  cases e with
  | mk names v =>
    rw [constraintOf.eq_def]
    exact accepted?_bind_pure _ _

/-- What may be marked as distinct. -/
theorem accepted?_distinct {name : String} {make : TypeArgument → Bool → Constraint}
    (reads : constraintOf ctx path name e =
      lift (distinctShape ctx.version name e) >>= fun _ =>
        typeArgument ctx path (withoutDistinct ctx.version e.annotations) e.value >>= fun a =>
          pure (make a (isDistinct ctx.version e.annotations))) :
    accepted? (constraintOf ctx path name e) =
      if (distinctShape ctx.version name e).toOption.isSome then
        (accepted? (typeArgument ctx path (withoutDistinct ctx.version e.annotations) e.value)).map
          (make · (isDistinct ctx.version e.annotations))
      else none := by
  rw [reads, accepted?_lift_bind fun _ => steady_bind (steady_typeArgument ctx path _ _)
    fun _ => steady_pure _]
  simp only [accepted?_bind_pure]
  cases distinctShape ctx.version name e <;> rfl

theorem accepted?_element : accepted? (constraintOf ctx path "element" e) =
    if (distinctShape ctx.version "element" e).toOption.isSome then
      (accepted? (typeArgument ctx path (withoutDistinct ctx.version e.annotations) e.value)).map
        (.element · (isDistinct ctx.version e.annotations))
    else none := by
  cases e with
  | mk names v =>
    refine accepted?_distinct ctx path _ ?_
    rw [constraintOf.eq_def]
    rfl

theorem accepted?_fieldNames : accepted? (constraintOf ctx path "field_names" e) =
    if (distinctShape ctx.version "field_names" e).toOption.isSome then
      (accepted? (typeArgument ctx path (withoutDistinct ctx.version e.annotations) e.value)).map
        (.fieldNames · (isDistinct ctx.version e.annotations))
    else none := by
  cases e with
  | mk names v =>
    refine accepted?_distinct ctx path _ ?_
    rw [constraintOf.eq_def]
    rfl

theorem accepted?_fields : accepted? (constraintOf ctx path "fields" e) =
    (accepted? (fieldArguments ctx path e.annotations e.value)).map fun fs =>
      .fields (sortFields fs) (e.isAnnotated "closed") := by
  cases e with
  | mk names v =>
    rw [constraintOf.eq_def]
    exact accepted?_bind_pure _ _

theorem accepted?_orderedElements_constraint :
    accepted? (constraintOf ctx path "ordered_elements" e) =
      (accepted? (orderedElements ctx path e.annotations e.value)).map .orderedElements := by
  cases e with
  | mk names v =>
    rw [constraintOf.eq_def]
    exact accepted?_bind_pure _ _

/-- Version 2.0 takes a type for the annotations. -/
theorem accepted?_annotationType (v2 : ctx.version = .v2)
    (type : e.type = .struct ∨ e.type = .symbol) :
    accepted? (constraintOf ctx path "annotations" e) =
      (accepted? (typeArgument ctx path e.annotations e.value)).map .annotationType := by
  cases e with
  | mk names v =>
    have here : v.type = .struct ∨ v.type = .symbol := type
    rw [constraintOf.eq_def]
    dsimp only
    rw [leaf?_annotations, v2]
    rcases here with h | h <;> rw [h] <;> exact accepted?_bind_pure _ _

end

/-- Neither a list nor a type. -/
theorem accepted?_noAnnotations {ctx : Context} {path : TreePath} {e : Element}
    (v2 : ctx.version = .v2) (noList : e.type ≠ .list)
    (noType : ¬(e.type = .struct ∨ e.type = .symbol)) :
    accepted? (constraintOf ctx path "annotations" e) = none := by
  cases e with
  | mk names v =>
    rw [constraintOf.eq_def]
    dsimp only
    rw [leaf?_annotations, v2]
    cases type : v.type with
    | list => exact absurd type noList
    | struct => exact absurd (.inl type) noType
    | symbol => exact absurd (.inr type) noType
    | _ => rfl
end Isl.Reader
