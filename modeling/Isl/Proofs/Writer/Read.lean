import Isl.Proofs.Writer.Definition
/-!
# What was read returns

Whatever is accepted as an argument, a definition or a constraint returns, by induction on the value
that it was read from: each step puts together what the steps within it gave.
-/
namespace Isl.Writer
open Reader

theorem plainList_ok {name : String} {names : List String} {items es : List Element}
    (h : plainList name ⟨names, .list items⟩ = .ok es) : es = items := by
  simp only [plainList, Element.list?] at h
  split at h
  · injection h with h
    exact h.symm
  · cases h

theorem v2_of_isDistinct {version : IslVersion} {names : List String}
    (h : isDistinct version names = true) : version = .v2 := by
  rw [isDistinct, Bool.and_eq_true, beq_iff_eq] at h
  exact h.1

theorem fieldsShape_ok {version : IslVersion} {e : Element} {fs : List Field} {u : Unit}
    (h : fieldsShape version e fs = .ok u) :
    (version = .v2 → fs ≠ []) ∧ (e.isAnnotated "closed" = true → version = .v2) := by
  cases version with
  | v1 =>
    refine ⟨fun v2 => (by cases v2), fun closed => ?_⟩
    cases none : e.annotations with
    | nil => simp [Element.isAnnotated, none] at closed
    | cons a as => simp [fieldsShape, none, badArgument, bind, Except.bind] at h
  | v2 =>
    refine ⟨fun _ empty => ?_, fun _ => rfl⟩
    subst empty
    cases only : onlyAnnotated e ["closed"] <;>
      simp [fieldsShape, only, badArgument, bind, Except.bind] at h

theorem occursOf_ok {e : Element} {fs : List Field} {r : IntRange} (h : occursOf e fs = .ok r) :
    Counts r := by
  obtain ⟨_, _, h⟩ := check_bind_eq_ok_iff.1 h
  dsimp only at h
  split at h
  · obtain ⟨occurs, read, h⟩ := check_bind_eq_ok_iff.1 h
    obtain ⟨_, _, h⟩ := check_bind_eq_ok_iff.1 h
    injection h with h
    exact h ▸ counts_of_occursRange read
  · cases h

section
variable {ctx : Context} {failFast : Bool}

/-- What the fields of a definition amount to when every part of them returns. -/
structure PartsReturn (ctx : Context) (fs : List Field) (p : Parts) : Prop where
  constraints : ∀ c ∈ p.constraints, ConstraintReturns ctx c
  isOpen : ∀ f ∈ p.openContent, ctx.isOpen f.name = true
  within : ∀ f ∈ p.openContent, f ∈ fs
  closed : p.contentClosed = true → ctx.version = .v1

theorem PartsReturn.empty (fs : List Field) : PartsReturn ctx fs .empty :=
  ⟨fun _ h => (by cases h), fun _ h => (by cases h), fun _ h => (by cases h), fun h => (by cases h)⟩

theorem PartsReturn.cons {f : Field} {fs : List Field} {p q : Parts}
    (first : PartsReturn ctx [f] p) (rest : PartsReturn ctx fs q) :
    PartsReturn ctx (f :: fs) (p.append q) := by
  refine ⟨fun c hc => ?_, fun g hg => ?_, fun g hg => ?_, fun closed => ?_⟩
  · rcases List.mem_append.1 hc with hc | hc
    · exact first.constraints c hc
    · exact rest.constraints c hc
  · rcases List.mem_append.1 hg with hg | hg
    · exact first.isOpen g hg
    · exact rest.isOpen g hg
  · rcases List.mem_append.1 hg with hg | hg
    · obtain rfl := List.mem_singleton.1 (first.within g hg)
      exact List.mem_cons_self ..
    · exact List.mem_cons_of_mem _ (rest.within g hg)
  · rcases (Bool.or_eq_true _ _).mp closed with closed | closed
    · exact first.closed closed
    · exact rest.closed closed

theorem PartsReturn.definition {fs : List Field} {p : Parts} (h : PartsReturn ctx fs p) :
    DefinitionReturns ctx p.definition := definition_returns h.constraints h.isOpen h.closed

theorem PartsReturn.native {fs : List Field} {p : Parts} (h : PartsReturn ctx fs p)
    (native : Field.has fs "id" = false) : Field.has p.definition.openContent "id" = false := by
  rw [Field.has, List.any_eq_false] at native ⊢
  exact fun f hf => native f (h.within f hf)

mutual

theorem returns_typeArgument (path : TreePath) (names : List String) (v : Value) {a : TypeArgument}
    (h : accepted? (typeArgument { ctx with failFast } path names v) = some a) :
    ArgumentReturns ctx a := by
  cases v with
  | struct fs =>
    rw [accepted?_typeArgument_struct] at h
    split at h
    · split at h
      · obtain ⟨id, typeName, rfl⟩ := inlineImport_ok (toOption_eq_some_iff.1 h)
        exact argument_imported id typeName (fits_nullabilityOf _ _)
      · rename_i native
        split at h
        · cases h
        · obtain ⟨p, read, rfl⟩ := Option.map_eq_some_iff.1 h
          have parts := returns_definitionParts path fs read
          exact argument_inline parts.definition (parts.native (by simpa using native))
            (fits_nullabilityOf _ _)
    · cases h
  | _ =>
    rw [accepted?_typeArgument_word (by simp)] at h
    split at h
    · obtain ⟨name, _, rfl⟩ := Option.map_eq_some_iff.1 h
      exact argument_reference name (fits_nullabilityOf _ _)
    · cases h

theorem returns_definitionParts (path : TreePath) (fs : List Field) {p : Parts}
    (h : accepted? (definitionParts { ctx with failFast } path fs) = some p) :
    PartsReturn ctx fs p := by
  cases fs with
  | nil =>
    rw [accepted?_definitionParts_nil] at h
    injection h with h
    subst h
    exact PartsReturn.empty []
  | cons f fs =>
    rw [accepted?_definitionParts_cons] at h
    obtain ⟨p, first, h⟩ := Option.bind_eq_some_iff.1 h
    obtain ⟨q, rest, rfl⟩ := Option.map_eq_some_iff.1 h
    exact (returns_definitionField path f first).cons (returns_definitionParts path fs rest)

theorem returns_definitionField (path : TreePath) (f : Field) {p : Parts}
    (h : accepted? (definitionField { ctx with failFast } path f) = some p) :
    PartsReturn ctx [f] p := by
  cases f with
  | mk name e =>
    rcases definitionField_cases h with rfl | ⟨v1, rfl⟩ | ⟨states, c, read, rfl⟩ | ⟨isOpen, rfl⟩
    · exact PartsReturn.empty _
    · exact ⟨fun _ h => (by cases h), fun _ h => (by cases h), fun _ h => (by cases h), fun _ => v1⟩
    · refine ⟨fun d hd => ?_, fun _ h => (by cases h), fun _ h => (by cases h),
        fun h => (by cases h)⟩
      obtain rfl := List.mem_singleton.1 hd
      exact returns_constraintOf (path.field name) name e states read
    · refine ⟨fun _ h => (by cases h), fun g hg => ?_, fun g hg => hg, fun h => (by cases h)⟩
      obtain rfl := List.mem_singleton.1 hg
      exact isOpen

theorem returns_constraintOf (path : TreePath) (name : String) (e : Element) {c : Constraint}
    (states : ctx.states name = true)
    (h : accepted? (constraintOf { ctx with failFast } path name e) = some c) :
    ConstraintReturns ctx c := by
  cases e with
  | mk names v =>
    cases readAs_of_constraintOf h with
    | leaf named leaf => exact constraint_leaf (named ▸ states) leaf
    | allOf read => exact constraint_allOf states (returns_listedArguments path _ names v read)
    | anyOf read => exact constraint_anyOf states (returns_listedArguments path _ names v read)
    | oneOf read => exact constraint_oneOf states (returns_listedArguments path _ names v read)
    | type read => exact constraint_type states (returns_typeArgument path names v read)
    | not read => exact constraint_not states (returns_typeArgument path names v read)
    | element read =>
      exact constraint_element states v2_of_isDistinct (returns_typeArgument path _ v read)
    | fieldNames read =>
      exact constraint_fieldNames states v2_of_isDistinct (returns_typeArgument path _ v read)
    | fields read =>
      obtain ⟨shape, members⟩ := returns_fieldArguments path names v read
      exact constraint_fields states (ascending_sortFields _)
        (fun v2 => sortFields_ne_nil (shape.1 v2)) shape.2
        fun f hf => members f (mem_sortFields hf)
    | orderedElements read =>
      exact constraint_orderedElements states (returns_orderedElements path names v read)
    | annotationType v2 read =>
      exact constraint_annotationType states v2 (returns_typeArgument path names v read)

theorem returns_listedArguments (path : TreePath) (name : String) (names : List String) (v : Value)
    {as : List TypeArgument}
    (h : accepted? (listedArguments { ctx with failFast } path name names v) = some as) :
    ∀ a ∈ as, ArgumentReturns ctx a := by
  have read := (accepted?_listedArguments _ path ⟨names, v⟩ name).symm.trans h
  obtain ⟨es, list, inner⟩ := Option.bind_eq_some_iff.1 read
  cases v with
  | list items =>
    rw [plainList_ok (toOption_eq_some_iff.1 list)] at inner
    exact returns_argumentsFrom path 0 items inner
  | _ => cases list

theorem returns_argumentsFrom (path : TreePath) (i : Nat) (es : List Element)
    {as : List TypeArgument}
    (h : accepted? (argumentsFrom { ctx with failFast } path i es) = some as) :
    ∀ a ∈ as, ArgumentReturns ctx a := by
  cases es with
  | nil =>
    rw [accepted?_argumentsFrom_nil] at h
    injection h with h
    simp [← h]
  | cons e es =>
    cases e with
    | mk names v =>
      rw [accepted?_argumentsFrom_cons] at h
      obtain ⟨a, first, h⟩ := Option.bind_eq_some_iff.1 h
      obtain ⟨rest, others, rfl⟩ := Option.map_eq_some_iff.1 h
      intro b hb
      rcases List.mem_cons.1 hb with rfl | hb
      · exact returns_typeArgument (path.index i) names v first
      · exact returns_argumentsFrom path (i + 1) es others b hb

theorem returns_fieldArguments (path : TreePath) (names : List String) (v : Value)
    {fs : List FieldArgument}
    (h : accepted? (fieldArguments { ctx with failFast } path names v) = some fs) :
    ((ctx.version = .v2 → fs ≠ []) ∧
      ((Element.mk names v).isAnnotated "closed" = true → ctx.version = .v2)) ∧
      ∀ f ∈ fs, OccurringReturns ctx .optional f.argument := by
  have read := (accepted?_fieldArguments _ path ⟨names, v⟩).symm.trans h
  obtain ⟨members, struct, read⟩ := Option.bind_eq_some_iff.1 read
  cases v with
  | struct gs =>
    injection struct with struct
    subst struct
    split at read
    · rename_i shaped
      obtain ⟨_, shape⟩ := Option.isSome_iff_exists.1 shaped
      obtain ⟨some, closed⟩ := fieldsShape_ok (toOption_eq_some_iff.1 shape)
      refine ⟨⟨fun v2 empty => ?_, closed⟩, returns_fieldArgumentsFrom path gs read⟩
      have count := names_of_fieldArgumentsFrom read
      rw [empty] at count
      exact some v2 (List.map_eq_nil_iff.1 count.symm)
    · cases read
  | _ => cases struct

theorem returns_fieldArgumentsFrom (path : TreePath) (fs : List Field) {as : List FieldArgument}
    (h : accepted? (fieldArgumentsFrom { ctx with failFast } path fs) = some as) :
    ∀ f ∈ as, OccurringReturns ctx .optional f.argument := by
  cases fs with
  | nil =>
    rw [accepted?_fieldArgumentsFrom_nil] at h
    injection h with h
    simp [← h]
  | cons f fs =>
    cases f with
    | mk name e =>
      rw [accepted?_fieldArgumentsFrom_cons] at h
      obtain ⟨o, first, h⟩ := Option.bind_eq_some_iff.1 h
      obtain ⟨rest, others, rfl⟩ := Option.map_eq_some_iff.1 h
      intro g hg
      rcases List.mem_cons.1 hg with rfl | hg
      · exact returns_occurringArgument (path.field name) .optional e first
      · exact returns_fieldArgumentsFrom path fs others g hg

theorem returns_orderedElements (path : TreePath) (names : List String) (v : Value)
    {os : List OccurringArgument}
    (h : accepted? (orderedElements { ctx with failFast } path names v) = some os) :
    ∀ o ∈ os, OccurringReturns ctx .required o := by
  have read := (accepted?_orderedElements _ path ⟨names, v⟩).symm.trans h
  obtain ⟨es, list, inner⟩ := Option.bind_eq_some_iff.1 read
  cases v with
  | list items =>
    rw [plainList_ok (toOption_eq_some_iff.1 list)] at inner
    exact returns_orderedElementsFrom path 0 items inner
  | _ => cases list

theorem returns_orderedElementsFrom (path : TreePath) (i : Nat) (es : List Element)
    {os : List OccurringArgument}
    (h : accepted? (orderedElementsFrom { ctx with failFast } path i es) = some os) :
    ∀ o ∈ os, OccurringReturns ctx .required o := by
  cases es with
  | nil =>
    rw [accepted?_orderedElementsFrom_nil] at h
    injection h with h
    simp [← h]
  | cons e es =>
    rw [accepted?_orderedElementsFrom_cons] at h
    obtain ⟨o, first, h⟩ := Option.bind_eq_some_iff.1 h
    obtain ⟨rest, others, rfl⟩ := Option.map_eq_some_iff.1 h
    intro p hp
    rcases List.mem_cons.1 hp with rfl | hp
    · exact returns_occurringArgument (path.index i) .required e first
    · exact returns_orderedElementsFrom path (i + 1) es others p hp

theorem returns_occurringArgument (path : TreePath) (byDefault : IntRange) (e : Element)
    {o : OccurringArgument}
    (h : accepted? (occurringArgument { ctx with failFast } path byDefault e) = some o) :
    OccurringReturns ctx byDefault o := by
  cases e with
  | mk names v =>
    cases counted : Field.has ((Element.struct? ⟨names, v⟩).getD []) "occurs" with
    | false =>
      rw [accepted?_occurringArgument_plain _ _ _ counted] at h
      obtain ⟨a, read, rfl⟩ := Option.map_eq_some_iff.1 h
      exact occurring_plain byDefault (returns_typeArgument path names v read)
    | true =>
      cases v with
      | struct fs =>
        rw [accepted?_occurringArgument_struct _ _ _ (by exact counted)] at h
        obtain ⟨occurs, count, h⟩ := Option.bind_eq_some_iff.1 h
        obtain ⟨p, read, rfl⟩ := Option.map_eq_some_iff.1 h
        exact occurring_definition (returns_definitionParts path fs read).definition
          (occursOf_ok (toOption_eq_some_iff.1 count))
      | _ => cases counted

end

end
end Isl.Writer
