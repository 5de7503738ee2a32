import Isl.Proofs.Ion.Alike
import Isl.Proofs.Reader.Sorting
/-!
# Checks of equal values

A check of one value and the same check of an equal value agree: both succeed, with the same result,
or both fail. The faults may differ, since they quote the value.

* `Agree`: two checks that agree;
* `agree_bind`, `agree_ite`, `agree_mapM`: how such checks are put together;
* `agree_leaf`: arguments without types in them;
* `agree_requiredField`, `agree_inlineImport`: what is looked up by the names of fields.
-/
namespace Isl.Reader

/-- Two checks that both succeed, with results that go together, or both fail. -/
inductive Agree {α β : Type} (R : α → β → Prop) : Check α → Check β → Prop where
  | ok {a : α} {b : β} (alike : R a b) : Agree R (.ok a) (.ok b)
  | error (fault fault' : ReadFault) : Agree R (.error fault) (.error fault')

section
variable {α β γ δ : Type} {R : α → β → Prop} {S : γ → δ → Prop}

theorem agree_self {R : α → α → Prop} (refl : ∀ a, R a a) (c : Check α) : Agree R c c := by
  cases c with
  | ok a => exact .ok (refl a)
  | error fault => exact .error fault fault

theorem agree_eq {c c' : Check α} (h : c = c') : Agree Eq c c' := h ▸ agree_self (fun _ => rfl) c

theorem agree_of_eq {R : α → α → Prop} (refl : ∀ a, R a a) {c d : Check α} (h : Agree Eq c d) :
    Agree R c d := by
  cases h with
  | ok same => exact .ok (same ▸ refl _)
  | error fault fault' => exact .error fault fault'

theorem agree_require {b c : Bool} (same : b = c) (fault fault' : ReadFault) :
    Agree Eq (require b fault) (require c fault') := by
  subst same
  cases b with
  | true => exact .ok rfl
  | false => exact .error fault fault'

theorem agree_bind {c : Check α} {d : Check β} {f : α → Check γ} {g : β → Check δ}
    (first : Agree R c d) (rest : ∀ a b, R a b → Agree S (f a) (g b)) :
    Agree S (c >>= f) (d >>= g) := by
  cases first with
  | ok alike => exact rest _ _ alike
  | error fault fault' => exact .error fault fault'

theorem agree_then {c d : Check α} {f : α → Check γ} {g : α → Check δ} (first : Agree Eq c d)
    (rest : ∀ a, Agree S (f a) (g a)) : Agree S (c >>= f) (d >>= g) :=
  agree_bind first fun a _ same => same ▸ rest a

theorem agree_map {c : Check α} {d : Check β} {f : α → γ} {g : β → δ} (h : Agree R c d)
    (keeps : ∀ a b, R a b → S (f a) (g b)) : Agree S (c.map f) (d.map g) := by
  cases h with
  | ok alike => exact .ok (keeps _ _ alike)
  | error fault fault' => exact .error fault fault'

theorem agree_ite {b c : Bool} (same : b = c) {x y : Check α} {x' y' : Check β}
    (pos : Agree R x x') (neg : Agree R y y') :
    Agree R (if b then x else y) (if c then x' else y') := by
  subst same
  cases b with
  | true => exact pos
  | false => exact neg

theorem agree_mapM {as : List α} {bs : List β} {f : α → Check γ} {g : β → Check δ}
    (each : List.Forall₂ R as bs) (step : ∀ a b, R a b → Agree S (f a) (g b)) :
    Agree (List.Forall₂ S) (as.mapM f) (bs.mapM g) := by
  induction each with
  | nil => exact .ok .nil
  | cons first _ ih =>
    rw [List.mapM_cons, List.mapM_cons]
    refine agree_bind (step _ _ first) fun _ _ head => agree_bind ih fun _ _ tail => ?_
    exact .ok (.cons head tail)

theorem agree_mapError {c d : Check α} (h : Agree Eq c d) (f g : ReadFault → ReadFault) :
    Agree Eq (c.mapError f) (d.mapError g) := by
  cases h with
  | ok alike => exact .ok alike
  | error fault fault' => exact .error (f fault) (g fault')

/-- Equal items are turned into the same list. -/
theorem mapM_same {es es' : List Element} {f : Element → Option α}
    (each : List.Forall₂ (fun a b => a.same b = true) es es')
    (look : ∀ e e', e.same e' = true → f e = f e') : es.mapM f = es'.mapM f := by
  induction each with
  | nil => rfl
  | cons first _ ih => rw [List.mapM_cons, List.mapM_cons, look _ _ first, ih]

end

/-! ## Ranges -/

section
variable {e e' : Element} (h : e.same e' = true)
include h

theorem onlyAnnotated_same (allowed : List String) :
    onlyAnnotated e allowed = onlyAnnotated e' allowed := by
  rw [onlyAnnotated, onlyAnnotated, Element.annotations_same h]

theorem agree_limit {α : Type} {range range' : Element} (expected : String)
    {bound? bound?' : Element → Check (Option α)} (bound : Agree Eq (bound? e) (bound?' e'))
    (side : Side) :
    Agree Eq (limit range expected bound? side e) (limit range' expected bound?' side e') := by
  unfold limit
  rw [Element.symbol?_same h, Element.annotations_same h, onlyAnnotated_same h,
    Element.isNull_same h, Element.isAnnotated_same h]
  refine agree_ite rfl ?_ ?_
  · exact agree_then (agree_require rfl _ _) fun _ => .ok rfl
  · refine agree_then (agree_require rfl _ _) fun _ => ?_
    refine agree_then (agree_ite rfl (.ok rfl) bound) fun a => ?_
    cases a with
    | none => exact .error _ _
    | some a => exact .ok rfl

theorem agree_limits {α : Type} (expected : String) {bound? bound?' : Element → Check (Option α)}
    (bound : ∀ i i' : Element, i.same i' = true → Agree Eq (bound? i) (bound?' i')) :
    Agree Eq (limits e expected bound?) (limits e' expected bound?') := by
  have items := Element.list?_same h
  unfold limits
  rw [Element.annotations_same h]
  generalize e.list? = o, e'.list? = o' at items
  cases items with
  | none => exact .error _ _
  | some each =>
    match each with
    | .nil | .cons _ .nil | .cons _ (.cons _ (.cons _ _)) => exact .error _ _
    | .cons low (.cons high .nil) =>
      refine agree_then (agree_require rfl _ _) fun _ => ?_
      refine agree_then (agree_limit low expected (bound _ _ low) .lower) fun _ => ?_
      exact agree_then (agree_limit high expected (bound _ _ high) .upper) fun _ => .ok rfl

theorem agree_intBound : Agree Eq (intBound e) (intBound e') := by
  unfold intBound
  rw [Element.int64?_same h]
  cases e'.int64? with
  | none => exact .error _ _
  | some n => exact .ok rfl

theorem agree_intRange : Agree Eq (intRange e) (intRange e') := by
  unfold intRange
  rw [Element.type_same h, Element.isNull_same h, Element.annotations_same h]
  refine agree_ite rfl ?_ ?_
  · refine agree_then (agree_require rfl _ _) fun _ => ?_
    refine agree_then (agree_require rfl _ _) fun _ => ?_
    exact agree_map (agree_intBound h) fun _ _ same => congrArg _ same
  · refine agree_then (agree_limits h "int" fun i i' same => ?_) fun _ => agree_eq rfl
    unfold intBound?
    rw [Element.int?_same same]
    cases i'.int? with
    | none => exact .ok rfl
    | some n => exact agree_map (agree_intBound same) fun _ _ equal => congrArg some equal

theorem agree_numberRange : Agree Eq (numberRange e) (numberRange e') := by
  refine agree_then (agree_limits h "number" fun i i' same => ?_) fun _ => agree_eq rfl
  unfold numberBound?
  rw [Element.type_same same, Element.decimal?_same same]
  refine agree_ite rfl ?_ (.ok rfl)
  cases i'.decimal? with
  | none => exact .error _ _
  | some d => exact .ok rfl

theorem agree_instantRange : Agree Eq (instantRange e) (instantRange e') :=
  agree_then (agree_limits h "timestamp" fun _ _ same => agree_eq (by
    rw [Element.timestamp?_same same])) fun _ => agree_eq rfl

theorem agree_precisionRange : Agree Eq (precisionRange e) (precisionRange e') := by
  unfold precisionRange
  rw [Element.type_same h, Element.isNull_same h, Element.annotations_same h,
    Element.symbol?_same h]
  refine agree_ite rfl ?_ ?_
  · refine agree_then (agree_require rfl _ _) fun _ => ?_
    refine agree_then (agree_require rfl _ _) fun _ => ?_
    cases e'.symbol?.bind NamedPrecision.ofName? with
    | none => exact .error _ _
    | some p => exact .ok rfl
  · refine agree_then (agree_limits h "symbol" fun i i' same => ?_) fun _ => agree_eq rfl
    unfold precisionBound?
    rw [Element.type_same same, Element.symbol?_same same]
    refine agree_ite rfl ?_ (.ok rfl)
    cases i'.symbol?.bind NamedPrecision.ofName? with
    | none => exact .error _ _
    | some p => exact .ok rfl

/-! ## Arguments without types -/

theorem agree_plainList {R : Element → Element → Prop}
    (items : Option.Rel (List.Forall₂ R) e.list? e'.list?) (name : String) :
    Agree (List.Forall₂ R) (plainList name e) (plainList name e') := by
  unfold plainList
  rw [Element.annotations_same h]
  generalize e.list? = o, e'.list? = o' at items
  cases items with
  | none => exact .error _ _
  | some each => exact agree_ite rfl (.ok each) (.error _ _)

theorem agree_contains :
    Agree (fun c d => c.same d = true) (containsArgument e) (containsArgument e') := by
  refine agree_map (agree_plainList h (Element.list?_same h) "contains") fun es es' each => ?_
  rw [Constraint.same]
  exact Bag.sameItems_of_perm Element.same_self (fun e _ => e.isClass) each (.refl _)

theorem agree_floatFormat : Agree Eq (floatFormat e) (floatFormat e') := by
  unfold floatFormat
  rw [Element.annotations_same h, Element.symbol?_same h]
  refine agree_ite rfl (.error _ _) ?_
  cases e'.symbol?.bind FloatFormat.ofName? with
  | none => exact .error _ _
  | some f => exact .ok rfl

theorem agree_regex (version : IslVersion) :
    Agree Eq (regexArgument version e) (regexArgument version e') := by
  unfold regexArgument
  rw [Element.string?_same h, onlyAnnotated_same h, Element.isAnnotated_same h,
    Element.isAnnotated_same h]
  cases e'.string? with
  | none => exact .error _ _
  | some source => exact agree_ite rfl (agree_eq rfl) (.error _ _)

theorem agree_annotationSet : Agree Eq (annotationSet e) (annotationSet e') := by
  have items := Element.list?_same h
  have modifier : modifier? e = modifier? e' := by
    rw [modifier?, modifier?, Element.isAnnotated_same h, Element.isAnnotated_same h]
  unfold annotationSet
  rw [onlyAnnotated_same h, modifier]
  generalize e.list? = o, e'.list? = o' at items
  cases items with
  | none => exact .error _ _
  | @some es es' each =>
    refine agree_ite rfl ?_ (.error _ _)
    have names : es.mapM plainSymbol? = es'.mapM plainSymbol? := mapM_same each fun a b same => by
      rw [plainSymbol?, plainSymbol?, Element.annotations_same same, Element.symbol?_same same]
    rw [names]
    cases modifier? e' with
    | none => exact .error _ _
    | some modifier =>
      cases es'.mapM plainSymbol? with
      | none => exact .error _ _
      | some names => exact .ok rfl

theorem hasBound_same (admits : IonType → Bool) : hasBound e admits = hasBound e' admits := by
  have items := Element.list?_same h
  unfold hasBound
  generalize e.list? = o, e'.list? = o' at items
  cases items with
  | none => rfl
  | some each =>
    simp only [Option.getD_some]
    induction each with
    | nil => rfl
    | cons first _ ih => rw [List.any_cons, List.any_cons, Element.type_same first, ih]

theorem agree_validRange : Agree Eq (validRange e) (validRange e') := by
  unfold validRange
  rw [hasBound_same h, hasBound_same h]
  refine agree_ite rfl ?_ (agree_ite rfl ?_ (.error _ _))
  · exact agree_map (agree_instantRange h) fun _ _ same => congrArg _ same
  · exact agree_map (agree_numberRange h) fun _ _ same => congrArg _ same

theorem agree_validValue :
    Agree (fun v w => v.same w = true) (validValue e) (validValue e') := by
  unfold validValue
  rw [Element.type_same h, Element.isAnnotated_same h, Element.annotations_same h]
  refine agree_ite rfl ?_ (agree_ite rfl (.ok h) (.error _ _))
  have range := agree_validRange h
  generalize validRange e = c, validRange e' = c' at range
  cases range with
  | error fault fault' => exact .error fault fault'
  | @ok v w same =>
    subst same
    exact .ok v.same_self

theorem agree_validValues :
    Agree (fun c d => c.same d = true) (validValues e) (validValues e') := by
  have items := Element.list?_same h
  unfold validValues
  rw [onlyAnnotated_same h, Element.isAnnotated_same h]
  refine agree_ite rfl (.error _ _) (agree_ite rfl ?_ ?_)
  · refine agree_map (agree_validRange h) fun v w same => ?_
    rw [same]
    exact Constraint.same_self _
  · generalize e.list? = o, e'.list? = o' at items
    cases items with
    | none => exact .error _ _
    | some each =>
      refine agree_map (agree_mapM each fun _ _ same => agree_validValue same) fun vs ws alike => ?_
      rw [Constraint.same]
      exact Bag.sameItems_of_perm ValidValue.same_self (fun v _ => v.isClass) alike (.refl _)

theorem agree_offsets : Agree Eq (offsets e) (offsets e') := by
  have items := Element.list?_same h
  unfold offsets
  rw [Element.annotations_same h]
  generalize e.list? = o, e'.list? = o' at items
  cases items with
  | none => exact .error _ _
  | some each =>
    cases each with
    | nil => exact .error _ _
    | cons first rest =>
      refine agree_ite rfl ?_ (.error _ _)
      refine agree_map (R := List.Forall₂ Eq) (agree_mapM (.cons first rest) fun a b same => ?_) ?_
      · unfold offsetValue plainString?
        rw [Element.annotations_same same, Element.string?_same same]
        cases (if b.annotations.isEmpty then b.string? else none) with
        | none => exact .error _ _
        | some text => exact agree_eq rfl
      · intro xs ys equal
        rw [List.forall₂_eq_eq_eq] at equal
        rw [equal]

theorem agree_occursRange : Agree Eq (occursRange e) (occursRange e') := by
  have items := Element.list?_same h
  have ranges := agree_intRange h
  unfold occursRange nonNegativeRange
  rw [Element.symbol?_same h, Element.int64?_same h, Element.annotations_same h]
  split
  · exact agree_ite rfl (.ok rfl) (.error _ _)
  · exact agree_ite rfl (.ok rfl) (.error _ _)
  · exact .error _ _
  · exact agree_ite rfl (.ok rfl) (.error _ _)
  · refine agree_ite ?_ ?_ (.error _ _)
    · generalize e.list? = o, e'.list? = o' at items
      cases items <;> rfl
    · exact agree_mapError (agree_then ranges fun _ => agree_eq rfl) _ _

/-- Arguments without types in them make equal constraints. -/
theorem agree_leaf {version : IslVersion} {name : String} {read : Element → Check Constraint}
    (known : leaf? version name = some read) :
    Agree (fun c d => c.same d = true) (read e) (read e') := by
  have itself {c c' : Check Constraint} (equal : Agree Eq c c') :
      Agree (fun c d : Constraint => c.same d = true) c c' := agree_of_eq Constraint.same_self equal
  unfold leaf? at known
  split at known
  · cases known
    exact itself (agree_then (agree_intRange h) fun _ => agree_eq rfl)
  · split at known
    · cases known; exact agree_contains h
    · cases known; exact itself (agree_regex h version)
    · cases known; exact agree_validValues h
    · cases known
      exact itself (agree_map (agree_precisionRange h) fun _ _ same => congrArg _ same)
    · cases known; exact itself (agree_offsets h)
    · cases known; exact itself (agree_floatFormat h)
    · cases known

theorem textOf_same : textOf e = textOf e' := by
  rw [textOf, textOf, Element.text?_same h]

theorem nullabilityOf_same (version : IslVersion) :
    nullabilityOf version e = nullabilityOf version e' := by
  rw [nullabilityOf, nullabilityOf, Element.isAnnotated_same h]

theorem admits_same (shape : Shape) : shape.admits e = shape.admits e' := by
  have items := Element.list?_same h
  have fields := Element.struct?_same h
  cases shape with
  | symbol => rw [Shape.admits, Shape.admits, Element.symbol?_same h]
  | text => rw [Shape.admits, Shape.admits, Element.text?_same h]
  | list =>
    rw [Shape.admits, Shape.admits]
    generalize e.list? = o, e'.list? = o' at items
    cases items <;> rfl
  | struct =>
    rw [Shape.admits, Shape.admits]
    generalize e.struct? = o, e'.struct? = o' at fields
    cases fields <;> rfl

end

/-! ## Fields by name -/

/-- The fields of a `fields` argument have distinct names, and there are some. -/
theorem fieldsShape_v2_iff (e : Element) (fs : List Field) :
    fieldsShape .v2 e fs = .ok () ↔
      onlyAnnotated e ["closed"] = true ∧ fs ≠ [] ∧ (fs.map (·.name)).Nodup := by
  rw [← duplicates_eq_nil_iff]
  cases only : onlyAnnotated e ["closed"] with
  | false => simp [fieldsShape, only, badArgument, bind, Except.bind]
  | true =>
    cases fs with
    | nil => simp [fieldsShape, only, badArgument, bind, Except.bind]
    | cons f fs =>
      rw [List.map_cons]
      cases again : duplicates (f.name :: fs.map (·.name)) <;>
        simp [fieldsShape, only, badArgument, pure, Except.pure, again]

section
variable {fs gs : List Field} (fields : Rearranged (fun f g => f.same g = true) fs gs)
include fields

theorem agree_optionalField (name : String) (shape : Shape) :
    Agree (Option.Rel fun a b => a.same b = true) (optionalField fs name shape)
      (optionalField gs name shape) := by
  have all := Field.getAll_same fields name
  unfold optionalField
  obtain ⟨none, none'⟩ | ⟨a, b, one, one', same⟩ | ⟨a, a', as, b, b', bs, more, more'⟩ :=
    all.none_one_several
  · rw [none, none']
    exact .ok .none
  · rw [one, one']
    exact agree_ite (admits_same same shape) (.ok (.some same)) (.error _ _)
  · rw [more, more']
    exact .error _ _

theorem agree_requiredField (name : String) (shape : Shape) (owner owner' : Element) :
    Agree (fun a b => a.same b = true) (requiredField fs name shape owner)
      (requiredField gs name shape owner') := by
  refine agree_bind (agree_optionalField fields name shape) fun a b same => ?_
  cases same with
  | some same => exact .ok same
  | none => exact .error _ _

variable {e e' : Element} (h : e.same e' = true)
include h

theorem agree_inlineImport (version : IslVersion) :
    Agree Eq (inlineImport version e fs) (inlineImport version e' gs) := by
  unfold inlineImport
  rw [Field.all_same fields fun name => name == "id" || name == "type",
    nullabilityOf_same h version]
  refine agree_then (agree_require rfl _ _) fun _ => ?_
  refine agree_bind (agree_requiredField fields _ _ _ _) fun id id' sameId => ?_
  refine agree_bind (agree_requiredField fields _ _ _ _) fun name name' sameName => ?_
  rw [textOf_same sameId, textOf_same sameName]
  exact .ok rfl

theorem agree_occursOf : Agree Eq (occursOf e fs) (occursOf e' gs) := by
  have all := Field.getAll_same fields "occurs"
  unfold occursOf
  rw [Element.annotations_same h, Field.has_same fields]
  refine agree_then (agree_require rfl _ _) fun _ => ?_
  obtain ⟨none, none'⟩ | ⟨a, b, one, one', same⟩ | ⟨a, a', as, b, b', bs, more, more'⟩ :=
    all.none_one_several
  · rw [none, none']
    exact .error _ _
  · rw [one, one']
    refine agree_then (agree_occursRange same) fun _ => ?_
    exact agree_then (agree_require rfl _ _) fun _ => .ok rfl
  · rw [more, more']
    exact .error _ _

/-- In version 2.0 only the names of the fields count, whatever their order. -/
theorem agree_fieldsShape : Agree Eq (fieldsShape .v2 e fs) (fieldsShape .v2 e' gs) := by
  have shape : fieldsShape .v2 e fs = .ok () ↔ fieldsShape .v2 e' gs = .ok () := by
    rw [fieldsShape_v2_iff, fieldsShape_v2_iff, onlyAnnotated_same h, ← List.length_pos_iff,
      ← List.length_pos_iff, fields.length_eq, (Field.names_perm fields).nodup_iff]
  cases given : fieldsShape .v2 e fs with
  | ok u => rw [shape.1 given]; exact .ok rfl
  | error fault =>
    cases given' : fieldsShape .v2 e' gs with
    | ok u => rw [shape.2 given'] at given; cases given
    | error fault' => exact .error fault fault'

omit fields in
theorem agree_distinctShape (version : IslVersion) (name : String) :
    Agree Eq (distinctShape version name e) (distinctShape version name e') := by
  unfold distinctShape
  rw [onlyAnnotated_same h]
  cases version with
  | v1 => exact .ok rfl
  | v2 => exact agree_ite rfl (.ok rfl) (.error _ _)

end
end Isl.Reader
