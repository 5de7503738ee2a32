import Isl.Proofs.Equivalence
import Isl.Range.Number
/-!
# Views of equal values

Values that are equal differ at most in the order of the fields of their structs. Whatever looks at
annotations, types and scalars alone does not see the difference; items of lists are equal one by
one, and fields of structs can be put in such an order (`Rearranged`).

* `Value.same_cases`: how equal values can differ;
* `Shallow`, `Shallow.same`: views that do not see what is in a container;
* `Rearranged`: equal items in some order.
-/
namespace Isl

/-! ## Equal items in some order -/

/-- The items on the right can be put in such an order that they match those on the left. -/
def Rearranged {α β : Type} (R : α → β → Prop) (as : List α) (bs : List β) : Prop :=
  ∃ cs, List.Forall₂ R as cs ∧ cs.Perm bs

namespace Rearranged
variable {α α' β β' : Type} {R : α → β → Prop} {R' : α' → β' → Prop}
variable {as : List α} {bs : List β}

theorem map (h : Rearranged R as bs) {f : α → α'} {g : β → β'}
    (keeps : ∀ a b, R a b → R' (f a) (g b)) : Rearranged R' (as.map f) (bs.map g) := by
  obtain ⟨cs, each, perm⟩ := h
  refine ⟨cs.map g, ?_, perm.map g⟩
  rw [List.forall₂_map_left_iff, List.forall₂_map_right_iff]
  exact each.imp keeps

theorem imp {S : α → β → Prop} (h : Rearranged R as bs) (weaken : ∀ a b, R a b → S a b) :
    Rearranged S as bs := by
  obtain ⟨cs, each, perm⟩ := h
  exact ⟨cs, each.imp weaken, perm⟩

theorem append {as' : List α} {bs' : List β} (h : Rearranged R as bs) (h' : Rearranged R as' bs') :
    Rearranged R (as ++ as') (bs ++ bs') := by
  obtain ⟨cs, each, perm⟩ := h
  obtain ⟨cs', each', perm'⟩ := h'
  exact ⟨cs ++ cs', List.rel_append each each', perm.append perm'⟩

theorem flatMap (h : Rearranged R as bs) {f : α → List α'} {g : β → List β'}
    (keeps : ∀ a b, R a b → Rearranged R' (f a) (g b)) :
    Rearranged R' (as.flatMap f) (bs.flatMap g) := by
  obtain ⟨cs, each, perm⟩ := h
  have itemwise : Rearranged R' (as.flatMap f) (cs.flatMap g) := by
    clear perm
    induction each with
    | nil => exact ⟨[], .nil, .refl _⟩
    | cons first _ ih =>
      rw [List.flatMap_cons, List.flatMap_cons]
      exact (keeps _ _ first).append ih
  obtain ⟨ds, each, perm'⟩ := itemwise
  exact ⟨ds, each, perm'.trans (perm.flatMap_right g)⟩

theorem filter (h : Rearranged R as bs) {p : α → Bool} {q : β → Bool}
    (keeps : ∀ a b, R a b → p a = q b) : Rearranged R (as.filter p) (bs.filter q) := by
  obtain ⟨cs, each, perm⟩ := h
  refine ⟨cs.filter q, ?_, perm.filter q⟩
  clear perm
  induction each with
  | nil => exact .nil
  | @cons a c as cs first _ ih =>
    rw [List.filter_cons, List.filter_cons, keeps a c first]
    split
    · exact .cons first ih
    · exact ih

/-- What the items have in common comes in another order only. -/
theorem perm_map (h : Rearranged R as bs) {γ : Type} {f : α → γ} {g : β → γ}
    (keeps : ∀ a b, R a b → f a = g b) : (as.map f).Perm (bs.map g) := by
  have same : Rearranged Eq (as.map f) (bs.map g) := h.map keeps
  obtain ⟨cs, each, perm⟩ := same
  rw [List.forall₂_eq_eq_eq] at each
  exact each ▸ perm

/-- Equal items in another order are equal as bags. -/
theorem sameItems {same : α → α → Bool} {as bs : List α} (refl : ∀ a, same a a = true)
    (classes : ∀ a, IsClass same a) (h : Rearranged (fun a b => same a b = true) as bs) :
    Bag.sameItems same as bs = true := by
  obtain ⟨cs, each, perm⟩ := h
  exact Bag.sameItems_of_perm refl (fun a _ => classes a) each perm

/-- What the relation says of both its sides holds of all the items. -/
theorem forall_mem (h : Rearranged R as bs) {p : α → Prop} {q : β → Prop}
    (holds : ∀ a b, R a b → p a ∧ q b) : (∀ a ∈ as, p a) ∧ ∀ b ∈ bs, q b := by
  obtain ⟨cs, each, perm⟩ := h
  have both : (∀ a ∈ as, p a) ∧ ∀ c ∈ cs, q c := by
    clear perm
    induction each with
    | nil => exact ⟨List.forall_mem_nil p, List.forall_mem_nil q⟩
    | cons first _ ih =>
      obtain ⟨left, right⟩ := holds _ _ first
      exact ⟨List.forall_mem_cons.2 ⟨left, ih.1⟩, List.forall_mem_cons.2 ⟨right, ih.2⟩⟩
  exact ⟨both.1, fun b mem => both.2 b (perm.mem_iff.2 mem)⟩

theorem length_eq (h : Rearranged R as bs) : as.length = bs.length := by
  obtain ⟨cs, each, perm⟩ := h
  rw [each.length_eq, perm.length_eq]

/-- There are no items on either side, one on each side, or several on both. -/
theorem none_one_several (h : Rearranged R as bs) :
    (as = [] ∧ bs = []) ∨ (∃ a b, as = [a] ∧ bs = [b] ∧ R a b) ∨
      ∃ a a' others b b' others', as = a :: a' :: others ∧ bs = b :: b' :: others' := by
  have count := h.length_eq
  obtain ⟨cs, each, perm⟩ := h
  match as, bs with
  | [], [] => exact .inl ⟨rfl, rfl⟩
  | [a], [b] =>
    cases each with
    | cons first rest =>
      cases rest
      obtain rfl := List.singleton_perm_singleton.1 perm
      exact .inr (.inl ⟨a, _, rfl, rfl, first⟩)
  | a :: a' :: others, b :: b' :: others' =>
    exact .inr (.inr ⟨a, a', others, b, b', others', rfl, rfl⟩)

end Rearranged

/-! ## How equal values differ -/

theorem Value.same_cases {v w : Value} (h : v.same w = true) :
    v = w ∨
      (∃ es es', v = .list es ∧ w = .list es' ∧
        List.Forall₂ (fun a b => a.same b = true) es es') ∨
      (∃ es es', v = .sexp es ∧ w = .sexp es') ∨
      ∃ fs gs, v = .struct fs ∧ w = .struct gs ∧ Rearranged (fun f g => f.same g = true) fs gs := by
  cases v with
  | list es =>
    cases w <;> simp only [Value.same, Element.sameAll_eq, isEqv_iff, Bool.false_eq_true] at h
    exact .inr (.inl ⟨_, _, rfl, rfl, h⟩)
  | sexp es =>
    cases w <;> simp only [Value.same, Bool.false_eq_true] at h
    exact .inr (.inr (.inl ⟨_, _, rfl, rfl⟩))
  | struct fs =>
    cases w with
    | struct gs =>
      rw [Value.same_struct] at h
      exact .inr (.inr (.inr ⟨fs, gs, rfl, rfl, Bag.exists_perm h⟩))
    | _ => simp only [Value.same, Bool.false_eq_true] at h
  | _ =>
    cases w <;> simp only [Value.same, Bool.false_eq_true, beq_iff_eq] at h
    rw [h]
    exact .inl rfl

theorem Element.same_iff {e e' : Element} :
    e.same e' = true ↔ e.annotations = e'.annotations ∧ e.value.same e'.value = true := by
  cases e
  simp [Element.same]

theorem Field.same_iff {f f' : Field} :
    f.same f' = true ↔ f.name = f'.name ∧ f.value.same f'.value = true := by
  cases f
  simp [Field.same]

/-! ## Views -/

/-- A view of an element that does not see what is in a container. -/
structure Shallow {β : Type} (view : Element → β) : Prop where
  list : ∀ names es es', view ⟨names, .list es⟩ = view ⟨names, .list es'⟩
  sexp : ∀ names es es', view ⟨names, .sexp es⟩ = view ⟨names, .sexp es'⟩
  struct : ∀ names fs fs', view ⟨names, .struct fs⟩ = view ⟨names, .struct fs'⟩

/-- Equal elements look alike. -/
theorem Shallow.same {β : Type} {view : Element → β} (shallow : Shallow view) {e e' : Element}
    (h : e.same e' = true) : view e = view e' := by
  obtain ⟨names, v⟩ := e
  obtain ⟨names', v'⟩ := e'
  obtain ⟨rfl, value⟩ : names = names' ∧ v.same v' = true := Element.same_iff.1 h
  obtain rfl | ⟨es, es', rfl, rfl, _⟩ | ⟨es, es', rfl, rfl⟩ | ⟨fs, gs, rfl, rfl, _⟩ :=
    Value.same_cases value
  · rfl
  · exact shallow.list names es es'
  · exact shallow.sexp names es es'
  · exact shallow.struct names fs gs

namespace Element
variable {e e' : Element}

theorem annotations_same (h : e.same e' = true) : e.annotations = e'.annotations :=
  (same_iff.1 h).1

theorem isAnnotated_same (h : e.same e' = true) (name : String) :
    e.isAnnotated name = e'.isAnnotated name := by
  rw [isAnnotated, isAnnotated, annotations_same h]

theorem type_same (h : e.same e' = true) : e.type = e'.type :=
  Shallow.same ⟨fun _ _ _ => rfl, fun _ _ _ => rfl, fun _ _ _ => rfl⟩ h

theorem isNull_same (h : e.same e' = true) : e.isNull = e'.isNull :=
  Shallow.same ⟨fun _ _ _ => rfl, fun _ _ _ => rfl, fun _ _ _ => rfl⟩ h

theorem symbol?_same (h : e.same e' = true) : e.symbol? = e'.symbol? :=
  Shallow.same ⟨fun _ _ _ => rfl, fun _ _ _ => rfl, fun _ _ _ => rfl⟩ h

theorem string?_same (h : e.same e' = true) : e.string? = e'.string? :=
  Shallow.same ⟨fun _ _ _ => rfl, fun _ _ _ => rfl, fun _ _ _ => rfl⟩ h

theorem text?_same (h : e.same e' = true) : e.text? = e'.text? :=
  Shallow.same ⟨fun _ _ _ => rfl, fun _ _ _ => rfl, fun _ _ _ => rfl⟩ h

theorem int?_same (h : e.same e' = true) : e.int? = e'.int? :=
  Shallow.same ⟨fun _ _ _ => rfl, fun _ _ _ => rfl, fun _ _ _ => rfl⟩ h

theorem int64?_same (h : e.same e' = true) : e.int64? = e'.int64? := by
  rw [int64?, int64?, int?_same h]

theorem decimal?_same (h : e.same e' = true) : e.decimal? = e'.decimal? :=
  Shallow.same ⟨fun _ _ _ => rfl, fun _ _ _ => rfl, fun _ _ _ => rfl⟩ h

theorem timestamp?_same (h : e.same e' = true) : e.timestamp? = e'.timestamp? :=
  Shallow.same ⟨fun _ _ _ => rfl, fun _ _ _ => rfl, fun _ _ _ => rfl⟩ h

/-- Equal lists have equal items. -/
theorem list?_same (h : e.same e' = true) :
    Option.Rel (List.Forall₂ fun a b => a.same b = true) e.list? e'.list? := by
  obtain ⟨names, v⟩ := e
  obtain ⟨names', v'⟩ := e'
  obtain rfl | ⟨es, es', rfl, rfl, each⟩ | ⟨es, es', rfl, rfl⟩ | ⟨fs, gs, rfl, rfl, _⟩ :=
    Value.same_cases (same_iff.1 h).2
  · cases v with
    | list es => exact .some (List.forall₂_same.2 fun a _ => a.same_self)
    | _ => exact .none
  · exact .some each
  · exact .none
  · exact .none

/-- Equal structs have equal fields, in some order. -/
theorem struct?_same (h : e.same e' = true) :
    Option.Rel (Rearranged fun f g => f.same g = true) e.struct? e'.struct? := by
  obtain ⟨names, v⟩ := e
  obtain ⟨names', v'⟩ := e'
  obtain rfl | ⟨es, es', rfl, rfl, _⟩ | ⟨es, es', rfl, rfl⟩ | ⟨fs, gs, rfl, rfl, fields⟩ :=
    Value.same_cases (same_iff.1 h).2
  · cases v with
    | struct fs => exact .some ⟨fs, List.forall₂_same.2 fun f _ => f.same_self, .refl fs⟩
    | _ => exact .none
  · exact .none
  · exact .none
  · exact .some fields

end Element

/-! ## What equal elements have in common -/

theorem Element.struct?_eq_some_iff {e : Element} {fs : List Field} :
    e.struct? = some fs ↔ e.value = .struct fs := by
  obtain ⟨names, v⟩ := e
  cases v <;> simp [struct?]

theorem Element.struct?_eq_none_iff {e : Element} :
    e.struct? = none ↔ ∀ fs, e.value ≠ .struct fs := by
  obtain ⟨names, v⟩ := e
  cases v <;> simp [struct?]

/-- It holds of an element if it holds of what is directly in it. -/
def Element.Builds (P : Element → Prop) : Prop :=
  ∀ e : Element, (∀ es, e.list? = some es → ∀ i ∈ es, P i) →
    (∀ fs, e.struct? = some fs → ∀ f ∈ fs, P f.value) → P e

section
variable {P : Element → Prop}

mutual

theorem Element.induct (step : Element.Builds P) (e : Element) : P e := by
  cases e with
  | mk names v =>
    cases v with
    | list es =>
      refine step _ (fun items own => ?_) fun fields own => ?_
      · cases own
        exact Element.induct_items step es
      · cases own
    | struct fs =>
      refine step _ (fun items own => ?_) fun fields own => ?_
      · cases own
      · cases own
        exact Element.induct_fields step fs
    | _ => exact step _ (fun items own => by cases own) fun fields own => by cases own

theorem Element.induct_items (step : Element.Builds P) (es : List Element) : ∀ e ∈ es, P e := by
  cases es with
  | nil => exact List.forall_mem_nil _
  | cons e es =>
    exact List.forall_mem_cons.2 ⟨Element.induct step e, Element.induct_items step es⟩

theorem Element.induct_fields (step : Element.Builds P) (fs : List Field) :
    ∀ f ∈ fs, P f.value := by
  cases fs with
  | nil => exact List.forall_mem_nil _
  | cons f fs =>
    cases f with
    | mk name e =>
      exact List.forall_mem_cons.2 ⟨Element.induct step e, Element.induct_fields step fs⟩

end

end

/-- What equal elements have in common once the items and fields in them have it, all equal elements
have in common. -/
theorem Element.same_induction {P : Element → Element → Prop}
    (step : ∀ e e' : Element, e.same e' = true →
      Option.Rel (List.Forall₂ fun a b => a.same b = true ∧ P a b) e.list? e'.list? →
      Option.Rel (Rearranged fun f g => f.same g = true ∧ P f.value g.value)
        e.struct? e'.struct? → P e e') {e e' : Element} (h : e.same e' = true) : P e e' := by
  refine Element.induct (P := fun e => ∀ e', e.same e' = true → P e e') ?_ e e' h
  intro e items fields e' h
  refine step e e' h ?_ ?_
  · match own : e.list?, e'.list?, Element.list?_same h with
    | none, none, .none => exact .none
    | some es, some es', .some each =>
      have both := (List.forall₂_and_left _ _).2 ⟨items es own, each⟩
      exact .some (both.imp fun a b ⟨all, same⟩ => ⟨same, all b same⟩)
  · match own : e.struct?, e'.struct?, Element.struct?_same h with
    | none, none, .none => exact .none
    | some fs, some gs, .some each =>
      obtain ⟨hs, each, perm⟩ := each
      have both := (List.forall₂_and_left _ _).2 ⟨fields fs own, each⟩
      exact .some ⟨hs, both.imp fun f g ⟨all, same⟩ =>
        ⟨same, all g.value (Field.same_iff.1 same).2⟩, perm⟩

/-! ## Fields -/

namespace Field
variable {fs gs : List Field}

theorem names_perm (h : Rearranged (fun f g => f.same g = true) fs gs) :
    (fs.map (·.name)).Perm (gs.map (·.name)) :=
  h.perm_map fun _ _ same => (same_iff.1 same).1

theorem has_same (h : Rearranged (fun f g => f.same g = true) fs gs) (name : String) :
    has fs name = has gs name := by
  have any (hs : List Field) : has hs name = (hs.map (·.name)).any (· == name) := by
    rw [has, List.any_map]
    rfl
  rw [any, any, (names_perm h).any_eq]

theorem all_same (h : Rearranged (fun f g => f.same g = true) fs gs) (p : String → Bool) :
    (fs.all fun f => p f.name) = gs.all fun f => p f.name := by
  have all (hs : List Field) : (hs.all fun f => p f.name) = (hs.map (·.name)).all p := by
    rw [List.all_map]
    rfl
  rw [all, all, (names_perm h).all_eq]

theorem getAll_same (h : Rearranged (fun f g => f.same g = true) fs gs) (name : String) :
    Rearranged (fun a b => a.same b = true) (getAll fs name) (getAll gs name) := by
  refine (h.filter fun f g same => ?_).map fun f g same => (same_iff.1 same).2
  rw [(same_iff.1 same).1]

end Field
end Isl

/-!
## Equality by the data model

Two elements are equal when they hold the same data: annotations in order, scalars as they are,
lists and expressions item by item, structs field by field in some order. Fields are paired one
after the other, each with the first one left that equals it, and never the wrong way: equality
sorts elements into classes, so equal fields are as good as each other.

* `Value.Matches`: what it takes for two values to hold the same data;
* `Element.Replaces`: an element and what it becomes when one part of it is replaced;
* `Element.same_dataModel`: equality is an equivalence, is told by the data, and is kept when parts
  are replaced by equal ones.
-/

namespace Isl

/-- Items in the same places are related, if one of them is replaced by a related one. -/
theorem forall₂_replaced {α : Type} {R : α → α → Prop} (refl : ∀ a, R a a) {a b : α} (h : R a b)
    (before after : List α) :
    List.Forall₂ R (before ++ a :: after) (before ++ b :: after) := by
  have unchanged : ∀ as : List α, List.Forall₂ R as as := fun as =>
    List.forall₂_same.2 fun x _ => refl x
  exact List.rel_append (unchanged before) (.cons h (unchanged after))

/-! ### Values that hold the same data -/

/-- Fields of one name with equal values. -/
def Field.Matches (f g : Field) : Prop := f.name = g.name ∧ f.value.same g.value = true

/-- Containers match by what is in them, and all else is the same. -/
def Value.Matches : Value → Value → Prop
  | .list es, .list es' => List.Forall₂ (fun e e' => e.same e' = true) es es'
  | .sexp es, .sexp es' => List.Forall₂ (fun e e' => e.same e' = true) es es'
  | .struct fs, .struct gs => Rearranged Field.Matches fs gs
  | v, w => v = w

theorem Value.same_list_iff {es es' : List Element} :
    (Value.list es).same (.list es') = true ↔
      List.Forall₂ (fun e e' => e.same e' = true) es es' := by
  rw [Value.same, Element.sameAll_eq, isEqv_iff]

theorem Value.same_sexp_iff {es es' : List Element} :
    (Value.sexp es).same (.sexp es') = true ↔
      List.Forall₂ (fun e e' => e.same e' = true) es es' := by
  rw [Value.same, Element.sameAll_eq, isEqv_iff]

/-- Structs are equal exactly when the fields of one can be put in an order in which they match
those of the other. -/
theorem Value.same_struct_iff {fs gs : List Field} :
    (Value.struct fs).same (.struct gs) = true ↔ Rearranged Field.Matches fs gs := by
  rw [Value.same_struct]
  constructor
  · intro h
    exact Rearranged.imp (Bag.exists_perm h) fun _ _ => Field.same_iff.1
  · intro h
    exact (h.imp fun _ _ => Field.same_iff.2).sameItems Field.same_self Field.isClass

theorem Value.same_iff_matches (v w : Value) : v.same w = true ↔ v.Matches w := by
  cases v with
  | list es =>
    cases w with
    | list es' => exact Value.same_list_iff
    | _ => simp [Value.Matches, Value.same]
  | sexp es =>
    cases w with
    | sexp es' => exact Value.same_sexp_iff
    | _ => simp [Value.Matches, Value.same]
  | struct fs =>
    cases w with
    | struct gs => exact Value.same_struct_iff
    | _ => simp [Value.Matches, Value.same]
  | _ => cases w <;> simp [Value.Matches, Value.same]

/-! ### Replacing a part -/

/-- An element, and what it becomes when a part of it that is `a` is replaced by `b`. -/
inductive Element.Replaces (a b : Element) : Element → Element → Prop where
  | whole : Replaces a b a b
  | inList {e e' : Element} (names : List String) (before after : List Element)
      (part : Replaces a b e e') :
      Replaces a b ⟨names, .list (before ++ e :: after)⟩ ⟨names, .list (before ++ e' :: after)⟩
  | inSexp {e e' : Element} (names : List String) (before after : List Element)
      (part : Replaces a b e e') :
      Replaces a b ⟨names, .sexp (before ++ e :: after)⟩ ⟨names, .sexp (before ++ e' :: after)⟩
  | inStruct {e e' : Element} (names : List String) (before after : List Field) (name : String)
      (part : Replaces a b e e') :
      Replaces a b ⟨names, .struct (before ++ ⟨name, e⟩ :: after)⟩
        ⟨names, .struct (before ++ ⟨name, e'⟩ :: after)⟩

theorem Element.Replaces.same {a b e e' : Element} (equal : a.same b = true)
    (replaces : Replaces a b e e') : e.same e' = true := by
  induction replaces with
  | whole => exact equal
  | inList names before after part ih =>
    refine Element.same_iff.2 ⟨rfl, Value.same_list_iff.2 ?_⟩
    exact forall₂_replaced (R := fun e e' : Element => e.same e' = true) Element.same_self ih before
      after
  | inSexp names before after part ih =>
    refine Element.same_iff.2 ⟨rfl, Value.same_sexp_iff.2 ?_⟩
    exact forall₂_replaced (R := fun e e' : Element => e.same e' = true) Element.same_self ih before
      after
  | inStruct names before after name part ih =>
    refine Element.same_iff.2 ⟨rfl, Value.same_struct_iff.2 ⟨_, ?_, .refl _⟩⟩
    exact forall₂_replaced (fun f => ⟨rfl, f.value.same_self⟩) ⟨rfl, ih⟩ before after

/-- **Equality of elements is equality of data.** It is an equivalence; it holds exactly between
elements with the same annotations and matching values; structs are equal exactly when some
permutation of the fields of one matches the other field by field; and an element stays equal when
a part of it is replaced by an equal one. -/
theorem Element.same_dataModel :
    (Equivalence fun e e' : Element => e.same e' = true) ∧
    (∀ e e' : Element, e.same e' = true ↔
      e.annotations = e'.annotations ∧ e.value.Matches e'.value) ∧
    (∀ fs gs : List Field, (Value.struct fs).same (.struct gs) = true ↔
      ∃ hs, hs.Perm gs ∧
        List.Forall₂ (fun f h => f.name = h.name ∧ f.value.same h.value = true) fs hs) ∧
    ∀ a b e e' : Element, a.same b = true → Element.Replaces a b e e' → e.same e' = true := by
  refine ⟨equivalence_of_classes Element.same_self Element.isClass, ?_, ?_, ?_⟩
  · intro e e'
    rw [Element.same_iff, Value.same_iff_matches]
  · intro fs gs
    rw [Value.same_struct_iff]
    exact ⟨fun ⟨hs, each, perm⟩ => ⟨hs, perm, each⟩, fun ⟨hs, perm, each⟩ => ⟨hs, each, perm⟩⟩
  · exact fun a b e e' equal replaces => replaces.same equal

/-- Fields of one name stand in another order: not a number, `1.0` and `1.00`. -/
theorem Element.same_dataModel_repeated :
    let nan : Field := ⟨"x", .ofValue (.float .nan)⟩
    let one : Field := ⟨"x", .ofValue (.decimal ⟨10, 1⟩)⟩
    let finer : Field := ⟨"x", .ofValue (.decimal ⟨100, 2⟩)⟩
    let part := Element.struct [nan, one, finer]
    let turned := Element.struct [finer, nan, one]
    part.same turned = true ∧
      Element.Replaces part turned (.list [.int 1, part]) (.list [.int 1, turned]) ∧
      (Element.list [.int 1, part]).same (.list [.int 1, turned]) = true := by
  intro nan one finer part turned
  have equal : part.same turned = true := by
    simp [part, turned, nan, one, finer, Element.struct, Element.ofValue, Element.same, Value.same,
      Field.takesAll, removeFirst?, Field.same]
  have replaces : Element.Replaces part turned (.list [.int 1, part]) (.list [.int 1, turned]) :=
    .inList [] [.int 1] [] .whole
  exact ⟨equal, replaces, Element.same_dataModel.2.2.2 _ _ _ _ equal replaces⟩

end Isl
