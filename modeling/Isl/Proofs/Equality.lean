import Mathlib.Data.List.Forall2
import Isl.Model.Document
/-!
# Equality holds of what is the same

Values, listed values and what a document keeps beside its types are compared by Boolean functions,
some of them as bags. Each is reflexive, and lists that agree item by item agree as bags
(`Bag.takesAll_of_sameAll`).
-/
namespace Isl

/-- What a bag gives up stood in it. -/
theorem exists_of_removeFirst? {α : Type u} {test : α → Bool} {as bs : List α}
    (h : removeFirst? test as = some bs) :
    ∃ l a r, as = l ++ a :: r ∧ bs = l ++ r ∧ test a = true := by
  induction as generalizing bs with
  | nil => cases h
  | cons a as ih =>
    unfold removeFirst? at h
    split at h
    · rename_i first
      injection h with h
      exact ⟨[], a, as, rfl, h.symm, first⟩
    · obtain ⟨rest, found, rfl⟩ := Option.map_eq_some_iff.1 h
      obtain ⟨l, b, r, rfl, rfl, accepted⟩ := ih found
      exact ⟨a :: l, b, r, rfl, rfl, accepted⟩

namespace Bag
variable {α : Type u} {β : Type v} {same : α → β → Bool}

theorem takesAll_cons {a : α} {b : β} {as : List α} {bs : List β} (first : same a b = true)
    (rest : takesAll same as bs = true) : takesAll same (a :: as) (b :: bs) = true := by
  simp [takesAll, removeFirst?, first, rest]

theorem takesAll_self {same : α → α → Bool} {as : List α} (h : ∀ a ∈ as, same a a = true) :
    takesAll same as as = true := by
  induction as with
  | nil => rfl
  | cons a as ih =>
    exact takesAll_cons (h a (List.mem_cons_self ..))
      (ih fun b hb => h b (List.mem_cons_of_mem _ hb))

theorem sameItems_self {same : α → α → Bool} {as : List α} (h : ∀ a ∈ as, same a a = true) :
    sameItems same as as = true := by
  simp [sameItems, takesAll_self h]

end Bag

/-! ## Values -/

mutual

theorem Value.same_self (v : Value) : v.same v = true := by
  cases v with
  | list es => rw [Value.same]; exact Element.sameAll_self es
  | sexp es => rw [Value.same]; exact Element.sameAll_self es
  | struct fs => rw [Value.same]; simp [Field.takesAll_self fs]
  | _ => simp [Value.same]

theorem Element.same_self (e : Element) : e.same e = true := by
  cases e with
  | mk names v => simp [Element.same, Value.same_self v]

theorem Element.sameAll_self (es : List Element) : Element.sameAll es es = true := by
  cases es with
  | nil => rw [Element.sameAll]
  | cons e es => simp [Element.sameAll, Element.same_self e, Element.sameAll_self es]

theorem Field.same_self (f : Field) : f.same f = true := by
  cases f with
  | mk name e => simp [Field.same, Element.same_self e]

theorem Field.takesAll_self (fs : List Field) : Field.takesAll fs fs = true := by
  cases fs with
  | nil => rw [Field.takesAll]
  | cons f fs =>
    simp [Field.takesAll, removeFirst?, Field.same_self f, Field.takesAll_self fs]

end

theorem Field.sameItems_self (fs : List Field) : Bag.sameItems Field.same fs fs = true :=
  Bag.sameItems_self fun f _ => f.same_self

/-! ## Listed values -/

theorem Limit.same_self {α : Type u} [Comparable α]
    (h : ∀ a : α, Comparable.compare? a a = some .eq) (l : Limit α) : l.same l = true := by
  cases l <;> simp [Limit.same, h]

theorem Range.same_self {α : Type u} [Comparable α]
    (h : ∀ a : α, Comparable.compare? a a = some .eq) (r : Range α) : r.same r = true := by
  simp [Range.same, Limit.same_self h]

theorem Decimal.compare_self (d : Decimal) : d.compare d = .eq := by
  have positive (n : Nat) : Decimal.comparePositive n d.scale n d.scale = .eq := by
    simp [Decimal.comparePositive]
  simp [Decimal.compare, positive]

theorem ValidValue.same_self (v : ValidValue) : v.same v = true := by
  cases v with
  | value e => exact e.same_self
  | numbers r =>
    exact Range.same_self (fun d => congrArg some (Decimal.compare_self d)) r
  | instants r =>
    exact Range.same_self (fun t => congrArg some (Decimal.compare_self t.epochMillis)) r

theorem Pattern.beq_self (p : Pattern) : (p == p) = true := by
  change (p.source == p.source && p.ignoreCase == p.ignoreCase && p.multiline == p.multiline) = true
  simp

/-! ## Headers and footers -/

theorem SchemaHeader.same_self (h : SchemaHeader) : h.same h = true := by
  simp [SchemaHeader.same, Field.sameItems_self]

theorem SchemaFooter.same_self (f : SchemaFooter) : f.same f = true := Field.sameItems_self _

end Isl

/-!
## Bags up to equality

An equality of items sorts them into classes, if it is an equality: a class is told by the items
that it holds. Then it does not matter which of several equal items a bag gives up, and two bags are
equal exactly when they hold as many items of each class (`Bag.sameItems_iff`).

* `IsClass`: whatever equals an item equals the same items as that item;
* `Bag.isClass_sameItems`: bags of such items are such items themselves;
* `Bag.exists_perm`: equal bags can be put in an order in which they agree item by item.
-/

namespace Isl

universe u v

/-- Whatever is the same as this item is the same as whatever this item is the same as. -/
def IsClass {α : Type u} (same : α → α → Bool) (a : α) : Prop :=
  ∀ b, same a b = true → same a = same b

section
variable {α : Type u} {same : α → α → Bool} {a b : α}

theorem IsClass.of_same (h : IsClass same a) (given : same a b = true) : IsClass same b := by
  intro c later
  rw [← h b given] at later ⊢
  exact h c later

theorem IsClass.same_iff (h : IsClass same a) (refl : ∀ a, same a a = true) :
    same a b = true ↔ same a = same b := by
  refine ⟨h b, fun rows => ?_⟩
  rw [rows]
  exact refl b

/-- An equality that sorts everything into classes is an equivalence. -/
theorem equivalence_of_classes (refl : ∀ a, same a a = true) (classes : ∀ a, IsClass same a) :
    Equivalence fun a b => same a b = true where
  refl := refl
  symm {a b} h := by
    have rows : same a = same b := classes a b h
    rw [← rows]
    exact refl a
  trans {a b c} h h' := by
    have rows : same a = same b := classes a b h
    rw [rows]
    exact h'

end

/-! ### Lists -/

section
variable {α : Type u} {same : α → α → Bool} {as bs : List α}

/-- To compare item by item is to compare so. -/
theorem eq_isEqv {all : List α → List α → Bool} (empty : all [] [] = true)
    (uneven : ∀ a as, all [] (a :: as) = false ∧ all (a :: as) [] = false)
    (pair : ∀ a b as bs, all (a :: as) (b :: bs) = (same a b && all as bs)) (as bs : List α) :
    all as bs = as.isEqv bs same := by
  induction as generalizing bs with
  | nil =>
    cases bs with
    | nil => exact empty
    | cons b bs => exact (uneven b bs).1
  | cons a as ih =>
    cases bs with
    | nil => exact (uneven a as).2
    | cons b bs => rw [pair, ih, List.isEqv]

theorem isEqv_iff (as bs : List α) :
    as.isEqv bs same = true ↔ List.Forall₂ (fun a b => same a b = true) as bs := by
  induction as generalizing bs with
  | nil => cases bs <;> simp [List.isEqv]
  | cons a as ih => cases bs <;> simp [List.isEqv, ih]

theorem isEqv_self (h : ∀ a ∈ as, same a a = true) : as.isEqv as same = true := by
  rw [isEqv_iff, List.forall₂_same]
  exact h

/-- Lists of classes that are compared item by item are sorted into classes in turn. -/
theorem isClass_of_isEqv {all : List α → List α → Bool}
    (itemwise : ∀ as bs, all as bs = as.isEqv bs same) (classes : ∀ a ∈ as, IsClass same a) :
    IsClass all as := by
  intro bs h
  funext cs
  rw [itemwise] at h ⊢
  rw [itemwise]
  induction as generalizing bs cs with
  | nil =>
    cases bs with
    | nil => rfl
    | cons => cases h
  | cons a as ih =>
    obtain ⟨own, others⟩ := List.forall_mem_cons.1 classes
    cases bs with
    | nil => cases h
    | cons b bs =>
      obtain ⟨first, rest⟩ := Bool.and_eq_true_iff.1 h
      cases cs with
      | nil => rfl
      | cons c cs =>
        change (same a c && as.isEqv cs same) = (same b c && bs.isEqv cs same)
        rw [own b first, ih others bs rest cs]

theorem map_eq_of_forall₂ (classes : ∀ a ∈ as, IsClass same a)
    (h : List.Forall₂ (fun a b => same a b = true) as bs) : as.map same = bs.map same := by
  induction h with
  | nil => rfl
  | cons first _ ih =>
    rw [List.map_cons, List.map_cons, classes _ List.mem_cons_self _ first,
      ih fun a mem => classes a (List.mem_cons_of_mem _ mem)]

end

namespace Bag
variable {α : Type u} {β : Type v}

theorem sameItems_nil {same : α → β → Bool} (bs : List β) :
    sameItems same [] bs = bs.isEmpty := by
  cases bs <;> simp [sameItems, takesAll]

theorem sameItems_cons {same : α → β → Bool} (a : α) (as : List α) (bs : List β) :
    sameItems same (a :: as) bs =
      ((removeFirst? (same a) bs).map (sameItems same as)).getD false := by
  cases found : removeFirst? (same a) bs with
  | none => simp [sameItems, takesAll, found]
  | some rest =>
    obtain ⟨l, b, r, rfl, rfl, _⟩ := exists_of_removeFirst? found
    have lengths : (as.length + 1 == l.length + (r.length + 1)) =
        (as.length == l.length + r.length) := by
      rw [Bool.eq_iff_iff, beq_iff_eq, beq_iff_eq]
      omega
    simp [sameItems, takesAll, found, lengths]

/-- A bag that holds an item gives one up. -/
theorem removeFirst?_of_mem {test : α → Bool} {as : List α} {a : α} (mem : a ∈ as)
    (h : test a = true) : ∃ rest, removeFirst? test as = some rest := by
  induction as with
  | nil => cases mem
  | cons b as ih =>
    unfold removeFirst?
    split
    · exact ⟨as, rfl⟩
    · rename_i other
      obtain rfl | mem := List.mem_cons.1 mem
      · exact absurd h other
      · obtain ⟨rest, found⟩ := ih mem
        exact ⟨b :: rest, by rw [found]; rfl⟩

/-- Equal bags can be put in an order in which they agree item by item. -/
theorem exists_perm {same : α → β → Bool} {as : List α} {bs : List β}
    (h : sameItems same as bs = true) :
    ∃ cs, List.Forall₂ (fun a c => same a c = true) as cs ∧ cs.Perm bs := by
  induction as generalizing bs with
  | nil =>
    rw [sameItems_nil, List.isEmpty_iff] at h
    exact ⟨[], .nil, h ▸ .refl _⟩
  | cons a as ih =>
    rw [sameItems_cons] at h
    cases found : removeFirst? (same a) bs with
    | none => rw [found] at h; cases h
    | some rest =>
      rw [found] at h
      obtain ⟨cs, each, perm⟩ := ih h
      obtain ⟨l, b, r, rfl, rfl, first⟩ := exists_of_removeFirst? found
      exact ⟨b :: cs, .cons first each, (perm.cons b).trans List.perm_middle.symm⟩

section
variable {same : α → α → Bool} {as bs : List α}

/-- Bags are equal exactly when they hold as many items of each class. -/
theorem sameItems_iff (refl : ∀ a, same a a = true) (classes : ∀ a ∈ as, IsClass same a) :
    sameItems same as bs = true ↔ (as.map same).Perm (bs.map same) := by
  constructor
  · intro h
    obtain ⟨cs, each, perm⟩ := exists_perm h
    rw [map_eq_of_forall₂ classes each]
    exact perm.map same
  · intro h
    induction as generalizing bs with
    | nil =>
      rw [List.map_nil, List.nil_perm, List.map_eq_nil_iff] at h
      rw [h, sameItems_nil]
      rfl
    | cons a as ih =>
      obtain ⟨own, others⟩ := List.forall_mem_cons.1 classes
      have held : same a ∈ bs.map same := h.subset (List.mem_map_of_mem List.mem_cons_self)
      obtain ⟨b, mem, row⟩ := List.mem_map.1 held
      obtain ⟨rest, found⟩ := removeFirst?_of_mem mem ((own.same_iff refl).2 row.symm)
      obtain ⟨l, c, r, rfl, rfl, taken⟩ := exists_of_removeFirst? found
      rw [sameItems_cons, found]
      refine ih others ?_
      have split : (List.map same (l ++ c :: r)).Perm (same a :: (l ++ r).map same) := by
        rw [own c taken, ← List.map_cons]
        exact List.perm_middle.map same
      exact List.Perm.cons_inv (h.trans split)

/-- Bags of classes are sorted into classes in turn. -/
theorem isClass_sameItems (refl : ∀ a, same a a = true) (classes : ∀ a ∈ as, IsClass same a) :
    IsClass (sameItems same) as := by
  intro bs h
  have perm := (sameItems_iff refl classes).1 h
  have classes' : ∀ b ∈ bs, IsClass same b := by
    intro b mem
    obtain ⟨a, mem', row⟩ := List.mem_map.1 (perm.symm.subset (List.mem_map_of_mem mem))
    exact (classes a mem').of_same ((classes a mem' |>.same_iff refl).2 row)
  funext cs
  rw [Bool.eq_iff_iff, sameItems_iff refl classes, sameItems_iff refl classes']
  exact ⟨perm.symm.trans, perm.trans⟩

/-- Bags are equal whose items agree in some order. -/
theorem sameItems_of_perm (refl : ∀ a, same a a = true) (classes : ∀ a ∈ as, IsClass same a)
    {cs : List α} (each : List.Forall₂ (fun a c => same a c = true) as cs) (perm : cs.Perm bs) :
    sameItems same as bs = true := by
  rw [sameItems_iff refl classes, map_eq_of_forall₂ classes each]
  exact perm.map same

end
end Bag
end Isl
