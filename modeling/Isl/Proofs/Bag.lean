import Isl.Proofs.Equivalence
/-!
# Bags are multisets

Under an equality that is an equivalence, it does not matter which of several equal items a bag
gives up: two bags are equal exactly when they hold as many items equal to each, in whatever order
they came. What was given up may be removed or only marked (`takesAll_eq_marksAll`).

* `perm_classes_iff`: bags that hold as many items of each class;
* `beq_iff_multiset`: equal bags, told by counts and by rearrangement.
-/
namespace Isl.Bag

universe u v

/-! ## Marks -/

section
variable {α : Type u} {β : Type v}

/-- The table with a mark at the first item without one that the test accepts. -/
def markFirst? (test : β → Bool) : List (β × Bool) → Option (List (β × Bool))
  | [] => none
  | (b, used) :: table =>
    if !used && test b then some ((b, true) :: table)
    else (markFirst? test table).map ((b, used) :: ·)

/-- Every item on the left marks an equal one on the right. -/
def marksAll (same : α → β → Bool) : List α → List (β × Bool) → Bool
  | [], _ => true
  | a :: as, table =>
    match markFirst? (same a) table with
    | some table => marksAll same as table
    | none => false

/-- The items without a mark. -/
def unused (table : List (β × Bool)) : List β := (table.filter (!·.2)).map Prod.fst

theorem removeFirst?_unused (test : β → Bool) (table : List (β × Bool)) :
    removeFirst? test (unused table) = (markFirst? test table).map unused := by
  induction table with
  | nil => rfl
  | cons entry table ih =>
    obtain ⟨b, used⟩ := entry
    cases used with
    | true =>
      rw [markFirst?, unused, List.filter_cons_of_neg (by simp), ← unused, ih]
      cases markFirst? test table <;> simp [unused]
    | false =>
      rw [markFirst?, unused, List.filter_cons_of_pos (by simp), List.map_cons, ← unused,
        removeFirst?, ih]
      cases test b
      · cases markFirst? test table <;> simp [unused]
      · simp [unused]

theorem takesAll_unused (same : α → β → Bool) (as : List α) (table : List (β × Bool)) :
    takesAll same as (unused table) = marksAll same as table := by
  induction as generalizing table with
  | nil => rfl
  | cons a as ih =>
    rw [takesAll, marksAll, removeFirst?_unused]
    cases markFirst? (same a) table with
    | none => rfl
    | some table => exact ih table

theorem takesAll_eq_marksAll (same : α → β → Bool) (as : List α) (bs : List β) :
    takesAll same as bs = marksAll same as (bs.map (·, false)) := by
  rw [← takesAll_unused]
  congr 1
  simp [unused, List.filter_map, Function.comp_def]

end

/-! ## Counts -/

section
variable {α : Type u} [BEq α]

theorem isClass_beq [PartialEquivBEq α] (a : α) : IsClass (· == ·) a := by
  intro b h
  funext c
  exact BEq.congr_left h

theorem equivBEq_of_classes (refl : ∀ a : α, (a == a) = true)
    (classes : ∀ a : α, IsClass (· == ·) a) : EquivBEq α :=
  have equivalence := equivalence_of_classes refl classes
  { rfl := refl _, symm := equivalence.symm, trans := equivalence.trans }

theorem countOf_perm {x y : Bag α} (perm : x.items.Perm y.items) (a : α) :
    x.countOf a = y.countOf a :=
  perm.countP_eq _

variable [EquivBEq α]

theorem perm_classes_iff (as bs : List α) :
    (as.map (· == ·)).Perm (bs.map (· == ·)) ↔
      ∀ a, as.countP (· == a) = bs.countP (· == a) := by
  classical
  have count (a : α) (cs : List α) : (cs.map (· == ·)).count (a == ·) = cs.countP (· == a) := by
    rw [List.count, List.countP_map]
    refine List.countP_congr fun c _ => ?_
    rw [Function.comp_apply, beq_iff_eq, ← (isClass_beq c).same_iff fun _ => BEq.rfl]
  rw [List.perm_iff_count]
  constructor
  · intro counts a
    rw [← count, ← count, counts]
  · intro counts row
    by_cases held : row ∈ as.map (· == ·) ∨ row ∈ bs.map (· == ·)
    · obtain ⟨a, rfl⟩ : ∃ a, (a == ·) = row := by
        obtain mem | mem := held
        · obtain ⟨a, -, same⟩ := List.mem_map.1 mem
          exact ⟨a, same⟩
        · obtain ⟨a, -, same⟩ := List.mem_map.1 mem
          exact ⟨a, same⟩
      rw [count, count, counts]
    · rw [List.count_eq_zero_of_not_mem fun mem => held (.inl mem),
        List.count_eq_zero_of_not_mem fun mem => held (.inr mem)]

theorem beq_iff_countOf (x y : Bag α) : (x == y) = true ↔ ∀ a, x.countOf a = y.countOf a :=
  (sameItems_iff (fun _ => BEq.rfl) fun a _ => isClass_beq a).trans (perm_classes_iff _ _)

theorem beq_iff_rearranged (x y : Bag α) :
    (x == y) = true ↔
      ∃ items, List.Forall₂ (fun a b => (a == b) = true) x.items items ∧ items.Perm y.items :=
  ⟨exists_perm, fun ⟨_, each, perm⟩ =>
    sameItems_of_perm (fun _ => BEq.rfl) (fun a _ => isClass_beq a) each perm⟩

theorem equivalence_beq : Equivalence fun x y : Bag α => (x == y) = true where
  refl x := (beq_iff_countOf x x).2 fun _ => rfl
  symm h := (beq_iff_countOf _ _).2 fun a => ((beq_iff_countOf _ _).1 h a).symm
  trans h h' := (beq_iff_countOf _ _).2 fun a =>
    ((beq_iff_countOf _ _).1 h a).trans ((beq_iff_countOf _ _).1 h' a)

/-- **Equal bags are equal multisets.** Two bags are equal exactly if they hold as many items equal
to each; exactly if the items of one can be put in an order in which they equal those of the other
one by one. So equality of bags is an equivalence, and no order matters. -/
theorem beq_iff_multiset :
    (∀ x y : Bag α, (x == y) = true ↔ ∀ a, x.countOf a = y.countOf a) ∧
    (∀ x y : Bag α, (x == y) = true ↔
      ∃ items, List.Forall₂ (fun a b => (a == b) = true) x.items items ∧ items.Perm y.items) ∧
    (Equivalence fun x y : Bag α => (x == y) = true) ∧
    ∀ x x' y y' : Bag α, x.items.Perm x'.items → y.items.Perm y'.items →
      (x == y) = (x' == y') := by
  refine ⟨beq_iff_countOf, beq_iff_rearranged, equivalence_beq, fun x x' y y' left right => ?_⟩
  rw [Bool.eq_iff_iff, beq_iff_countOf, beq_iff_countOf]
  simp only [countOf_perm left, countOf_perm right]

end

instance : EquivBEq Element := equivBEq_of_classes Element.same_self Element.isClass

/-- Elements whose equality is not that of their data: a struct with its fields in another order. -/
theorem beq_iff_multiset_elements :
    let one : Element := .ofValue (.int 1)
    let two : Element := .ofValue (.int 2)
    let struct (fs : List Field) : Element := .ofValue (.struct fs)
    let x : Bag Element := ⟨[one, struct [⟨"a", one⟩, ⟨"b", two⟩], one]⟩
    let y : Bag Element := ⟨[struct [⟨"b", two⟩, ⟨"a", one⟩], one, one]⟩
    let z : Bag Element := ⟨[struct [⟨"b", two⟩, ⟨"a", one⟩], two, one]⟩
    (x == y) = true ∧ x.countOf (struct [⟨"b", two⟩, ⟨"a", one⟩]) = 1 ∧ (x == z) = false := by
  intro one two struct x y z
  obtain ⟨counts, rearranged, -, -⟩ := beq_iff_multiset (α := Element)
  have turned : (struct [⟨"a", one⟩, ⟨"b", two⟩] == struct [⟨"b", two⟩, ⟨"a", one⟩]) = true := by
    decide +kernel
  have same : (x == y) = true :=
    (rearranged x y).2 ⟨[one, struct [⟨"b", two⟩, ⟨"a", one⟩], one],
      .cons BEq.rfl (.cons turned (.cons BEq.rfl .nil)), List.Perm.swap ..⟩
  refine ⟨same, ((counts x y).1 same _).trans (by decide +kernel), ?_⟩
  rw [Bool.eq_false_iff]
  intro equal
  exact absurd ((counts x z).1 equal two) (by decide +kernel)

end Isl.Bag
