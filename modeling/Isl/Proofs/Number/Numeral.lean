import Isl.Proofs.Ion.Blank
import Isl.Proofs.Number.Digits
import Mathlib.Data.List.Forall2
import Mathlib.Data.Nat.Digits.Defs
/-!
# What digits denote

A row of digits of a radix denotes the sum of its digits, each times its power of the radix. A
numeral is read exactly if all its characters are such digits, and then as the number that they
denote.

* `IsDigit`, `Digital`: characters and the digits that they are;
* `denoted`, `worth_eq`: what a row of digits denotes;
* `numeral?_eq_some_iff`: the numerals that are read, in any radix;
* `digitValue?_iff`, `binaryValue?_iff`, `hexValue?_iff`: the digits of ten, two and sixteen.
-/
namespace Isl.Digits

variable {c : Char} {cs : List Char} {d n radix : Nat} {ds : List Nat} {value? : Char → Option Nat}

/-- The character is a digit of the radix and worth `d`; letters may be of either case. -/
def IsDigit (radix : Nat) (c : Char) (d : Nat) : Prop :=
  d < radix ∧ (c = Nat.digitChar d ∨ c = (Nat.digitChar d).toUpper)

instance (radix : Nat) (c : Char) (d : Nat) : Decidable (IsDigit radix c d) := by
  unfold IsDigit
  infer_instance

/-- The characters are these digits, one by one. -/
def Digital (radix : Nat) (cs : List Char) (ds : List Nat) : Prop :=
  List.Forall₂ (IsDigit radix) cs ds

instance (radix : Nat) (cs : List Char) (ds : List Nat) : Decidable (Digital radix cs ds) := by
  unfold Digital
  infer_instance

/-- The number that digits denote, the most significant first. -/
def denoted (radix : Nat) (ds : List Nat) : Nat := Nat.ofDigits radix ds.reverse

theorem worth_eq (radix : Nat) (ds : List Nat) : worth radix ds = denoted radix ds := by
  rw [worth_eq_foldl, denoted, Nat.ofDigits_eq_foldr, List.foldr_reverse]
  congr 1
  funext n d
  rw [Nat.cast_id, Nat.add_comm, Nat.mul_comm]

theorem mapM_eq_some_iff (digits : ∀ c d, value? c = some d ↔ IsDigit radix c d) :
    cs.mapM value? = some ds ↔ Digital radix cs ds := by
  unfold Digital
  induction cs generalizing ds with
  | nil => simp [eq_comm]
  | cons c cs ih =>
    simp only [List.mapM_cons, Option.pure_def, Option.bind_eq_bind, Option.bind_eq_some_iff, ih,
      digits, Option.some.injEq, List.forall₂_cons_left_iff]
    constructor
    · rintro ⟨d, first, ds, others, rfl⟩
      exact ⟨d, ds, first, others, rfl⟩
    · rintro ⟨d, ds, first, others, rfl⟩
      exact ⟨d, first, ds, others, rfl⟩

/-- A numeral is read exactly if it is a row of digits, and as what they denote. -/
theorem numeral?_eq_some_iff (digits : ∀ c d, value? c = some d ↔ IsDigit radix c d) :
    numeral? value? radix cs = some n ↔
      ∃ ds, Digital radix cs ds ∧ ds ≠ [] ∧ n = denoted radix ds := by
  unfold numeral?
  cases cs with
  | nil =>
    simp only [List.isEmpty_nil, if_true, reduceCtorEq, false_iff]
    rintro ⟨ds, digital, filled, -⟩
    cases digital
    exact filled rfl
  | cons c cs =>
    simp only [List.isEmpty_cons, Bool.false_eq_true, if_false, Option.map_eq_some_iff,
      mapM_eq_some_iff digits, worth_eq]
    constructor
    · rintro ⟨ds, digital, rfl⟩
      cases digital
      exact ⟨_, .cons ‹_› ‹_›, by simp, rfl⟩
    · rintro ⟨ds, digital, -, rfl⟩
      exact ⟨ds, digital, rfl⟩

/-! ## The digits of a radix -/

theorem isDigit_lt (small : radix ≤ 16) (h : IsDigit radix c d) : c.toNat < 128 := by
  have all : ∀ d < 16, (Nat.digitChar d).toNat < 128 ∧ (Nat.digitChar d).toUpper.toNat < 128 := by
    decide
  obtain ⟨below, rfl | rfl⟩ := h
  · exact (all d (by omega)).1
  · exact (all d (by omega)).2

/-- It is enough to compare a reading of single digits with them up to the last ASCII character. -/
theorem value?_iff (small : radix ≤ 16) (low : ∀ c d, value? c = some d → c.toNat < 128)
    (all : ∀ n < 128, ((value? (Char.ofNat n)).all (· < radix) = true) ∧ ∀ d < radix,
      value? (Char.ofNat n) = some d ↔
        Char.ofNat n = Nat.digitChar d ∨ Char.ofNat n = (Nat.digitChar d).toUpper)
    (c : Char) (d : Nat) : value? c = some d ↔ IsDigit radix c d := by
  have here (ascii : c.toNat < 128) := Ion.forall_ascii (P := fun c =>
    ((value? c).all (· < radix) = true) ∧ ∀ d < radix,
      value? c = some d ↔ c = Nat.digitChar d ∨ c = (Nat.digitChar d).toUpper) all ascii
  constructor
  · intro h
    obtain ⟨below, same⟩ := here (low c d h)
    have below : d < radix := by simpa [h] using below
    exact ⟨below, (same d below).1 h⟩
  · intro h
    exact ((here (isDigit_lt small h)).2 d h.1).2 h.2

theorem digitValue?_iff : ∀ c d, Ion.digitValue? c = some d ↔ IsDigit 10 c d := by
  refine value?_iff (by decide) (fun c d h => ?_) (by decide +kernel)
  unfold Ion.digitValue? at h
  split at h
  · rename_i digit
    exact Ion.isAlphanum_lt (by simp [Char.isAlphanum, digit])
  · cases h

theorem binaryValue?_iff : ∀ c d, Ion.binaryValue? c = some d ↔ IsDigit 2 c d := by
  refine value?_iff (by decide) (fun c d h => ?_) (by decide +kernel)
  unfold Ion.binaryValue? at h
  split_ifs at h with zero one
  · rw [zero]
    decide
  · rw [one]
    decide

theorem hexValue?_iff : ∀ c d, Text.hexValue? c = some d ↔ IsDigit 16 c d := by
  refine value?_iff (by decide) (fun c d h => ?_) (by decide +kernel)
  have low (last : Char) (small : last.toNat < 128) (below : c ≤ last) : c.toNat < 128 :=
    Nat.lt_of_le_of_lt (UInt32.le_iff_toNat_le.1 below) small
  unfold Text.hexValue? at h
  split_ifs at h with digit lower upper
  · exact low _ (by decide) digit.2
  · exact low _ (by decide) lower.2
  · exact low _ (by decide) upper.2

/-! ## Decimal digits -/

theorem IsDigit.isDigit (h : IsDigit 10 c d) : c.isDigit = true := by
  have value := (digitValue?_iff c d).2 h
  unfold Ion.digitValue? at value
  split at value
  · assumption
  · cases value

theorem IsDigit.zero_iff (h : IsDigit 10 c d) : c = '0' ↔ d = 0 := by
  have value := (digitValue?_iff c d).2 h
  constructor
  · rintro rfl
    exact (Option.some.inj value).symm
  · rintro rfl
    exact h.2.elim id id

theorem Digital.isDigit (digital : Digital 10 cs ds) : ∀ c ∈ cs, c.isDigit = true := by
  intro c mem
  obtain ⟨i, below, rfl⟩ := List.mem_iff_getElem.1 mem
  exact (digital.get below (digital.length_eq ▸ below)).isDigit

theorem Digital.eq_nil_iff (digital : Digital radix cs ds) : cs = [] ↔ ds = [] := by
  rw [← List.length_eq_zero_iff, digital.length_eq, List.length_eq_zero_iff]

theorem Digital.ofDecimal_eq (digital : Digital 10 cs ds) (filled : ds ≠ []) :
    ofDecimal cs = denoted 10 ds := by
  have read := (numeral?_eq_some_iff digitValue?_iff).2 ⟨ds, digital, filled, rfl⟩
  rw [numeral?_digits (mt digital.eq_nil_iff.1 filled) digital.isDigit] at read
  exact Option.some.inj read

theorem Digital.append {cs' : List Char} {ds' : List Nat} (front : Digital radix cs ds)
    (back : Digital radix cs' ds') : Digital radix (cs ++ cs') (ds ++ ds') :=
  List.rel_append front back

/-- Digits of two rows one behind the other. -/
theorem Digital.split {cs' : List Char} (digital : Digital radix (cs ++ cs') ds) :
    ∃ front back, ds = front ++ back ∧ Digital radix cs front ∧ Digital radix cs' back := by
  refine ⟨ds.take cs.length, ds.drop cs.length, (List.take_append_drop ..).symm, ?_, ?_⟩
  · exact (List.forall₂_take_append ds cs cs' digital.flip).flip
  · exact (List.forall₂_drop_append ds cs cs' digital.flip).flip

end Isl.Digits
