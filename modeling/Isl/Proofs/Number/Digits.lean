import Isl.Ion.Numeral
import Mathlib.Algebra.Group.Nat.Defs
/-!
# Digits that are read back

The decimal digits of a number are worth that number, with any zeros in front of them, and there are
as many as the powers of ten below it.

* `ofDecimal_decimal`, `numeral?_decimal`: digits read back;
* `digitCount_le_iff`: how many there are;
* `digitCount_mul_ten`: one more for each factor of ten.
-/
namespace Isl.Digits

variable {c : Char} {cs ds : List Char} {n k : Nat}

/-- A run ends where something else begins. -/
theorem span_append {p : Char → Bool} {rest : List Char} (run : ∀ c ∈ cs, p c = true)
    (stops : ∀ c, rest.head? = some c → p c = false) :
    (cs ++ rest).takeWhile p = cs ∧ (cs ++ rest).dropWhile p = rest := by
  rw [List.takeWhile_append_of_pos run, List.dropWhile_append_of_pos run]
  cases rest with
  | nil => simp
  | cons c rest => simp [stops c rfl]

/-- What holds of the ten digits holds of any. -/
theorem forall_digit {P : Char → Prop} (all : ∀ n < 10, P (Nat.digitChar n))
    (digit : c.isDigit = true) : P c := by
  simp only [Char.isDigit, Bool.and_eq_true, decide_eq_true_eq] at digit
  have bounds : 48 ≤ c.toNat ∧ c.toNat ≤ 57 := digit
  have same : Nat.digitChar (c.toNat - 48) = c := by
    have number : (Nat.digitChar (c.toNat - 48)).toNat = c.toNat := by
      rw [Nat.toNat_digitChar_of_lt_ten (by omega)]
      omega
    exact Char.toNat_inj.1 number
  exact same ▸ all _ (by omega)

theorem isDigit_of_mem_decimal (h : c ∈ decimal n) : c.isDigit = true := by
  rw [decimal_eq_toDigits] at h
  exact Nat.isDigit_of_mem_toDigits (by decide) (by decide) h

theorem decimal_ne_nil (n : Nat) : decimal n ≠ [] := by
  rw [decimal_eq_toDigits]
  exact Nat.toDigits_ne_nil

/-- No digit is a mark of a number or of a timestamp. -/
theorem ne_mark (digit : c.isDigit = true) :
    c ≠ '-' ∧ c ≠ '+' ∧ c ≠ '_' ∧ c ≠ '.' ∧ c ≠ 'd' ∧ c ≠ 'D' ∧ c ≠ 'e' ∧ c ≠ 'E' ∧ c ≠ 'T' :=
  forall_digit (P := fun c => c ≠ '-' ∧ c ≠ '+' ∧ c ≠ '_' ∧ c ≠ '.' ∧ c ≠ 'd' ∧ c ≠ 'D' ∧ c ≠ 'e' ∧
    c ≠ 'E' ∧ c ≠ 'T') (by decide) digit

/-- The first digit, and the others. -/
theorem decimal_cons (n : Nat) : ∃ d ds, decimal n = d :: ds ∧ ∀ c ∈ d :: ds, c.isDigit = true := by
  have digits : ∀ c ∈ decimal n, c.isDigit = true := fun _ => isDigit_of_mem_decimal
  cases split : decimal n with
  | nil => exact absurd split (decimal_ne_nil n)
  | cons d ds => exact ⟨d, ds, rfl, split ▸ digits⟩

theorem ofDecimal_eq (cs : List Char) : ofDecimal cs = Nat.ofDigitChars 10 cs 0 := by
  rw [ofDecimal, worth_eq_foldl, List.foldl_map, Nat.ofDigitChars_eq_foldl]
  congr 1
  funext n c
  omega

theorem ofDecimal_decimal (n : Nat) : ofDecimal (decimal n) = n := by
  rw [ofDecimal_eq, decimal_eq_toDigits, Nat.ofDigitChars_ten_toDigits]

theorem ofDecimal_zeros (zeros : Nat) (cs : List Char) :
    ofDecimal (List.replicate zeros '0' ++ cs) = ofDecimal cs := by
  simp only [ofDecimal_eq, Nat.ofDigitChars_append, Nat.ofDigitChars_replicate_zero, Nat.mul_zero]

theorem ofDecimal_snoc (cs : List Char) (c : Char) :
    ofDecimal (cs ++ [c]) = ofDecimal cs * 10 + (c.toNat - '0'.toNat) := by
  rw [ofDecimal_eq, ofDecimal_eq, Nat.ofDigitChars_append, Nat.ofDigitChars_cons,
    Nat.ofDigitChars_nil, Nat.mul_comm]

theorem mapM_digitValue? (digits : ∀ c ∈ cs, c.isDigit = true) :
    cs.mapM Ion.digitValue? = some (cs.map fun c => c.toNat - '0'.toNat) := by
  induction cs with
  | nil => rfl
  | cons c cs ih =>
    obtain ⟨first, rest⟩ := List.forall_mem_cons.1 digits
    simp [List.mapM_cons, Ion.digitValue?, first, ih rest]

theorem numeral?_digits (filled : cs ≠ []) (digits : ∀ c ∈ cs, c.isDigit = true) :
    numeral? Ion.digitValue? 10 cs = some (ofDecimal cs) := by
  have full : cs.isEmpty = false := by simpa using filled
  simp only [numeral?, full, mapM_digitValue? digits]
  rfl

theorem numeral?_decimal (n : Nat) : numeral? Ion.digitValue? 10 (decimal n) = some n := by
  rw [numeral?_digits (decimal_ne_nil n) fun _ => isDigit_of_mem_decimal, ofDecimal_decimal]

/-- Only zero is written with a zero in front. -/
theorem head_decimal (positive : n ≠ 0) : (decimal n).head? ≠ some '0' := by
  rw [decimal_eq_toDigits]
  induction n using Nat.strongRecOn with
  | ind n ih =>
    rw [Nat.toDigits_eq_if (by decide)]
    split
    · rename_i small
      have all : ∀ d < 10, d ≠ 0 → [Nat.digitChar d].head? ≠ some '0' := by decide
      exact all n small positive
    · rename_i large
      have front := ih (n / 10) (by omega) (by omega)
      cases split : Nat.toDigits 10 (n / 10) with
      | nil => exact absurd split Nat.toDigits_ne_nil
      | cons d ds => simpa [split] using front

end Isl.Digits

namespace Isl.Decimal

open Digits

variable {n k : Nat}

theorem digitCount_pos (n : Nat) : 0 < digitCount n :=
  List.length_pos_iff.2 (decimal_ne_nil n)

theorem digitCount_le_iff (some : 0 < k) : digitCount n ≤ k ↔ n < 10 ^ k := by
  rw [digitCount, decimal_eq_toDigits]
  exact Nat.length_toDigits_le_iff (by decide) some

theorem lt_ten_pow_digitCount (n : Nat) : n < 10 ^ digitCount n :=
  (digitCount_le_iff (digitCount_pos n)).1 (Nat.le_refl _)

theorem digitCount_mul_ten (positive : n ≠ 0) : digitCount (10 * n) = digitCount n + 1 := by
  have split : decimal (10 * n) = decimal n ++ ['0'] := by
    rw [decimal_eq_toDigits, decimal_eq_toDigits, Nat.toDigits_of_base_le (by decide) (by omega),
      Nat.mul_div_cancel_left n (by decide), Nat.mul_mod_right]
    rfl
  rw [digitCount, split, List.length_append]
  rfl

theorem tenTo_eq (n : Nat) : tenTo n = 10 ^ n := rfl

end Isl.Decimal
