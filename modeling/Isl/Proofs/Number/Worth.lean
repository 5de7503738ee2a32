import Mathlib.Algebra.Order.Field.Power
import Mathlib.Data.Rat.Cast.Order
import Mathlib.Order.Compare
import Mathlib.Tactic.NormNum
import Mathlib.Tactic.Positivity
import Mathlib.Tactic.Ring
import Isl.Number.Binary64
import Isl.Proofs.Number.Rounding
/-!
# What decimals and floats are worth

Decimals are compared by where their leading digits stand, and digit by digit if they stand in one
place. That is the order of the numbers that they are worth. Sums of decimals and the decimals that
floats become lose nothing. A pattern of 64 bits is worth what its three fields say, and so is the
decimal that it becomes.

* `Decimal.compare_eq_cmp`: the order of decimals;
* `Decimal.worth_add`: the worth of a sum;
* `Binary64.worth_toDecimal`: the worth of the decimal that a float becomes;
* `Binary64.worth_ofBits`, `Binary64.ofBits_toBits`: floats as patterns.
-/
namespace Isl.Decimal

/-- The number that a decimal stands for. -/
def worth (d : Decimal) : ℚ := d.coefficient * 10 ^ (-d.scale)

theorem ten_pos : (0 : ℚ) < 10 := by norm_num

theorem worth_pos {d : Decimal} (h : 0 < d.coefficient) : 0 < d.worth :=
  mul_pos (Int.cast_pos.2 h) (zpow_pos ten_pos _)

theorem worth_neg {d : Decimal} (h : d.coefficient < 0) : d.worth < 0 :=
  mul_neg_of_neg_of_pos (Int.cast_lt_zero.2 h) (zpow_pos ten_pos _)

theorem worth_zero {d : Decimal} (h : d.coefficient = 0) : d.worth = 0 := by
  rw [worth, h, Int.cast_zero, zero_mul]

/-! ## Positive numbers -/

theorem ten_pow_le_of_ne_zero {n : Nat} (some : n ≠ 0) : 10 ^ (digitCount n - 1) ≤ n := by
  cases count : digitCount n - 1 with
  | zero => exact Nat.pos_of_ne_zero some
  | succ k =>
    by_contra below
    have fewer := (digitCount_le_iff (Nat.succ_pos k)).2 (Nat.lt_of_not_le below)
    omega

/-- Of two numbers the one whose leading digit stands further in front is the greater. -/
theorem lt_of_magnitude_lt {a b : Nat} {s t : Int} (hb : b ≠ 0)
    (h : (digitCount a : Int) - s < digitCount b - t) :
    (a : ℚ) * 10 ^ (-s) < b * 10 ^ (-t) := by
  have most : (a : ℚ) < 10 ^ (digitCount a : Int) := by
    rw [zpow_natCast]
    exact_mod_cast lt_ten_pow_digitCount a
  have least : (10 : ℚ) ^ ((digitCount b - 1 : Nat) : Int) ≤ b := by
    rw [zpow_natCast]
    exact_mod_cast ten_pow_le_of_ne_zero hb
  have places : (digitCount a - s : Int) ≤ (digitCount b - 1 : Nat) - t := by
    have some := digitCount_pos b
    omega
  calc (a : ℚ) * 10 ^ (-s)
      < 10 ^ (digitCount a : Int) * 10 ^ (-s) := by gcongr
    _ = 10 ^ (digitCount a - s : Int) := by rw [← zpow_add₀ ten_pos.ne', sub_eq_add_neg]
    _ ≤ 10 ^ ((digitCount b - 1 : Nat) - t : Int) := zpow_le_zpow_right₀ (by norm_num) places
    _ = 10 ^ ((digitCount b - 1 : Nat) : Int) * 10 ^ (-t) := by
      rw [← zpow_add₀ ten_pos.ne', sub_eq_add_neg]
    _ ≤ b * 10 ^ (-t) := by gcongr

/-- A coefficient at the larger of two scales. -/
theorem mul_zpow_eq_at_max (n : Nat) (s t : Int) :
    (n : ℚ) * 10 ^ (-s) = (n * tenTo (t - s).toNat : Nat) * 10 ^ (-max s t) := by
  push_cast [tenTo_eq]
  rw [mul_assoc, ← zpow_natCast, ← zpow_add₀ ten_pos.ne']
  congr 2
  omega

theorem comparePositive_eq_cmp {a b : Nat} (ha : a ≠ 0) (hb : b ≠ 0) (s t : Int) :
    comparePositive a s b t = cmp ((a : ℚ) * 10 ^ (-s)) (b * 10 ^ (-t)) := by
  unfold comparePositive
  cases places : Ord.compare (digitCount a - s) (digitCount b - t) with
  | lt => exact ((cmp_eq_lt_iff _ _).2 (lt_of_magnitude_lt hb (compare_lt_iff_lt.1 places))).symm
  | gt => exact ((cmp_eq_gt_iff _ _).2 (lt_of_magnitude_lt ha (compare_gt_iff_gt.1 places))).symm
  | eq =>
    have common : (0 : ℚ) < 10 ^ (-max s t) := zpow_pos ten_pos _
    rw [mul_zpow_eq_at_max a s t, mul_zpow_eq_at_max b t s, max_comm t s, cmp_mul_pos_right common,
      Nat.strictMono_cast.cmp_map_eq, cmp_eq_compare]

/-! ## All numbers -/

theorem worth_lt_of_sign_lt {x y : Decimal} (h : x.coefficient.sign < y.coefficient.sign) :
    x.worth < y.worth := by
  rcases lt_trichotomy x.coefficient 0 with hx | hx | hx <;>
    rcases lt_trichotomy y.coefficient 0 with hy | hy | hy <;>
      simp only [Int.sign_eq_neg_one_of_neg, Int.sign_eq_one_of_pos, Int.sign_zero, hx, hy,
        lt_irrefl] at h
  · exact worth_zero hy ▸ worth_neg hx
  · exact (worth_neg hx).trans (worth_pos hy)
  · contradiction
  · exact worth_zero hx ▸ worth_pos hy
  · contradiction
  · contradiction

/-- Decimals are ordered by what they are worth. -/
theorem compare_eq_cmp (x y : Decimal) : x.compare y = cmp x.worth y.worth := by
  unfold Decimal.compare
  cases signs : Ord.compare x.coefficient.sign y.coefficient.sign with
  | lt => exact ((cmp_eq_lt_iff _ _).2 (worth_lt_of_sign_lt (compare_lt_iff_lt.1 signs))).symm
  | gt => exact ((cmp_eq_gt_iff _ _).2 (worth_lt_of_sign_lt (compare_gt_iff_gt.1 signs))).symm
  | eq =>
    have same : x.coefficient.sign = y.coefficient.sign := compare_eq_iff_eq.1 signs
    dsimp only
    by_cases none : x.coefficient = 0
    · have none' : y.coefficient = 0 := by
        rwa [none, Int.sign_zero, eq_comm, Int.sign_eq_zero_iff_zero] at same
      rw [if_pos none, worth_zero none, worth_zero none', cmp_self_eq_eq]
    · rw [if_neg none]
      by_cases positive : 0 < x.coefficient
      · have positive' : 0 < y.coefficient := by
          rwa [← Int.sign_eq_one_iff_pos, ← same, Int.sign_eq_one_iff_pos]
        rw [if_pos positive, comparePositive_eq_cmp (by omega) (by omega), worth, worth,
          Nat.cast_natAbs, abs_of_pos positive, Nat.cast_natAbs, abs_of_pos positive']
      · -- of two negative numbers the one of the larger size is the less
        have negative : x.coefficient < 0 := by omega
        have negative' : y.coefficient < 0 := by
          rwa [← Int.sign_eq_neg_one_iff_neg, ← same, Int.sign_eq_neg_one_iff_neg]
        have reversed : StrictAnti fun q : ℚ => -q := fun _ _ => neg_lt_neg
        rw [if_neg positive, comparePositive_eq_cmp (by omega) (by omega), Nat.cast_natAbs,
          abs_of_neg negative', Nat.cast_natAbs, abs_of_neg negative, Int.cast_neg, neg_mul,
          Int.cast_neg, neg_mul]
        exact reversed.cmp_map_eq _ _

end Isl.Decimal

namespace Isl

/-! ## Decimals -/

namespace Decimal

theorem worth_ofInt (n : Int) : (ofInt n).worth = n := by
  rw [worth, ofInt, neg_zero, zpow_zero, mul_one]

/-- A coefficient at a finer scale. -/
theorem mul_zpow_at (c : Int) {s t : Int} (finer : s ≤ t) :
    ((c * tenTo (t - s).toNat : Int) : ℚ) * 10 ^ (-t) = c * 10 ^ (-s) := by
  push_cast [tenTo_eq]
  rw [mul_assoc, ← zpow_natCast, ← zpow_add₀ ten_pos.ne']
  congr 2
  omega

theorem worth_add (x y : Decimal) : (x + y).worth = x.worth + y.worth := by
  change (x.add y).worth = _
  have left := mul_zpow_at x.coefficient (le_max_left x.scale y.scale)
  have right := mul_zpow_at y.coefficient (le_max_right x.scale y.scale)
  rw [worth, worth, worth, ← left, ← right, ← add_mul, ← Int.cast_add]
  rfl

end Decimal

/-! ## Floats -/

namespace Binary64
/-- The number that a finite float stands for. -/
def worth? : Binary64 → Option ℚ
  | .finite negative m e _ => some ((-1) ^ negative.toNat * m * 2 ^ e)
  | _ => none

/-- A binary fraction has as many digits behind the decimal point as behind the binary one. -/
theorem two_zpow_neg (k : Nat) : (2 : ℚ) ^ (-(k : Int)) = 5 ^ k * 10 ^ (-(k : Int)) := by
  rw [zpow_neg, zpow_neg, zpow_natCast, zpow_natCast, show (10 : ℚ) = 5 * 2 by norm_num, mul_pow,
    mul_inv, mul_inv_cancel_left₀ (by positivity)]

theorem signed_eq (negative : Bool) (n : Nat) :
    ((if negative then -(n : Int) else n : Int) : ℚ) = (-1) ^ negative.toNat * n := by
  cases negative <;> simp

theorem worth_toDecimal (x : Binary64) : x.toDecimal.map Decimal.worth = x.worth? := by
  cases x with
  | nan | infinite negative => rfl
  | finite negative m e canonical =>
    simp only [toDecimal, worth?, Option.map_some, Decimal.worth, signed_eq]
    congr 1
    by_cases whole : 0 ≤ e
    · have scale : max 0 (-e) = 0 := by omega
      have power : ((e.toNat : Nat) : Int) = e := Int.toNat_of_nonneg whole
      rw [if_pos whole, scale, neg_zero, zpow_zero, mul_one, Nat.shiftLeft_eq, ← power]
      push_cast
      rw [Int.toNat_natCast, zpow_natCast, mul_assoc]
    · obtain ⟨k, rfl⟩ : ∃ k : Nat, e = -k := ⟨(-e).toNat, by omega⟩
      have scale : max 0 (- -(k : Int)) = k := by omega
      have power : (- -(k : Int)).toNat = k := by omega
      rw [if_neg whole, scale, power, two_zpow_neg, Nat.pow_eq]
      push_cast
      ring

/-! ## Patterns -/

/-- What a pattern of 64 bits stands for: a sign bit, eleven bits of exponent and 52 bits of
fraction. The fraction is led by a hidden one unless the exponent is zero, and an exponent of all
ones stands for no number. -/
def patternWorth? (bits : UInt64) : Option ℚ :=
  let sign := (bits >>> 63).toNat
  let biased := (bits >>> 52 &&& 0x7ff).toNat
  let fraction := (bits &&& 0xfffffffffffff).toNat
  if biased = 0x7ff then none
  else if biased = 0 then some ((-1) ^ sign * fraction * 2 ^ (-1074 : Int))
  else some ((-1) ^ sign * (fraction + 2 ^ 52 : Nat) * 2 ^ (biased - 1075 : Int))

theorem worth_ofParts {m : Nat} {e : Int} (negative : Bool) (canonical : Canonical m e) :
    (ofParts negative m e).worth? = some ((-1) ^ negative.toNat * (m : ℚ) * 2 ^ e) := by
  rw [ofParts, dif_pos canonical]
  rfl

theorem worth_ofBits (bits : UInt64) : (ofBits bits.toNat).worth? = patternWorth? bits := by
  have size := bits.toNat_lt
  have biased : (bits >>> 52 &&& 0x7ff).toNat = bits.toNat / 0x10000000000000 % 0x800 := by
    rw [UInt64.toNat_and, UInt64.toNat_shiftRight]
    exact (Nat.and_two_pow_sub_one_eq_mod _ 11).trans
      (congrArg (· % 0x800) (Nat.shiftRight_eq_div_pow ..))
  have fraction : (bits &&& 0xfffffffffffff).toNat = bits.toNat % 0x10000000000000 := by
    rw [UInt64.toNat_and]
    exact Nat.and_two_pow_sub_one_eq_mod _ 52
  have sign : (bits >>> 63).toNat = (decide (bits.toNat / 0x8000000000000000 % 2 = 1)).toNat := by
    have bit : bits.toNat / 0x8000000000000000 = 0 ∨ bits.toNat / 0x8000000000000000 = 1 := by
      omega
    rw [UInt64.toNat_shiftRight]
    refine (Nat.shiftRight_eq_div_pow bits.toNat 63).trans ?_
    rcases bit with h | h
    · exact h.trans (by rw [h]; rfl)
    · exact h.trans (by rw [h]; rfl)
  unfold patternWorth? ofBits
  rw [biased, fraction, sign]
  dsimp only
  by_cases special : bits.toNat / 0x10000000000000 % 0x800 = 0x7ff
  · rw [if_pos special, if_pos special]
    split <;> rfl
  · rw [if_neg special, if_neg special]
    by_cases least : bits.toNat / 0x10000000000000 % 0x800 = 0
    · rw [if_pos least, if_pos least, worth_ofParts]
      exact ⟨by omega, by decide, by decide, fun other => absurd rfl other⟩
    · rw [if_neg least, if_neg least, worth_ofParts]
      · rfl
      · exact ⟨by omega, by omega, by omega, fun _ => by omega⟩

theorem signBit_eq (negative : Bool) : signBit negative = negative.toNat * 0x8000000000000000 := by
  cases negative <;> rfl

/-- A pattern is read by its fields. -/
theorem ofBits_fields (negative : Bool) {biased fraction : Nat} (small : biased < 0x800)
    (short : fraction < 0x10000000000000) :
    ofBits (signBit negative + biased <<< 52 + fraction) =
      if biased = 0x7ff then (if fraction = 0 then .infinite negative else .nan)
      else if biased = 0 then ofParts negative fraction (-1074)
      else ofParts negative (fraction + 0x10000000000000) ((biased : Int) - 1075) := by
  have bit := negative.toNat_le
  rw [signBit_eq, Nat.shiftLeft_eq]
  generalize pattern : negative.toNat * 0x8000000000000000 + biased * 2 ^ 52 + fraction = bits
  have exponent : bits / 0x10000000000000 % 0x800 = biased := by omega
  have rest : bits % 0x10000000000000 = fraction := by omega
  have sign : bits / 0x8000000000000000 % 2 = negative.toNat := by omega
  unfold ofBits
  rw [exponent, rest, sign]
  cases negative <;> rfl

theorem ofBits_toBits (x : Binary64) : ofBits x.toBits = x := by
  cases x with
  | nan => rfl
  | infinite negative => cases negative <;> rfl
  | finite negative m e canonical =>
    have ⟨short, least, most, full⟩ := canonical
    unfold toBits
    dsimp only
    by_cases low : m < 0x10000000000000
    · obtain rfl : e = -1074 := by
        by_contra other
        exact absurd (full other) (by omega)
      have read := ofBits_fields negative (show 0 < 0x800 by decide) low
      rw [Nat.zero_shiftLeft, Nat.add_zero] at read
      rw [if_pos low, read]
      exact dif_pos canonical
    · have read := ofBits_fields negative (show (e + 1075).toNat < 0x800 by omega)
        (show m - 0x10000000000000 < 0x10000000000000 by omega)
      rw [if_neg low, ← Nat.add_assoc, read, if_neg (by omega), if_neg (by omega),
        Nat.sub_add_cancel (by omega), show ((e + 1075).toNat : Int) - 1075 = e by omega]
      exact dif_pos canonical

theorem toBits_lt (x : Binary64) : x.toBits < 2 ^ 64 := by
  cases x with
  | nan => decide
  | infinite negative => cases negative <;> decide
  | finite negative m e canonical =>
    obtain ⟨short, least, most, -⟩ := canonical
    have bit := negative.toNat_le
    unfold toBits
    dsimp only
    rw [signBit_eq, Nat.shiftLeft_eq]
    split <;> omega

end Binary64
end Isl
