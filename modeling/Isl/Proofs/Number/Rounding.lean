import Isl.Proofs.Number.Digits
import Mathlib.Algebra.Order.Field.Power
import Mathlib.Tactic.Linarith
import Mathlib.Tactic.NormNum
import Mathlib.Tactic.Positivity
import Mathlib.Tactic.Ring
/-!
# Rounding depends on the worth alone

`ofRatio` looks at how long its two parts are, and corrects what it makes of that. The exponent it
comes to is decided by the quotient: it is the least that leaves the significand short enough. So a
common factor changes nothing, and a quotient that is the worth of a number becomes that number.

* `Placed.unique`, `placed_exponentOf`: the exponent of a quotient;
* `ofRatio_scale`: common factors do not matter;
* `ofRatio_exact`: what has a number is that number;
* `ofScientific_shift`: neither do zeros at the end of a coefficient.
-/
namespace Isl.Binary64

variable {num den m k : Nat} {e f : Int} {q : ℚ} {negative : Bool}

/-! ## The exponent of a quotient -/

/-- The exponent of a positive quotient: the least in range that leaves it less than 53 bits. -/
structure Placed (q : ℚ) (e : Int) : Prop where
  least : -1074 ≤ e
  above : q < 2 ^ (e + 53)
  below : e = -1074 ∨ 2 ^ (e + 52) ≤ q

theorem Placed.le (he : Placed q e) (hf : Placed q f) : e ≤ f := by
  refine le_of_not_gt fun less => ?_
  obtain rfl | below := he.below
  · exact absurd hf.least (by omega)
  · have high : (2 : ℚ) ^ (f + 53) ≤ 2 ^ (e + 52) :=
      zpow_le_zpow_right₀ (by norm_num) (by omega)
    exact absurd hf.above (not_lt.2 (high.trans below))

theorem Placed.unique (he : Placed q e) (hf : Placed q f) : e = f :=
  le_antisymm (he.le hf) (hf.le he)

theorem two_zpow (e : Int) : (2 : ℚ) ^ e = 2 ^ e.toNat / 2 ^ (-e).toNat := by
  obtain ⟨k, rfl | rfl⟩ := e.eq_nat_or_neg
  · simp
  · simp

/-- The exponent that `ofRatio` comes to. -/
def exponentOf (num den : Nat) : Int :=
  let guess := max (-1074) ((Nat.log2 num : Int) - Nat.log2 den - 53)
  if num <<< (-guess).toNat < (den <<< guess.toNat) <<< 53 then guess else guess + 1

theorem ofRatio_eq (negative : Bool) (num den : Nat) :
    ofRatio negative num den =
      let significand := significandAt num den (exponentOf num den)
      if significand < 0x20000000000000 then ofParts negative significand (exponentOf num den)
      else ofParts negative (significand / 2) (exponentOf num den + 1) := rfl

theorem shift_lt_iff (positive : 0 < den) (e : Int) :
    num <<< (-e).toNat < (den <<< e.toNat) <<< 53 ↔ (num : ℚ) / den < 2 ^ (e + 53) := by
  have den' : (0 : ℚ) < den := by exact_mod_cast positive
  rw [zpow_add₀ (by norm_num), two_zpow, div_lt_iff₀ den', Nat.shiftLeft_eq, Nat.shiftLeft_eq,
    Nat.shiftLeft_eq, ← Nat.cast_lt (α := ℚ)]
  push_cast
  rw [div_mul_eq_mul_div, div_mul_eq_mul_div, lt_div_iff₀ (by positivity)]
  constructor
  · intro h
    linarith
  · intro h
    linarith

theorem quotient_bounds (some : num ≠ 0) (positive : 0 < den) :
    (2 : ℚ) ^ ((Nat.log2 num : Int) - Nat.log2 den - 1) ≤ (num : ℚ) / den ∧
      (num : ℚ) / den < 2 ^ ((Nat.log2 num : Int) - Nat.log2 den + 1) := by
  have den' : (0 : ℚ) < den := by exact_mod_cast positive
  have numLow : (2 : ℚ) ^ Nat.log2 num ≤ num := by exact_mod_cast Nat.log2_self_le some
  have numHigh : (num : ℚ) < 2 ^ (Nat.log2 num + 1) := by exact_mod_cast Nat.lt_log2_self
  have denLow : (2 : ℚ) ^ Nat.log2 den ≤ den := by
    exact_mod_cast Nat.log2_self_le (Nat.pos_iff_ne_zero.1 positive)
  have denHigh : (den : ℚ) < 2 ^ (Nat.log2 den + 1) := by exact_mod_cast Nat.lt_log2_self
  constructor
  · rw [le_div_iff₀ den']
    calc (2 : ℚ) ^ ((Nat.log2 num : Int) - Nat.log2 den - 1) * den
        ≤ 2 ^ ((Nat.log2 num : Int) - Nat.log2 den - 1) * 2 ^ (Nat.log2 den + 1) := by gcongr
      _ = 2 ^ Nat.log2 num := by
        rw [← zpow_natCast, ← zpow_natCast, ← zpow_add₀ (by norm_num)]
        congr 1
        push_cast
        omega
      _ ≤ num := numLow
  · rw [div_lt_iff₀ den']
    calc (num : ℚ) < 2 ^ (Nat.log2 num + 1) := numHigh
      _ = 2 ^ ((Nat.log2 num : Int) - Nat.log2 den + 1) * 2 ^ Nat.log2 den := by
        rw [← zpow_natCast, ← zpow_natCast, ← zpow_add₀ (by norm_num)]
        congr 1
        push_cast
        omega
      _ ≤ 2 ^ ((Nat.log2 num : Int) - Nat.log2 den + 1) * den := by gcongr

theorem placed_exponentOf (some : num ≠ 0) (positive : 0 < den) :
    Placed ((num : ℚ) / den) (exponentOf num den) := by
  obtain ⟨low, high⟩ := quotient_bounds some positive
  unfold exponentOf
  generalize (Nat.log2 num : Int) - Nat.log2 den = bits at low high
  have up : ∀ {i j : Int}, i ≤ j → (2 : ℚ) ^ i ≤ 2 ^ j := fun h =>
    zpow_le_zpow_right₀ (by norm_num) h
  simp only [shift_lt_iff positive]
  split
  · rename_i short
    refine ⟨by omega, short, ?_⟩
    by_cases least : bits - 53 ≤ -1074
    · exact .inl (by omega)
    · exact .inr ((up (by omega)).trans low)
  · rename_i long
    refine ⟨by omega, high.trans_le (up (by omega)), .inr ?_⟩
    exact (up (by omega)).trans (not_lt.1 long)

/-! ## Common factors -/

theorem exponentOf_scale (some : num ≠ 0) (positive : 0 < den) (factor : 0 < k) :
    exponentOf (k * num) (k * den) = exponentOf num den := by
  have same : ((k * num : Nat) : ℚ) / (k * den : Nat) = (num : ℚ) / den := by
    push_cast
    exact mul_div_mul_left _ _ (by exact_mod_cast factor.ne')
  have scaled := placed_exponentOf (Nat.mul_ne_zero factor.ne' some) (Nat.mul_pos factor positive)
  rw [same] at scaled
  exact scaled.unique (placed_exponentOf some positive)

theorem roundQuotient_scale (factor : 0 < k) (num den : Nat) :
    roundQuotient (k * num) (k * den) = roundQuotient num den := by
  have less : ∀ a b : Nat, k * a < k * b ↔ a < b := fun a b => Nat.mul_lt_mul_left factor
  simp only [roundQuotient, Nat.mul_div_mul_left _ _ factor, Nat.mul_mod_mul_left,
    Nat.mul_left_comm 2 k, less]

theorem significandAt_scale (factor : 0 < k) (num den : Nat) (e : Int) :
    significandAt (k * num) (k * den) e = significandAt num den e := by
  simp only [significandAt, Nat.shiftLeft_eq, Nat.mul_assoc, roundQuotient_scale factor]

theorem ofRatio_scale (some : num ≠ 0) (positive : 0 < den) (factor : 0 < k) :
    ofRatio negative (k * num) (k * den) = ofRatio negative num den := by
  rw [ofRatio_eq, ofRatio_eq, exponentOf_scale some positive factor,
    significandAt_scale factor]

/-! ## Exact quotients -/

theorem roundQuotient_mul (m : Nat) (positive : 0 < k) : roundQuotient (m * k) k = m := by
  simp [roundQuotient, Nat.mul_div_cancel m positive, positive]

theorem placed_canonical (canonical : Canonical m e) : Placed ((m : ℚ) * 2 ^ e) e := by
  obtain ⟨short, least, -, full⟩ := canonical
  have positive : (0 : ℚ) < 2 ^ e := by positivity
  refine ⟨least, ?_, ?_⟩
  · have short' : (m : ℚ) < 2 ^ 53 := by exact_mod_cast short
    rw [zpow_add₀ (by norm_num), mul_comm]
    exact mul_lt_mul_of_pos_left short' positive
  · by_cases bottom : e = -1074
    · exact .inl bottom
    · have full' : (2 : ℚ) ^ 52 ≤ m := by exact_mod_cast full bottom
      rw [zpow_add₀ (by norm_num), mul_comm (m : ℚ)]
      exact .inr (mul_le_mul_of_nonneg_left full' positive.le)

/-- A quotient that is the worth of a number is rounded to that number. -/
theorem ofRatio_exact (negative : Bool) (canonical : Canonical m e) (some : m ≠ 0) :
    ofRatio negative (m <<< e.toNat) (1 <<< (-e).toNat) = .finite negative m e canonical := by
  have worth : ((m <<< e.toNat : Nat) : ℚ) / (1 <<< (-e).toNat : Nat) = m * 2 ^ e := by
    rw [two_zpow, Nat.shiftLeft_eq, Nat.shiftLeft_eq]
    push_cast
    ring
  have exponent : exponentOf (m <<< e.toNat) (1 <<< (-e).toNat) = e := by
    have placed := placed_exponentOf (show m <<< e.toNat ≠ 0 by simp [Nat.shiftLeft_eq, some])
      (show 0 < 1 <<< (-e).toNat by simp [Nat.shiftLeft_eq])
    rw [worth] at placed
    exact placed.unique (placed_canonical canonical)
  have significand : significandAt (m <<< e.toNat) (1 <<< (-e).toNat) e = m := by
    have parts : (m <<< e.toNat) <<< (-e).toNat = m * ((1 <<< (-e).toNat) <<< e.toNat) := by
      simp only [Nat.shiftLeft_eq]
      ring
    rw [significandAt, parts]
    exact roundQuotient_mul m (by simp [Nat.shiftLeft_eq])
  rw [ofRatio_eq, exponent, significand]
  simp only [if_pos canonical.1, ofParts, dif_pos canonical]

/-! ## Signs -/

theorem ofParts_signed {significand : Nat} {canonical : Canonical m e}
    (h : ofParts false significand f = .finite false m e canonical) :
    ofParts negative significand f = .finite negative m e canonical := by
  unfold ofParts at h ⊢
  split at h
  · rename_i parts
    cases h
    rw [dif_pos parts]
  · cases h

/-- The sign is only put in front of what is rounded. -/
theorem ofRatio_parts (num den : Nat) :
    ∃ significand f, ∀ negative, ofRatio negative num den = ofParts negative significand f := by
  by_cases short : significandAt num den (exponentOf num den) < 0x20000000000000
  · exact ⟨_, _, fun negative => (ofRatio_eq negative num den).trans (if_pos short)⟩
  · exact ⟨_, _, fun negative => (ofRatio_eq negative num den).trans (if_neg short)⟩

theorem ofScientific_signed (negative : Bool) {c : Nat} {p : Int} {canonical : Canonical m e}
    (h : ofScientific false c p = .finite false m e canonical) :
    ofScientific negative c p = .finite negative m e canonical := by
  unfold ofScientific at h ⊢
  dsimp only at h ⊢
  by_cases tiny : c = 0 ∨ (Decimal.digitCount c : Int) + p < -400
  · rw [if_pos tiny] at h ⊢
    exact ofParts_signed h
  · rw [if_neg tiny] at h ⊢
    by_cases huge : 400 < (Decimal.digitCount c : Int) + p
    · rw [if_pos huge] at h
      cases h
    · rw [if_neg huge] at h ⊢
      obtain ⟨significand, f, parts⟩ :=
        ofRatio_parts (c * Decimal.tenTo p.toNat) (Decimal.tenTo (-p).toNat)
      rw [parts] at h ⊢
      exact ofParts_signed h

/-! ## Decimal worths -/

/-- A zero at the end of a coefficient may as well stand in the exponent. -/
theorem ofScientific_shift (some : m ≠ 0) (p : Int) :
    ofScientific negative (10 * m) p = ofScientific negative m (p + 1) := by
  have magnitude : (Decimal.digitCount (10 * m) : Int) + p = Decimal.digitCount m + (p + 1) := by
    rw [Decimal.digitCount_mul_ten some]
    push_cast
    ring
  have ratio : ofRatio negative (10 * m * Decimal.tenTo p.toNat) (Decimal.tenTo (-p).toNat) =
      ofRatio negative (m * Decimal.tenTo (p + 1).toNat) (Decimal.tenTo (-(p + 1)).toNat) := by
    simp only [Decimal.tenTo_eq]
    by_cases up : 0 ≤ p
    · rw [show (p + 1).toNat = p.toNat + 1 by omega, show (-p).toNat = 0 by omega,
        show (-(p + 1)).toNat = 0 by omega]
      congr 1
      ring
    · rw [show (p + 1).toNat = 0 by omega, show p.toNat = 0 by omega,
        show (-p).toNat = (-(p + 1)).toNat + 1 by omega, Nat.pow_succ', Nat.mul_assoc]
      exact ofRatio_scale (by simpa using some) (by positivity) (by decide)
  have some' : 10 * m ≠ 0 := by omega
  simp only [ofScientific, some, some', magnitude, ratio, false_or]

end Isl.Binary64
