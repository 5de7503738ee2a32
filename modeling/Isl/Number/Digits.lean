/-!
# Digits

What a row of digits is worth, and the decimal digits of a number. A long row is split in halves and
so is a large number, which leaves few multiplications of large numbers. `worth_eq_foldl` and
`decimal_eq_toDigits` say that this changes no result.
-/
namespace Isl.Digits

/-! ## Reading -/

/-- The worth of digits, the most significant first, one after the other. -/
def horner (radix : Nat) (ds : List Nat) : Nat := ds.foldl (fun n d => n * radix + d) 0

/-- The worth of digits, split in halves `depth` times. -/
def halves (radix : Nat) : Nat → List Nat → Nat
  | 0, ds => horner radix ds
  | depth + 1, ds =>
    let low := ds.drop (ds.length / 2)
    halves radix depth (ds.take (ds.length / 2)) * Nat.pow radix low.length +
      halves radix depth low

def worth (radix : Nat) (ds : List Nat) : Nat := halves radix (Nat.log2 (ds.length / 32)) ds

private theorem foldl_horner (radix n : Nat) (ds : List Nat) :
    ds.foldl (fun n d => n * radix + d) n = n * Nat.pow radix ds.length + horner radix ds := by
  induction ds generalizing n with
  | nil => simp [horner]
  | cons d ds ih =>
    simp only [horner, List.foldl_cons, List.length_cons, Nat.zero_mul, Nat.zero_add]
    rw [ih, ih d]
    change _ = n * (Nat.pow radix ds.length * radix) + _
    rw [Nat.add_mul, Nat.mul_assoc, Nat.mul_comm radix, Nat.add_assoc]

theorem horner_append (radix : Nat) (xs ys : List Nat) :
    horner radix (xs ++ ys) = horner radix xs * Nat.pow radix ys.length + horner radix ys := by
  rw [horner, List.foldl_append, foldl_horner]
  rfl

theorem halves_eq_horner (radix depth : Nat) (ds : List Nat) :
    halves radix depth ds = horner radix ds := by
  induction depth generalizing ds with
  | zero => rfl
  | succ depth ih => rw [halves, ih, ih, ← horner_append, List.take_append_drop]

theorem worth_eq_foldl (radix : Nat) (ds : List Nat) :
    worth radix ds = ds.foldl (fun n d => n * radix + d) 0 :=
  halves_eq_horner ..

/-- The number that a numeral over the given digits denotes; none for an empty numeral. -/
def numeral? (value? : Char → Option Nat) (radix : Nat) (cs : List Char) : Option Nat :=
  if cs.isEmpty then none else (cs.mapM value?).map (worth radix)

/-- The number that decimal digits denote. -/
def ofDecimal (cs : List Char) : Nat := worth 10 (cs.map fun c => c.toNat - '0'.toNat)

/-! ## Writing -/

/-- The last `count` decimal digits of a number. -/
def lastDigits : Nat → Nat → List Char
  | 0, _ => []
  | count + 1, n => lastDigits count (n / 10) ++ [Nat.digitChar (n % 10)]

/-- The last `2 ^ depth` decimal digits of a number. -/
def blockDigits : Nat → Nat → List Char
  | 0, n => [Nat.digitChar (n % 10)]
  | depth + 1, n =>
    let unit := Nat.pow 10 (Nat.pow 2 depth)
    blockDigits depth (n / unit) ++ blockDigits depth (n % unit)

/-- The decimal digits of a number, `0` for zero. One that fits 64 bits needs no halves. -/
def decimal (n : Nat) : List Char :=
  if n < 0x10000000000000000 then Nat.toDigits 10 n
  else (blockDigits (Nat.log2 (Nat.log2 n)) n).dropWhile (· == '0')

theorem lastDigits_add (j k n : Nat) :
    lastDigits (j + k) n =
      lastDigits j (n / Nat.pow 10 k) ++ lastDigits k (n % Nat.pow 10 k) := by
  induction k generalizing n with
  | zero => simp [lastDigits]
  | succ k ih =>
    have power : Nat.pow 10 (k + 1) = 10 * Nat.pow 10 k := Nat.mul_comm ..
    rw [← Nat.add_assoc, lastDigits, ih, lastDigits, power, ← Nat.div_div_eq_div_mul,
      Nat.mod_mul_right_div_self, Nat.mod_mul_right_mod, List.append_assoc]

theorem blockDigits_eq (depth n : Nat) :
    blockDigits depth n = lastDigits (Nat.pow 2 depth) n := by
  induction depth generalizing n with
  | zero => simp [blockDigits, lastDigits]
  | succ depth ih =>
    have power : Nat.pow 2 (depth + 1) = Nat.pow 2 depth + Nat.pow 2 depth := Nat.mul_two _
    rw [blockDigits, ih, ih, power, lastDigits_add]

private theorem lastDigits_zero (count : Nat) :
    (lastDigits count 0).dropWhile (· == '0') = [] := by
  induction count with
  | zero => rfl
  | succ count ih => simp [lastDigits, List.dropWhile_append, ih]

private theorem digitChar_ne_zero : ∀ d < 10, d ≠ 0 → (Nat.digitChar d == '0') = false := by
  decide

theorem dropWhile_lastDigits {count n : Nat} (positive : n ≠ 0) (h : n < Nat.pow 10 count) :
    (lastDigits count n).dropWhile (· == '0') = Nat.toDigits 10 n := by
  induction count generalizing n with
  | zero => exact absurd (Nat.lt_one_iff.1 h) positive
  | succ count ih =>
    rw [lastDigits, List.dropWhile_append]
    by_cases small : n < 10
    · rw [Nat.div_eq_of_lt small, lastDigits_zero, Nat.mod_eq_of_lt small,
        Nat.toDigits_of_lt_base small]
      simp [digitChar_ne_zero n small positive]
    · have below : n / 10 < Nat.pow 10 count := Nat.div_lt_of_lt_mul (Nat.mul_comm .. ▸ h)
      have least : 10 ≤ n := Nat.le_of_not_lt small
      have nonempty : ¬(Nat.toDigits 10 (n / 10)).isEmpty := by
        rw [List.isEmpty_iff_length_eq_zero]
        exact Nat.ne_of_gt Nat.length_toDigits_pos
      rw [ih (by omega) below, if_neg nonempty, ← Nat.toDigits_of_base_le (by decide) least]

private theorem lt_block {n : Nat} : n < Nat.pow 10 (Nat.pow 2 (Nat.log2 (Nat.log2 n))) := by
  generalize count : Nat.pow 2 (Nat.log2 (Nat.log2 n)) = k
  have bits : n < Nat.pow 2 (Nat.log2 n + 1) := Nat.lt_log2_self
  have depth : Nat.log2 n < Nat.pow 2 (Nat.log2 (Nat.log2 n)) * 2 := Nat.lt_log2_self
  have enough : Nat.log2 n + 1 ≤ 2 * k := by omega
  have four : Nat.pow 2 (2 * k) = Nat.pow 4 k := Nat.pow_mul 2 2 k
  calc n < Nat.pow 2 (Nat.log2 n + 1) := bits
    _ ≤ Nat.pow 2 (2 * k) := Nat.pow_le_pow_right (by decide) enough
    _ = Nat.pow 4 k := four
    _ ≤ Nat.pow 10 k := Nat.pow_le_pow_left (by decide) k

theorem decimal_eq_toDigits (n : Nat) : decimal n = Nat.toDigits 10 n := by
  unfold decimal
  split
  · rfl
  · rw [blockDigits_eq, dropWhile_lastDigits (by omega) lt_block]

end Isl.Digits
