import Isl.Proofs.Number.Rounding
/-!
# Numbers read back from their shortest text

Whatever `shortest` comes to was tried out, or is the exact worth, so rounding it gives the number
that it was found for. The text has few enough digits and an exponent small enough for `parse?` to
round just that.

* `shortest_reads`: the shortest decimal is the number again;
* `parse?_scientificChars`: what a text with an exponent is worth;
* `parse?_ionChars`: a finite number is read back from its text.
-/
namespace Isl.Binary64

variable {x : Binary64} {num den m c fuel tries : Nat} {e p lead : Int} {negative : Bool}
  {canonical : Canonical m e}

/-- Digits and exponent that read back as a number, within what `parse?` looks at. -/
structure Reads (m : Nat) (e : Int) (canonical : Canonical m e) (c : Nat) (p : Int) : Prop where
  reads : ofScientific false c p = .finite false m e canonical
  digits : Decimal.digitCount c ≤ digitLimit
  low : -400 ≤ Decimal.digitCount c + p
  high : Decimal.digitCount c + p ≤ 400

/-! ## Candidates -/

theorem ofScientific_zero (p : Int) : ofScientific negative 0 p = ofParts negative 0 (-1074) := by
  simp [ofScientific]

/-- What reads back as a number other than zero is not far out of range. -/
theorem bounds_of_reads (some : m ≠ 0)
    (reads : ofScientific false c p = .finite false m e canonical) :
    c ≠ 0 ∧ -400 ≤ Decimal.digitCount c + p ∧ Decimal.digitCount c + p ≤ 400 := by
  have zero : ofParts false 0 (-1074) ≠ .finite false m e canonical := by
    have least : ofParts false 0 (-1074) = .finite false 0 (-1074) (by decide) :=
      dif_pos (by decide)
    rw [least]
    intro same
    cases same
    exact some rfl
  unfold ofScientific at reads
  dsimp only at reads
  by_cases tiny : c = 0 ∨ (Decimal.digitCount c : Int) + p < -400
  · rw [if_pos tiny] at reads
    exact absurd reads zero
  · rw [if_neg tiny] at reads
    by_cases huge : 400 < (Decimal.digitCount c : Int) + p
    · rw [if_pos huge] at reads
      cases reads
    · omega

theorem onGrid?_reads (found : onGrid? x num den p = some c) : ofScientific false c p = x := by
  unfold onGrid? at found
  dsimp only at found
  generalize num * _ / _ = below at found
  by_cases good : ofScientific false below p = x
  · rw [if_pos good] at found
    split at found
    · rename_i nearer
      cases found
      exact nearer.1
    · cases found
      exact good
  · rw [if_neg good] at found
    split at found
    · rename_i above
      cases found
      exact above
    · cases found

theorem searchGrids_reads {c : Nat} {q : Int}
    (found : searchGrids x num den lead tries p = some (c, q)) :
    ofScientific false c q = x ∧ p - tries < q := by
  induction tries generalizing p with
  | zero => cases found
  | succ tries ih =>
    unfold searchGrids at found
    split at found
    · rename_i grid
      cases found
      exact ⟨onGrid?_reads grid, by omega⟩
    · obtain ⟨reads, near⟩ := ih found
      exact ⟨reads, by omega⟩

theorem stripZeros_reads (reads : Reads m e canonical c p) :
    Reads m e canonical (stripZeros fuel c p).1 (stripZeros fuel c p).2 := by
  induction fuel generalizing c p with
  | zero => exact reads
  | succ fuel ih =>
    unfold stripZeros
    split
    · rename_i ends
      obtain ⟨positive, zero⟩ := ends
      obtain ⟨k, rfl⟩ : ∃ k, c = 10 * k := ⟨c / 10, by omega⟩
      have positive' : k ≠ 0 := by omega
      have count := Decimal.digitCount_mul_ten positive'
      rw [Nat.mul_div_cancel_left k (by decide)]
      obtain ⟨back, digits, low, high⟩ := reads
      rw [count] at digits low high
      refine ih ⟨?_, by omega, by omega, by omega⟩
      rw [← ofScientific_shift positive', back]
    · exact reads

/-! ## The range of a number -/

/-- How the powers of two and of five that numbers in range come with compare to those of ten. -/
theorem power_bounds : 0x20000000000000 * 2 ^ 971 < 10 ^ 309 ∧ 2 ^ 1074 < 10 ^ 324 ∧
    2 ^ 1074 ≤ 10 ^ 401 ∧ 0x20000000000000 * 5 ^ 1074 < 10 ^ 800 := by decide +kernel

theorem digitCount_num (canonical : Canonical m e) : Decimal.digitCount (m <<< e.toNat) ≤ 309 := by
  rw [Decimal.digitCount_le_iff (by decide), Nat.shiftLeft_eq]
  have small : e.toNat ≤ 971 := by
    have := canonical.2.2.1
    omega
  have power : 2 ^ e.toNat ≤ 2 ^ 971 := pow_le_pow_right₀ (by norm_num) small
  exact (Nat.mul_le_mul canonical.1.le power).trans_lt power_bounds.1

theorem digitCount_den (canonical : Canonical m e) :
    Decimal.digitCount (1 <<< (-e).toNat) ≤ 324 := by
  rw [Decimal.digitCount_le_iff (by decide), Nat.shiftLeft_eq, Nat.one_mul]
  have small : (-e).toNat ≤ 1074 := by
    have := canonical.2.1
    omega
  have power : 2 ^ (-e).toNat ≤ 2 ^ 1074 := pow_le_pow_right₀ (by norm_num) small
  exact power.trans_lt power_bounds.2.1

theorem leadingPlace_low (canonical : Canonical m e) :
    -324 ≤ leadingPlace (m <<< e.toNat) (1 <<< (-e).toNat) := by
  have num := Decimal.digitCount_pos (m <<< e.toNat)
  have den := digitCount_den canonical
  unfold leadingPlace
  dsimp only
  split
  · omega
  · omega

/-! ## The exact worth -/

theorem reads_whole (some : m ≠ 0) (whole : 0 ≤ e) : Reads m e canonical (m <<< e.toNat) 0 := by
  have count := digitCount_num canonical
  have positive : m <<< e.toNat ≠ 0 := by simp [Nat.shiftLeft_eq, some]
  refine ⟨?_, by unfold digitLimit; omega, by omega, by omega⟩
  unfold ofScientific
  dsimp only
  rw [if_neg (by omega), if_neg (by omega)]
  have same := ofRatio_exact false canonical some
  rw [show (-e).toNat = 0 by omega] at same
  simpa [Decimal.tenTo_eq] using same

section

variable {k : Nat}

theorem fraction_lt (short : m < 0x20000000000000) (small : k ≤ 1074) : m * 5 ^ k < 10 ^ 800 := by
  have power : 5 ^ k ≤ 5 ^ 1074 := pow_le_pow_right₀ (by norm_num) small
  exact (Nat.mul_le_mul short.le power).trans_lt power_bounds.2.2.2

theorem fraction_lt_ten_pow (short : m < 0x20000000000000) : m * 5 ^ k < 10 ^ (16 + k) := by
  have front : m < 10 ^ 16 := short.trans (by decide)
  rw [Nat.pow_add]
  exact Nat.mul_lt_mul_of_lt_of_le front (Nat.pow_le_pow_left (by decide) k) (by positivity)

/-- The powers of two in a denominator of numbers in range are less than those of ten. -/
theorem ten_pow_le_fraction (some : m ≠ 0) (small : k ≤ 1074) (large : 401 ≤ k) :
    10 ^ (k - 401) ≤ m * 5 ^ k := by
  have halves : 2 ^ k ≤ 10 ^ 401 :=
    (pow_le_pow_right₀ (by norm_num) small).trans power_bounds.2.2.1
  refine Nat.le_of_mul_le_mul_right ?_ (Nat.pow_pos (n := 401) (show 0 < 10 by decide))
  calc 10 ^ (k - 401) * 10 ^ 401 = 5 ^ k * 2 ^ k := by
        rw [← Nat.pow_add, Nat.sub_add_cancel large, ← Nat.mul_pow]
    _ ≤ m * 5 ^ k * 10 ^ 401 :=
        Nat.mul_le_mul (Nat.le_mul_of_pos_left _ (Nat.pos_of_ne_zero some)) halves

theorem ofRatio_fraction (canonical : Canonical m (-k)) (some : m ≠ 0) :
    ofRatio false (m * 5 ^ k) (10 ^ k) = .finite false m (-k) canonical := by
  have same := ofRatio_exact false canonical some
  rw [Int.neg_neg, Int.toNat_natCast, show (-(k : Int)).toNat = 0 by omega, Nat.shiftLeft_zero,
    Nat.one_shiftLeft] at same
  rw [← same, ← ofRatio_scale some (by positivity) (show 0 < 5 ^ k by positivity), Nat.mul_comm m,
    ← Nat.mul_pow]

theorem reads_fraction (canonical : Canonical m (-k)) (some : m ≠ 0) :
    Reads m (-k) canonical (m * 5 ^ k) (-k) := by
  have small : k ≤ 1074 := by
    have := canonical.2.1
    omega
  have positive : m * 5 ^ k ≠ 0 := by simp [some]
  have digits := (Decimal.digitCount_le_iff (by omega)).2 (fraction_lt canonical.1 small)
  have high := (Decimal.digitCount_le_iff (by omega)).2 (fraction_lt_ten_pow (k := k) canonical.1)
  have low : k ≤ Decimal.digitCount (m * 5 ^ k) + 400 := by
    refine Nat.le_of_not_lt fun few => ?_
    have less := Nat.lt_of_lt_of_le (Decimal.lt_ten_pow_digitCount (m * 5 ^ k))
      (Nat.pow_le_pow_right (by decide) (show _ ≤ k - 401 by omega))
    exact absurd (ten_pow_le_fraction some small (by omega)) (Nat.not_le.2 less)
  refine ⟨?_, digits, by omega, by omega⟩
  unfold ofScientific
  dsimp only
  rw [if_neg (by omega), if_neg (by omega), Int.neg_neg, Int.toNat_natCast,
    show (-(k : Int)).toNat = 0 by omega, Decimal.tenTo_eq, Decimal.tenTo_eq, Nat.pow_zero,
    Nat.mul_one]
  exact ofRatio_fraction canonical some

end

theorem shortest_reads (canonical : Canonical m e) :
    Reads m e canonical (shortest m e canonical).1 (shortest m e canonical).2 := by
  unfold shortest
  dsimp only
  by_cases zero : m = 0
  · subst zero
    rw [if_pos rfl]
    have least : e = -1074 := by
      by_contra other
      exact absurd (canonical.2.2.2 other) (by decide)
    subst least
    exact ⟨by rw [ofScientific_zero]; exact dif_pos canonical, by decide, by decide, by decide⟩
  · rw [if_neg zero]
    have lead := leadingPlace_low canonical
    cases search : searchGrids (.finite false m e canonical) (m <<< e.toNat) (1 <<< (-e).toNat)
        (leadingPlace (m <<< e.toNat) (1 <<< (-e).toNat)) 17
        (leadingPlace (m <<< e.toNat) (1 <<< (-e).toNat)) with
    | some found =>
      obtain ⟨reads, near⟩ := searchGrids_reads search
      obtain ⟨-, low, high⟩ := bounds_of_reads zero reads
      refine stripZeros_reads ⟨reads, ?_, low, high⟩
      unfold digitLimit
      omega
    | none =>
      dsimp only
      split
      · exact reads_whole zero ‹_›
      · obtain ⟨k, rfl⟩ : ∃ k : Nat, e = -k := ⟨(-e).toNat, by omega⟩
        rw [Int.neg_neg, Int.toNat_natCast]
        exact reads_fraction canonical zero

/-! ## Text with an exponent -/

variable {cs ds : List Char} {d : Char}

theorem exponentDigits_snoc (cs : List Char) (d : Char) :
    exponentDigits (cs ++ [d]) =
      if exponentDigits cs < 0x10000 then exponentDigits cs * 10 + (d.toNat - '0'.toNat)
      else exponentDigits cs := by
  rw [exponentDigits, List.foldl_append]
  rfl

theorem exponentDigits_eq (small : Digits.ofDecimal ds < 0x10000) :
    exponentDigits ds = Digits.ofDecimal ds := by
  induction ds using List.reverseRecOn with
  | nil => rfl
  | append_singleton ds d ih =>
    rw [Digits.ofDecimal_snoc] at small ⊢
    have front := ih (by omega)
    rw [exponentDigits_snoc, front, if_pos (by omega)]

theorem exponent?_negative (filled : ds ≠ []) (digits : ∀ d ∈ ds, d.isDigit = true) :
    exponent? ('e' :: '-' :: ds) = some (-(exponentDigits ds : Int)) := by
  have all : ds.all Char.isDigit = true := List.all_eq_true.2 digits
  simp [exponent?, filled, all]

theorem exponent?_positive (filled : ds ≠ []) (digits : ∀ d ∈ ds, d.isDigit = true) :
    exponent? ('e' :: ds) = some (exponentDigits ds : Int) := by
  have all : ds.all Char.isDigit = true := List.all_eq_true.2 digits
  cases ds with
  | nil => exact absurd rfl filled
  | cons d ds =>
    have digit := digits d (List.mem_cons_self ..)
    obtain ⟨minus, plus, -⟩ := Digits.ne_mark digit
    simp only [exponent?, true_or, if_true]
    split
    · rename_i signed
      exact absurd (List.cons.inj signed).1 minus
    · rename_i signed
      exact absurd (List.cons.inj signed).1 plus
    · simp [all]

theorem exponent?_chars {n : Int} (small : n.natAbs < 0x10000) :
    exponent? ('e' :: ((if n < 0 then ['-'] else []) ++ Digits.decimal n.natAbs)) = some n := by
  have worth : exponentDigits (Digits.decimal n.natAbs) = n.natAbs := by
    rw [exponentDigits_eq (by rwa [Digits.ofDecimal_decimal]), Digits.ofDecimal_decimal]
  have filled := Digits.decimal_ne_nil n.natAbs
  have digits : ∀ d ∈ Digits.decimal n.natAbs, d.isDigit = true :=
    fun _ => Digits.isDigit_of_mem_decimal
  by_cases negative : n < 0
  · rw [if_pos negative]
    refine (exponent?_negative filled digits).trans (congrArg some ?_)
    omega
  · rw [if_neg negative]
    refine (exponent?_positive filled digits).trans (congrArg some ?_)
    omega

/-! ## Numerals -/

/-- No word begins with a digit. -/
theorem word_ne (digit : d.isDigit = true) (cs : List Char) {word : String} {letter : Char}
    (begins : word.toList.head? = some letter) (other : letter.isDigit = false) :
    String.ofList ((d :: cs).map Char.toLower) ≠ word := by
  have lower : d.toLower.isDigit = true :=
    Digits.forall_digit (P := fun d => d.toLower.isDigit = true) (by decide) digit
  rintro rfl
  simp only [List.map_cons, String.toList_ofList, List.head?_cons, Option.some.injEq] at begins
  rw [begins, other] at lower
  cases lower

theorem unsigned?_of_digit (digit : d.isDigit = true) (negative : Bool) (cs : List Char) :
    (if String.ofList ((d :: cs).map Char.toLower) = "nan" then some .nan
      else if String.ofList ((d :: cs).map Char.toLower) = "inf" ∨
          String.ofList ((d :: cs).map Char.toLower) = "infinity" then some (.infinite negative)
      else unsigned? negative (d :: cs)) = unsigned? negative (d :: cs) := by
  rw [if_neg (word_ne digit cs rfl rfl), if_neg]
  rintro (inf | infinity)
  · exact word_ne digit cs rfl rfl inf
  · exact word_ne digit cs rfl rfl infinity

theorem parse?_signed (digit : d.isDigit = true) (negative : Bool) (cs : List Char) :
    parse? ((if negative then ['-'] else []) ++ d :: cs) = unsigned? negative (d :: cs) := by
  cases negative with
  | true => exact unsigned?_of_digit digit true cs
  | false =>
    obtain ⟨minus, plus, -⟩ := Digits.ne_mark digit
    refine Eq.trans ?_ (unsigned?_of_digit digit false cs)
    simp only [Bool.false_eq_true, if_false, List.nil_append, parse?]
    split
    · rename_i signed
      exact absurd (List.cons.inj signed).1 minus
    · rename_i signed
      exact absurd (List.cons.inj signed).1 plus
    · rfl

theorem unsigned?_parts (digits : ∀ x ∈ d :: ds, x.isDigit = true) (negative : Bool)
    {tail : List Char} {l : Int} (power : exponent? ('e' :: tail) = some l) :
    unsigned? negative (d :: ((if ds.length + 1 ≤ 1 then [] else '.' :: ds) ++ 'e' :: tail)) =
      some (ofDigits negative (d :: ds) (l - ds.length)) := by
  obtain ⟨first, others⟩ := List.forall_mem_cons.1 digits
  cases ds with
  | nil => simp [unsigned?, first, power, show 'e'.isDigit = false from rfl]
  | cons x xs =>
    obtain ⟨front, back⟩ := Digits.span_append others
      (show ∀ c, ('e' :: tail).head? = some c → c.isDigit = false by simp)
    simp only [List.cons_append] at front back
    simp [unsigned?, first, front, back, power, show '.'.isDigit = false from rfl]

theorem scientificChars_cons (negative : Bool) (p : Int) (split : Digits.decimal c = d :: ds) :
    scientificChars negative c p = (if negative then ['-'] else []) ++
      d :: ((if ds.length + 1 ≤ 1 then [] else '.' :: ds) ++
        'e' :: ((if p + ds.length < 0 then ['-'] else []) ++
          Digits.decimal (p + ds.length).natAbs)) := by
  simp [scientificChars, split]

theorem parse?_scientificChars (negative : Bool) (digits : Decimal.digitCount c ≤ digitLimit)
    (low : -400 ≤ Decimal.digitCount c + p) (high : Decimal.digitCount c + p ≤ 400) :
    parse? (scientificChars negative c p) = some (ofScientific negative c p) := by
  obtain ⟨d, ds, split, all⟩ := Digits.decimal_cons c
  have count : Decimal.digitCount c = (d :: ds).length := by rw [Decimal.digitCount, split]
  rw [List.length_cons] at count
  rw [scientificChars_cons negative p split, parse?_signed (all d (List.mem_cons_self ..)),
    unsigned?_parts all negative (exponent?_chars (by omega)), Int.add_sub_cancel, ofDigits,
    if_pos (by rwa [List.length_cons, ← count]), ← split, Digits.ofDecimal_decimal]

/-- A finite number is read back from its text. -/
theorem parse?_ionChars (negative : Bool) (canonical : Canonical m e) :
    parse? (ionChars (.finite negative m e canonical)) =
      some (.finite negative m e canonical) := by
  obtain ⟨reads, digits, low, high⟩ := shortest_reads canonical
  have parsed := parse?_scientificChars negative digits low high
  rwa [ofScientific_signed negative reads] at parsed

end Isl.Binary64
