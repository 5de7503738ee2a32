import Isl.Ion.Printer
import Isl.Proofs.Ion.Blank
import Isl.Proofs.Number.FloatText
import Isl.Proofs.Timestamp
/-!
# Numbers and timestamps that are read back

A number is written as a sign or none, a digit, and digits and marks that tell its form; a timestamp
begins with four digits and a hyphen or a `T`, as no number does.

* `Written`: text that is one token and reads as a value;
* `numberOf`, `numeral_eq`: what decides over a token that is no timestamp;
* `Form`, `numeral_number`: how a written number is told apart;
* `decimal?_cut`: a decimal is cut at its sign, its exponent and its point;
* `written_int`, `written_decimal`, `written_float`, `written_timestamp`: each is read back.
-/
namespace Isl.Ion

variable {c d : Char} {cs ds tail token : List Char} {negative : Bool}

/-- The sign of a number. -/
def sign (negative : Bool) : List Char := if negative then ['-'] else []

theorem mem_sign (h : c ∈ sign negative) : c = '-' := by
  cases negative with
  | true => exact List.mem_singleton.1 h
  | false => cases h

/-- The characters of a number behind its first digit. -/
def isNumberChar (c : Char) : Bool := c.isDigit || "de.+-".toList.contains c

/-- A sign or none, a digit, and what is left of a number: no zero in front of other digits. -/
structure IsNumber (d : Char) (tail : List Char) : Prop where
  digit : d.isDigit = true
  marks : ∀ c ∈ tail, isNumberChar c = true
  leads : d = '0' → ∀ c, tail.head? = some c → c.isDigit = false

theorem isNumberChar_of_isDigit (h : c.isDigit = true) : isNumberChar c = true := by
  simp [isNumberChar, h]

theorem isNumberChar_lt (h : isNumberChar c = true) : c.toNat < 128 := by
  simp only [isNumberChar, Bool.or_eq_true] at h
  obtain digit | mark := h
  · exact isAlphanum_lt (by simp [Char.isAlphanum, digit])
  · have all : "de.+-".toList.all (·.toNat < 128) = true := by decide
    exact of_decide_eq_true (List.all_eq_true.1 all c (List.contains_iff_mem.1 mark))

theorem plain_of_isNumberChar (h : isNumberChar c = true) :
    isNumeralChar c = true ∧ c ≠ '_' ∧ c ≠ 'E' ∧ c ≠ 'D' ∧ c ≠ 'x' ∧ c ≠ 'X' ∧ c ≠ 'b' ∧ c ≠ 'B' :=
  forall_ascii (P := fun c => isNumberChar c = true → isNumeralChar c = true ∧ c ≠ '_' ∧ c ≠ 'E' ∧
    c ≠ 'D' ∧ c ≠ 'x' ∧ c ≠ 'X' ∧ c ≠ 'b' ∧ c ≠ 'B') (by decide +kernel) (isNumberChar_lt h) h

/-- Text that a numeric token is taken from as a whole, and the value it is read as. -/
structure Written (text : List Char) (v : Value) : Prop where
  front : ∃ negative d tail, text = sign negative ++ d :: tail ∧ d.isDigit = true
  chars : ∀ c ∈ text, isNumeralChar c = true
  read : numeral text = .ok v

theorem isNumeralChar_of_isDigit (h : c.isDigit = true) : isNumeralChar c = true := by
  simp [isNumeralChar, Char.isAlphanum, h]

theorem IsNumber.written {v : Value} (h : IsNumber d tail)
    (read : numeral (sign negative ++ d :: tail) = .ok v) :
    Written (sign negative ++ d :: tail) v := by
  refine ⟨⟨negative, d, tail, rfl, h.digit⟩, fun c mem => ?_, read⟩
  simp only [List.mem_append, List.mem_cons] at mem
  obtain minus | rfl | mark := mem
  · rw [mem_sign minus]
    decide
  · exact isNumeralChar_of_isDigit h.digit
  · exact (plain_of_isNumberChar (h.marks c mark)).1

/-! ## Telling the forms apart -/

theorem not_timestamp_signed (cs : List Char) : looksLikeTimestamp ('-' :: cs) = false := by
  simp [looksLikeTimestamp, List.take, show '-'.isDigit = false from rfl]

theorem not_timestamp_short (other : c.isDigit = false) (cs : List Char) :
    looksLikeTimestamp (d :: c :: cs) = false := by
  simp [looksLikeTimestamp, List.take, other]

/-- Without a hyphen or a `T` behind the sign there is no timestamp. -/
theorem not_timestamp_plain (plain : ∀ c ∈ cs, c.isDigit = true ∨ c = 'd' ∨ c = '.')
    (negative : Bool) : looksLikeTimestamp (sign negative ++ cs) = false := by
  cases negative with
  | true => exact not_timestamp_signed cs
  | false =>
    have other : ∀ c tail, cs.drop 4 = c :: tail → c ≠ '-' ∧ c ≠ 'T' := by
      intro c tail split
      obtain digit | rfl | rfl := plain c (List.mem_of_mem_drop (split ▸ List.mem_cons_self ..))
      · obtain ⟨hyphen, -, -, -, -, -, -, -, letter⟩ := Digits.ne_mark digit
        exact ⟨hyphen, letter⟩
      · decide
      · decide
    simp only [sign, Bool.false_eq_true, if_false, List.nil_append, looksLikeTimestamp]
    split
    · rename_i split
      exact absurd rfl (other _ _ split).1
    · rename_i split
      exact absurd rfl (other _ _ split).2
    · simp

theorem radix?_number (h : IsNumber d tail) : radix? (d :: tail) = none := by
  cases tail with
  | nil =>
    unfold radix?
    split
    · rename_i split
      simp at split
    · rfl
  | cons c tail =>
    obtain ⟨-, -, -, -, x, x', b, b'⟩ := plain_of_isNumberChar (h.marks c (List.mem_cons_self ..))
    unfold radix?
    split
    · rename_i split
      cases split
      simp [x, x', b, b']
    · rfl

theorem hasLeadingZero_number (h : IsNumber d tail) : hasLeadingZero (d :: tail) = false := by
  unfold hasLeadingZero
  split
  · rename_i split
    cases split
    exact h.leads rfl _ rfl
  · rfl

theorem filter_number (h : IsNumber d tail) (negative : Bool) :
    (sign negative ++ d :: tail).filter (· != '_') = sign negative ++ d :: tail := by
  refine List.filter_eq_self.2 fun c mem => ?_
  rw [bne_iff_ne]
  simp only [List.mem_append, List.mem_cons] at mem
  obtain minus | rfl | mark := mem
  · rw [mem_sign minus]
    decide
  · exact (Digits.ne_mark h.digit).2.2.1
  · exact (plain_of_isNumberChar (h.marks c mark)).2.1

theorem any_exponent (h : IsNumber d tail) (negative : Bool) :
    (sign negative ++ d :: tail).any (fun c => c == 'e' || c == 'E') = tail.any (· == 'e') := by
  obtain ⟨-, -, -, -, -, -, lower, upper, -⟩ := Digits.ne_mark h.digit
  have marks : tail.any (fun c => c == 'e' || c == 'E') = tail.any (· == 'e') := by
    rw [Bool.eq_iff_iff]
    simp only [List.any_eq_true, Bool.or_eq_true, beq_iff_eq]
    constructor
    · rintro ⟨c, mem, rfl | rfl⟩
      · exact ⟨_, mem, rfl⟩
      · exact absurd rfl (plain_of_isNumberChar (h.marks _ mem)).2.2.1
    · rintro ⟨c, mem, rfl⟩
      exact ⟨_, mem, .inl rfl⟩
  cases negative with
  | true => simp [sign, lower, upper, marks]
  | false => simp [sign, lower, upper, marks]

theorem any_point (h : IsNumber d tail) (negative : Bool) :
    (sign negative ++ d :: tail).any (fun c => c == 'd' || c == 'D' || c == '.') =
      tail.any (fun c => c == 'd' || c == '.') := by
  obtain ⟨-, -, -, point, lower, upper, -⟩ := Digits.ne_mark h.digit
  have marks : tail.any (fun c => c == 'd' || c == 'D' || c == '.') =
      tail.any (fun c => c == 'd' || c == '.') := by
    rw [Bool.eq_iff_iff]
    simp only [List.any_eq_true, Bool.or_eq_true, beq_iff_eq]
    constructor
    · rintro ⟨c, mem, (rfl | rfl) | rfl⟩
      · exact ⟨_, mem, .inl rfl⟩
      · exact absurd rfl (plain_of_isNumberChar (h.marks _ mem)).2.2.2.1
      · exact ⟨_, mem, .inr rfl⟩
    · rintro ⟨c, mem, rfl | rfl⟩
      · exact ⟨_, mem, .inl (.inl rfl)⟩
      · exact ⟨_, mem, .inr rfl⟩
  cases negative with
  | true => simp [sign, lower, upper, point, marks]
  | false => simp [sign, lower, upper, point, marks]

/-- A number behind its sign. -/
def signed (negative : Bool) (n : Int) : Int := if negative then -n else n

/-- The token without its underscores. -/
def cleaned (token : List Char) : List Char := token.filter (· != '_')

/-- What decides over a number behind its sign. -/
def numberOf (token : String) (negative : Bool) (us : List Char) : Except SyntaxFault Value :=
  match radix? us with
  | some (radix, value?) =>
    match signed? value? radix (us.drop 2) with
    | some n => .ok (.int (signed negative n))
    | none => .error (.invalidRadixInt token)
  | none =>
    if hasLeadingZero us then .error (.leadingZeros token)
    else if (sign negative ++ us).any fun c => c == 'e' || c == 'E' then
      match Binary64.parse? (sign negative ++ us) with
      | some x => .ok (.float x)
      | none => .error (.invalidFloat token)
    else if (sign negative ++ us).any fun c => c == 'd' || c == 'D' || c == '.' then
      match decimal? (sign negative ++ us) with
      | some x => .ok (.decimal x)
      | none => .error (.invalidDecimal token)
    else
      match signed? digitValue? 10 (sign negative ++ us) with
      | some n => .ok (.int n)
      | none => .error (.invalidInt token)

theorem numeral_eq (untimed : looksLikeTimestamp token = false) (digit : d.isDigit = true)
    (front : cleaned token = sign negative ++ d :: tail) :
    numeral token = numberOf (String.ofList token) negative (d :: tail) := by
  -- the match on the sign sees no minus in front of the digits
  have unsigned : ∀ ds, d :: tail = '-' :: ds → False := fun ds split =>
    (Digits.ne_mark digit).1 (List.cons.inj split).1
  unfold cleaned at front
  unfold numeral
  dsimp only
  rw [untimed, if_neg (by decide), front]
  cases negative with
  | true => rfl
  | false =>
    simp only [sign, Bool.false_eq_true, if_false, List.nil_append]
    rfl

/-- What a number is read as, by the marks in it. -/
inductive Form (text tail : List Char) : Value → Prop where
  | float {x : Binary64} (exponent : tail.any (· == 'e') = true)
      (read : Binary64.parse? text = some x) : Form text tail (.float x)
  | decimal {x : Decimal} (exponent : tail.any (· == 'e') = false)
      (point : tail.any (fun c => c == 'd' || c == '.') = true) (read : decimal? text = some x) :
      Form text tail (.decimal x)
  | int {n : Int} (exponent : tail.any (· == 'e') = false)
      (point : tail.any (fun c => c == 'd' || c == '.') = false)
      (read : signed? digitValue? 10 text = some n) : Form text tail (.int n)

theorem numeral_number {v : Value} (h : IsNumber d tail)
    (plain : looksLikeTimestamp (sign negative ++ d :: tail) = false)
    (form : Form (sign negative ++ d :: tail) tail v) :
    numeral (sign negative ++ d :: tail) = .ok v := by
  rw [numeral_eq plain h.digit (filter_number h negative), numberOf, radix?_number h,
    hasLeadingZero_number h, any_exponent h, any_point h]
  cases form with
  | float exponent read => rw [exponent, read]; rfl
  | decimal exponent point read => rw [exponent, point, read]; rfl
  | int exponent point read => rw [exponent, point, read]; rfl

/-! ## Ints -/

/-- A zero in front stands alone. -/
theorem leads_decimal {n : Nat} (split : Digits.decimal n = d :: ds) (zero : d = '0') :
    ds = [] := by
  have nothing : n = 0 := by
    by_contra positive
    exact Digits.head_decimal positive (by rw [split, zero]; rfl)
  subst nothing
  cases split
  rfl

theorem isNumber_decimal {n : Nat} (split : Digits.decimal n = d :: ds) : IsNumber d ds := by
  have digits : ∀ c ∈ d :: ds, c.isDigit = true := split ▸ fun _ => Digits.isDigit_of_mem_decimal
  obtain ⟨first, others⟩ := List.forall_mem_cons.1 digits
  refine ⟨first, fun c mem => isNumberChar_of_isDigit (others c mem), fun zero c next => ?_⟩
  rw [leads_decimal split zero] at next
  cases next

theorem signed?_decimal (negative : Bool) (n : Nat) :
    signed? digitValue? 10 (sign negative ++ Digits.decimal n) =
      some (if negative then -(n : Int) else n) := by
  cases negative with
  | true => simp [sign, signed?, Digits.numeral?_decimal]
  | false =>
    obtain ⟨d, ds, split, digits⟩ := Digits.decimal_cons n
    obtain ⟨minus, plus, -⟩ := Digits.ne_mark (digits d (List.mem_cons_self ..))
    have worth := Digits.numeral?_decimal n
    rw [split] at worth ⊢
    simp [sign, signed?, minus, plus, worth]

theorem intChars_eq (n : Int) : intChars n = sign (n < 0) ++ Digits.decimal n.natAbs := by
  simp [intChars, sign]

theorem ite_neg_natAbs (n : Int) :
    (if decide (n < 0) = true then -(n.natAbs : Int) else n.natAbs) = n := by
  split
  · rename_i negative
    have := of_decide_eq_true negative
    omega
  · rename_i positive
    have : ¬n < 0 := fun h => positive (decide_eq_true h)
    omega

theorem written_int (n : Int) : Written (intChars n) (.int n) := by
  obtain ⟨d, ds, split, digits⟩ := Digits.decimal_cons n.natAbs
  have number := isNumber_decimal split
  have plain := not_timestamp_plain (fun c mem => .inl (digits c mem)) (decide (n < 0))
  have worth := signed?_decimal (decide (n < 0)) n.natAbs
  rw [split, ite_neg_natAbs] at worth
  have others : ∀ c ∈ ds, c.isDigit = true := (List.forall_mem_cons.1 digits).2
  have exponent : ds.any (· == 'e') = false := by
    rw [List.any_eq_false]
    exact fun c mem => by simp [Digits.ne_mark (others c mem)]
  have point : ds.any (fun c => c == 'd' || c == '.') = false := by
    rw [List.any_eq_false]
    intro c mem
    simp [Digits.ne_mark (others c mem)]
  rw [intChars_eq, split]
  exact number.written (numeral_number number plain (.int exponent point worth))

/-! ## Decimals -/

/-- A decimal point splits digits in two. -/
theorem placePoint_parts {n k : Nat} (places : 0 < k) :
    ∃ d whole fraction, Decimal.placePoint (Digits.decimal n) k = d :: whole ++ '.' :: fraction ∧
      (∀ c ∈ d :: whole ++ fraction, c.isDigit = true) ∧ fraction.length = k ∧
      Digits.ofDecimal (d :: whole ++ fraction) = n ∧ (d = '0' → whole = []) := by
  have digits : ∀ c ∈ Digits.decimal n, c.isDigit = true := fun _ => Digits.isDigit_of_mem_decimal
  have worth := Digits.ofDecimal_decimal n
  unfold Decimal.placePoint
  by_cases inside : k < (Digits.decimal n).length
  · rw [if_pos inside]
    have count : 0 < (Digits.decimal n).length - k := by omega
    obtain ⟨d, whole, split⟩ := List.exists_cons_of_length_pos
      (l := (Digits.decimal n).take ((Digits.decimal n).length - k)) (by
        rw [List.length_take]
        omega)
    have joined := List.take_append_drop ((Digits.decimal n).length - k) (Digits.decimal n)
    rw [split] at joined
    refine ⟨d, whole, _, by rw [split], ?_, ?_, ?_, ?_⟩
    · rw [joined]
      exact digits
    · rw [List.length_drop]
      omega
    · rw [joined, worth]
    · rintro rfl
      exact (List.append_eq_nil_iff.1 (leads_decimal joined.symm rfl)).1
  · rw [if_neg inside]
    refine ⟨'0', [], _, rfl, ?_, ?_, ?_, fun _ => rfl⟩
    · intro c mem
      simp only [List.mem_cons, List.mem_append, List.mem_replicate, List.not_mem_nil,
        or_false] at mem
      obtain rfl | ⟨-, rfl⟩ | digit := mem
      · rfl
      · rfl
      · exact digits c digit
    · rw [List.length_append, List.length_replicate]
      omega
    · have zeros := Digits.ofDecimal_zeros (k - (Digits.decimal n).length + 1) (Digits.decimal n)
      rw [List.replicate_succ, worth] at zeros
      exact zeros

/-- The exponent behind its mark; without one it is zero. -/
def exponent? : List Char → Option Int
  | [] => some 0
  | _ :: text => signed? digitValue? 10 text

/-- Three tests one after the other are one test. -/
theorem guards {α β : Type} (fits empty fits' : Bool) (read : Option α) (f : α → β) :
    (if (!fits) = true then none
      else if empty = true then none
      else read.bind fun a => if (!fits') = true then none else some (f a)) =
    read.bind fun a => if empty = false ∧ fits = true ∧ fits' = true then some (f a) else none := by
  cases fits <;> cases empty <;> cases fits' <;> cases read <;> rfl

/-- How a decimal is read that has been cut at its sign and at its mark. -/
theorem decimal?_cut {us : List Char}
    (cut : cs.takeWhile (fun c => !(c == 'd' || c == 'D')) = sign negative ++ us)
    (unsigned : ∀ ds, us = '-' :: ds → False) :
    decimal? cs = (exponent? (cs.dropWhile fun c => !(c == 'd' || c == 'D'))).bind fun e =>
      (Digits.numeral? digitValue? 10
          (us.takeWhile (· != '.') ++ (us.dropWhile (· != '.')).drop 1)).bind fun n =>
        if (us.takeWhile (· != '.')).isEmpty = false ∧ fits64 e = true ∧
            fits64 (((us.dropWhile (· != '.')).drop 1).length - e) = true then
          some ⟨if negative then -(n : Int) else n,
            ((us.dropWhile (· != '.')).drop 1).length - e⟩
        else none := by
  unfold decimal?
  -- the match on the sign sees no minus in front of the digits
  cases negative with
  | true =>
    simp only [cut, sign, if_true, List.singleton_append, Option.bind_eq_bind, Option.bind_none,
      guards]
    generalize cs.dropWhile (fun c => !(c == 'd' || c == 'D')) = power
    cases power <;> rfl
  | false =>
    simp only [cut, sign, Bool.false_eq_true, if_false, List.nil_append, Option.bind_eq_bind,
      Option.bind_none, guards]
    generalize cs.dropWhile (fun c => !(c == 'd' || c == 'D')) = power
    cases power <;> rfl

/-- Digits, and behind them a point with more of them, or nothing. -/
structure IsMantissa (whole point fraction : List Char) : Prop where
  filled : whole ≠ []
  digits : ∀ c ∈ whole ++ fraction, c.isDigit = true
  points : point = [] ∧ fraction = [] ∨ point = '.' :: fraction

section

variable {whole point fraction : List Char}

theorem IsMantissa.chars (h : IsMantissa whole point fraction) :
    ∀ c ∈ whole ++ point, c.isDigit = true ∨ c = '.' := by
  obtain ⟨inWhole, inFraction⟩ := List.forall_mem_append.1 h.digits
  rw [List.forall_mem_append]
  refine ⟨fun c mem => .inl (inWhole c mem), ?_⟩
  obtain ⟨rfl, -⟩ | rfl := h.points
  · simp
  · exact List.forall_mem_cons.2 ⟨.inr rfl, fun c mem => .inl (inFraction c mem)⟩

/-- The exponent begins at its mark. -/
theorem IsMantissa.cut_mark {mark : List Char} (h : IsMantissa whole point fraction)
    (marked : ∀ c, mark.head? = some c → c = 'd' ∨ c = 'D') (negative : Bool) :
    (sign negative ++ (whole ++ point) ++ mark).takeWhile (fun c => !(c == 'd' || c == 'D')) =
        sign negative ++ (whole ++ point) ∧
      (sign negative ++ (whole ++ point) ++ mark).dropWhile (fun c => !(c == 'd' || c == 'D')) =
        mark := by
  refine Digits.span_append ?_ fun c next => by rcases marked c next with rfl | rfl <;> rfl
  rw [List.forall_mem_append]
  refine ⟨fun c minus => by rw [mem_sign minus]; rfl, fun c mem => ?_⟩
  obtain digit | rfl := h.chars c mem
  · simp [Digits.ne_mark digit]
  · decide

/-- The fraction begins behind the point. -/
theorem IsMantissa.cut_point (h : IsMantissa whole point fraction) :
    (whole ++ point).takeWhile (· != '.') = whole ∧
      ((whole ++ point).dropWhile (· != '.')).drop 1 = fraction := by
  have dotless : ∀ c ∈ whole, (c != '.') = true := fun c mem => by
    simp [Digits.ne_mark (h.digits c (List.mem_append_left _ mem))]
  obtain ⟨rfl, rfl⟩ | rfl := h.points
  · obtain ⟨front, back⟩ := Digits.span_append dotless
      (show ∀ c, ([] : List Char).head? = some c → (c != '.') = false by simp)
    exact ⟨front, by rw [back]; rfl⟩
  · obtain ⟨front, back⟩ := Digits.span_append dotless
      (show ∀ c, ('.' :: fraction).head? = some c → (c != '.') = false by simp)
    exact ⟨front, by rw [back]; rfl⟩

/-- What a decimal is worth, if its exponent and its scale fit. -/
theorem IsMantissa.decimal?_eq {mark : List Char} (h : IsMantissa whole point fraction)
    (marked : ∀ c, mark.head? = some c → c = 'd' ∨ c = 'D') (negative : Bool) :
    Ion.decimal? (sign negative ++ (whole ++ point) ++ mark) = (exponent? mark).bind fun e =>
      if fits64 e = true ∧ fits64 (fraction.length - e) = true then
        some ⟨if negative then -(Digits.ofDecimal (whole ++ fraction) : Int)
          else Digits.ofDecimal (whole ++ fraction), fraction.length - e⟩
      else none := by
  obtain ⟨front, back⟩ := h.cut_mark marked negative
  obtain ⟨before, behind⟩ := h.cut_point
  have worth := Digits.numeral?_digits (by simp [h.filled]) h.digits
  have full : whole.isEmpty = false := by simpa using h.filled
  have unsigned : ∀ ds, whole ++ point = '-' :: ds → False := by
    intro ds split
    obtain digit | same := h.chars '-' (split ▸ List.mem_cons_self ..)
    · cases digit
    · cases same
  simp only [decimal?_cut front unsigned, back, before, behind, worth, full, Option.bind_some,
    true_and]

/-- What a written decimal is worth, with or without an exponent. -/
theorem IsMantissa.decimal? {mark : List Char} {e : Int} (h : IsMantissa whole point fraction)
    (exponent : mark = [] ∧ e = 0 ∨
      ∃ es, mark = 'd' :: es ∧ signed? digitValue? 10 es = some e)
    (fits : fits64 e = true) (fits' : fits64 (fraction.length - e) = true) (negative : Bool) :
    Ion.decimal? (sign negative ++ (whole ++ point) ++ mark) =
      some ⟨if negative then -(Digits.ofDecimal (whole ++ fraction) : Int)
        else Digits.ofDecimal (whole ++ fraction), fraction.length - e⟩ := by
  have marked : ∀ c, mark.head? = some c → c = 'd' ∨ c = 'D' := by
    obtain ⟨rfl, -⟩ | ⟨es, rfl, -⟩ := exponent
    · simp
    · simp
  have power : exponent? mark = some e := by
    obtain ⟨rfl, rfl⟩ | ⟨es, rfl, power⟩ := exponent
    · rfl
    · exact power
  rw [h.decimal?_eq marked negative, power, Option.bind_some, if_pos ⟨fits, fits'⟩]

end

theorem decimalChars_eq (d : Decimal) :
    decimalChars d = sign (d.coefficient < 0) ++
      (if d.scale ≤ 0 then
        Digits.decimal d.coefficient.natAbs ++ 'd' :: Digits.decimal (-d.scale).toNat
       else Decimal.placePoint (Digits.decimal d.coefficient.natAbs) d.scale.toNat) := by
  simp [decimalChars, Decimal.signChars, sign]

/-- Digits, one mark and digits are the decimal that they are worth. -/
theorem written_marked {whole : List Char} {mark : Char} {x : Decimal}
    (digits : ∀ c ∈ d :: whole ++ ds, c.isDigit = true) (leads : d = '0' → whole = [])
    (marked : mark = 'd' ∨ mark = '.')
    (worth : decimal? (sign negative ++ d :: (whole ++ mark :: ds)) = some x) :
    Written (sign negative ++ d :: (whole ++ mark :: ds)) (.decimal x) := by
  simp only [List.cons_append, List.forall_mem_cons, List.forall_mem_append] at digits
  obtain ⟨first, before, behind⟩ := digits
  have plain : ∀ c ∈ whole ++ mark :: ds, c.isDigit = true ∨ c = 'd' ∨ c = '.' := by
    simp only [List.forall_mem_append, List.forall_mem_cons]
    exact ⟨fun c mem => .inl (before c mem), .inr marked, fun c mem => .inl (behind c mem)⟩
  have number : IsNumber d (whole ++ mark :: ds) := by
    refine ⟨first, fun c mem => ?_, fun zero c next => ?_⟩
    · obtain digit | rfl | rfl := plain c mem
      · exact isNumberChar_of_isDigit digit
      · decide
      · decide
    · rw [leads zero] at next
      cases next
      rcases marked with rfl | rfl <;> decide
  have exponent : (whole ++ mark :: ds).any (· == 'e') = false := by
    rw [List.any_eq_false]
    intro c mem
    obtain digit | rfl | rfl := plain c mem
    · simp [Digits.ne_mark digit]
    · decide
    · decide
  have point : (whole ++ mark :: ds).any (fun c => c == 'd' || c == '.') = true := by
    rw [List.any_eq_true]
    exact ⟨mark, by simp, by simpa using marked⟩
  have untimed := not_timestamp_plain (List.forall_mem_cons.2 ⟨.inl first, plain⟩) negative
  exact number.written (numeral_number number untimed (.decimal exponent point worth))

theorem fits64_of_bounds {n : Int} (low : -0x8000000000000000 ≤ n) (high : n < 0x8000000000000000) :
    fits64 n = true := by
  simp only [fits64, Bool.and_eq_true, decide_eq_true_eq]
  exact ⟨low, high⟩

theorem written_decimal {x : Decimal} (low : -0x8000000000000000 < x.scale)
    (high : x.scale < 0x8000000000000000) : Written (decimalChars x) (.decimal x) := by
  obtain ⟨n, scale⟩ := x
  rw [decimalChars_eq]
  dsimp only at low high ⊢
  by_cases whole : scale ≤ 0
  · obtain ⟨k, rfl⟩ : ∃ k : Nat, scale = -k := ⟨(-scale).toNat, by omega⟩
    obtain ⟨d, ds, split, digits⟩ := Digits.decimal_cons n.natAbs
    have mantissa : IsMantissa (d :: ds) [] [] :=
      ⟨by simp, by rwa [List.append_nil], .inl ⟨rfl, rfl⟩⟩
    have exponent : signed? digitValue? 10 (Digits.decimal k) = some (k : Int) :=
      signed?_decimal false k
    have worth := mantissa.decimal? (.inr ⟨_, rfl, exponent⟩)
      (fits64_of_bounds (by omega) (by omega))
      (fits64_of_bounds (by simp; omega) (by simp; omega)) (decide (n < 0))
    rw [if_pos whole, Int.neg_neg, Int.toNat_natCast, split]
    have value := Digits.ofDecimal_decimal n.natAbs
    rw [split] at value
    rw [List.append_nil, value, ite_neg_natAbs] at worth
    refine written_marked ?_ (leads_decimal split) (.inl rfl) (by simpa using worth)
    rw [List.forall_mem_append]
    exact ⟨digits, fun _ => Digits.isDigit_of_mem_decimal⟩
  · rw [if_neg whole]
    obtain ⟨d, front, fraction, text, digits, length, value, leads⟩ :=
      placePoint_parts (n := n.natAbs) (k := scale.toNat) (by omega)
    rw [text]
    refine written_marked digits leads (.inr rfl) ?_
    have mantissa : IsMantissa (d :: front) ('.' :: fraction) fraction :=
      ⟨by simp, digits, .inr rfl⟩
    have worth := mantissa.decimal? (.inl ⟨rfl, rfl⟩) (fits64_of_bounds (by decide) (by decide))
      (fits64_of_bounds (by omega) (by omega)) (decide (n < 0))
    rw [value, length, ite_neg_natAbs, Int.toNat_of_nonneg (by omega), Int.sub_zero,
      List.append_nil] at worth
    simpa using worth

/-! ## Floats -/

theorem isNumber_scientific {digits : List Char} (all : ∀ c ∈ d :: ds, c.isDigit = true)
    (exponent : ∀ c ∈ digits, c.isDigit = true) (down : Bool) :
    IsNumber d ((if ds.length + 1 ≤ 1 then [] else '.' :: ds) ++ 'e' :: (sign down ++ digits)) := by
  obtain ⟨first, others⟩ := List.forall_mem_cons.1 all
  have back : ∀ c ∈ 'e' :: (sign down ++ digits), isNumberChar c = true := by
    simp only [List.forall_mem_cons, List.forall_mem_append]
    refine ⟨by decide, ?_, fun c mem => isNumberChar_of_isDigit (exponent c mem)⟩
    cases down with
    | true => simp [sign, isNumberChar]
    | false => simp [sign]
  split
  · exact ⟨first, back, fun _ c next => by cases next; rfl⟩
  · refine ⟨first, ?_, fun _ c next => by cases next; rfl⟩
    rw [List.cons_append, List.forall_mem_cons, List.forall_mem_append]
    exact ⟨by decide, fun c mem => isNumberChar_of_isDigit (others c mem), back⟩

theorem written_float (negative : Bool) {m : Nat} {e : Int} (canonical : Binary64.Canonical m e) :
    Written (Binary64.ionChars (.finite negative m e canonical))
      (.float (.finite negative m e canonical)) := by
  have parsed := Binary64.parse?_ionChars negative canonical
  obtain ⟨d, ds, split, digits⟩ := Digits.decimal_cons (Binary64.shortest m e canonical).1
  generalize place : (Binary64.shortest m e canonical).2 + (ds.length : Int) = lead
  have text : Binary64.ionChars (.finite negative m e canonical) = sign negative ++
      d :: ((if ds.length + 1 ≤ 1 then [] else '.' :: ds) ++
        'e' :: (sign (decide (lead < 0)) ++ Digits.decimal lead.natAbs)) := by
    have parts := Binary64.scientificChars_cons negative (Binary64.shortest m e canonical).2 split
    rw [place] at parts
    exact parts.trans (by simp [sign])
  have number := isNumber_scientific digits
    (fun _ => Digits.isDigit_of_mem_decimal (n := lead.natAbs)) (decide (lead < 0))
  have plain : ∀ negative, looksLikeTimestamp (sign negative ++ d ::
      ((if ds.length + 1 ≤ 1 then [] else '.' :: ds) ++
        'e' :: (sign (decide (lead < 0)) ++ Digits.decimal lead.natAbs))) = false := by
    intro negative
    cases negative with
    | true => exact not_timestamp_signed _
    | false =>
      cases ds with
      | nil => exact not_timestamp_short rfl _
      | cons x xs => exact not_timestamp_short rfl _
  rw [text] at parsed ⊢
  exact number.written (numeral_number number (plain negative) (.float (by simp) parsed))

/-! ## Timestamps -/

theorem looksLikeTimestamp_of_front {year : List Char} {mark : Char} (length : year.length = 4)
    (digits : ∀ c ∈ year, c.isDigit = true) (marked : mark = '-' ∨ mark = 'T') :
    looksLikeTimestamp (year ++ mark :: tail) = true := by
  have all : year.all Char.isDigit = true := List.all_eq_true.2 digits
  unfold looksLikeTimestamp
  rw [List.take_append_of_le_length (by omega), List.drop_append_of_le_length (by omega),
    List.take_of_length_le (by omega), List.drop_of_length_le (by omega), length, all]
  rcases marked with rfl | rfl <;> rfl

/-- The marks of a timestamp are none that a token could end with. -/
theorem isNumeralChar_timestamp {t : Timestamp} (parsed : Timestamp.Parsed t) :
    ∀ c ∈ t.toChars, isNumeralChar c = true := by
  have padded : ∀ width n, ∀ c ∈ Timestamp.padded width n, isNumeralChar c = true :=
    fun width n c mem => isNumeralChar_of_isDigit (Timestamp.isDigit_of_mem_padded mem)
  have offset : ∀ o, ∀ c ∈ Timestamp.offsetChars o, isNumeralChar c = true := by
    intro o
    unfold Timestamp.offsetChars
    split
    · exact List.all_eq_true.1 (by decide)
    · split
      · exact List.all_eq_true.1 (by decide)
      · simp only [List.forall_mem_cons, List.forall_mem_append]
        refine ⟨?_, padded _ _, by decide, padded _ _⟩
        split <;> decide
  have marks : isNumeralChar '-' = true ∧ isNumeralChar 'T' = true ∧ isNumeralChar ':' = true ∧
      isNumeralChar '.' = true := by decide
  have nothing : ∀ c ∈ ([] : List Char), isNumeralChar c = true := by simp
  obtain ⟨hyphen, mark, colon, point⟩ := marks
  cases parsed with
  | fraction year month day hour minute second ds o filled digits =>
    have fraction : ∀ c ∈ ds, isNumeralChar c = true := fun c mem =>
      isNumeralChar_of_isDigit (digits c mem)
    simp only [Timestamp.toChars, List.forall_mem_append, List.forall_mem_cons]
    and_intros <;> first | assumption | exact padded _ _ | exact offset _
  | _ =>
    simp only [Timestamp.toChars, Timestamp.ofYear, List.forall_mem_append, List.forall_mem_cons]
    and_intros <;> first | assumption | exact padded _ _ | exact offset _

theorem written_timestamp {t : Timestamp} (parsed : Timestamp.Parsed t) :
    Written t.toChars (.timestamp t) := by
  have chars := isNumeralChar_timestamp parsed
  have read := Timestamp.parse?_toChars parsed
  obtain ⟨short, mark, tail, text, marked⟩ := Timestamp.toChars_front parsed
  have length := Timestamp.length_padded (show 0 < 4 by decide) short
  have digits : ∀ c ∈ Timestamp.padded 4 t.year, c.isDigit = true :=
    fun _ => Timestamp.isDigit_of_mem_padded
  have looks : looksLikeTimestamp t.toChars = true := by
    rw [text]
    exact looksLikeTimestamp_of_front length digits marked
  refine ⟨?_, chars, ?_⟩
  · obtain ⟨d, ds, split⟩ := List.exists_cons_of_length_pos
      (show 0 < (Timestamp.padded 4 t.year).length by omega)
    refine ⟨false, d, ds ++ mark :: tail, ?_, digits d (split ▸ List.mem_cons_self ..)⟩
    rw [text, split]
    rfl
  · rw [numeral, if_pos looks, read]

end Isl.Ion
