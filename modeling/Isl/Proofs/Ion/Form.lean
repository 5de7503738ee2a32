import Isl.Proofs.Ion.Numeral
import Isl.Proofs.Number.Numeral
/-!
# Forms of numbers

A number without its underscores is told by its form: an int in one of three radices, a decimal with
a point or an exponent, or a float. What is read as an int or as a decimal has the form of one, and
each form is read as what its digits denote.

* `IntText`, `DecimalText`: the texts of ints and decimals, with the digits that stand in them;
* `signed?_eq_some_iff`, `front_digits`: digits behind a sign, and zeros in front;
* `IntText.settles`, `DecimalText.settles`: how a form is read;
* `intText_of_readsAs`, `decimalText_of_readsAs`: what is read has a form;
* `not_timestamp_readsAs`: and it does not look like a timestamp.
-/
namespace Isl.Ion

open Digits (IsDigit Digital denoted)

/-! ## Forms -/

/-- One sign or none, and whether it is a minus. -/
inductive Sign : List Char → Bool → Prop where
  | none : Sign [] false
  | plus : Sign ['+'] false
  | minus : Sign ['-'] true

/-- Digits behind one sign or none. -/
inductive SignedText (radix : Nat) : List Char → Int → Prop where
  | intro {front cs : List Char} {negative : Bool} {ds : List Nat} (inner : Sign front negative)
      (digits : Digital radix cs ds) (filled : ds ≠ []) :
      SignedText radix (front ++ cs) (signed negative (denoted radix ds))

/-- The mark behind a zero that announces a radix. -/
inductive Announces : Char → Nat → Prop where
  | lower16 : Announces 'x' 16
  | upper16 : Announces 'X' 16
  | lower2 : Announces 'b' 2
  | upper2 : Announces 'B' 2

/-- A zero in front stands alone. -/
def NoLeadingZero (ds : List Nat) : Prop := ds.head? = some 0 → ds = [0]

/-- An int: decimal digits, or digits of a radix behind its mark; there one more sign may stand. -/
inductive IntText : List Char → Int → Prop where
  | decimal {cs : List Char} {ds : List Nat} (negative : Bool) (digits : Digital 10 cs ds)
      (filled : ds ≠ []) (leads : NoLeadingZero ds) :
      IntText (sign negative ++ cs) (signed negative (denoted 10 ds))
  | radix {mark : Char} {radix : Nat} {cs : List Char} {n : Int} (negative : Bool)
      (announced : Announces mark radix) (digits : SignedText radix cs n) :
      IntText (sign negative ++ '0' :: mark :: cs) (signed negative n)

/-- A point with digits behind it, or nothing. -/
inductive PointText : List Char → List Nat → Prop where
  | none : PointText [] []
  | point {cs : List Char} {fraction : List Nat} (digits : Digital 10 cs fraction) :
      PointText ('.' :: cs) fraction

/-- An exponent behind its mark, or nothing, which stands for zero. -/
inductive ExponentText : List Char → Int → Prop where
  | none : ExponentText [] 0
  | marked {c : Char} {cs : List Char} {e : Int} (mark : c = 'd' ∨ c = 'D')
      (power : SignedText 10 cs e) : ExponentText (c :: cs) e

/-- `[-]whole[.fraction][d exponent]`, with a point or an exponent. -/
inductive DecimalText : List Char → Bool → List Nat → List Nat → Int → Prop where
  | intro {cs point power : List Char} {whole fraction : List Nat} {e : Int} (negative : Bool)
      (digits : Digital 10 cs whole) (filled : whole ≠ []) (leads : NoLeadingZero whole)
      (places : PointText point fraction) (exponent : ExponentText power e)
      (marked : point ≠ [] ∨ power ≠ []) :
      DecimalText (sign negative ++ (cs ++ (point ++ power))) negative whole fraction e

/-- What may follow the digits in front: a point, the mark of an exponent or nothing. -/
def DecimalFollows (rest : List Char) : Prop :=
  ∀ c, rest.head? = some c → c = '.' ∨ c = 'd' ∨ c = 'D'

variable {c d mark : Char} {cs ds us tail rest point power token text : List Char}
variable {negative : Bool} {radix : Nat} {n e : Int} {v : Value}
variable {value? : Char → Option Nat} {digits whole fraction : List Nat}

/-! ## Digits behind a sign -/

/-- The signs are digits of no radix. -/
theorem not_isDigit (small : radix ≤ 16) (d : Nat) :
    ¬IsDigit radix '-' d ∧ ¬IsDigit radix '+' d := by
  have all : ∀ d < 16, ('-' ≠ Nat.digitChar d ∧ '-' ≠ (Nat.digitChar d).toUpper) ∧
      '+' ≠ Nat.digitChar d ∧ '+' ≠ (Nat.digitChar d).toUpper := by decide
  refine ⟨?_, ?_⟩
  all_goals
    rintro ⟨below, same⟩
    have := all d (by omega)
    simp_all

theorem signed?_sign (value? : Char → Option Nat) (radix : Nat) (minus : c ≠ '-') (plus : c ≠ '+')
    (negative : Bool) (cs : List Char) :
    signed? value? radix (sign negative ++ c :: cs) =
      (Digits.numeral? value? radix (c :: cs)).map fun n : Nat => signed negative n := by
  cases negative with
  | true =>
    simp only [sign, if_true, List.singleton_append, signed?]
    cases Digits.numeral? value? radix (c :: cs) <;> rfl
  | false =>
    simp only [sign, Bool.false_eq_true, if_false, List.nil_append]
    unfold signed?
    split
    · rename_i split
      exact absurd (List.cons.inj split).1 minus
    · rename_i split
      exact absurd (List.cons.inj split).1 plus
    · rfl

theorem signed?_split (value? : Char → Option Nat) (radix : Nat) (cs : List Char) :
    ∃ front ds negative, cs = front ++ ds ∧ Sign front negative ∧
      signed? value? radix cs =
        (Digits.numeral? value? radix ds).map fun n : Nat => signed negative n := by
  unfold signed?
  split
  · rename_i ds
    exact ⟨_, ds, true, rfl, .minus, by cases Digits.numeral? value? radix ds <;> rfl⟩
  · exact ⟨_, _, false, rfl, .plus, rfl⟩
  · exact ⟨_, _, false, rfl, .none, rfl⟩

theorem signed?_eq_some_iff (small : radix ≤ 16)
    (reads : ∀ c d, value? c = some d ↔ IsDigit radix c d) :
    signed? value? radix cs = some n ↔ SignedText radix cs n := by
  constructor
  · intro h
    obtain ⟨front, us, negative, rfl, inner, same⟩ := signed?_split value? radix cs
    rw [same, Option.map_eq_some_iff] at h
    obtain ⟨m, read, rfl⟩ := h
    obtain ⟨ds, digital, filled, rfl⟩ := (Digits.numeral?_eq_some_iff reads).1 read
    exact .intro inner digital filled
  · rintro ⟨inner, digital, filled⟩
    have read := (Digits.numeral?_eq_some_iff reads).2 ⟨_, digital, filled, rfl⟩
    cases inner with
    | minus => simp [signed?, read, signed]
    | plus => simp [signed?, read, signed]
    | none =>
      cases digital with
      | nil => exact absurd rfl filled
      | @cons c d cs ds first others =>
        have minus : c ≠ '-' := by rintro rfl; exact (not_isDigit small d).1 first
        have plus : c ≠ '+' := by rintro rfl; exact (not_isDigit small d).2 first
        have same := signed?_sign value? radix minus plus false cs
        simpa [read, sign] using same

/-! ## What stands in front -/

theorem Announces.small (announced : Announces mark radix) : radix ≤ 16 := by
  cases announced <;> decide

theorem Announces.radix? (announced : Announces mark radix) (cs : List Char) :
    ∃ value?, Ion.radix? ('0' :: mark :: cs) = some (radix, value?) ∧
      ∀ c d, value? c = some d ↔ IsDigit radix c d := by
  cases announced with
  | lower16 | upper16 => exact ⟨_, rfl, Digits.hexValue?_iff⟩
  | lower2 | upper2 => exact ⟨_, rfl, Digits.binaryValue?_iff⟩

theorem announces_of_radix? (announced : radix? us = some (radix, value?)) :
    ∃ mark cs, us = '0' :: mark :: cs ∧ Announces mark radix ∧
      ∀ c d, value? c = some d ↔ IsDigit radix c d := by
  unfold radix? at announced
  split at announced
  · rename_i mark cs
    split_ifs at announced with hex binary
    · cases announced
      refine ⟨mark, cs, rfl, ?_, Digits.hexValue?_iff⟩
      rcases hex with rfl | rfl
      · exact .lower16
      · exact .upper16
    · cases announced
      refine ⟨mark, cs, rfl, ?_, Digits.binaryValue?_iff⟩
      rcases binary with rfl | rfl
      · exact .lower2
      · exact .upper2
  · cases announced

/-- A digit of ten in the second place announces no radix, and neither does a mark of decimals. -/
theorem radix?_second (second : d.isDigit = true ∨ d = '.' ∨ d = 'd' ∨ d = 'D') (c : Char)
    (cs : List Char) : radix? (c :: d :: cs) = none := by
  unfold radix?
  split
  · rename_i split
    cases split
    rw [if_neg, if_neg]
    · rintro (rfl | rfl) <;> simp at second
    · rintro (rfl | rfl) <;> simp at second
  · rfl

theorem hasLeadingZero_second :
    hasLeadingZero (c :: d :: cs) = false ↔ (c = '0' → d.isDigit = false) := by
  unfold hasLeadingZero
  split
  · rename_i split
    cases split
    simp
  · rename_i other
    exact iff_of_true rfl fun zero => (other d cs (zero ▸ rfl)).elim

theorem decimalFollows_nil : DecimalFollows [] := by simp [DecimalFollows]

/-- Decimal digits announce no radix, and the digits tell whether a zero leads. -/
theorem front_digits (digital : Digital 10 cs digits) (filled : digits ≠ [])
    (stops : DecimalFollows rest) :
    radix? (cs ++ rest) = none ∧ (hasLeadingZero (cs ++ rest) = false ↔ NoLeadingZero digits) := by
  cases digital with
  | nil => exact absurd rfl filled
  | @cons c d cs ds first others =>
    cases others with
    | nil =>
      have alone : NoLeadingZero [d] := fun zero => by rw [Option.some.inj zero]
      cases rest with
      | nil =>
        refine ⟨?_, iff_of_true ?_ alone⟩
        · unfold radix?
          split <;> simp_all
        · unfold hasLeadingZero
          split <;> simp_all
      | cons r rest =>
        have mark := stops r rfl
        refine ⟨radix?_second (.inr mark) _ _, iff_of_true (hasLeadingZero_second.2 ?_) alone⟩
        rintro -
        rcases mark with rfl | rfl | rfl <;> rfl
    | @cons c' d' cs ds second others =>
      refine ⟨radix?_second (.inl second.isDigit) _ _, ?_⟩
      rw [List.cons_append, List.cons_append, hasLeadingZero_second, second.isDigit,
        first.zero_iff]
      simp [NoLeadingZero]

theorem looksLikeTimestamp_iff : looksLikeTimestamp cs = true ↔ ∃ year mark tail,
    cs = year ++ mark :: tail ∧ year.length = 4 ∧ (∀ c ∈ year, c.isDigit = true) ∧
      (mark = '-' ∨ mark = 'T') := by
  constructor
  · intro looks
    simp only [looksLikeTimestamp, Bool.and_eq_true, beq_iff_eq] at looks
    obtain ⟨⟨length, digits⟩, marked⟩ := looks
    have joined := (List.take_append_drop 4 cs).symm
    split at marked
    · rename_i behind
      exact ⟨_, _, _, behind ▸ joined, length, List.all_eq_true.1 digits, .inl rfl⟩
    · rename_i behind
      exact ⟨_, _, _, behind ▸ joined, length, List.all_eq_true.1 digits, .inr rfl⟩
    · cases marked
  · rintro ⟨year, mark, tail, rfl, length, digits, marked⟩
    exact looksLikeTimestamp_of_front length digits marked

theorem dropWhile_timestamp (looks : looksLikeTimestamp cs = true) :
    ∃ mark tail, cs.dropWhile Char.isDigit = mark :: tail ∧ (mark = '-' ∨ mark = 'T') := by
  obtain ⟨year, mark, tail, rfl, -, digits, marked⟩ := looksLikeTimestamp_iff.1 looks
  refine ⟨mark, tail, (Digits.span_append digits ?_).2, marked⟩
  rintro c ⟨⟩
  rcases marked with rfl | rfl <;> rfl

/-- Digits with neither a hyphen nor a `T` behind them. -/
theorem not_timestamp (digits : ∀ c ∈ cs, c.isDigit = true)
    (stops : ∀ c, rest.head? = some c → c.isDigit = false ∧ c ≠ '-' ∧ c ≠ 'T') (negative : Bool) :
    looksLikeTimestamp (sign negative ++ (cs ++ rest)) = false := by
  cases negative with
  | true => exact not_timestamp_signed _
  | false =>
    rw [Bool.eq_false_iff]
    intro looks
    obtain ⟨mark, tail, behind, marked⟩ := dropWhile_timestamp looks
    replace behind := (Digits.span_append digits fun c next => (stops c next).1).2.symm.trans behind
    obtain ⟨-, hyphen, letter⟩ := stops mark (behind ▸ rfl)
    exact marked.elim hyphen letter

/-! ## What a token is read as -/

/-- What a number is read as, by its form. -/
inductive ReadsAs (negative : Bool) (us : List Char) : Value → Prop where
  | radix {mark : Char} {radix : Nat} {cs : List Char} {n : Int} (split : us = '0' :: mark :: cs)
      (announced : Announces mark radix) (digits : SignedText radix cs n) :
      ReadsAs negative us (.int (signed negative n))
  | float {x : Binary64} (read : Binary64.parse? (sign negative ++ us) = some x) :
      ReadsAs negative us (.float x)
  | decimal {x : Decimal} (leads : hasLeadingZero us = false)
      (mark : (sign negative ++ us).any (fun c => c == 'd' || c == 'D' || c == '.') = true)
      (read : decimal? (sign negative ++ us) = some x) : ReadsAs negative us (.decimal x)
  | int {n : Int} (leads : hasLeadingZero us = false)
      (read : signed? digitValue? 10 (sign negative ++ us) = some n) : ReadsAs negative us (.int n)

theorem readsAs_of_numberOf {token : String} (read : numberOf token negative us = .ok v) :
    ReadsAs negative us v := by
  unfold numberOf at read
  split at read
  · rename_i radix value? announced
    obtain ⟨mark, cs, rfl, announced, digits⟩ := announces_of_radix? announced
    split at read
    · rename_i n read'
      cases read
      exact .radix rfl announced ((signed?_eq_some_iff announced.small digits).1 read')
    · cases read
  · split_ifs at read with zeros exponent point
    · split at read
      · rename_i read'
        cases read
        exact .float read'
      · cases read
    · split at read
      · rename_i read'
        cases read
        exact .decimal (by simpa using zeros) point read'
      · cases read
    · split at read
      · rename_i read'
        cases read
        exact .int (by simpa using zeros) read'
      · cases read

/-! ## Forms that are read -/

/-- Decimal digits hold none of the marks that a test looks for. -/
theorem any_row {p : Char → Bool} (unmarked : ∀ n < 10, p (Nat.digitChar n) = false)
    (digital : Digital 10 cs digits) : cs.any p = false := by
  rw [List.any_eq_false]
  intro c mem
  rw [Digits.forall_digit (P := fun c => p c = false) unmarked (digital.isDigit c mem)]
  decide

/-- The mark of a test stands behind the sign and the digits. -/
theorem any_digits {p : Char → Bool} (minus : p '-' = false)
    (unmarked : ∀ n < 10, p (Nat.digitChar n) = false) (digital : Digital 10 cs digits)
    (negative : Bool) (rest : List Char) :
    (sign negative ++ (cs ++ rest)).any p = rest.any p := by
  have signs : (sign negative).any p = false := by
    cases negative <;> simp [sign, minus]
  rw [List.any_append, List.any_append, signs, any_row unmarked digital, Bool.false_or,
    Bool.false_or]

theorem PointText.head (places : PointText point fraction) :
    point = [] ∧ fraction = [] ∨ ∃ cs, point = '.' :: cs ∧ Digital 10 cs fraction := by
  cases places with
  | none => exact .inl ⟨rfl, rfl⟩
  | point digits => exact .inr ⟨_, rfl, digits⟩

theorem ExponentText.head (exponent : ExponentText power e) :
    ∀ c, power.head? = some c → c = 'd' ∨ c = 'D' := by
  cases exponent with
  | none => nofun
  | marked mark =>
    intro c next
    cases next
    exact mark

theorem decimalFollows (places : PointText point fraction) (exponent : ExponentText power e) :
    DecimalFollows (point ++ power) := by
  obtain ⟨rfl, -⟩ | ⟨fs, rfl, -⟩ := places.head
  · exact fun c next => .inr (exponent.head c next)
  · rintro c ⟨⟩
    exact .inl rfl

theorem exponent?_eq_some_iff (marked : ∀ c, power.head? = some c → c = 'd' ∨ c = 'D') :
    exponent? power = some e ↔ ExponentText power e := by
  constructor
  · intro read
    cases power with
    | nil =>
      cases read
      exact .none
    | cons c cs =>
      exact .marked (marked c rfl) ((signed?_eq_some_iff (by decide) Digits.digitValue?_iff).1 read)
  · rintro (_ | ⟨-, text⟩)
    · rfl
    · exact (signed?_eq_some_iff (by decide) Digits.digitValue?_iff).2 text

theorem PointText.any_exponent (places : PointText point fraction) :
    point.any (fun c => c == 'e' || c == 'E') = false := by
  cases places with
  | none => rfl
  | point digits =>
    rw [List.any_cons, any_row (by decide) digits]
    rfl

theorem ExponentText.any_exponent (exponent : ExponentText power e) :
    power.any (fun c => c == 'e' || c == 'E') = false := by
  cases exponent with
  | none => rfl
  | marked mark text =>
    obtain ⟨inner, digits, -⟩ := text
    rw [List.any_cons, List.any_append, any_row (by decide) digits]
    rcases mark with rfl | rfl <;> cases inner <;> rfl

theorem signed?_digits (digital : Digital 10 cs digits) (filled : digits ≠ []) (negative : Bool) :
    signed? digitValue? 10 (sign negative ++ cs) =
      some (signed negative (denoted 10 digits)) := by
  have read := (Digits.numeral?_eq_some_iff Digits.digitValue?_iff).2 ⟨_, digital, filled, rfl⟩
  cases digital with
  | nil => exact absurd rfl filled
  | cons first =>
    obtain ⟨minus, plus, -⟩ := Digits.ne_mark first.isDigit
    rw [signed?_sign _ _ minus plus, read]
    rfl

/-- Digits alone are an int, and digits with something behind them are a decimal. -/
theorem numberOf_digits (token : String) (digital : Digital 10 cs digits) (filled : digits ≠ [])
    (leads : NoLeadingZero digits) (stops : DecimalFollows rest)
    (exponent : rest.any (fun c => c == 'e' || c == 'E') = false) (negative : Bool) :
    numberOf token negative (cs ++ rest) =
      if rest.isEmpty then .ok (.int (signed negative (denoted 10 digits)))
      else match decimal? (sign negative ++ (cs ++ rest)) with
        | some x => .ok (.decimal x)
        | none => .error (.invalidDecimal token) := by
  obtain ⟨radix, zeros⟩ := front_digits digital filled stops
  have point := any_digits (p := fun c => c == 'd' || c == 'D' || c == '.') (by decide) (by decide)
    digital negative rest
  rw [← any_digits (by decide) (by decide) digital negative] at exponent
  rw [numberOf, radix, zeros.2 leads, exponent, point]
  cases rest with
  | nil =>
    rw [List.append_nil, signed?_digits digital filled]
    rfl
  | cons r rest =>
    rcases stops r rfl with rfl | rfl | rfl <;> rfl

/-- Numbers that fit 64 bits. -/
def Fits64 (n : Int) : Prop := -2 ^ 63 ≤ n ∧ n < 2 ^ 63

instance (n : Int) : Decidable (Fits64 n) := by unfold Fits64; infer_instance

theorem fits64_iff : fits64 n = true ↔ Fits64 n := by
  simp [fits64, Fits64]

theorem decimal?_digits (digital : Digital 10 cs whole) (filled : whole ≠ [])
    (places : PointText point fraction) (exponent : ExponentText power e) (negative : Bool) :
    decimal? (sign negative ++ (cs ++ (point ++ power))) =
      if Fits64 e ∧ Fits64 (fraction.length - e) then
        some ⟨signed negative (denoted 10 (whole ++ fraction)), fraction.length - e⟩
      else none := by
  have read := (exponent?_eq_some_iff exponent.head).2 exponent
  have some : cs ≠ [] := mt digital.eq_nil_iff.1 filled
  -- the digits behind the point as they are written
  obtain ⟨fs, row, mantissa⟩ : ∃ fs, Digital 10 fs fraction ∧ IsMantissa cs point fs := by
    obtain ⟨rfl, rfl⟩ | ⟨fs, rfl, digits⟩ := places.head
    · exact ⟨[], .nil, some, by simpa using digital.isDigit, .inl ⟨rfl, rfl⟩⟩
    · exact ⟨fs, digits, some, (digital.append digits).isDigit, .inr rfl⟩
  have worth := (digital.append row).ofDecimal_eq (by simp [filled])
  rw [← List.append_assoc cs, ← List.append_assoc, mantissa.decimal?_eq exponent.head, read,
    Option.bind_some, worth, row.length_eq]
  simp only [fits64_iff]
  rfl

/-- What a form shows of a token: its front, that it is no timestamp and what it is read as. -/
def Settles (cs : List Char) (negative : Bool) (answer : String → Except SyntaxFault Value) :
    Prop :=
  looksLikeTimestamp cs = false ∧ ∃ d tail, cs = sign negative ++ d :: tail ∧ d.isDigit = true ∧
    ∀ token, numberOf token negative (d :: tail) = answer token

theorem settles_digits (digital : Digital 10 cs digits) (filled : digits ≠ [])
    (leads : NoLeadingZero digits) (stops : DecimalFollows rest)
    (exponent : rest.any (fun c => c == 'e' || c == 'E') = false) (negative : Bool) :
    Settles (sign negative ++ (cs ++ rest)) negative fun token =>
      if rest.isEmpty then .ok (.int (signed negative (denoted 10 digits)))
      else match decimal? (sign negative ++ (cs ++ rest)) with
        | some x => .ok (.decimal x)
        | none => .error (.invalidDecimal token) := by
  have read (token : String) :=
    numberOf_digits token digital filled leads stops exponent negative
  refine ⟨not_timestamp digital.isDigit (fun c next => ?_) negative, ?_⟩
  · rcases stops c next with rfl | rfl | rfl <;> decide
  · cases digital with
    | nil => exact absurd rfl filled
    | cons first => exact ⟨_, _, rfl, first.isDigit, read⟩

theorem IntText.settles (text : IntText cs n) :
    ∃ negative, Settles cs negative fun _ => .ok (.int n) := by
  cases text with
  | @decimal cs ds negative digital filled leads =>
    have settles := settles_digits digital filled leads decimalFollows_nil rfl negative
    exact ⟨negative, by simpa using settles⟩
  | @radix mark radix cs n negative announced text =>
    obtain ⟨value?, found, reads⟩ := announced.radix? cs
    have read := (signed?_eq_some_iff announced.small reads).2 text
    refine ⟨negative, ?_, '0', mark :: cs, rfl, rfl, fun token => ?_⟩
    · change looksLikeTimestamp (sign negative ++ (['0'] ++ mark :: cs)) = false
      refine not_timestamp (List.forall_mem_singleton.2 rfl) ?_ negative
      rintro c ⟨⟩
      cases announced <;> decide
    · simp only [numberOf, found, List.drop, read]

theorem DecimalText.settles (text : DecimalText cs negative whole fraction e) :
    Settles cs negative fun token =>
      if Fits64 e ∧ Fits64 (fraction.length - e) then
        .ok (.decimal ⟨signed negative (denoted 10 (whole ++ fraction)), fraction.length - e⟩)
      else .error (.invalidDecimal token) := by
  obtain ⟨-, digital, filled, leads, places, exponent, marked⟩ := text
  rename_i ds point power
  have plain : (point ++ power).any (fun c => c == 'e' || c == 'E') = false := by
    rw [List.any_append, places.any_exponent, exponent.any_exponent]
    rfl
  have full : (point ++ power).isEmpty = false := by
    simpa [← not_and_or] using marked
  have stops := decimalFollows places exponent
  have settles := settles_digits digital filled leads stops plain negative
  simp only [decimal?_digits digital filled places exponent, full, Bool.false_eq_true,
    if_false] at settles
  split_ifs at settles ⊢ with fits
  · exact settles
  · exact settles

/-! ## Readings have a form -/

theorem pointText_of_digits (dot : ∀ c, point.head? = some c → c = '.')
    (digital : Digital 10 (point.drop 1) fraction) : PointText point fraction := by
  cases point with
  | nil =>
    cases digital
    exact .none
  | cons c cs =>
    obtain rfl := dot c rfl
    exact .point digital

/-- What is left behind a run begins with something else. -/
theorem head_dropWhile {p : Char → Bool} (next : (cs.dropWhile p).head? = some c) :
    p c = false := by
  have stops := List.head?_dropWhile_not p cs
  rwa [next] at stops

/-- The parts of a decimal that is read. -/
theorem exists_parts {x : Decimal} (digit : d.isDigit = true)
    (read : decimal? (sign negative ++ d :: tail) = some x) :
    ∃ cs point power whole fraction e, d :: tail = cs ++ (point ++ power) ∧
      Digital 10 cs whole ∧ whole ≠ [] ∧ PointText point fraction ∧ ExponentText power e := by
  obtain ⟨minus, -, -, -, lower, upper, -⟩ := Digits.ne_mark digit
  -- the sign is no mark of an exponent, and the cut leaves a digit behind it
  have unmarked : ∀ c ∈ sign negative, (!(c == 'd' || c == 'D')) = true := fun c minus => by
    rw [mem_sign minus]
    rfl
  have unsigned : ∀ ds, (d :: tail).takeWhile (fun c => !(c == 'd' || c == 'D')) = '-' :: ds →
      False := by
    intro ds split
    rw [List.takeWhile_cons_of_pos (by simp [lower, upper])] at split
    exact minus (List.cons.inj split).1
  rw [decimal?_cut (List.takeWhile_append_of_pos unmarked) unsigned,
    List.dropWhile_append_of_pos unmarked] at read
  obtain ⟨e, exponent, read⟩ := Option.bind_eq_some_iff.1 read
  obtain ⟨n, numeral, read⟩ := Option.bind_eq_some_iff.1 read
  obtain ⟨⟨filled, -⟩, -⟩ := Option.ite_none_right_eq_some.1 read
  obtain ⟨ds, digital, -⟩ := (Digits.numeral?_eq_some_iff Digits.digitValue?_iff).1 numeral
  obtain ⟨whole, fraction, rfl, first, behind⟩ := Digital.split digital
  refine ⟨_, _, _, whole, fraction, e, ?_, first, ?_, pointText_of_digits ?_ behind,
    (exponent?_eq_some_iff ?_).1 exponent⟩
  · rw [← List.append_assoc, List.takeWhile_append_dropWhile, List.takeWhile_append_dropWhile]
  · intro none
    rw [(Digital.eq_nil_iff first).2 none] at filled
    cases filled
  · exact fun c next => by simpa using head_dropWhile next
  · exact fun c next => by simpa [-not_or, or_iff_not_imp_left] using head_dropWhile next

theorem intText_of_readsAs (digit : d.isDigit = true)
    (read : ReadsAs negative (d :: tail) (.int n)) : IntText (sign negative ++ d :: tail) n := by
  obtain ⟨minus, plus, -⟩ := Digits.ne_mark digit
  cases read with
  | radix split announced text =>
    rw [split]
    exact .radix negative announced text
  | int leads read =>
    rw [signed?_sign _ _ minus plus, Option.map_eq_some_iff] at read
    obtain ⟨m, read, rfl⟩ := read
    obtain ⟨ds, digital, filled, rfl⟩ :=
      (Digits.numeral?_eq_some_iff Digits.digitValue?_iff).1 read
    have front := front_digits digital filled decimalFollows_nil
    rw [List.append_nil] at front
    exact .decimal negative digital filled (front.2.1 leads)

theorem decimalText_of_readsAs {x : Decimal} (digit : d.isDigit = true)
    (read : ReadsAs negative (d :: tail) (.decimal x)) :
    ∃ whole fraction e, DecimalText (sign negative ++ d :: tail) negative whole fraction e ∧
      Fits64 e ∧ Fits64 (fraction.length - e) ∧
      x = ⟨signed negative (denoted 10 (whole ++ fraction)), fraction.length - e⟩ := by
  obtain - | - | ⟨leads, mark, read⟩ := read
  obtain ⟨cs, point, power, whole, fraction, e, split, digital, filled, places, exponent⟩ :=
    exists_parts digit read
  rw [split] at leads mark read ⊢
  rw [any_digits (by decide) (by decide) digital] at mark
  rw [decimal?_digits digital filled places exponent, Option.ite_none_right_eq_some] at read
  obtain ⟨⟨fits, fits'⟩, same⟩ := read
  have marked : point ≠ [] ∨ power ≠ [] := by
    by_contra nothing
    simp only [not_or, not_not] at nothing
    rw [nothing.1, nothing.2] at mark
    cases mark
  have leads := (front_digits digital filled (decimalFollows places exponent)).2.1 leads
  exact ⟨whole, fraction, e, .intro negative digital filled leads places exponent marked, fits,
    fits', (Option.some.inj same).symm⟩

/-- What reads as a float does not look like a timestamp. -/
theorem not_timestamp_float {x : Binary64} (digit : d.isDigit = true)
    (read : Binary64.parse? (sign negative ++ d :: tail) = some x) :
    looksLikeTimestamp (sign negative ++ d :: tail) = false := by
  rw [Bool.eq_false_iff]
  intro looks
  cases negative with
  | true =>
    rw [sign, if_pos rfl, List.singleton_append, not_timestamp_signed] at looks
    cases looks
  | false =>
    have read' := (Binary64.parse?_signed digit false tail).symm.trans read
    obtain ⟨mark, rest, behind, marked⟩ := dropWhile_timestamp looks
    simp only [sign, List.nil_append, Bool.false_eq_true, if_false] at behind
    rcases marked with rfl | rfl
    all_goals simp [Binary64.unsigned?, behind, Binary64.exponent?] at read'

/-- What is read by its form does not look like a timestamp. -/
theorem not_timestamp_readsAs (digit : d.isDigit = true) (read : ReadsAs negative (d :: tail) v) :
    looksLikeTimestamp (sign negative ++ d :: tail) = false := by
  cases v with
  | int n =>
    obtain ⟨negative, settles⟩ := (intText_of_readsAs digit read).settles
    exact settles.1
  | decimal x =>
    obtain ⟨whole, fraction, e, text, -⟩ := decimalText_of_readsAs digit read
    exact text.settles.1
  | float x =>
    obtain - | read := read
    exact not_timestamp_float digit read
  | _ => cases read

end Isl.Ion
