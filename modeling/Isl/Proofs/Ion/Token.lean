import Isl.Proofs.Ion.Depth
import Isl.Proofs.Ion.Form
/-!
# Numeric tokens and what they denote

Where a sign or none and a digit stand, the reader takes a token: all characters that numbers may be
made of. It reads it as what the form of the token without its underscores tells.

* `IsToken`, `TokenReads`: tokens, and what is read at them, alone or with other text behind;
* `tokenReads_iff`, `exists_token`: it is the value of the token, and ints and decimals are read in
  no other way;
* `numeral_int_iff`, `numeral_decimal_iff`: the tokens of ints and of decimals;
* `numeral_cleaned`: underscores do not matter;
* `numbers_exact`: all of it together.
-/
namespace Isl.Ion

open Digits (Digital denoted)

variable {c d : Char} {cs tail rest token : List Char} {negative inSexp : Bool} {n : Int}
variable {v : Value} {limits : Limits}

/-! ## Tokens -/

/-- A sign or none, a digit, and other characters of numbers: where the reader takes a number. -/
structure IsToken (token : List Char) : Prop where
  front : BeginsNumber token
  chars : ∀ c ∈ token, isNumeralChar c = true

theorem cleaned_front (digit : d.isDigit = true) (negative : Bool) (tail : List Char) :
    cleaned (sign negative ++ d :: tail) = sign negative ++ d :: cleaned tail := by
  have plain := (Digits.ne_mark digit).2.2.1
  cases negative <;> simp [cleaned, sign, plain]

theorem cleaned_cleaned (token : List Char) : cleaned (cleaned token) = cleaned token := by
  simp [cleaned]

theorem IsToken.cleaned (h : IsToken token) : IsToken (cleaned token) := by
  obtain ⟨⟨negative, d, tail, rfl, digit⟩, chars⟩ := h
  exact ⟨⟨negative, d, _, cleaned_front digit negative tail, digit⟩,
    fun c mem => chars c (List.mem_of_mem_filter mem)⟩

/-- Underscores hide no timestamp. -/
theorem untimed_of_cleaned (untimed : looksLikeTimestamp (cleaned token) = false) :
    looksLikeTimestamp token = false := by
  rw [Bool.eq_false_iff] at untimed ⊢
  intro looks
  obtain ⟨year, mark, tail, rfl, length, digits, marked⟩ := looksLikeTimestamp_iff.1 looks
  have row : year.filter (· != '_') = year := by
    refine List.filter_eq_self.2 fun c mem => ?_
    simpa using (Digits.ne_mark (digits c mem)).2.2.1
  have kept : (mark != '_') = true := by
    rcases marked with rfl | rfl <;> rfl
  rw [cleaned, List.filter_append, row, List.filter_cons_of_pos (p := (· != '_')) kept] at untimed
  exact untimed (looksLikeTimestamp_of_front length digits marked)

/-- A form settles what a token is read as. -/
theorem numeral_settled {answer : String → Except SyntaxFault Value}
    (settles : Settles (cleaned token) negative answer) :
    numeral token = answer (String.ofList token) := by
  obtain ⟨untimed, d, tail, front, digit, read⟩ := settles
  rw [numeral_eq (untimed_of_cleaned untimed) digit front, read]

theorem readsAs_of_numeral (h : IsToken token) (untimed : looksLikeTimestamp token = false)
    (read : numeral token = .ok v) : ∃ negative d tail,
      cleaned token = sign negative ++ d :: tail ∧ d.isDigit = true ∧
        ReadsAs negative (d :: tail) v := by
  obtain ⟨⟨negative, d, tail, rfl, digit⟩, -⟩ := h
  have front := cleaned_front digit negative tail
  rw [numeral_eq untimed digit front] at read
  exact ⟨negative, d, cleaned tail, front, digit, readsAs_of_numberOf read⟩

/-- Only a timestamp is read where one is expected. -/
theorem untimed_of_numeral (other : ∀ t, v ≠ .timestamp t) (read : numeral token = .ok v) :
    looksLikeTimestamp token = false := by
  rw [Bool.eq_false_iff]
  intro looks
  rw [numeral, if_pos looks] at read
  split at read
  · rename_i t _
    exact other t (Except.ok.inj read).symm
  · cases read

theorem numeral_int_iff (h : IsToken token) :
    numeral token = .ok (.int n) ↔ IntText (cleaned token) n := by
  constructor
  · intro read
    obtain ⟨negative, d, tail, front, digit, reads⟩ :=
      readsAs_of_numeral h (untimed_of_numeral (by simp) read) read
    rw [front]
    exact intText_of_readsAs digit reads
  · intro text
    obtain ⟨negative, settles⟩ := text.settles
    exact numeral_settled settles

theorem numeral_decimal_iff {x : Decimal} (h : IsToken token) :
    numeral token = .ok (.decimal x) ↔ ∃ negative whole fraction e,
      DecimalText (cleaned token) negative whole fraction e ∧
        Fits64 e ∧ Fits64 (fraction.length - e) ∧
          x = ⟨signed negative (denoted 10 (whole ++ fraction)), fraction.length - e⟩ := by
  constructor
  · intro read
    obtain ⟨negative, d, tail, front, digit, reads⟩ :=
      readsAs_of_numeral h (untimed_of_numeral (by simp) read) read
    rw [front]
    exact ⟨negative, decimalText_of_readsAs digit reads⟩
  · rintro ⟨negative, whole, fraction, e, text, fits, fits', rfl⟩
    rw [numeral_settled text.settles, if_pos ⟨fits, fits'⟩]

theorem numberOf_eq_ok_iff (token token' : String) (negative : Bool) (us : List Char) :
    numberOf token negative us = .ok v ↔ numberOf token' negative us = .ok v := by
  unfold numberOf
  split
  · split <;> simp
  · split_ifs
    · simp
    · split <;> simp
    · split <;> simp
    · split <;> simp

/-- The underscores of a token are left in the texts of its errors alone. -/
theorem numeral_cleaned_of_untimed (h : IsToken token)
    (untimed : looksLikeTimestamp (cleaned token) = false) :
    numeral token = .ok v ↔ numeral (cleaned token) = .ok v := by
  have untimed' := untimed_of_cleaned untimed
  obtain ⟨⟨negative, d, tail, rfl, digit⟩, -⟩ := h
  have front := cleaned_front digit negative tail
  rw [numeral_eq untimed' digit front,
    numeral_eq untimed digit (by rw [cleaned_cleaned, front])]
  exact numberOf_eq_ok_iff ..

theorem numeral_cleaned (h : IsToken token) (other : ∀ t, v ≠ .timestamp t) :
    numeral token = .ok v ↔ numeral (cleaned token) = .ok v := by
  constructor
  · intro read
    obtain ⟨negative, d, tail, front, digit, reads⟩ :=
      readsAs_of_numeral h (untimed_of_numeral other read) read
    -- without its underscores `2_007T` would look like a timestamp, but no form does
    refine (numeral_cleaned_of_untimed h ?_).1 read
    rw [front]
    exact not_timestamp_readsAs digit reads
  · intro read
    exact (numeral_cleaned_of_untimed h (untimed_of_numeral other read)).2 read

/-- No timestamp is spelled with underscores. -/
theorem cleaned_timestamp {t : Timestamp} (h : IsToken token)
    (read : numeral token = .ok (.timestamp t)) : cleaned token = token := by
  have looks : looksLikeTimestamp token = true := by
    rw [← Bool.not_eq_false]
    intro untimed
    obtain ⟨negative, d, tail, -, -, reads⟩ := readsAs_of_numeral h untimed read
    cases reads
  rw [numeral, if_pos looks] at read
  split at read
  · rename_i t parsed
    have plain := (Timestamp.parse?_eq_some_iff.1 parsed).1.unmarked
    exact List.filter_eq_self.2 fun c mem => by simpa using plain c mem
  · cases read

/-! ## What is read at a token -/

/-- What the reader does at a token: alone in a text, and with anything behind it that ends it. -/
structure TokenReads (token : List Char) (answer : Except SyntaxFault Value) : Prop where
  alone : parse (String.ofList token) =
    (answer.map fun v => [Element.ofValue v]).mapError fun fault => ⟨0, fault⟩
  anywhere : ∀ (limits : Limits) (container : Reader Value) (inSexp : Bool) (rest : List Char)
    (n : Nat), (∀ c, rest.head? = some c → isNumeralChar c = false) →
      bareValue limits container inSexp ⟨token ++ rest, n⟩ =
        (answer.map fun v => (v, (⟨rest, n + byteCount token⟩ : Cursor))).mapError
          fun fault => ⟨n, fault⟩

theorem IsToken.bareValue (h : IsToken token) (limits : Limits) (container : Reader Value)
    (inSexp : Bool) (stops : ∀ c, rest.head? = some c → isNumeralChar c = false) (n : Nat) :
    Ion.bareValue limits container inSexp ⟨token ++ rest, n⟩ =
      ((numeral token).map fun v => (v, (⟨rest, n + byteCount token⟩ : Cursor))).mapError
        fun fault => ⟨n, fault⟩ := by
  obtain ⟨⟨negative, d, tail, rfl, digit⟩, chars⟩ := h
  obtain ⟨front, back⟩ := Digits.span_append chars stops
  rw [List.append_assoc, List.cons_append, bareValue_number negative digit, ← List.cons_append,
    ← List.append_assoc]
  simp only [numeralValue, Cursor.takeWhile, front, back]
  cases numeral (sign negative ++ d :: tail) <;> rfl

theorem tokenReads_numeral (h : IsToken token) : TokenReads token (numeral token) := by
  refine ⟨?_, fun limits container inSexp _ n stops =>
    h.bareValue limits container inSexp stops n⟩
  have value := h.bareValue ⟨defaultDepth, token.length + 1⟩
    (container ⟨defaultDepth, token.length + 1⟩ defaultDepth) false
    (show ∀ c, ([] : List Char).head? = some c → isNumeralChar c = false by simp) 0
  rw [List.append_nil] at value
  obtain ⟨⟨negative, d, tail, rfl, digit⟩, -⟩ := h
  have lone := lone_number negative digit tail
  generalize sign negative ++ d :: tail = token at *
  rw [parse, parseWithin, String.toList_ofList]
  dsimp only
  rw [topLevel_item lone.starts]
  simp only [annotatedValue, annotations_lone lone, bind, Except.bind, value]
  have length := lone.starts.length_pos
  obtain ⟨budget, some⟩ := Nat.exists_eq_add_one.2 length
  cases numeral token with
  | error fault => rfl
  | ok v => simp [Except.map, Except.mapError, some, topLevel_end, Element.ofValue]

theorem tokenReads_iff {answer : Except SyntaxFault Value} (h : IsToken token) :
    TokenReads token answer ↔ numeral token = answer := by
  constructor
  · intro reads
    have same := (tokenReads_numeral h).alone.symm.trans reads.alone
    cases read : numeral token <;> cases answer <;>
      simp_all [Except.map, Except.mapError, Element.ofValue]
  · rintro rfl
    exact tokenReads_numeral h

/-! ## Numbers in a text -/

theorem isContainer_container {c c' : Cursor} {room : Nat}
    (read : container limits room c = .ok (v, c')) : v.isContainer = true := by
  cases room with
  | zero => cases read
  | succ room =>
    have only : ReadsOnly (·.isContainer = true) (container limits (room + 1) c) := by
      unfold container
      dsimp only
      split
      · exact .map _ fun _ => rfl
      · exact .map _ fun _ => rfl
      · exact .map _ fun _ => rfl
    exact only _ read

/-- Where a number begins, the reader takes a whole token. -/
theorem isToken_takeWhile (begins : BeginsNumber cs) :
    IsToken (cs.takeWhile isNumeralChar) := by
  obtain ⟨negative, d, tail, rfl, digit⟩ := begins
  have signs : ∀ c ∈ sign negative, isNumeralChar c = true := fun c minus => by
    rw [mem_sign minus]
    decide
  refine ⟨⟨negative, d, tail.takeWhile isNumeralChar, ?_, digit⟩,
    List.all_eq_true.1 List.all_takeWhile⟩
  rw [List.takeWhile_append_of_pos signs,
    List.takeWhile_cons_of_pos (isNumeralChar_of_isDigit digit)]

/-- Ints, decimals and timestamps are read from tokens alone. -/
theorem exists_token {c c' : Cursor} {room : Nat} (number : v.isNumeral = true)
    (read : bareValue limits (container limits room) inSexp c = .ok (v, c')) :
    ∃ token rest, c.rest = token ++ rest ∧
      (∀ x, rest.head? = some x → isNumeralChar x = false) ∧ IsToken token ∧
        numeral token = .ok v := by
  obtain contained | ⟨begins, taken⟩ | ⟨r, wordlike, alike⟩ := bareValue_cases limits inSexp c
  · rw [contained] at read
    have contains := isContainer_container read
    cases v with
    | list | sexp | struct => cases number
    | _ => cases contains
  · rw [taken, numeralValue] at read
    refine ⟨_, _, List.takeWhile_append_dropWhile.symm, fun x => head_dropWhile,
      isToken_takeWhile begins, ?_⟩
    dsimp only [Cursor.takeWhile] at read
    split at read
    · rename_i value
      cases read
      exact value
    · cases read
  · rw [alike] at read
    rw [(wordlike _ read).2] at number
    cases number

/-- **Numbers are exact.** Ints and decimals are read from tokens: an int as what its digits denote
in its radix, a decimal as what its digits denote, with its places less its exponent as the scale.
It is refused if exponent or scale do not fit 64 bits. Underscores do not change what is read. -/
theorem numbers_exact :
    (∀ limits room inSexp c v c', v.isNumeral = true →
      bareValue limits (container limits room) inSexp c = .ok (v, c') →
        ∃ token rest, c.rest = token ++ rest ∧
          (∀ x, rest.head? = some x → isNumeralChar x = false) ∧ IsToken token ∧
            TokenReads token (.ok v)) ∧
    ∀ token, IsToken token →
      (∀ n, TokenReads token (.ok (.int n)) ↔ IntText (cleaned token) n) ∧
      (∀ x, TokenReads token (.ok (.decimal x)) ↔ ∃ negative whole fraction e,
        DecimalText (cleaned token) negative whole fraction e ∧
          Fits64 e ∧ Fits64 (fraction.length - e) ∧
            x = ⟨signed negative (denoted 10 (whole ++ fraction)), fraction.length - e⟩) ∧
      (∀ negative whole fraction e, DecimalText (cleaned token) negative whole fraction e →
        ¬(Fits64 e ∧ Fits64 (fraction.length - e)) →
          TokenReads token (.error (.invalidDecimal (String.ofList token)))) ∧
      (∀ v, TokenReads token (.ok v) → TokenReads (cleaned token) (.ok v)) ∧
      (∀ v, (∀ t, v ≠ .timestamp t) → TokenReads (cleaned token) (.ok v) →
        TokenReads token (.ok v)) := by
  refine ⟨fun limits room inSexp c v c' number read => ?_, fun token h => ?_⟩
  · obtain ⟨token, rest, split, stops, h, value⟩ := exists_token number read
    exact ⟨token, rest, split, stops, h, (tokenReads_iff h).2 value⟩
  · simp only [tokenReads_iff h, tokenReads_iff h.cleaned]
    refine ⟨fun n => numeral_int_iff h, fun x => numeral_decimal_iff h, ?_, fun v read => ?_,
      fun v other => (numeral_cleaned h other).2⟩
    · intro negative whole fraction e text large
      rw [numeral_settled text.settles, if_neg large]
    · by_cases timed : ∃ t, v = .timestamp t
      · obtain ⟨t, rfl⟩ := timed
        rwa [cleaned_timestamp h read]
      · exact (numeral_cleaned h fun t same => timed ⟨t, same⟩).1 read

/-- Underscores in a hexadecimal int and in a decimal, and a scale that is one too large. -/
theorem numbers_exact_underscored :
    TokenReads "-0x1_00_0F".toList (.ok (.int (-65551))) ∧
      TokenReads "1_0.5_0d-3".toList (.ok (.decimal ⟨1050, 5⟩)) ∧
      TokenReads "1d-9_223372036854775808".toList
        (.error (.invalidDecimal "1d-9_223372036854775808")) := by
  have hex : IsToken "-0x1_00_0F".toList :=
    ⟨⟨true, '0', "x1_00_0F".toList, by decide, by decide⟩, List.all_eq_true.1 (by decide)⟩
  have places : IsToken "1_0.5_0d-3".toList :=
    ⟨⟨false, '1', "_0.5_0d-3".toList, by decide, by decide⟩, List.all_eq_true.1 (by decide)⟩
  have low : IsToken "1d-9_223372036854775808".toList :=
    ⟨⟨false, '1', "d-9_223372036854775808".toList, by decide, by decide⟩,
      List.all_eq_true.1 (by decide)⟩
  refine ⟨((numbers_exact.2 _ hex).1 _).2 ?_, ((numbers_exact.2 _ places).2.1 _).2 ?_,
    (numbers_exact.2 _ low).2.2.1 false [1] [] (-9223372036854775808) ?_ (by decide)⟩
  · have digits : Digital 16 "1000F".toList [1, 0, 0, 0, 15] := by decide
    exact .radix true .lower16 (.intro .none digits (by decide))
  · have whole : Digital 10 "10".toList [1, 0] := by decide
    have fraction : Digital 10 "50".toList [5, 0] := by decide
    have power : Digital 10 "3".toList [3] := by decide
    have text := DecimalText.intro false whole (by decide) (by unfold NoLeadingZero; decide)
      (.point fraction) (.marked (.inl rfl) (.intro .minus power (by decide))) (by decide)
    exact ⟨_, _, _, _, text, by decide, by decide, by decide⟩
  · have whole : Digital 10 "1".toList [1] := by decide
    have power : Digital 10 "9223372036854775808".toList
        [9, 2, 2, 3, 3, 7, 2, 0, 3, 6, 8, 5, 4, 7, 7, 5, 8, 0, 8] := by decide
    exact .intro false whole (by decide) (by unfold NoLeadingZero; decide) .none
      (.marked (.inl rfl) (.intro .minus power (by decide))) (by decide)

end Isl.Ion
