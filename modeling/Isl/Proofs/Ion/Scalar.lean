import Isl.Proofs.Ion.Numeral
import Isl.Proofs.Ion.Symbol
/-!
# Scalars that are read back

What a scalar is written as begins like no other form of value, and neither an annotation nor a
longer token is taken for it where it ends.

* `lone_word`, `lone_other`: no scalar is taken for an annotation;
* `reads_word`, `reads_typedNull`: keywords and typed nulls are read back;
* `reads_written`, `reads_infinity`: numbers and timestamps;
* `reads_string`, `reads_symbol`: quoted text and identifiers.
-/
namespace Isl.Ion

variable {c x : Char} {cs text rest run : List Char} {limits : Limits}
  {container : Reader Value} {inSexp : Bool}

/-! ## Not annotations -/

theorem lone_word (c : Char) (run : List Char) (start : isIdentStart c = true)
    (word : (c :: run).all isIdentChar = true)
    (stops : ∀ d, rest.head? = some d → isIdentChar d = false)
    (clear : ∀ n, ∃ c, skipBlank ⟨rest, n⟩ = .ok c ∧ c.rest.head? ≠ some ':') :
    Lone (c :: run ++ rest) := by
  obtain ⟨first, -, quote, -⟩ := plain_of_isIdentStart start
  refine ⟨⟨c, _, rfl, first⟩, fun n => .inr ?_⟩
  obtain ⟨behind, skipped, other⟩ := clear (n + byteCount (c :: run))
  have taken := takeWhile_ident (List.all_eq_true.1 word) stops n
  refine ⟨String.ofList (c :: run), ⟨rest, n + byteCount (c :: run)⟩, behind, ?_, skipped, other⟩
  unfold symbolToken?
  simp only [List.cons_append] at taken ⊢
  rw [if_neg (fun h => quote h.1), if_pos start, taken]

theorem lone_symbol (s : String) (boundary : Boundary rest) : Lone (symbolChars s ++ rest) := by
  refine ⟨(starts_symbol s).append rest, fun n => .inr ?_⟩
  obtain ⟨n', token⟩ := symbolToken?_symbol s (fun _ => boundary.ident) boundary.quote n
  obtain ⟨behind, skipped, other⟩ := boundary.clear n'
  exact ⟨s, ⟨rest, n'⟩, behind, token, skipped, other⟩

/-- What begins neither a quoted symbol nor an identifier. -/
theorem lone_other (start : isStart c = true) (quote : c ≠ '\'') (ident : isIdentStart c = false)
    (cs : List Char) : Lone (c :: cs) := by
  refine ⟨⟨c, cs, rfl, start⟩, fun n => .inl ?_⟩
  unfold symbolToken?
  dsimp only
  rw [if_neg (fun h => quote h.1), if_neg (by rw [ident]; decide)]

/-! ## Keywords, typed nulls and identifiers -/

theorem keywordFollows_other {keyword : List Char} (n : Nat) (other : c ≠ x) :
    keywordFollows ⟨c :: cs, n⟩ (x :: keyword) = false := by
  rw [keywordFollows, startsWith_other n other]
  rfl

/-- What begins with no quote and no sign is neither a long string nor an infinity. -/
theorem not_special (quote : c ≠ '\'') (plus : c ≠ '+') (minus : c ≠ '-') (cs : List Char)
    (n : Nat) :
    Cursor.startsWith ⟨c :: cs, n⟩ longQuote = false ∧
      keywordFollows ⟨c :: cs, n⟩ ['+', 'i', 'n', 'f'] = false ∧
      keywordFollows ⟨c :: cs, n⟩ ['-', 'i', 'n', 'f'] = false :=
  ⟨startsWith_other n quote, keywordFollows_other n plus, keywordFollows_other n minus⟩

theorem bareValue_word (start : isIdentStart c = true) (cs : List Char) (n : Nat) :
    bareValue limits container inSexp ⟨c :: cs, n⟩ = identifierValue ⟨c :: cs, n⟩ := by
  obtain ⟨-, digit, quote, double, brace, bracket, paren, plus, minus⟩ :=
    plain_of_isIdentStart start
  have special := not_special quote plus minus cs n
  simp [bareValue, digit, quote, double, brace, bracket, paren, minus, special, start]

/-- What an identifier stands for where nothing goes on with it. -/
theorem identifierValue_word (word : run.all isIdentChar = true) (boundary : Boundary rest)
    (n : Nat) :
    identifierValue ⟨run ++ rest, n⟩ =
      .ok (if String.ofList run = "null" then .null .null
        else if String.ofList run = "true" then .bool true
        else if String.ofList run = "false" then .bool false
        else if String.ofList run = "nan" then .float .nan
        else .symbol (String.ofList run), ⟨rest, n + byteCount run⟩) := by
  have taken := takeWhile_ident (List.all_eq_true.1 word) (fun _ => boundary.ident) n
  have point : rest.head? ≠ some '.' := fun first => absurd (boundary.numeral first) (by decide)
  unfold identifierValue
  simp only [taken]
  split_ifs
  · cases rest with
    | nil => rfl
    | cons c rest =>
      split
      · rename_i split
        cases split
        exact absurd rfl point
      · rfl
  all_goals rfl

theorem reads_word {v : Value} (c : Char) (run : List Char) (start : isIdentStart c = true)
    (word : (c :: run).all isIdentChar = true) (boundary : Boundary rest)
    (meaning : (if String.ofList (c :: run) = "null" then Value.null .null
        else if String.ofList (c :: run) = "true" then .bool true
        else if String.ofList (c :: run) = "false" then .bool false
        else if String.ofList (c :: run) = "nan" then .float .nan
        else .symbol (String.ofList (c :: run))) = v) :
    Reads (bareValue limits container inSexp) (c :: run) rest v := by
  intro n
  refine ⟨n + byteCount (c :: run), ?_⟩
  rw [List.cons_append, bareValue_word start, ← List.cons_append,
    identifierValue_word word boundary, meaning]

/-- A null whose type is written behind a point. -/
def typedNull (t : IonType) : List Char := ['n', 'u', 'l', 'l'] ++ '.' :: t.name.toList

theorem reads_typedNull (t : IonType) (boundary : Boundary rest) :
    Reads (bareValue limits container inSexp) (typedNull t) rest (.null t) := by
  intro n
  have front : Cursor.takeWhile ⟨['n', 'u', 'l', 'l'] ++ '.' :: (t.name.toList ++ rest), n⟩
      isIdentChar = _ := takeWhile_ident (List.all_eq_true.1 (by decide)) (by simp; decide) n
  have word : t.name.toList.all isIdentChar = true := by
    cases t <;> decide
  generalize n + byteCount ['n', 'u', 'l', 'l'] = m at front
  have back := takeWhile_ident (List.all_eq_true.1 word) (fun _ => boundary.ident) (m + 1)
  have point : Cursor.drop ⟨'.' :: (t.name.toList ++ rest), m⟩ 1 =
    ⟨t.name.toList ++ rest, m + 1⟩ := rfl
  refine ⟨m + 1 + byteCount t.name.toList, ?_⟩
  rw [typedNull, List.append_assoc]
  refine (bareValue_word (c := 'n') (by decide) _ n).trans ?_
  change identifierValue ⟨['n', 'u', 'l', 'l'] ++ '.' :: (t.name.toList ++ rest), n⟩ = _
  unfold identifierValue
  dsimp only
  rw [front]
  dsimp only
  rw [if_pos rfl, point, back]
  dsimp only
  rw [String.ofList_toList, IonType.ofName?_name]
  rfl

theorem lone_typedNull (t : IonType) (rest : List Char) : Lone (typedNull t ++ rest) := by
  rw [typedNull, List.append_assoc]
  refine lone_word 'n' ['u', 'l', 'l'] (by decide) (by decide) (by simp; decide) fun n => ?_
  exact ⟨_, stays_cons _ (by decide) (by decide) n, by simp⟩

/-! ## Numbers -/

theorem plain_of_isDigit (h : c.isDigit = true) :
    isStart c = true ∧ isIdentStart c = false ∧ c ≠ '\'' ∧ c ≠ '"' ∧ c ≠ '\x7b' ∧ c ≠ '[' ∧
      c ≠ '(' ∧ c ≠ '+' ∧ c ≠ '-' ∧ c ≠ 'i' :=
  Digits.forall_digit (P := fun c => isStart c = true ∧ isIdentStart c = false ∧ c ≠ '\'' ∧
    c ≠ '"' ∧ c ≠ '\x7b' ∧ c ≠ '[' ∧ c ≠ '(' ∧ c ≠ '+' ∧ c ≠ '-' ∧ c ≠ 'i') (by decide +kernel) h

theorem bareValue_number (negative : Bool) (digit : c.isDigit = true) (cs : List Char) (n : Nat) :
    bareValue limits container inSexp ⟨sign negative ++ c :: cs, n⟩ =
      numeralValue ⟨sign negative ++ c :: cs, n⟩ := by
  obtain ⟨-, -, quote, double, brace, bracket, paren, plus, minus, letter⟩ := plain_of_isDigit digit
  cases negative with
  | true =>
    have below : keywordFollows ⟨'-' :: c :: cs, n⟩ ['-', 'i', 'n', 'f'] = false := by
      simp [keywordFollows, Cursor.startsWith, List.isPrefixOf, Ne.symm letter]
    have above : keywordFollows ⟨'-' :: c :: cs, n⟩ ['+', 'i', 'n', 'f'] = false :=
      keywordFollows_other n (by decide)
    have long : Cursor.startsWith ⟨'-' :: c :: cs, n⟩ longQuote = false :=
      startsWith_other n (by decide)
    simp [sign, bareValue, long, above, below, digit]
  | false =>
    have special := not_special quote plus minus cs n
    simp [sign, bareValue, quote, double, brace, bracket, paren, special, digit]

theorem reads_written {v : Value} (written : Written text v) (boundary : Boundary rest) :
    Reads (bareValue limits container inSexp) text rest v := by
  intro n
  obtain ⟨⟨negative, d, tail, rfl, digit⟩, chars, read⟩ := written
  obtain ⟨front, back⟩ := Digits.span_append chars (fun _ => boundary.numeral)
  refine ⟨n + byteCount (sign negative ++ d :: tail), ?_⟩
  rw [List.append_assoc, List.cons_append, bareValue_number negative digit, ← List.cons_append,
    ← List.append_assoc]
  simp only [numeralValue, Cursor.takeWhile, front, back, read]

/-- No number is taken for an annotation. -/
theorem lone_number (negative : Bool) (digit : c.isDigit = true) (cs : List Char) :
    Lone (sign negative ++ c :: cs) := by
  cases negative with
  | true => exact lone_other (by decide) (by decide) (by decide) _
  | false =>
    obtain ⟨start, ident, quote, -⟩ := plain_of_isDigit digit
    exact lone_other start quote ident _

theorem lone_written {v : Value} (written : Written text v) (rest : List Char) :
    Lone (text ++ rest) := by
  obtain ⟨⟨negative, d, tail, rfl, digit⟩, -⟩ := written
  rw [List.append_assoc]
  exact lone_number negative digit (tail ++ rest)

/-- The infinities have a sign, the positive one too. -/
def infinityChars (negative : Bool) : List Char :=
  (if negative then '-' else '+') :: ['i', 'n', 'f']

theorem reads_infinity (negative : Bool) (boundary : Boundary rest) :
    Reads (bareValue limits container inSexp) (infinityChars negative) rest
      (.float (.infinite negative)) := by
  intro n
  have ends : (rest.take 1).any isIdentChar = false := by
    cases rest with
    | nil => rfl
    | cons c rest => simpa using boundary.ident rfl
  refine ⟨n + 4, ?_⟩
  have follows : ∀ x : Char,
      keywordFollows ⟨x :: 'i' :: 'n' :: 'f' :: rest, n⟩ [x, 'i', 'n', 'f'] = true := fun x => by
    simp [keywordFollows, Cursor.startsWith, List.isPrefixOf, ends]
  have long : ∀ x : Char, x ≠ '\'' →
      Cursor.startsWith ⟨x :: 'i' :: 'n' :: 'f' :: rest, n⟩ longQuote = false := fun x other =>
    startsWith_other n other
  cases negative with
  | true =>
    have above : keywordFollows ⟨'-' :: 'i' :: 'n' :: 'f' :: rest, n⟩
        ['+', 'i', 'n', 'f'] = false :=
      keywordFollows_other n (by decide)
    have behind : Cursor.drop ⟨'-' :: 'i' :: 'n' :: 'f' :: rest, n⟩ 4 = ⟨rest, n + 4⟩ := rfl
    simp [infinityChars, bareValue, long '-' (by decide), above, follows, behind]
  | false =>
    have behind : Cursor.drop ⟨'+' :: 'i' :: 'n' :: 'f' :: rest, n⟩ 4 = ⟨rest, n + 4⟩ := rfl
    simp [infinityChars, bareValue, long '+' (by decide), follows, behind]

theorem lone_infinity (negative : Bool) (rest : List Char) :
    Lone (infinityChars negative ++ rest) := by
  cases negative with
  | true => exact lone_other (by decide) (by decide) (by decide) _
  | false => exact lone_other (by decide) (by decide) (by decide) _

/-! ## Strings and symbols -/

theorem reads_string (s : String) (rest : List Char) :
    Reads (bareValue limits container inSexp) (quoted '"' s.toList) rest (.string s) := by
  intro n
  obtain ⟨n', read⟩ := quoted?_quoted isQuote_double s.toList rest n
  refine ⟨n', ?_⟩
  simp only [quoted, List.cons_append, List.append_assoc, List.nil_append] at read ⊢
  simp [bareValue, read, Except.map, String.ofList_toList]

theorem lone_string (s : String) (rest : List Char) : Lone (quoted '"' s.toList ++ rest) :=
  lone_other (by decide) (by decide) (by decide) _

theorem reads_symbol (s : String) (boundary : Boundary rest) :
    Reads (bareValue limits container inSexp) (symbolChars s) rest (.symbol s) := by
  unfold symbolChars
  split
  · rename_i identifier
    obtain ⟨c, tail, split, start, run, free⟩ := isIdentifier_spec identifier
    rw [String.ofList_toList] at free
    have other : s ≠ "null" ∧ s ≠ "true" ∧ s ≠ "false" ∧ s ≠ "nan" := by
      simpa [keywords] using free
    rw [split] at run ⊢
    refine reads_word c tail start (List.all_eq_true.2 run) boundary ?_
    simp only [← split, String.ofList_toList, other, if_false]
  · intro n
    obtain ⟨n', read⟩ := quoted?_quoted isQuote_single s.toList rest n
    have short := not_longQuote s.toList n boundary.quote
    refine ⟨n', ?_⟩
    simp only [quoted, List.cons_append, List.append_assoc, List.nil_append] at read short ⊢
    simp [bareValue, read, short, Except.map, String.ofList_toList]

end Isl.Ion
