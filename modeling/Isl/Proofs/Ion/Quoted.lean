import Isl.Ion.Printer
import Isl.Ion.Quoted
import Mathlib.Algebra.Group.Nat.Defs
import Mathlib.Tactic.SplitIfs
/-!
# Quoted text that is read back

A character of quoted text is written as itself or as an escape, and reading takes one for the
other.

* `escape_hex`: hexadecimal digits name the character again;
* `quotedText_char`, `quotedText_byte`: one character of text, one byte of a clob;
* `quoted?_quoted`, `quoted?_clob`: all of them up to the closing quote.
-/
namespace Isl.Text

variable {width n : Nat} {c : Char}

theorem hexValue?_hexDigit : ∀ d < 16, hexValue? (hexDigit d) = some d := by decide

theorem hexDigit_plain :
    ∀ d < 16, (hexDigit d).utf8Size = 1 ∧ hexDigit d ≠ '+' ∧ hexDigit d ≠ '\n' := by decide

theorem length_hexDigits (width n : Nat) : (hexDigits width n).length = width := by
  induction width generalizing n with
  | zero => rfl
  | succ width ih => rw [hexDigits, List.length_append, ih, List.length_singleton]

theorem hexDigits_plain (h : c ∈ hexDigits width n) : c.utf8Size = 1 ∧ c ≠ '+' ∧ c ≠ '\n' := by
  induction width generalizing n with
  | zero => simp [hexDigits] at h
  | succ width ih =>
    simp only [hexDigits, List.mem_append, List.mem_singleton] at h
    obtain front | rfl := h
    · exact ih front
    · exact hexDigit_plain _ (by omega)

/-- Digits are worth the number whose last ones they are. -/
theorem hexDigits_worth (width n : Nat) :
    ∃ ds, (hexDigits width n).mapM hexValue? = some ds ∧ Digits.worth 16 ds = n % 16 ^ width := by
  induction width generalizing n with
  | zero => exact ⟨[], rfl, by simp [Digits.worth_eq_foldl, Nat.mod_one]⟩
  | succ width ih =>
    obtain ⟨ds, values, worth⟩ := ih (n / 16)
    refine ⟨ds ++ [n % 16], ?_, ?_⟩
    · rw [hexDigits, List.mapM_append, values]
      simp [hexValue?_hexDigit _ (show n % 16 < 16 by omega)]
    · rw [Digits.worth_eq_foldl] at worth ⊢
      rw [List.foldl_append, worth, List.foldl_cons, List.foldl_nil, Nat.pow_succ',
        Nat.mod_mul]
      omega

end Isl.Text

namespace Isl.Ion

variable {quote c : Char} {cs rest acc ds : List Char} {n width : Nat}

/-! ## Bytes -/

@[simp] theorem byteCount_nil : byteCount [] = 0 := rfl

@[simp] theorem byteCount_cons (c : Char) (cs : List Char) :
    byteCount (c :: cs) = c.utf8Size + byteCount cs := by
  have shift (n : Nat) :
      cs.foldl (fun n c => n + c.utf8Size) n = n + cs.foldl (fun n c => n + c.utf8Size) 0 := by
    induction cs generalizing n with
    | nil => rfl
    | cons d cs ih =>
      rw [List.foldl_cons, List.foldl_cons, ih (n + _), ih (0 + _), Nat.zero_add, Nat.add_assoc]
  rw [byteCount, List.foldl_cons, shift, Nat.zero_add, byteCount]

@[simp] theorem byteCount_append (cs ds : List Char) :
    byteCount (cs ++ ds) = byteCount cs + byteCount ds := by
  induction cs with
  | nil => simp
  | cons c cs ih => simp [ih, Nat.add_assoc]

theorem byteCount_eq_length (narrow : ∀ d ∈ ds, d.utf8Size = 1) : byteCount ds = ds.length := by
  induction ds with
  | nil => rfl
  | cons d ds ih =>
    obtain ⟨first, others⟩ := List.forall_mem_cons.1 narrow
    rw [byteCount_cons, first, ih others, List.length_cons, Nat.add_comm]

theorem byteCount_toList (s : String) : byteCount s.toList = s.utf8ByteSize := by
  have ofList (cs : List Char) : byteCount cs = (String.ofList cs).utf8ByteSize := by
    induction cs with
    | nil => rfl
    | cons c cs ih =>
      rw [byteCount_cons, ih, String.ofList_cons, String.utf8ByteSize_append,
        String.utf8ByteSize_singleton]
  rw [ofList, String.ofList_toList]

/-- The bytes of some characters are the bytes of no others. -/
theorem bytesPrefix?_append (ds rest : List Char) :
    bytesPrefix? (byteCount ds) (ds ++ rest) = some ds := by
  induction ds with
  | nil => simp [bytesPrefix?]
  | cons d ds ih =>
    have wide := d.utf8Size_pos
    obtain ⟨n, total⟩ : ∃ n, d.utf8Size + byteCount ds = n + 1 :=
      ⟨d.utf8Size + byteCount ds - 1, by omega⟩
    have left : n + 1 - d.utf8Size = byteCount ds := by omega
    rw [List.cons_append, byteCount_cons, total, bytesPrefix?, if_pos (by omega), left, ih]
    rfl

/-! ## Escapes -/

theorem hexNumeral?_hexDigits (wide : 0 < width) (small : n < 16 ^ width) :
    hexNumeral? (Text.hexDigits width n) = some n := by
  obtain ⟨ds, values, worth⟩ := Text.hexDigits_worth width n
  have length := Text.length_hexDigits width n
  have plain : ∀ c ∈ Text.hexDigits width n, c ≠ '+' := fun _ h => (Text.hexDigits_plain h).2.1
  have filled : Text.hexDigits width n ≠ [] := by
    rw [← List.length_pos_iff]
    omega
  unfold hexNumeral?
  split
  · rename_i tail split
    rw [split] at plain
    exact absurd rfl (plain '+' (List.mem_cons_self ..))
  · simp only [Digits.numeral?, List.isEmpty_iff, filled, if_false, values, Option.map_some, worth,
      Nat.mod_eq_of_lt small]

theorem escape_hex {letter : Char} (hex : hexEscapeWidth? letter = some width)
    (other : simpleEscape? letter = none) (wide : 0 < width) (small : n < 16 ^ width)
    (valid : n.isValidChar) (rest : List Char) :
    escape (letter :: Text.hexDigits width n ++ rest) = .ok ([Char.ofNat n], width + 1) := by
  have length := Text.length_hexDigits width n
  have taken := bytesPrefix?_append (Text.hexDigits width n) rest
  rw [byteCount_eq_length fun _ h => (Text.hexDigits_plain h).1, length] at taken
  simp [escape, hex, other, taken, hexNumeral?_hexDigits wide small, charOfNat?, valid, length]

/-- The quotes that have an escape. -/
def IsQuote (quote : Char) : Prop := quote = '"' ∨ quote = '\''

theorem isQuote_double : IsQuote '"' := .inl rfl

theorem isQuote_single : IsQuote '\'' := .inr rfl

/-- An escape that reads as one character. -/
def Escapes (written : List Char) (c : Char) : Prop :=
  ∀ rest, escape (written ++ rest) = .ok ([c], written.length)

theorem escapes_letter {letter : Char} (simple : simpleEscape? letter = some [c]) :
    Escapes [letter] c := by
  intro rest
  simp [escape, simple]

theorem escapes_hex {letter : Char} (hex : hexEscapeWidth? letter = some width)
    (other : simpleEscape? letter = none) (wide : 0 < width) (small : c.toNat < 16 ^ width) :
    Escapes (letter :: Text.hexDigits width c.toNat) c := by
  intro rest
  rw [escape_hex hex other wide small c.valid, Char.ofNat_toNat, List.length_cons,
    Text.length_hexDigits]

theorem newline_not_mem_hex (letter : Char) (width n : Nat) (other : letter ≠ '\n') :
    '\n' ∉ letter :: Text.hexDigits width n := by
  simp only [List.mem_cons, not_or]
  exact ⟨Ne.symm other, fun h => (Text.hexDigits_plain h).2.2 rfl⟩

theorem isControl_lt (h : Text.isControl c = true) : c.toNat < 16 ^ 4 := by
  simp only [Text.isControl, Bool.or_eq_true, Bool.and_eq_true, decide_eq_true_eq] at h
  omega

/-- A character of quoted text is itself, or the escape that reads as it. -/
theorem escapeChar_cases (h : IsQuote quote) (c : Char) :
    (∃ written, escapeChar quote c = '\\' :: written ∧ '\n' ∉ written ∧ Escapes written c) ∨
      escapeChar quote c = [c] ∧ c ≠ quote ∧ c ≠ '\\' ∧ c ≠ '\n' := by
  unfold escapeChar
  split_ifs with backslash newline tab return_ same control
  · subst backslash
    exact .inl ⟨['\\'], rfl, by decide, escapes_letter rfl⟩
  · subst newline
    exact .inl ⟨['n'], rfl, by decide, escapes_letter rfl⟩
  · subst tab
    exact .inl ⟨['t'], rfl, by decide, escapes_letter rfl⟩
  · subst return_
    exact .inl ⟨['r'], rfl, by decide, escapes_letter rfl⟩
  · subst same
    have simple : simpleEscape? c = some [c] := by
      rcases h with rfl | rfl <;> rfl
    exact .inl ⟨[c], rfl, by simpa using Ne.symm newline, escapes_letter simple⟩
  · exact .inl ⟨_, rfl, newline_not_mem_hex 'u' _ _ (by decide),
      escapes_hex rfl rfl (by decide) (isControl_lt control)⟩
  · exact .inr ⟨rfl, same, backslash, newline⟩

/-! ## Characters -/

variable {written : List Char}

theorem quotedText_escape (h : IsQuote quote) (escapes : Escapes written c)
    (rest acc : List Char) (n : Nat) :
    ∃ n', quotedText quote ('\\' :: written ++ rest) n acc =
      quotedText quote rest n' (c :: acc) := by
  refine ⟨n + 1 + byteCount written, ?_⟩
  have other : '\\' ≠ quote := by
    rcases h with rfl | rfl <;> decide
  rw [List.cons_append, quotedText, if_neg other, if_pos rfl, escapes rest]
  simp

theorem quotedText_self (plain : c ≠ quote ∧ c ≠ '\\' ∧ c ≠ '\n') (rest acc : List Char) (n : Nat) :
    ∃ n', quotedText quote (c :: rest) n acc = quotedText quote rest n' (c :: acc) := by
  obtain ⟨stop, backslash, newline⟩ := plain
  refine ⟨n + c.utf8Size, ?_⟩
  rw [quotedText, if_neg stop, if_neg backslash, if_neg (fun h => newline h.1)]

theorem quotedText_char (h : IsQuote quote) (c : Char) (rest acc : List Char) (n : Nat) :
    ∃ n', quotedText quote (escapeChar quote c ++ rest) n acc =
      quotedText quote rest n' (c :: acc) := by
  obtain ⟨written, text, -, escapes⟩ | ⟨text, plain⟩ := escapeChar_cases h c
  · rw [text]
    exact quotedText_escape h escapes rest acc n
  · rw [text]
    exact quotedText_self plain rest acc n

/-- The character that a byte of a clob is written as. -/
def byteChar (b : UInt8) : Char := Char.ofNat b.toNat

theorem toNat_byteChar (b : UInt8) : (byteChar b).toNat = b.toNat := by
  have bound := b.toNat_lt
  have valid : b.toNat.isValidChar := .inl (by omega)
  rw [byteChar, Char.ofNat, dif_pos valid]
  rfl

theorem byteChar_ne {b : UInt8} (h : b.toNat ≠ c.toNat) : byteChar b ≠ c := by
  rintro rfl
  exact h (toNat_byteChar b).symm

/-- A byte of a clob is the character of its number, or the escape that reads as it. -/
theorem clobByteChars_cases (b : UInt8) :
    (∃ written, clobByteChars b = '\\' :: written ∧ '\n' ∉ written ∧
        Escapes written (byteChar b)) ∨
      clobByteChars b = [byteChar b] ∧ byteChar b ≠ '"' ∧ byteChar b ≠ '\\' ∧
        byteChar b ≠ '\n' := by
  have bound := b.toNat_lt
  unfold clobByteChars
  split_ifs with quote backslash shown
  · subst quote
    exact .inl ⟨['"'], rfl, by decide, escapes_letter rfl⟩
  · subst backslash
    exact .inl ⟨['\\'], rfl, by decide, escapes_letter rfl⟩
  · have least : 32 ≤ b.toNat := UInt8.le_iff_toNat_le.1 shown.1
    exact .inr ⟨rfl, byteChar_ne fun h => quote (UInt8.toNat_inj.1 h),
      byteChar_ne fun h => backslash (UInt8.toNat_inj.1 h),
      byteChar_ne (show b.toNat ≠ 10 by omega)⟩
  · refine .inl ⟨_, rfl, newline_not_mem_hex 'x' _ _ (by decide), ?_⟩
    rw [← toNat_byteChar]
    exact escapes_hex rfl rfl (by decide) (by rw [toNat_byteChar]; omega)

theorem quotedText_byte (b : UInt8) (rest acc : List Char) (n : Nat) :
    ∃ n', quotedText '"' (clobByteChars b ++ rest) n acc =
      quotedText '"' rest n' (byteChar b :: acc) := by
  obtain ⟨written, text, -, escapes⟩ | ⟨text, plain⟩ := clobByteChars_cases b
  · rw [text]
    exact quotedText_escape isQuote_double escapes rest acc n
  · rw [text]
    exact quotedText_self plain rest acc n

/-! ## Whole texts -/

/-- What is written piece by piece is read piece by piece, up to the closing quote. -/
theorem quotedText_pieces {α : Type} {write : α → List Char} (char : α → Char)
    (piece : ∀ a rest acc n, ∃ n', quotedText quote (write a ++ rest) n acc =
      quotedText quote rest n' (char a :: acc)) (as : List α) (rest acc : List Char) (n : Nat) :
    ∃ n', quotedText quote (as.flatMap write ++ quote :: rest) n acc =
      .ok (acc.reverse ++ as.map char, ⟨rest, n'⟩) := by
  induction as generalizing acc n with
  | nil =>
    refine ⟨n + quote.utf8Size, ?_⟩
    rw [List.flatMap_nil, List.nil_append, quotedText, if_pos rfl, List.map_nil, List.append_nil]
  | cons a as ih =>
    obtain ⟨m, first⟩ := piece a (as.flatMap write ++ quote :: rest) acc n
    obtain ⟨n', others⟩ := ih (char a :: acc) m
    refine ⟨n', ?_⟩
    rw [List.flatMap_cons, List.append_assoc, first, others, List.reverse_cons, List.map_cons,
      List.append_assoc, List.singleton_append]

theorem quoted?_quoted (h : IsQuote quote) (cs rest : List Char) (n : Nat) :
    ∃ n', quoted? quote ⟨quoted quote cs ++ rest, n⟩ = .ok (cs, ⟨rest, n'⟩) := by
  obtain ⟨n', read⟩ := quotedText_pieces id (quotedText_char h) cs rest [] (n + 1)
  refine ⟨n', ?_⟩
  simpa [quoted?, quoted] using read

theorem quoted?_clob (bytes : List UInt8) (rest : List Char) (n : Nat) :
    ∃ n', quoted? '"' ⟨'"' :: (bytes.flatMap clobByteChars ++ '"' :: rest), n⟩ =
      .ok (bytes.map byteChar, ⟨rest, n'⟩) := by
  obtain ⟨n', read⟩ := quotedText_pieces byteChar quotedText_byte bytes rest [] (n + 1)
  exact ⟨n', read⟩

/-- A quoted symbol is no long string, not even an empty one. -/
theorem not_longQuote (cs : List Char) (n : Nat) (other : rest.head? ≠ some '\'') :
    Cursor.startsWith ⟨quoted '\'' cs ++ rest, n⟩ longQuote = false := by
  cases cs with
  | nil =>
    cases rest with
    | nil => rfl
    | cons c rest =>
      have differs : '\'' ≠ c := fun same => other (congrArg some same.symm)
      simp [Cursor.startsWith, longQuote, quoted, List.isPrefixOf, differs]
  | cons c cs =>
    obtain ⟨written, text, -⟩ | ⟨text, differs, -⟩ := escapeChar_cases isQuote_single c
    · simp [Cursor.startsWith, longQuote, quoted, List.isPrefixOf, text]
    · simp [Cursor.startsWith, longQuote, quoted, List.isPrefixOf, text, Ne.symm differs]

end Isl.Ion
