import Isl.Ion.Parser
/-!
# What stands between values

A gap is made of blanks, line comments with their newline and block comments. Scanning for blanks
steps over it, and stays in front of anything that a value begins with.

* `skipBlank_gap`: a gap is stepped over;
* `skipBlank_swallowed`: a line comment without a newline takes the rest of the text;
* `Starts`, `Starts.stays`: what values begin with;
* `Boundary`: what may follow a value.
-/
namespace Isl.Ion

variable {c : Char} {cs body gap rest : List Char}

/-! ## Gaps -/

/-- A blank or a comment. -/
inductive Filler : List Char → Prop where
  | blank (c : Char) (blank : Text.isBlank c = true) : Filler [c]
  | line (body : List Char) (short : '\n' ∉ body) : Filler ('/' :: '/' :: (body ++ ['\n']))
  | block (body : List Char) (closed : ¬['*', '/'] <:+: body) :
      Filler ('/' :: '*' :: (body ++ ['*', '/']))

/-- Blanks and comments, at least one of them. -/
inductive Gap : List Char → Prop where
  | one {piece : List Char} (filler : Filler piece) : Gap piece
  | more {piece gap : List Char} (filler : Filler piece) (others : Gap gap) : Gap (piece ++ gap)

theorem skipBlankFrom_newline (cs : List Char) (n : Nat) :
    skipBlankFrom .line ('\n' :: cs) n = skipBlankFrom .space cs (n + 1) := rfl

theorem skipBlankFrom_comment (other : c ≠ '\n') (cs : List Char) (n : Nat) :
    skipBlankFrom .line (c :: cs) n = skipBlankFrom .line cs (n + c.utf8Size) := by
  change skipBlankFrom (if c = '\n' then .space else .line) cs _ = _
  rw [if_neg other]

theorem skipBlankFrom_close (cs : List Char) (start n : Nat) :
    skipBlankFrom (.block start) ('*' :: '/' :: cs) n = skipBlankFrom .space cs (n + 2) := rfl

theorem skipBlankFrom_inside (other : ¬['*', '/'] <+: c :: cs) (start n : Nat) :
    skipBlankFrom (.block start) (c :: cs) n =
      skipBlankFrom (.block start) cs (n + c.utf8Size) := by
  rw [skipBlankFrom.eq_def]
  split
  all_goals simp_all

/-- Where no comment begins, a blank is stepped over and anything else is stayed at. -/
theorem skipBlankFrom_space (other : ¬['/', '/'] <+: c :: cs ∧ ¬['/', '*'] <+: c :: cs) (n : Nat) :
    skipBlankFrom .space (c :: cs) n =
      if Text.isBlank c then skipBlankFrom .space cs (n + c.utf8Size) else .ok ⟨c :: cs, n⟩ := by
  rw [skipBlankFrom.eq_def]
  split
  all_goals simp_all

theorem skipBlankFrom_line (short : '\n' ∉ body) (rest : List Char) (n : Nat) :
    ∃ n', skipBlankFrom .line (body ++ '\n' :: rest) n = skipBlankFrom .space rest n' := by
  induction body generalizing n with
  | nil => exact ⟨_, skipBlankFrom_newline rest n⟩
  | cons c body ih =>
    simp only [List.mem_cons, not_or] at short
    rw [List.cons_append, skipBlankFrom_comment (Ne.symm short.1)]
    exact ih short.2 _

theorem skipBlankFrom_block (closed : ¬['*', '/'] <:+: body) (rest : List Char) (start n : Nat) :
    ∃ n', skipBlankFrom (.block start) (body ++ '*' :: '/' :: rest) n =
      skipBlankFrom .space rest n' := by
  induction body generalizing n with
  | nil => exact ⟨_, skipBlankFrom_close rest start n⟩
  | cons c body ih =>
    have other : ¬['*', '/'] <+: c :: (body ++ '*' :: '/' :: rest) := by
      intro front
      cases body with
      | nil => simp at front
      | cons d body =>
        simp only [List.cons_append, List.cons_prefix_cons, List.nil_prefix, and_true] at front
        obtain ⟨rfl, rfl⟩ := front
        exact closed (List.prefix_append _ body).isInfix
    rw [List.cons_append, skipBlankFrom_inside other]
    exact ih (fun inside => closed (inside.trans (List.suffix_cons c body).isInfix)) _

theorem not_comment (slash : c ≠ '/') (cs : List Char) :
    ¬['/', '/'] <+: c :: cs ∧ ¬['/', '*'] <+: c :: cs := by
  simp [Ne.symm slash]

theorem skipBlank_filler {piece : List Char} (filler : Filler piece) (rest : List Char) (n : Nat) :
    ∃ n', skipBlank ⟨piece ++ rest, n⟩ = skipBlank ⟨rest, n'⟩ := by
  cases filler with
  | blank c blank =>
    have other : c ≠ '/' := by
      rintro rfl
      cases blank
    refine ⟨n + c.utf8Size, ?_⟩
    exact (skipBlankFrom_space (not_comment other rest) n).trans (if_pos blank)
  | line body short =>
    have text : '/' :: '/' :: (body ++ ['\n']) ++ rest = '/' :: '/' :: (body ++ '\n' :: rest) := by
      simp
    rw [text]
    exact skipBlankFrom_line short rest (n + 2)
  | block body closed =>
    have text : '/' :: '*' :: (body ++ ['*', '/']) ++ rest =
        '/' :: '*' :: (body ++ '*' :: '/' :: rest) := by
      simp
    rw [text]
    exact skipBlankFrom_block closed rest n (n + 2)

theorem skipBlank_gap (between : Gap gap) (rest : List Char) (n : Nat) :
    ∃ n', skipBlank ⟨gap ++ rest, n⟩ = skipBlank ⟨rest, n'⟩ := by
  induction between generalizing n with
  | one filler => exact skipBlank_filler filler rest n
  | more filler others ih =>
    obtain ⟨m, front⟩ := skipBlank_filler filler (_ ++ rest) n
    obtain ⟨n', back⟩ := ih m
    exact ⟨n', by rw [List.append_assoc, front, back]⟩

/-- A line comment that no newline ends takes all that is left. -/
theorem skipBlank_swallowed (short : '\n' ∉ cs) (n : Nat) :
    ∃ n', skipBlank ⟨'/' :: '/' :: cs, n⟩ = .ok ⟨[], n'⟩ := by
  have line : ∀ n, ∃ n', skipBlankFrom .line cs n = .ok ⟨[], n'⟩ := by
    induction cs with
    | nil => exact fun n => ⟨n, rfl⟩
    | cons c cs ih =>
      intro n
      simp only [List.mem_cons, not_or] at short
      rw [skipBlankFrom_comment (Ne.symm short.1)]
      exact ih short.2 _
  exact line (n + 2)

/-! ## What values begin with -/

/-- There is nothing to step over. -/
def Stays (cs : List Char) : Prop := ∀ n, skipBlank ⟨cs, n⟩ = .ok ⟨cs, n⟩

theorem stays_nil : Stays [] := fun _ => rfl

theorem stays_of_not_comment (blank : Text.isBlank c = false)
    (other : ¬['/', '/'] <+: c :: cs ∧ ¬['/', '*'] <+: c :: cs) : Stays (c :: cs) := fun n =>
  (skipBlankFrom_space other n).trans (if_neg (by rw [blank]; decide))

theorem stays_cons (cs : List Char) (blank : Text.isBlank c = false) (slash : c ≠ '/') :
    Stays (c :: cs) :=
  stays_of_not_comment blank (not_comment slash cs)

/-- What holds of the characters of seven bits holds of one of them. -/
theorem forall_ascii {P : Char → Prop} (all : ∀ n < 128, P (Char.ofNat n)) (small : c.toNat < 128) :
    P c := by
  have here := all c.toNat small
  rwa [Char.ofNat_toNat] at here

theorem isAlphanum_lt (h : c.isAlphanum = true) : c.toNat < 128 := by
  unfold Char.isAlphanum Char.isAlpha Char.isUpper Char.isLower Char.isDigit at h
  simp only [Bool.or_eq_true, Bool.and_eq_true, decide_eq_true_eq, ge_iff_le,
    UInt32.le_iff_toNat_le] at h
  change c.val.toNat < 128
  have bounds : (65 ≤ c.val.toNat ∧ c.val.toNat ≤ 90 ∨ 97 ≤ c.val.toNat ∧ c.val.toNat ≤ 122) ∨
      48 ≤ c.val.toNat ∧ c.val.toNat ≤ 57 := h
  omega

theorem isIdentChar_lt (h : isIdentChar c = true) : c.toNat < 128 := by
  simp only [isIdentChar, Bool.or_eq_true, beq_iff_eq] at h
  obtain (letter | rfl) | rfl := h
  · exact isAlphanum_lt letter
  · decide
  · decide

theorem isNumeralChar_lt (h : isNumeralChar c = true) : c.toNat < 128 := by
  simp only [isNumeralChar, Bool.or_eq_true, beq_iff_eq] at h
  obtain ((((letter | rfl) | rfl) | rfl) | rfl) | rfl := h
  · exact isAlphanum_lt letter
  all_goals decide

/-- The first characters of values: of symbols, keywords, numbers, strings, brackets. -/
def isStart (c : Char) : Bool :=
  isIdentStart c || c.isDigit || "'\"-+[(\x7b".toList.contains c

theorem isStart_lt (h : isStart c = true) : c.toNat < 128 := by
  simp only [isStart, isIdentStart, Bool.or_eq_true, beq_iff_eq] at h
  obtain (((letter | rfl) | rfl) | digit) | mark := h
  · exact isAlphanum_lt (by simp [Char.isAlphanum, letter])
  · decide
  · decide
  · exact isAlphanum_lt (by simp [Char.isAlphanum, digit])
  · have all : "'\"-+[(\x7b".toList.all (·.toNat < 128) = true := by decide
    exact of_decide_eq_true (List.all_eq_true.1 all c (List.contains_iff_mem.1 mark))

/-- What no value begins with: blanks, and the marks that separate and close. -/
theorem plain_of_isStart (h : isStart c = true) :
    Text.isBlank c = false ∧ c ≠ '/' ∧ c ≠ ':' ∧ c ≠ ',' ∧ c ≠ ']' ∧ c ≠ ')' ∧ c ≠ '\x7d' :=
  forall_ascii (P := fun c => isStart c = true → Text.isBlank c = false ∧ c ≠ '/' ∧ c ≠ ':' ∧
    c ≠ ',' ∧ c ≠ ']' ∧ c ≠ ')' ∧ c ≠ '\x7d') (by decide +kernel) (isStart_lt h) h

/-- Something of a value stands in front. -/
def Starts (cs : List Char) : Prop := ∃ c tail, cs = c :: tail ∧ isStart c = true

theorem Starts.append (h : Starts cs) (rest : List Char) : Starts (cs ++ rest) := by
  obtain ⟨c, tail, rfl, start⟩ := h
  exact ⟨c, tail ++ rest, rfl, start⟩

theorem Starts.length_pos (h : Starts cs) : 0 < cs.length := by
  obtain ⟨c, tail, rfl, -⟩ := h
  exact Nat.zero_lt_succ _

theorem Starts.stays (h : Starts cs) : Stays cs := by
  obtain ⟨c, tail, rfl, start⟩ := h
  obtain ⟨blank, slash, -⟩ := plain_of_isStart start
  exact stays_cons tail blank slash

/-! ## What may follow a value -/

/-- Characters that a value might go on with. -/
def isTokenChar (c : Char) : Bool := isNumeralChar c || isIdentChar c || c == '\''

theorem isTokenChar_lt (h : isTokenChar c = true) : c.toNat < 128 := by
  simp only [isTokenChar, Bool.or_eq_true, beq_iff_eq] at h
  obtain (numeral | ident) | rfl := h
  · exact isNumeralChar_lt numeral
  · exact isIdentChar_lt ident
  · decide

/-- A value ends in front of this text, and no double colon makes it an annotation. -/
structure Boundary (rest : List Char) : Prop where
  ends : ∀ c, rest.head? = some c → isTokenChar c = false
  clear : ∀ n, ∃ c, skipBlank ⟨rest, n⟩ = .ok c ∧ c.rest.head? ≠ some ':'

theorem Boundary.numeral (h : Boundary rest) (first : rest.head? = some c) :
    isNumeralChar c = false := by
  have other := h.ends c first
  simp only [isTokenChar, Bool.or_eq_false_iff] at other
  exact other.1.1

theorem Boundary.ident (h : Boundary rest) (first : rest.head? = some c) :
    isIdentChar c = false := by
  have other := h.ends c first
  simp only [isTokenChar, Bool.or_eq_false_iff] at other
  exact other.1.2

theorem Boundary.quote (h : Boundary rest) : rest.head? ≠ some '\'' :=
  fun first => absurd (h.ends _ first) (by decide)

theorem boundary_nil : Boundary [] :=
  ⟨fun _ first => absurd first (by simp), fun n => ⟨_, stays_nil n, by simp⟩⟩

/-- Nothing is stepped over in front of a mark that separates or closes. -/
theorem skipBlank_mark (c : Char) (cs : List Char) (mark : c = ',' ∨ c = ']' ∨ c = ')' ∨ c = '\x7d')
    (n : Nat) : skipBlank ⟨c :: cs, n⟩ = .ok ⟨c :: cs, n⟩ := by
  rcases mark with rfl | rfl | rfl | rfl
  all_goals exact stays_cons cs (by decide) (by decide) n

theorem boundary_mark (mark : c = ',' ∨ c = ']' ∨ c = ')' ∨ c = '\x7d') (rest : List Char) :
    Boundary (c :: rest) := by
  refine ⟨?_, fun n => ⟨_, skipBlank_mark c rest mark n, ?_⟩⟩
  · intro d first
    cases first
    rcases mark with rfl | rfl | rfl | rfl <;> decide
  · rcases mark with rfl | rfl | rfl | rfl <;> simp

theorem filler_head {piece : List Char} (filler : Filler piece) :
    ∃ c cs, piece = c :: cs ∧ isTokenChar c = false := by
  cases filler with
  | blank c blank =>
    refine ⟨c, [], rfl, ?_⟩
    cases token : isTokenChar c with
    | false => rfl
    | true =>
      have plain := forall_ascii (P := fun c => isTokenChar c = true → Text.isBlank c = false)
        (by decide +kernel) (isTokenChar_lt token) token
      rw [plain] at blank
      cases blank
  | line body short => exact ⟨'/', _, rfl, by decide⟩
  | block body closed => exact ⟨'/', _, rfl, by decide⟩

theorem gap_head (between : Gap gap) : ∃ c cs, gap = c :: cs ∧ isTokenChar c = false := by
  cases between with
  | one filler => exact filler_head filler
  | more filler others =>
    obtain ⟨c, cs, rfl, other⟩ := filler_head filler
    exact ⟨c, _, rfl, other⟩

/-- What stands behind a gap is no double colon. -/
theorem boundary_gap (between : Gap gap) (stays : Stays rest) (colon : rest.head? ≠ some ':') :
    Boundary (gap ++ rest) := by
  constructor
  · obtain ⟨d, cs, rfl, other⟩ := gap_head between
    intro c first
    cases first
    exact other
  · intro n
    obtain ⟨n', skipped⟩ := skipBlank_gap between rest n
    exact ⟨⟨rest, n'⟩, skipped.trans (stays n'), colon⟩

theorem Boundary.of_starts (between : Gap gap) (starts : Starts rest) : Boundary (gap ++ rest) := by
  refine boundary_gap between starts.stays ?_
  obtain ⟨c, tail, rfl, start⟩ := starts
  obtain ⟨-, -, colon, -⟩ := plain_of_isStart start
  simpa using colon

theorem gap_space : Gap [' '] := .one (.blank ' ' (by decide))

theorem skipBlank_space (starts : Starts cs) (n : Nat) :
    ∃ n', skipBlank ⟨' ' :: cs, n⟩ = .ok ⟨cs, n'⟩ := by
  obtain ⟨n', skipped⟩ := skipBlank_gap gap_space cs n
  exact ⟨n', skipped.trans (starts.stays n')⟩

end Isl.Ion
