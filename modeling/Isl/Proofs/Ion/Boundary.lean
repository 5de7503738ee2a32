import Isl.Proofs.Ion.Blank
import Isl.Proofs.Ion.Position
import Isl.Proofs.Ion.Quoted
/-!
# Between characters

A position that is moved by bytes and a cursor that is moved by characters stay at one place of the
text. So what is read by positions is never cut out of a character, and it is what is read by
characters: blanks, comments, runs and quoted text.

* `behind?_eq_some_iff`, `Between`: where a text can be sliced;
* `At`: a position and a cursor at one place of a text, with less than so many characters to go;
* `Agrees`: what is read by positions is what is read by characters;
* `At.skipBlank`, `At.quotedText`, `At.longText`: it is so for loops, which come to an end.
-/
namespace Isl.Ion.Bytewise

variable {α β γ δ : Type} {s : Source} {text cs run tail : List Char} {b k m n : Nat} {c : Cursor}
  {x : Char} {fault : SyntaxFault}

/-! ## Places -/

/-- A position that is between characters, or at an end of the text. -/
def Between (text : List Char) (n : Nat) : Prop :=
  ∃ before after, text = before ++ after ∧ n = byteCount before

theorem behind?_eq_some_iff :
    behind? cs n = some tail ↔ ∃ before, cs = before ++ tail ∧ n = byteCount before := by
  fun_induction behind? cs n with
  | case1 cs =>
    constructor
    · rintro ⟨⟩
      exact ⟨[], rfl, rfl⟩
    · rintro ⟨before, rfl, none⟩
      cases before with
      | nil => rfl
      | cons d before =>
        have wide := d.utf8Size_pos
        simp only [byteCount_cons] at none
        omega
  | case2 n =>
    constructor
    · rintro ⟨⟩
    · rintro ⟨before, split, count⟩
      obtain ⟨rfl, rfl⟩ := List.append_eq_nil_iff.1 split.symm
      cases count
  | case3 d cs n fits ih =>
    rw [ih]
    constructor
    · rintro ⟨before, rfl, count⟩
      exact ⟨d :: before, rfl, by rw [byteCount_cons, ← count, Nat.add_sub_cancel' fits]⟩
    · rintro ⟨before, split, count⟩
      cases before with
      | nil => cases count
      | cons e before =>
        obtain ⟨rfl, rfl⟩ := List.cons.inj split
        rw [byteCount_cons] at count
        exact ⟨before, rfl, by omega⟩
  | case4 d cs n large =>
    constructor
    · rintro ⟨⟩
    · rintro ⟨before, split, count⟩
      cases before with
      | nil => cases count
      | cons e before =>
        obtain ⟨rfl, rfl⟩ := List.cons.inj split
        rw [byteCount_cons] at count
        omega

/-- The position and the cursor are at one place of the text, in front of less than `b`
characters. -/
structure At (s : Source) (b n : Nat) (c : Cursor) : Prop where
  offset : n = c.offset
  rest : behind? s.text n = some c.rest
  short : c.rest.length < b
  within : b ≤ s.budget

namespace At

theorem between (here : At s b n c) : Between s.text n := by
  obtain ⟨before, split, count⟩ := behind?_eq_some_iff.1 here.rest
  exact ⟨before, c.rest, split, count⟩

/-- More is left. -/
theorem mono (here : At s b n c) (le : b ≤ m) (within : m ≤ s.budget) : At s m n c :=
  ⟨here.offset, here.rest, Nat.lt_of_lt_of_le here.short le, within⟩

theorem moved (here : At s b n c) (split : c.rest = run ++ tail) (short : tail.length < m)
    (le : m ≤ b) : At s m (n + byteCount run) ⟨tail, c.offset + byteCount run⟩ := by
  obtain ⟨before, text, count⟩ := behind?_eq_some_iff.1 here.rest
  refine ⟨by rw [here.offset], behind?_eq_some_iff.2 ⟨before ++ run, ?_, ?_⟩, short,
    Nat.le_trans le here.within⟩
  · rw [text, split, List.append_assoc]
  · rw [count, byteCount_append]

/-- The place behind a run of characters. -/
theorem behind (here : At s b n c) (split : c.rest = run ++ tail) :
    At s b (n + byteCount run) ⟨tail, c.offset + byteCount run⟩ := by
  have short := here.short
  rw [split, List.length_append] at short
  exact here.moved split (Nat.lt_of_le_of_lt (Nat.le_add_left ..) short) (Nat.le_refl b)

/-- The place behind the character in front. -/
theorem next (here : At s (b + 1) n c) (front : c.rest = x :: tail) :
    At s b (n + x.utf8Size) ⟨tail, c.offset + x.utf8Size⟩ := by
  have short := here.short
  rw [front, List.length_cons] at short
  have split : c.rest = [x] ++ tail := front
  simpa using here.moved split (Nat.lt_of_succ_lt_succ short) (Nat.le_succ b)

theorem after (here : At s b n c) (front : c.rest = x :: tail) :
    At s b (n + x.utf8Size) ⟨tail, c.offset + x.utf8Size⟩ := by
  have split : c.rest = [x] ++ tail := front
  simpa using here.behind split

theorem drop (here : At s b n c) (front : run <+: c.rest) :
    At s b (n + byteCount run) (c.drop run.length) := by
  obtain ⟨tail, split⟩ := front
  have place := here.behind split.symm
  rwa [Cursor.drop, ← split, List.take_left, List.drop_left]

theorem drop_next (here : At s (b + 1) n c) (front : x :: run <+: c.rest) :
    At s b (n + byteCount (x :: run)) (c.drop (x :: run).length) := by
  obtain ⟨tail, split⟩ := front
  have short := here.short
  rw [← split, List.cons_append, List.length_cons, List.length_append] at short
  have less : tail.length < b :=
    Nat.lt_of_le_of_lt (Nat.le_add_left ..) (Nat.lt_of_succ_lt_succ short)
  have place := here.moved split.symm less (Nat.le_succ b)
  rwa [Cursor.drop, ← split, List.take_left, List.drop_left]

theorem slice_eq (here : At s b n c) : slice s n = pure c.rest := by
  rw [slice, here.rest]
  rfl

theorem peek_eq (here : At s b n c) : peek s n = pure c.rest.head? := by
  rw [peek, here.slice_eq, pure_bind]

theorem startsWith_eq (here : At s b n c) : startsWith s n cs = pure (c.startsWith cs) := by
  rw [startsWith, here.slice_eq, pure_bind, Cursor.startsWith]

theorem expect_eq (here : At s b n c) (front : c.rest = x :: tail) :
    expect s n x = pure (n + x.utf8Size) := by
  rw [expect, here.peek_eq, pure_bind, front, List.head?_cons, if_pos rfl]

theorem span_eq (here : At s b n c) (front : run <+: c.rest) :
    span s n (n + byteCount run) = pure run := by
  obtain ⟨tail, split⟩ := front
  rw [span, here.slice_eq, pure_bind, if_pos (Nat.le_add_right ..),
    Nat.add_sub_cancel_left, ← split, bytesPrefix?_append]
  rfl

end At

/-! ## Agreement -/

/-- Reading by positions comes to what reading characters comes to: related results, or the same
fault between two characters. -/
inductive Agrees (s : Source) (R : α → β → Prop) : Slicing α → Reading β → Prop
  | ok {a : α} {b : β} (related : R a b) : Agrees s R (pure a) (.ok b)
  | error {e : SyntaxError} (between : Between s.text e.offset) :
      Agrees s R (throw e) (.error e)

/-- The same value is read, and reading stops at the same place. -/
def Lands (s : Source) (b : Nat) (found : α × Nat) (found' : α × Cursor) : Prop :=
  found.1 = found'.1 ∧ At s b found.2 found'.2

namespace Agrees

variable {R : α → β → Prop} {S : γ → δ → Prop} {read : Slicing α} {read' : Reading β}

theorem bind {f : α → Slicing γ} {g : β → Reading δ} (first : Agrees s R read read')
    (next : ∀ a b, R a b → Agrees s S (f a) (g b)) :
    Agrees s S (read >>= f) (read' >>= g) := by
  cases first with
  | ok related => exact next _ _ related
  | error between => exact .error between

theorem map {f : α → Slicing γ} {g : β → δ} (first : Agrees s R read read')
    (next : ∀ a b, R a b → Agrees s S (f a) (.ok (g b))) :
    Agrees s S (read >>= f) (read'.map g) := by
  cases first with
  | ok related => exact next _ _ related
  | error between => exact .error between

theorem imp {R' : α → β → Prop} (agrees : Agrees s R read read')
    (weaker : ∀ a b, R a b → R' a b) : Agrees s R' read read' := by
  cases agrees with
  | ok related => exact .ok (weaker _ _ related)
  | error between => exact .error between

theorem run_eq {read : Slicing α} {answer : Reading α} (agrees : Agrees s Eq read answer) :
    read.run = some answer := by
  cases agrees with
  | ok related => exact related ▸ rfl
  | error between => rfl

theorem between {e : SyntaxError} (agrees : Agrees s R read (.error e)) :
    Between s.text e.offset := by
  cases agrees with
  | error between => exact between

end Agrees

/-- What is made of a value. -/
theorem Agrees.value {scan : Slicing (α × Nat)} {read : Reading (α × Cursor)}
    (agrees : Agrees s (Lands s b) scan read) (f : α → β) :
    Agrees s (Lands s b) (scan >>= fun found => pure (f found.1, found.2))
      (read.map fun found => (f found.1, found.2)) :=
  agrees.map fun _ _ lands => .ok ⟨congrArg f lands.1, lands.2⟩

/-- Both decide alike. -/
theorem Agrees.ite {R : α → β → Prop} {p q : Prop} [Decidable p] [Decidable q]
    {scan scan' : Slicing α} {read read' : Reading β} (alike : p ↔ q)
    (holds : p → Agrees s R scan read) (fails : ¬p → Agrees s R scan' read') :
    Agrees s R (if p then scan else scan') (if q then read else read') := by
  by_cases here : p
  · rw [if_pos here, if_pos (alike.1 here)]
    exact holds here
  · rw [if_neg here, if_neg (mt alike.2 here)]
    exact fails here

/-- Both go on with the value and from the place where it ends. -/
theorem Agrees.andThen {R : γ → δ → Prop} {scan : Slicing (α × Nat)}
    {read : Reading (α × Cursor)} {f : α × Nat → Slicing γ} {g : α × Cursor → Reading δ}
    (agrees : Agrees s (Lands s b) scan read)
    (next : ∀ x m c, At s b m c → Agrees s R (f (x, m)) (g (x, c))) :
    Agrees s R (scan >>= f) (read >>= g) := by
  refine agrees.bind ?_
  rintro ⟨x, m⟩ ⟨-, c⟩ ⟨rfl, there⟩
  exact next x m c there

theorem At.fails {R : α → β → Prop} (here : At s b n c) :
    Agrees s R (fail n fault) (c.fail fault) := by
  have place := here.between
  rw [here.offset] at place ⊢
  exact .error place

/-! ## Runs -/

theorem At.passing_eq (here : At s b n c) (enough : b ≤ k) (p : Char → Bool) :
    passing s p k n = pure (n + byteCount (c.rest.takeWhile p)) := by
  induction b generalizing k n c with
  | zero => exact absurd here.short (Nat.not_lt_zero _)
  | succ b ih =>
    cases k with
    | zero => cases enough
    | succ k =>
      rw [passing, here.peek_eq, pure_bind]
      cases front : c.rest with
      | nil => rfl
      | cons x tail =>
        cases holds : p x with
        | false => simp [holds]
        | true =>
          simp only [List.head?_cons, holds, if_true, List.takeWhile_cons, byteCount_cons,
            ih (here.next front) (Nat.le_of_succ_le_succ enough), Nat.add_assoc]

theorem At.run_eq (here : At s b n c) (p : Char → Bool) :
    Bytewise.run s p n = pure ((c.takeWhile p).1, n + byteCount (c.rest.takeWhile p)) := by
  rw [Bytewise.run, here.passing_eq here.within, pure_bind,
    here.span_eq (List.takeWhile_prefix p), pure_bind]
  rfl

theorem At.takeWhile (here : At s b n c) (p : Char → Bool) :
    At s b (n + byteCount (c.rest.takeWhile p)) (c.takeWhile p).2 :=
  here.behind List.takeWhile_append_dropWhile.symm

theorem At.takeWhile_next (here : At s (b + 1) n c) {p : Char → Bool}
    (front : c.rest.head?.any p = true) :
    At s b (n + byteCount (c.rest.takeWhile p)) (c.takeWhile p).2 := by
  cases rest : c.rest with
  | nil => simp [rest] at front
  | cons x tail =>
    have holds : p x = true := by simpa [rest] using front
    have place := (here.next rest).takeWhile p
    simpa [Cursor.takeWhile, rest, holds, Nat.add_assoc] using place

/-! ## Blanks -/

theorem At.lineEnd (here : At s b n c) (enough : b ≤ k) :
    ∃ tail m, Bytewise.lineEnd s k n = pure m ∧ At s b m ⟨tail, m⟩ ∧
      skipBlankFrom .line c.rest c.offset = skipBlankFrom .space tail m := by
  induction b generalizing k n c with
  | zero => exact absurd here.short (Nat.not_lt_zero _)
  | succ b ih =>
    obtain ⟨rest, offset⟩ := c
    obtain rfl := here.offset
    cases k with
    | zero => cases enough
    | succ k =>
      rw [Bytewise.lineEnd, here.peek_eq, pure_bind]
      cases rest with
      | nil => exact ⟨[], n, rfl, here, rfl⟩
      | cons x tail =>
        rw [List.head?_cons]
        simp only
        by_cases newline : x = '\n'
        · subst newline
          exact ⟨tail, _, rfl, here.after rfl, rfl⟩
        · obtain ⟨rest, m, ends, there, skips⟩ :=
            ih (here.next rfl) (Nat.le_of_succ_le_succ enough)
          rw [if_neg newline]
          refine ⟨rest, m, ends, there.mono (Nat.le_succ b) here.within, ?_⟩
          exact (skipBlankFrom_comment newline tail _).trans skips

theorem find?_cons {token : List Char} (other : ¬token <+: x :: cs) :
    find? token (x :: cs) = (find? token cs).map (x.utf8Size + ·) := by
  rw [find?, if_neg (by simpa using other)]

theorem find?_comment (cs : List Char) (start n : Nat) :
    (find? ['*', '/'] cs = none ∧
      skipBlankFrom (.block start) cs n = .error ⟨start, .unterminatedComment⟩) ∨
    ∃ body tail, cs = body ++ '*' :: '/' :: tail ∧ find? ['*', '/'] cs = some (byteCount body) ∧
      skipBlankFrom (.block start) cs n = skipBlankFrom .space tail (n + (byteCount body + 2)) := by
  induction cs generalizing n with
  | nil => exact .inl ⟨rfl, rfl⟩
  | cons x cs ih =>
    by_cases closed : ['*', '/'] <+: x :: cs
    · obtain ⟨tail, split⟩ := closed
      obtain ⟨rfl, rfl⟩ := List.cons.inj split
      exact .inr ⟨[], tail, rfl, rfl, skipBlankFrom_close tail start n⟩
    · rw [find?_cons closed, skipBlankFrom_inside closed]
      obtain ⟨none, fails⟩ | ⟨body, tail, rfl, found, skips⟩ := ih (n + x.utf8Size)
      · exact .inl ⟨by rw [none]; rfl, fails⟩
      · refine .inr ⟨x :: body, tail, rfl, by rw [found, byteCount_cons]; rfl, ?_⟩
        rw [skips, byteCount_cons]
        congr 1
        omega

theorem pair_prefix_iff {y z : Char} : [y, z] <+: x :: tail ↔ x = y ∧ tail.head? = some z := by
  cases tail <;> simp [eq_comm]

/-- A line comment takes one character at least. -/
theorem At.lineComment (here : At s (b + 1) n ⟨'/' :: '/' :: tail, n⟩) :
    ∃ rest m, Bytewise.lineEnd s s.budget n = pure m ∧ At s b m ⟨rest, m⟩ ∧
      Ion.skipBlank ⟨'/' :: '/' :: tail, n⟩ = Ion.skipBlank ⟨rest, m⟩ := by
  have within := here.within
  obtain ⟨k, budget⟩ : ∃ k, s.budget = k + 1 := Nat.exists_eq_succ_of_ne_zero (by omega)
  rw [budget] at within ⊢
  obtain ⟨rest, m, ends, there, skips⟩ := (here.next rfl).lineEnd (Nat.le_of_succ_le_succ within)
  have comment := skipBlankFrom_comment (show '/' ≠ '\n' by decide) tail (n + 1)
  refine ⟨rest, m, ?_, there, comment.symm.trans skips⟩
  rw [Bytewise.lineEnd, here.peek_eq, pure_bind]
  exact (if_neg (by decide)).trans ends

theorem At.skipBlanks (here : At s b n c) (enough : b ≤ k) :
    Agrees s (At s b) (Bytewise.skipBlanks s k n) (Ion.skipBlank c) := by
  induction b generalizing k n c with
  | zero => exact absurd here.short (Nat.not_lt_zero _)
  | succ b ih =>
    cases k with
    | zero => cases enough
    | succ k =>
      have ih {n : Nat} {c : Cursor} (here' : At s b n c) :
          Agrees s (At s (b + 1)) (Bytewise.skipBlanks s k n) (Ion.skipBlank c) :=
        (ih here' (Nat.le_of_succ_le_succ enough)).imp
          fun _ _ place => place.mono (Nat.le_succ b) here.within
      obtain ⟨rest, offset⟩ := c
      obtain rfl := here.offset
      rw [Bytewise.skipBlanks, here.slice_eq, pure_bind]
      cases rest with
      | nil => exact .ok here
      | cons x tail =>
        have slash : ¬Text.isBlank '/' = true := by decide
        simp only
        by_cases line : x = '/' ∧ tail.head? = some '/'
        · rw [if_pos line]
          obtain ⟨rfl, front⟩ := line
          obtain ⟨tail, rfl⟩ := List.head?_eq_some_iff.1 front
          obtain ⟨rest, m, ends, there, same⟩ := here.lineComment
          rw [if_neg slash, ends, pure_bind, same]
          exact ih there
        rw [if_neg line]
        by_cases block : x = '/' ∧ tail.head? = some '*'
        · rw [if_pos block]
          obtain ⟨rfl, front⟩ := block
          obtain ⟨tail, rfl⟩ := List.head?_eq_some_iff.1 front
          have inside : At s b (n + 2) ⟨tail, n + 2⟩ := (here.next rfl).after rfl
          rw [if_neg slash, inside.slice_eq, pure_bind]
          obtain ⟨none, fails⟩ | ⟨body, rest, split, found, skips⟩ := find?_comment tail n (n + 2)
          · rw [none, show Ion.skipBlank ⟨'/' :: '*' :: tail, n⟩ = _ from fails]
            exact here.fails
          · rw [found, show Ion.skipBlank ⟨'/' :: '*' :: tail, n⟩ = _ from skips]
            have closed : tail = (body ++ ['*', '/']) ++ rest := by simpa using split
            have there := inside.behind closed
            rw [byteCount_append] at there
            have same : n + (byteCount body + 4) = n + 2 + (byteCount body + 2) := by omega
            change Agrees s _ (Bytewise.skipBlanks s k (n + (byteCount body + 4))) _
            rw [same]
            exact ih there
        · have space := skipBlankFrom_space
            ⟨mt pair_prefix_iff.1 line, mt pair_prefix_iff.1 block⟩ n
          rw [if_neg block, Ion.skipBlank, space]
          split
          · exact ih (here.next rfl)
          · exact .ok here

/-- Blanks and comments are stepped over alike. -/
theorem At.skipBlank (here : At s b n c) :
    Agrees s (At s b) (Bytewise.skipBlank s n) (Ion.skipBlank c) :=
  here.skipBlanks here.within

/-! ## Quoted text -/

theorem prefix_of_bytesPrefix? {ds : List Char} (taken : bytesPrefix? n cs = some ds) :
    ds <+: cs ∧ byteCount ds = n := by
  fun_induction bytesPrefix? n cs generalizing ds with
  | case1 cs =>
    cases taken
    exact ⟨List.nil_prefix, rfl⟩
  | case2 n => cases taken
  | case3 n d cs fits ih =>
    obtain ⟨es, inner, rfl⟩ := Option.map_eq_some_iff.1 taken
    obtain ⟨front, count⟩ := ih inner
    refine ⟨(List.prefix_cons_inj d).2 front, ?_⟩
    rw [byteCount_cons, count, Nat.add_sub_cancel' fits]
  | case4 n d cs large => cases taken

theorem narrow_of_hexValue? (value : Text.hexValue? x = some n) : x.utf8Size = 1 := by
  have small : x ≤ 'f' := by
    unfold Text.hexValue? at value
    split at value
    · rename_i digit
      exact Char.le_trans digit.2 (by decide)
    · split at value
      · rename_i lower
        exact lower.2
      · split at value
        · rename_i upper
          exact Char.le_trans upper.2 (by decide)
        · cases value
  rw [Char.le_def, UInt32.le_iff_toNat_le] at small
  exact Char.utf8Size_eq_one_iff.2 (UInt32.le_iff_toNat_le.2 (Nat.le_trans small (by decide)))

theorem narrow_of_hexNumeral? {ds : List Char} (numeral : hexNumeral? ds = some n) :
    ds ≠ [] ∧ ∀ d ∈ ds, d.utf8Size = 1 := by
  have values {ds : List Char} {ns : List Nat} (digits : ds.mapM Text.hexValue? = some ns) :
      ∀ d ∈ ds, d.utf8Size = 1 := by
    induction ds generalizing ns with
    | nil => nofun
    | cons d ds ih =>
      simp only [List.mapM_cons, Option.bind_eq_bind, Option.bind_eq_some_iff] at digits
      obtain ⟨k, value, ns, others, -⟩ := digits
      exact List.forall_mem_cons.2 ⟨narrow_of_hexValue? value, ih others⟩
  have worth {ds : List Char} (numeral : Digits.numeral? Text.hexValue? 16 ds = some n) :
      ds ≠ [] ∧ ∀ d ∈ ds, d.utf8Size = 1 := by
    cases ds with
    | nil => cases numeral
    | cons d ds =>
      obtain ⟨ns, digits, -⟩ := Option.map_eq_some_iff.1 numeral
      exact ⟨List.cons_ne_nil d ds, values digits⟩
  unfold hexNumeral? at numeral
  split at numeral
  · exact ⟨List.cons_ne_nil _ _, List.forall_mem_cons.2 ⟨by decide, (worth numeral).2⟩⟩
  · exact worth numeral

/-- A hexadecimal numeral of so many bytes is one of so many characters. -/
theorem width_of_hexNumeral? (numeral : hexNumeral? ((bytesPrefix? m cs).getD []) = some n) :
    byteCount ((bytesPrefix? m cs).getD []) = m ∧ ((bytesPrefix? m cs).getD []).length = m ∧
      byteCount (cs.take m) = m := by
  obtain ⟨filled, narrow⟩ := narrow_of_hexNumeral? numeral
  cases taken : bytesPrefix? m cs with
  | none => exact absurd (by rw [taken]; rfl) filled
  | some ds =>
    rw [taken, Option.getD_some] at narrow
    obtain ⟨front, count⟩ := prefix_of_bytesPrefix? taken
    have length := byteCount_eq_length narrow
    rw [count] at length
    have same : cs.take m = ds := by rw [length, ← List.prefix_iff_eq_take.1 front]
    rw [Option.getD_some, same]
    exact ⟨count, length.symm, count⟩

/-- An escape takes as many bytes as its characters have. -/
theorem At.escape_eq (here : At s b n c) :
    Bytewise.escape s n =
      match Ion.escape c.rest with
      | .ok (run, taken) => pure (run, n + byteCount (c.rest.take taken))
      | .error fault => throw ⟨n + byteCount (c.rest.take 1), fault⟩ := by
  rw [Bytewise.escape, here.peek_eq, pure_bind]
  cases front : c.rest with
  | nil => rfl
  | cons x tail =>
    have inside := here.after front
    have one : byteCount ((x :: tail).take 1) = x.utf8Size := by simp
    rw [List.head?_cons, Ion.escape]
    simp only
    cases simpleEscape? x with
    | some run => simp only [one]
    | none =>
      cases hexEscapeWidth? x with
      | none => simp only [one, fail]
      | some width =>
        simp only [one, Bytewise.hexEscape, inside.slice_eq, pure_bind]
        cases numeral : hexNumeral? ((bytesPrefix? width tail).getD []) with
        | none => rfl
        | some k =>
          obtain ⟨count, length, taken⟩ := width_of_hexNumeral? numeral
          cases char : charOfNat? k with
          | none =>
            rw [Option.bind_some, char]
            rfl
          | some d =>
            simp only [Option.bind_some, char, count, length, if_true, pure_bind,
              List.take_succ_cons, byteCount_cons, taken, Nat.add_assoc]

theorem At.dropped (here : At s b n c) (k : Nat) :
    At s b (n + byteCount (c.rest.take k)) (c.drop k) :=
  here.behind (List.take_append_drop k c.rest).symm

theorem Agrees.mono {read : Slicing (α × Nat)} {read' : Reading (α × Cursor)}
    (agrees : Agrees s (Lands s b) read read') (le : b ≤ m) (within : m ≤ s.budget) :
    Agrees s (Lands s m) read read' :=
  agrees.imp fun _ _ lands => ⟨lands.1, lands.2.mono le within⟩

/-- There is a round left where there may be a character left. -/
theorem At.round (here : At s b n c) (enough : b ≤ k) :
    ∃ b' k', b = b' + 1 ∧ k = k' + 1 ∧ b' ≤ k' := by
  cases b with
  | zero => exact absurd here.short (Nat.not_lt_zero _)
  | succ b =>
    cases k with
    | zero => cases enough
    | succ k => exact ⟨b, k, rfl, rfl, Nat.le_of_succ_le_succ enough⟩

/-- The rest of a quoted text. -/
theorem At.quotedText {quote : Char} (here : At s b n ⟨cs, n⟩) (enough : b ≤ k) (acc : List Char) :
    Agrees s (Lands s b) (Bytewise.quotedText s quote k n acc) (Ion.quotedText quote cs n acc) := by
  fun_induction Ion.quotedText quote cs n acc generalizing b k
  all_goals
    obtain ⟨b, k, rfl, rfl, less⟩ := here.round enough
    rw [Bytewise.quotedText, here.peek_eq, pure_bind]
  case case1 => exact here.fails
  case case2 =>
    simp only [List.head?_cons, if_true]
    exact .ok ⟨rfl, here.after rfl⟩
  case case3 cs fault escaped other =>
    simp only [List.head?_cons, if_neg other, if_true, (here.after rfl).escape_eq, escaped]
    exact .error ((here.after rfl).dropped 1).between
  case case4 cs run taken escaped other ih =>
    simp only [List.head?_cons, if_neg other, if_true, (here.after rfl).escape_eq, escaped,
      pure_bind]
    exact (ih ((here.next rfl).dropped taken) less).mono (Nat.le_succ b) here.within
  case case5 cs other backslash newline =>
    simp only [List.head?_cons, if_neg other, if_neg backslash, if_pos newline]
    obtain ⟨rfl, rfl⟩ := newline
    exact (here.after rfl).fails
  case case6 cs other backslash newline ih =>
    simp only [List.head?_cons, if_neg other, if_neg backslash, if_neg newline]
    exact (ih (here.next rfl) less).mono (Nat.le_succ b) here.within

theorem At.quoted {quote : Char} (here : At s (b + 1) n c) (front : c.rest = quote :: tail)
    (narrow : quote.utf8Size = 1) :
    Agrees s (Lands s b) (Bytewise.quoted s quote n) (quoted? quote c) := by
  have inside := here.next front
  rw [narrow, ← here.offset] at inside
  rw [Bytewise.quoted, here.expect_eq front, pure_bind, quoted?, front, narrow, ← here.offset]
  exact inside.quotedText inside.within []

theorem not_startsWith_longQuote
    (other : ∀ tail, x = '\'' → cs = '\'' :: '\'' :: tail → False) (n : Nat) :
    ¬Cursor.startsWith ⟨x :: cs, n⟩ longQuote = true := by
  intro starts
  obtain ⟨tail, split⟩ := List.isPrefixOf_iff_prefix.1 starts
  obtain ⟨front, rest⟩ := List.cons.inj split
  exact other tail front.symm rest.symm

theorem At.longSegment (here : At s b n ⟨cs, n⟩) (enough : b ≤ k) (acc : List Char) :
    Agrees s (Lands s b) (Bytewise.longSegment s k n acc) (Ion.longSegment cs n acc) := by
  fun_induction Ion.longSegment cs n acc generalizing b k
  all_goals
    obtain ⟨b, k, rfl, rfl, less⟩ := here.round enough
    rw [Bytewise.longSegment, here.startsWith_eq, pure_bind]
  case case1 cs => exact .ok ⟨rfl, ((here.after rfl).after rfl).after rfl⟩
  case case2 =>
    rw [if_neg (show ¬Cursor.startsWith ⟨[], _⟩ longQuote = true from nofun), here.peek_eq,
      pure_bind]
    exact here.fails
  case case3 cs fault escaped open_ =>
    rw [if_neg (not_startsWith_longQuote open_ _), here.peek_eq, pure_bind]
    simp only [List.head?_cons, if_true, (here.after rfl).escape_eq, escaped]
    exact .error ((here.after rfl).dropped 1).between
  case case4 cs run taken escaped open_ ih =>
    rw [if_neg (not_startsWith_longQuote open_ _), here.peek_eq, pure_bind]
    simp only [List.head?_cons, if_true, (here.after rfl).escape_eq, escaped, pure_bind]
    exact (ih ((here.next rfl).dropped taken) less).mono (Nat.le_succ b) here.within
  case case5 cs open_ backslash ih =>
    rw [if_neg (not_startsWith_longQuote open_ _), here.peek_eq, pure_bind]
    simp only [List.head?_cons, if_neg backslash]
    exact (ih (here.next rfl) less).mono (Nat.le_succ b) here.within

theorem At.longTexts {budget : Nat} (here : At s (b + 1) n c)
    (front : c.startsWith longQuote = true) (enough : b < k) (enough' : b < budget)
    (acc : List Char) :
    Agrees s (Lands s b) (Bytewise.longTexts s k n acc) (Ion.longText budget c acc) := by
  induction b generalizing n c k budget acc with
  | zero =>
    obtain ⟨tail, split⟩ := List.isPrefixOf_iff_prefix.1 front
    have short := here.short
    rw [← split] at short
    cases Nat.lt_one_iff.1 short
  | succ b ih =>
    cases k with
    | zero => cases enough
    | succ k =>
      cases budget with
      | zero => cases enough'
      | succ budget =>
        obtain ⟨rest, offset⟩ := c
        obtain ⟨tail, rfl⟩ := List.isPrefixOf_iff_prefix.1 front
        obtain rfl := here.offset
        have inside : At s b (n + 3) ⟨tail, n + 3⟩ := ((here.next rfl).next rfl).after rfl
        have wide : b + 1 ≤ s.budget := Nat.le_of_succ_le here.within
        rw [Bytewise.longTexts, Ion.longText]
        refine (inside.longSegment inside.within acc).andThen fun acc m c behind => ?_
        refine behind.skipBlank.bind fun m c there => ?_
        rw [there.startsWith_eq, pure_bind]
        split
        · rename_i again
          exact (ih (there.mono (Nat.le_succ b) wide) again (Nat.lt_of_succ_lt_succ enough)
            (Nat.lt_of_succ_lt_succ enough') acc).mono (Nat.le_succ b) wide
        · exact .ok ⟨rfl, behind.mono (Nat.le_succ b) wide⟩

theorem At.longText {budget : Nat} (here : At s (b + 1) n c)
    (front : c.startsWith longQuote = true) (enough : b < budget) :
    Agrees s (Lands s b) (Bytewise.longText s n) (Ion.longText budget c []) :=
  here.longTexts front here.within enough []

end Isl.Ion.Bytewise
