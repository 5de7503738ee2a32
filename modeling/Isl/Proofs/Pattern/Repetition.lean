import Isl.Proofs.Pattern.Bracket
/-!
# Repetitions

Outside of classes and escapes no group of an accepted pattern begins with `(?`, and a quantifier
has another one directly behind it in two cases only: a star or an opening brace stands behind a
quantifier, where it is taken for an atom, or the pattern begins with a quantifier
(`repetition_stacked_iff`). What begins with a quantifier is no pattern in the syntax that is
matched.

* `outline`: a pattern with a gap for each class and escape;
* `Stack`: a quantifier with another one behind it;
* `Slip`: a quantifier that is taken for an atom behind another one.
-/
namespace Isl.Pattern

variable {version : IslVersion} {place : Place} {cs : List Char} {ps : List Piece}
  {s : List (Option Char)} {c : Char}

/-! ## Outlines -/

/-- What a piece adds outside of classes and escapes. -/
def Piece.outline : Piece → List (Option Char)
  | plain c => [some c]
  | repeated q => q.map some
  | escaped _ | named _ _ | bracket _ => [none]

def outline (ps : List Piece) : List (Option Char) := ps.flatMap Piece.outline

theorem outline_cons (p : Piece) (ps : List Piece) :
    outline (p :: ps) = p.outline ++ outline ps := List.flatMap_cons

/-- The character begins a quantifier. -/
def Quantifies (c : Char) : Prop := c = '?' ∨ c = '*' ∨ c = '+' ∨ c = '\x7b'

/-- A quantifier in an outline: a mark, or whatever is between braces. -/
inductive Quantified : List (Option Char) → Prop where
  | mark {c : Char} (mark : c = '?' ∨ c = '*' ∨ c = '+') : Quantified [some c]
  | braces {body : List (Option Char)} (closed : some '\x7d' ∉ body) :
      Quantified (some '\x7b' :: (body ++ [some '\x7d']))

/-- A quantifier with the beginning of another one directly behind it. -/
inductive Stack : List (Option Char) → Prop where
  | mk {q : List (Option Char)} {c : Char} (quantified : Quantified q) (behind : Quantifies c) :
      Stack (q ++ [some c])

/-- A star or an opening brace that is taken for an atom directly behind a quantifier. -/
def Slip (ps : List Piece) : Prop :=
  ∃ q c, [.repeated q, .plain c] <:+: ps ∧ (c = '*' ∨ c = '\x7b')

theorem Stack.head (stack : Stack s) : ∃ c t, s = some c :: t ∧ Quantifies c := by
  obtain ⟨quantified, -⟩ := stack
  cases quantified with
  | @mark c mark =>
    refine ⟨c, _, rfl, ?_⟩
    rcases mark with rfl | rfl | rfl <;> simp [Quantifies]
  | braces => exact ⟨'\x7b', _, rfl, by simp [Quantifies]⟩

/-- What no row that begins with `x` begins in can be left out in front. -/
theorem infix_of_apart {α : Type} {x : α} {t xs ys : List α} (apart : ∀ y ∈ xs, y ≠ x)
    (h : x :: t <:+: xs ++ ys) : x :: t <:+: ys := by
  induction xs with
  | nil => exact h
  | cons y xs ih =>
    obtain ⟨here, apart⟩ := List.forall_mem_cons.1 apart
    rcases List.infix_cons_iff.1 h with front | behind
    · exact absurd (List.cons_prefix_cons.1 front).1.symm here
    · exact ih apart behind

/-! ## Quantifiers that stand where they can -/

/-- Only the first character of a quantifier begins one, and none opens a group. -/
theorem Quantifier.front {q : List Char} (quantifier : Quantifier q) :
    ∃ c t, q = c :: t ∧ c ≠ '(' ∧ ∀ d ∈ t, ¬ Quantifies d ∧ d ≠ '(' := by
  cases quantifier with
  | @mark c mark =>
    refine ⟨c, [], rfl, ?_, nofun⟩
    rcases mark with rfl | rfl | rfl <;> decide
  | @counted counts digits =>
    refine ⟨'\x7b', _, rfl, by decide, fun d mem => ?_⟩
    unfold Quantifies
    rcases List.mem_append.1 mem with mem | mem
    · rcases digits d mem with digit | rfl
      · constructor
        · rintro (rfl | rfl | rfl | rfl) <;> cases digit
        · rintro rfl
          cases digit
      · decide
    · obtain rfl := List.mem_singleton.1 mem
      decide

theorem Quantifier.quantified {q : List Char} (quantifier : Quantifier q) :
    Quantified (q.map some) := by
  cases quantifier with
  | mark mark => exact .mark mark
  | @counted counts digits =>
    have closed : some '\x7d' ∉ counts.map some := by simpa using not_closed digits
    simpa using Quantified.braces closed

/-- A quantifier ends where its mark or its brace does. -/
theorem Quantified.of_prefix {q r x y : List (Option Char)} (h : Quantified q) (h' : Quantified r)
    (front : q ++ x <+: r ++ y) : q = r ∧ x <+: y := by
  cases h with
  | mark mark =>
    cases h' with
    | mark mark' =>
      obtain ⟨same, behind⟩ := List.cons_prefix_cons.1 front
      exact ⟨congrArg (· :: []) same, behind⟩
    | braces =>
      cases (List.cons_prefix_cons.1 front).1
      simp at mark
  | braces closed =>
    cases h' with
    | mark mark' =>
      cases (List.cons_prefix_cons.1 front).1
      simp at mark'
    | braces closed' =>
      rw [List.cons_append, List.cons_append, List.append_assoc, List.append_assoc] at front
      obtain ⟨rfl, behind⟩ := prefix_of_first closed closed' (List.cons_prefix_cons.1 front).2
      exact ⟨rfl, behind⟩

/-! ## Groups -/

theorem Scanned.opening_ne (scanned : Scanned version .opening ps) :
    (outline ps).head? ≠ some (some '?') := by
  cases scanned with
  | done => nofun
  | plain begins =>
    rintro ⟨⟩
    exact begins.1 rfl
  | escaped | named | bracket => nofun
  | repeated _ quantifier allowed =>
    cases quantifier with
    | mark =>
      rintro ⟨⟩
      exact allowed rfl rfl
    | counted => nofun

/-- No group begins with a question mark. -/
theorem Scanned.no_group (scanned : Scanned version place ps) :
    ¬ [some '(', some '?'] <:+: outline ps := by
  induction scanned with
  | done => simp [outline]
  | @plain place c ps begins bare rest ih =>
    rw [outline_cons, Piece.outline, List.singleton_append, List.infix_cons_iff]
    rintro (front | behind)
    · obtain ⟨rfl, t, front⟩ : '(' = c ∧ [some '?'] <+: outline ps := by
        simpa using List.cons_prefix_cons.1 front
      exact rest.opening_ne (by rw [← front]; rfl)
    · exact ih behind
  | escaped _ _ _ ih | named _ _ ih | bracket _ _ _ ih =>
    rw [outline_cons, Piece.outline, List.singleton_append, List.infix_cons_iff]
    rintro (front | behind)
    · cases (List.cons_prefix_cons.1 front).1
    · exact ih behind
  | @repeated place q ps _ quantifier _ _ ih =>
    rw [outline_cons]
    refine fun h => ih (infix_of_apart ?_ h)
    rintro x mem rfl
    obtain ⟨d, within, same⟩ := List.mem_map.1 mem
    cases same
    obtain ⟨c, t, rfl, here, others⟩ := quantifier.front
    rcases List.mem_cons.1 within with rfl | behind
    · exact here rfl
    · exact (others _ behind).2 rfl

/-! ## Stacks -/

/-- Behind a quantifier only a star or an opening brace can begin another one. -/
theorem Scanned.front_quantifier (scanned : Scanned version .quantifier ps)
    (h : (outline ps).head? = some (some c)) (quantifies : Quantifies c) :
    ∃ post, ps = .plain c :: post ∧ (c = '*' ∨ c = '\x7b') := by
  cases scanned with
  | done => cases h
  | @plain _ d post begins =>
    cases h
    refine ⟨post, rfl, ?_⟩
    unfold Quantifies at quantifies
    simpa [begins.1, begins.2] using quantifies
  | escaped | named | bracket => cases h
  | repeated behind => simp at behind

theorem Slip.cons {p : Piece} : Slip ps → Slip (p :: ps) := by
  rintro ⟨q, c, within, mark⟩
  exact ⟨q, c, List.infix_cons within, mark⟩

/-- A quantifier has another one behind it only in a slip. -/
theorem Scanned.slip_behind {q : List Char} (scanned : Scanned version .quantifier ps)
    (h : [some c] <+: outline ps) (quantifies : Quantifies c) : Slip (.repeated q :: ps) := by
  have head : (outline ps).head? = some (some c) := by
    obtain ⟨t, h⟩ := h
    rw [← h]
    rfl
  obtain ⟨post, rfl, mark⟩ := scanned.front_quantifier head quantifies
  exact ⟨q, c, ⟨[], post, rfl⟩, mark⟩

/-- No stack begins behind an atom, unless there is a slip in it. -/
theorem Scanned.slip_atom (scanned : Scanned version place ps)
    (behind : place = .atom ∨ place = .opening) (stack : Stack s) (front : s <+: outline ps) :
    Slip ps := by
  obtain ⟨c, t, head, quantifies⟩ := stack.head
  cases scanned with
  | done =>
    rw [List.prefix_nil.1 front] at head
    cases head
  | @plain _ d ps begins =>
    rw [head, outline_cons] at front
    obtain ⟨same, -⟩ := List.cons_prefix_cons.1 front
    cases same
    unfold Quantifies at quantifies
    rcases behind with rfl | rfl <;> simp [Place.Begins] at begins quantifies <;> grind
  | escaped | named | bracket =>
    rw [head, outline_cons] at front
    cases (List.cons_prefix_cons.1 front).1
  | @repeated _ q ps _ quantifier _ rest =>
    obtain ⟨quantified, mark⟩ := stack
    obtain ⟨-, within⟩ := quantified.of_prefix quantifier.quantified front
    exact rest.slip_behind within mark

/-- A stack has a slip in it, unless it is in front of the pattern. -/
theorem Scanned.slip_or_front (scanned : Scanned version place ps) (stack : Stack s)
    (h : s <:+: outline ps) : Slip ps ∨ s <+: outline ps := by
  obtain ⟨c, t, head, quantifies⟩ := stack.head
  induction scanned with
  | done => exact .inr (List.infix_nil.1 h ▸ List.nil_prefix)
  | @plain place d ps begins bare rest ih =>
    rw [outline_cons, Piece.outline, List.singleton_append, List.infix_cons_iff] at h
    refine h.symm.imp_left fun behind => ?_
    have place : placeBehind d = .atom ∨ placeBehind d = .opening := by
      unfold placeBehind
      split <;> simp
    rcases ih behind with slip | front
    · exact slip.cons
    · exact (rest.slip_atom place stack front).cons
  | escaped _ _ rest ih | named _ rest ih | bracket _ _ rest ih =>
    rw [outline_cons, Piece.outline, List.singleton_append, List.infix_cons_iff] at h
    refine h.symm.imp_left fun behind => ?_
    rcases ih behind with slip | front
    · exact slip.cons
    · exact (rest.slip_atom (.inl rfl) stack front).cons
  | @repeated place q ps _ quantifier _ rest ih =>
    obtain ⟨d, u, rfl, -, others⟩ := quantifier.front
    rw [outline_cons, Piece.outline, List.map_cons, List.cons_append, List.infix_cons_iff] at h
    refine h.symm.imp_left fun behind => ?_
    have within : s <:+: outline ps := by
      rw [head] at behind ⊢
      refine infix_of_apart ?_ behind
      rintro x mem rfl
      obtain ⟨e, mem, same⟩ := List.mem_map.1 mem
      cases same
      exact (others _ mem).1 quantifies
    rcases ih within with slip | front
    · exact slip.cons
    · rw [head] at front
      exact rest.slip_behind ((List.prefix_append [some c] t).trans front) quantifies

theorem Scanned.quantifier {q : List Char} (scanned : Scanned version place ps)
    (mem : .repeated q ∈ ps) : Quantifier q := by
  induction scanned with
  | done => cases mem
  | plain _ _ _ ih | escaped _ _ _ ih | named _ _ ih | bracket _ _ _ ih =>
    rcases List.mem_cons.1 mem with same | mem
    · cases same
    · exact ih mem
  | repeated _ quantifier _ _ ih =>
    rcases List.mem_cons.1 mem with same | mem
    · cases same
      exact quantifier
    · exact ih mem

/-- A slip is a stack. -/
theorem Scanned.stack_of_slip (scanned : Scanned version place ps) (slip : Slip ps) :
    ∃ s, Stack s ∧ s <:+: outline ps := by
  obtain ⟨q, c, ⟨before, behind, rfl⟩, mark⟩ := slip
  have quantifier : Quantifier q := scanned.quantifier (by simp)
  have quantifies : Quantifies c := by
    unfold Quantifies
    rcases mark with rfl | rfl <;> decide
  exact ⟨_, .mk quantifier.quantified quantifies, outline before, outline behind,
    by simp [outline, Piece.outline]⟩

/-! ## What is matched -/

/-- No pattern that is matched begins with a quantifier. -/
theorem parse_quantifies {i m : Bool} (quantifies : Quantifies c) (cs : List Char) :
    Regex.parse (.standard i m) (c :: cs) = .error .malformed := by
  have stuck : Reading.step? ⟨.standard i m, [], [], .start⟩ c cs = none := by
    rcases quantifies with rfl | rfl | rfl | rfl
    · rfl
    · rfl
    · rfl
    · cases read : counts? (.standard i m) cs <;>
        simp [Reading.step?, read, Reading.repeatLast?, Frame.repeatLast?, Frame.start]
  have refused : Reading.rest? ((c :: cs).length + 1) ⟨.standard i m, [], [], .start⟩ (c :: cs) =
      none := by
    rw [Reading.rest?]
    simp [stuck]
  rw [Regex.parse, refused]

theorem Scanned.written_of_front (scanned : Scanned version .start ps) (stack : Stack s)
    (front : s <+: outline ps) : ∃ c cs, Quantifies c ∧ ps.flatMap Piece.written = c :: cs := by
  obtain ⟨c, t, rfl, quantifies⟩ := stack.head
  cases scanned with
  | done => cases List.prefix_nil.1 front
  | plain =>
    cases (List.cons_prefix_cons.1 front).1
    exact ⟨c, _, quantifies, rfl⟩
  | escaped | named | bracket => cases (List.cons_prefix_cons.1 front).1
  | repeated behind => simp at behind

def Glyph.outline : Glyph → Option Char
  | char c => some c
  | escape _ | bracket _ _ => none

/-- A text that is read piece by piece has the outline of the pieces. -/
theorem Kept.outline_eq {gs : List Glyph} (kept : Kept ps gs) :
    gs.map Glyph.outline = outline ps := by
  induction kept with
  | done => rfl
  | @apart p ps gs none _ ih =>
    rw [List.map_append, ih, outline_cons]
    congr 1
    cases p with
    | plain | escaped => rfl
    | repeated q => simp [Piece.glyphs, Piece.outline, Glyph.outline, Function.comp_def]
    | named | bracket => cases none
  | @bracket p ps gs _ _ _ _ class_ _ _ _ ih =>
    rw [List.map_cons, ih, outline_cons]
    cases p with
    | named | bracket => rfl
    | plain | escaped | repeated => cases class_

/-- **A quantifier has another one behind it only in a slip, or in front of the pattern.** An
accepted pattern is made of pieces in one way. What it is spelled out as is no pattern if it begins
with a stack. No group begins with a question mark. Where the classes of the pattern are steady,
what it is spelled out as is read with the same outline. -/
theorem repetition_stacked_iff {out : List Char} (accepted : expand version cs = .ok out) :
    ∃ ps, Scans version cs ps ∧ (∀ qs, Scans version cs qs → qs = ps) ∧
      ¬ [some '(', some '?'] <:+: outline ps ∧
      ((∃ s, Stack s ∧ s <:+: outline ps) ↔ Slip ps ∨ ∃ s, Stack s ∧ s <+: outline ps) ∧
      ∀ i m,
        ((∃ s, Stack s ∧ s <+: outline ps) → Regex.parse (.standard i m) out = .error .malformed) ∧
        ((∀ ms, .bracket ms ∈ ps → Steady ms) → ∀ gs, Glyphs (.standard i m) out gs →
          gs.map Glyph.outline = outline ps) := by
  obtain ⟨ps, scans, rfl⟩ := expand_eq_ok_iff.1 accepted
  refine ⟨ps, scans, fun qs other => other.unique scans, scans.scanned.no_group, ⟨?_, ?_⟩,
    fun i m => ⟨?_, fun steady gs read => ?_⟩⟩
  · rintro ⟨s, stack, within⟩
    exact (scans.scanned.slip_or_front stack within).imp_right fun front => ⟨s, stack, front⟩
  · rintro (slip | ⟨s, stack, front⟩)
    · exact scans.scanned.stack_of_slip slip
    · exact ⟨s, stack, front.isInfix⟩
  · rintro ⟨s, stack, front⟩
    obtain ⟨c, cs, quantifies, text⟩ := scans.scanned.written_of_front stack front
    rw [text, parse_quantifies quantifies]
  · have kept := (kept_iff scans.scanned.sound read).2 (forall_steady_iff.2 steady)
    exact kept.outline_eq

theorem repetition_stacked_star :
    let ps : List Piece := [.plain 'a', .repeated ['*'], .plain '*', .repeated ['?']]
    expand .v2 "a**?".toList = .ok "a**?".toList ∧ Scans .v2 "a**?".toList ps ∧ Slip ps ∧
      ∃ s, Stack s ∧ s <:+: outline ps := by
  intro ps
  have accepted : expand .v2 "a**?".toList = .ok "a**?".toList := rfl
  have scans : Scans .v2 "a**?".toList ps :=
    ⟨.plain trivial (by decide) (.repeated (.inl rfl) (.mark (by decide)) nofun
      (.plain ⟨by decide, by decide⟩ (by decide) (.repeated (.inl rfl) (.mark (by decide)) nofun
        (.done rfl)))), rfl⟩
  have slip : Slip ps := ⟨['*'], '*', ⟨[.plain 'a'], [.repeated ['?']], rfl⟩, .inl rfl⟩
  obtain ⟨_, -, unique, -, stacked, -⟩ := repetition_stacked_iff accepted
  obtain rfl := unique ps scans
  exact ⟨accepted, scans, slip, stacked.2 (.inl slip)⟩

end Isl.Pattern
