import Isl.Pattern.Portable
/-!
# Pieces of a pattern

A pattern that is accepted is a row of pieces: characters that stand for themselves, escapes,
bracketed classes and quantifiers. Each piece is written by itself, so what a pattern is spelled out
as is the row of what its pieces are written as (`expand_eq_ok_iff`). There is one way to take it
apart (`Scans.unique`).

* `Named`: the classes that have letters;
* `Member`, `Members`: what stands in a bracketed class;
* `Quantifier`: what a quantifier is spelled as;
* `Piece`, `Scanned`: pieces in the places where they can stand.
-/
namespace Isl.Pattern

variable {version : IslVersion} {place next : Place} {cs out w : List Char} {c : Char} {at_ : Nat}

/-! ## Named classes -/

/-- A class that has a letter. -/
inductive Named where
  | digit | word | space
deriving DecidableEq, Repr

namespace Named

/-- The capital letter negates. -/
def letter : Named → Bool → Char
  | digit, false => 'd'
  | digit, true => 'D'
  | word, false => 'w'
  | word, true => 'W'
  | space, false => 's'
  | space, true => 'S'

def members : Named → List Char
  | digit => digitRange
  | word => wordRange
  | space => spaceRange

theorem of_namedClass? {members : List Char} {negated : Bool}
    (h : namedClass? c = some (members, negated)) :
    ∃ k : Named, c = k.letter negated ∧ members = k.members := by
  unfold namedClass? at h
  split at h
  · cases h; exact ⟨digit, rfl, rfl⟩
  · cases h; exact ⟨digit, rfl, rfl⟩
  · cases h; exact ⟨word, rfl, rfl⟩
  · cases h; exact ⟨word, rfl, rfl⟩
  · cases h; exact ⟨space, rfl, rfl⟩
  · cases h; exact ⟨space, rfl, rfl⟩
  · cases h

theorem letter_injective {k l : Named} {negated negated' : Bool}
    (same : k.letter negated = l.letter negated') : k = l ∧ negated = negated' := by
  cases k <;> cases l <;> cases negated <;> cases negated' <;> first | exact ⟨rfl, rfl⟩ | cases same

theorem letter_not_literal (k : Named) (negated : Bool) : k.letter negated ∉ literalEscapes := by
  cases k <;> cases negated <;> decide

theorem letter_not_mark (k : Named) (negated : Bool) :
    ¬ (k.letter negated = '[' ∨ k.letter negated = ']' ∨ k.letter negated = '\\') := by
  cases k <;> cases negated <;> decide

end Named

/-! ## Members of classes -/

/-- What stands in a bracketed class: a character, one behind a backslash, or a named class. -/
inductive Member where
  | plain (c : Char)
  | escaped (c : Char)
  | named (k : Named) (negated : Bool)
deriving DecidableEq, Repr

namespace Member

def source : Member → List Char
  | plain c => [c]
  | escaped c => ['\\', c]
  | named k negated => ['\\', k.letter negated]

/-- A tilde is escaped, and a negated class is a class of its own. -/
def written : Member → List Char
  | plain c => if c = '~' then ['\\', '~'] else [c]
  | escaped c => ['\\', c]
  | named k negated => if negated then bracketed k.members true else k.members

end Member

/-- The members of a class, behind an ampersand or not. Two ampersands do not stand side by side,
and named classes are members from version 2.0 on. -/
inductive Members (version : IslVersion) : Bool → List Member → Prop where
  | nil {ampersand : Bool} : Members version ampersand []
  | plain {ampersand : Bool} {c : Char} {ms : List Member} (bare : c ≠ '[' ∧ c ≠ ']' ∧ c ≠ '\\')
      (apart : ¬ (c = '&' ∧ ampersand = true)) (rest : Members version (c == '&') ms) :
      Members version ampersand (.plain c :: ms)
  | escaped {ampersand : Bool} {c : Char} {ms : List Member} (mark : c = '[' ∨ c = ']' ∨ c = '\\')
      (rest : Members version false ms) : Members version ampersand (.escaped c :: ms)
  | named {ampersand : Bool} {k : Named} {negated : Bool} {ms : List Member}
      (known : version = .v2) (rest : Members version false ms) :
      Members version ampersand (.named k negated :: ms)

/-! ## Quantifiers -/

/-- A quantifier is a mark, or digits and commas in braces, with no comma in front. -/
inductive Quantifier : List Char → Prop where
  | mark {c : Char} (mark : c = '?' ∨ c = '*' ∨ c = '+') : Quantifier [c]
  | counted {counts : List Char} (digits : ∀ c ∈ counts, c.isDigit = true ∨ c = ',')
      (first : counts.head? ≠ some ',') : Quantifier ('\x7b' :: (counts ++ ['\x7d']))

theorem Quantifier.bare {q : List Char} (quantifier : Quantifier q) :
    ∀ c ∈ q, c ≠ '[' ∧ c ≠ '\\' := by
  cases quantifier with
  | mark mark =>
    simp only [List.mem_singleton, forall_eq]
    rcases mark with rfl | rfl | rfl <;> decide
  | counted digits first =>
    simp only [List.mem_cons, List.mem_append, List.not_mem_nil, or_false]
    rintro c (rfl | h | rfl)
    · decide
    · rcases digits c h with number | rfl
      · constructor <;> (rintro rfl; cases number)
      · decide
    · decide

/-! ## Pieces -/

/-- What a pattern is made of. -/
inductive Piece where
  | plain (c : Char)
  | escaped (c : Char)
  | named (k : Named) (negated : Bool)
  | bracket (ms : List Member)
  | repeated (q : List Char)
deriving DecidableEq, Repr

namespace Piece

def source : Piece → List Char
  | plain c => [c]
  | escaped c => ['\\', c]
  | named k negated => ['\\', k.letter negated]
  | bracket ms => '[' :: (ms.flatMap Member.source ++ [']'])
  | repeated q => q

def written : Piece → List Char
  | plain c => [c]
  | escaped c => ['\\', c]
  | named k negated => bracketed k.members negated
  | bracket ms => '[' :: (ms.flatMap Member.written ++ [']'])
  | repeated q => q

end Piece

/-- The character can begin an atom at the place, so it is not taken for a quantifier there, nor for
the suffix of one. -/
def Place.Begins : Place → Char → Prop
  | .start, _ => True
  | .quantifier, c => c ≠ '?' ∧ c ≠ '+'
  | .atom, c | .opening, c => c ≠ '?' ∧ c ≠ '*' ∧ c ≠ '+' ∧ c ≠ '\x7b'
  | _, _ => False

/-- The place behind a character that stands for itself. -/
def placeBehind (c : Char) : Place := if c = '(' then .opening else .atom

/-- Pieces that can stand at a place, up to the end of a pattern. -/
inductive Scanned (version : IslVersion) : Place → List Piece → Prop where
  | done {place : Place} (whole : endFault? place = none) : Scanned version place []
  | plain {place : Place} {c : Char} {ps : List Piece} (begins : place.Begins c)
      (bare : c ≠ '[' ∧ c ≠ '\\') (rest : Scanned version (placeBehind c) ps) :
      Scanned version place (.plain c :: ps)
  | escaped {place : Place} {c : Char} {ps : List Piece} (begins : place.Begins '\\')
      (literal : c ∈ literalEscapes) (rest : Scanned version .atom ps) :
      Scanned version place (.escaped c :: ps)
  | named {place : Place} {k : Named} {negated : Bool} {ps : List Piece}
      (begins : place.Begins '\\') (rest : Scanned version .atom ps) :
      Scanned version place (.named k negated :: ps)
  | bracket {place : Place} {ms : List Member} {ps : List Piece} (begins : place.Begins '[')
      (members : Members version false ms) (rest : Scanned version .atom ps) :
      Scanned version place (.bracket ms :: ps)
  | repeated {place : Place} {q : List Char} {ps : List Piece}
      (behind : place = .atom ∨ place = .opening) (quantifier : Quantifier q)
      (allowed : place = .opening → q ≠ ['?']) (rest : Scanned version .quantifier ps) :
      Scanned version place (.repeated q :: ps)

/-- The pieces are what the pattern is scanned as. -/
structure Scans (version : IslVersion) (cs : List Char) (ps : List Piece) : Prop where
  scanned : Scanned version .start ps
  source : ps.flatMap Piece.source = cs

/-! ## Scanning -/

theorem scan_cons_eq_ok_iff :
    scan version place at_ (c :: cs) = .ok out ↔
      ∃ next w rest, step version place c at_ = .ok (next, w) ∧
        scan version next (at_ + 1) cs = .ok rest ∧ out = w ++ rest := by
  rw [scan]
  cases stepped : step version place c at_ with
  | error fault => exact ⟨nofun, nofun⟩
  | ok read =>
    obtain ⟨next, w⟩ := read
    cases scanned : scan version next (at_ + 1) cs with
    | error fault =>
      simp only [bind, Except.bind, scanned, Except.ok.injEq, Prod.mk.injEq]
      exact ⟨nofun, by rintro ⟨_, _, _, ⟨rfl, rfl⟩, h, _⟩; rw [scanned] at h; cases h⟩
    | ok rest =>
      simp only [bind, Except.bind, scanned, Except.ok.injEq, Prod.mk.injEq]
      constructor
      · rintro rfl
        exact ⟨next, w, rest, ⟨rfl, rfl⟩, scanned, rfl⟩
      · rintro ⟨_, _, _, ⟨rfl, rfl⟩, h, rfl⟩
        rw [scanned] at h
        cases h
        rfl

/-! ### Classes -/

/-- What is behind a backslash in a class is a member. -/
theorem member_of_stepClassEscape (h : stepClassEscape version c at_ = .ok (next, w)) :
    ∃ m : Member, m.source = ['\\', c] ∧ m.written = w ∧ next = .inClass false ∧
      ∀ ampersand ms, Members version false ms → Members version ampersand (m :: ms) := by
  unfold stepClassEscape at h
  split at h
  · rename_i mark
    cases h
    exact ⟨.escaped c, rfl, rfl, rfl, fun _ _ => .escaped mark⟩
  · split at h
    · rename_i members negated named
      cases h
      obtain ⟨k, rfl, rfl⟩ := Named.of_namedClass? named
      exact ⟨.named k negated, rfl, rfl, rfl, fun _ _ => .named rfl⟩
    · cases h

/-- A character in a class that neither closes it nor is a backslash is a member. -/
theorem stepClass_eq_ok_iff {ampersand : Bool} (inside : c ≠ ']') (bare : c ≠ '\\') :
    stepClass ampersand c at_ = .ok (next, w) ↔
      (c ≠ '[' ∧ ¬ (c = '&' ∧ ampersand = true)) ∧
        next = .inClass (c == '&') ∧ w = (Member.plain c).written := by
  unfold stepClass Member.written
  by_cases both : c = '&'
  · subst both
    cases ampersand <;> simp [eq_comm]
  · by_cases nested : c = '['
    · simp [nested]
    · by_cases tilde : c = '~' <;> simp [beq_false_of_ne both, *, eq_comm]

/-- A class that is scanned to the end of a pattern is closed behind its members. -/
theorem members_of_scan {ampersand : Bool} {cs : List Char} {at_ : Nat} {out : List Char}
    (h : scan version (.inClass ampersand) at_ cs = .ok out) :
    ∃ ms cs' at' out', Members version ampersand ms ∧
      cs = ms.flatMap Member.source ++ ']' :: cs' ∧
      out = ms.flatMap Member.written ++ ']' :: out' ∧ scan version .atom at' cs' = .ok out' := by
  cases cs with
  | nil => cases h
  | cons c cs =>
    obtain ⟨next, w, rest, stepped, scanned, rfl⟩ := scan_cons_eq_ok_iff.1 h
    by_cases inside : c = ']'
    · subst inside
      cases stepped
      exact ⟨[], cs, _, rest, .nil, rfl, rfl, scanned⟩
    by_cases bare : c = '\\'
    · subst bare
      cases stepped
      cases cs with
      | nil => cases scanned
      | cons e cs =>
        obtain ⟨next, w, rest, stepped, scanned, rfl⟩ := scan_cons_eq_ok_iff.1 scanned
        obtain ⟨m, source, rfl, rfl, member⟩ := member_of_stepClassEscape stepped
        obtain ⟨ms, cs', at', out', members, rfl, rfl, behind⟩ := members_of_scan scanned
        exact ⟨m :: ms, cs', at', out', member _ _ members, by simp [source], by simp, behind⟩
    · obtain ⟨⟨nested, apart⟩, rfl, rfl⟩ := (stepClass_eq_ok_iff inside bare).1 stepped
      obtain ⟨ms, cs', at', out', members, rfl, rfl, behind⟩ := members_of_scan scanned
      exact ⟨.plain c :: ms, cs', at', out', .plain ⟨nested, inside, bare⟩ apart members, rfl,
        by simp, behind⟩
termination_by cs.length

theorem scan_of_members {ampersand : Bool} {ms : List Member} {cs out : List Char}
    (members : Members version ampersand ms)
    (behind : ∀ at_, scan version .atom at_ cs = .ok out) (at_ : Nat) :
    scan version (.inClass ampersand) at_ (ms.flatMap Member.source ++ ']' :: cs) =
      .ok (ms.flatMap Member.written ++ ']' :: out) := by
  induction members generalizing at_ with
  | nil => exact scan_cons_eq_ok_iff.2 ⟨_, _, _, rfl, behind _, rfl⟩
  | @plain ampersand c ms bare apart rest ih =>
    have stepped : stepClass ampersand c at_ = .ok (.inClass (c == '&'), _) :=
      (stepClass_eq_ok_iff bare.2.1 bare.2.2).2 ⟨⟨bare.1, apart⟩, rfl, rfl⟩
    exact scan_cons_eq_ok_iff.2 ⟨_, _, _, stepped, ih _, by simp⟩
  | @escaped ampersand c ms mark rest ih =>
    have escape : stepClassEscape version c (at_ + 1) = .ok (.inClass false, ['\\', c]) :=
      if_pos mark
    exact scan_cons_eq_ok_iff.2 ⟨.classEscape, [], _, rfl,
      scan_cons_eq_ok_iff.2 ⟨_, _, _, escape, ih _, rfl⟩, rfl⟩
  | @named ampersand k negated ms known rest ih =>
    subst known
    have escape : stepClassEscape .v2 (k.letter negated) (at_ + 1) =
        .ok (.inClass false, (Member.named k negated).written) := by
      cases k <;> cases negated <;> rfl
    exact scan_cons_eq_ok_iff.2 ⟨.classEscape, [], _, rfl,
      scan_cons_eq_ok_iff.2 ⟨_, _, _, escape, ih _, rfl⟩, by simp⟩

/-! ### Quantifiers -/

theorem stepBraces_eq_ok_iff {digit : Bool} :
    stepBraces digit c at_ = .ok (next, w) ↔
      w = [c] ∧ (c.isDigit = true ∧ next = .braces true ∨
        c = ',' ∧ digit = true ∧ next = .braces true ∨ c = '\x7d' ∧ next = .quantifier) := by
  unfold stepBraces
  by_cases number : c.isDigit = true
  · have comma : c ≠ ',' := by rintro rfl; cases number
    have closing : c ≠ '\x7d' := by rintro rfl; cases number
    simp [number, comma, closing, eq_comm, and_comm]
  · by_cases comma : c = ','
    · subst comma
      cases digit <;> simp [eq_comm, and_comm]
    · by_cases closing : c = '\x7d' <;> simp [number, comma, closing, eq_comm, and_comm]

/-- A brace that is scanned to the end of a pattern is closed behind digits and commas. -/
theorem counts_of_scan {digit : Bool} (h : scan version (.braces digit) at_ cs = .ok out) :
    ∃ counts cs' at' out', (∀ c ∈ counts, c.isDigit = true ∨ c = ',') ∧
      (digit = false → counts.head? ≠ some ',') ∧ cs = counts ++ '\x7d' :: cs' ∧
      out = counts ++ '\x7d' :: out' ∧ scan version .quantifier at' cs' = .ok out' := by
  induction cs generalizing digit at_ out with
  | nil => cases h
  | cons c cs ih =>
    obtain ⟨next, w, rest, stepped, scanned, rfl⟩ := scan_cons_eq_ok_iff.1 h
    obtain ⟨rfl, ⟨number, rfl⟩ | ⟨rfl, known, rfl⟩ | ⟨rfl, rfl⟩⟩ := stepBraces_eq_ok_iff.1 stepped
    · obtain ⟨counts, cs', at', out', digits, -, rfl, rfl, behind⟩ := ih scanned
      refine ⟨c :: counts, cs', at', out', List.forall_mem_cons.2 ⟨.inl number, digits⟩, ?_, rfl,
        rfl, behind⟩
      rintro - ⟨⟩
      cases number
    · obtain ⟨counts, cs', at', out', digits, -, rfl, rfl, behind⟩ := ih scanned
      exact ⟨',' :: counts, cs', at', out', List.forall_mem_cons.2 ⟨.inr rfl, digits⟩,
        fun none => absurd (known.symm.trans none) nofun, rfl, rfl, behind⟩
    · exact ⟨[], cs, _, rest, nofun, nofun, rfl, rfl, scanned⟩

theorem scan_of_counts {counts : List Char} {digit : Bool}
    (digits : ∀ c ∈ counts, c.isDigit = true ∨ c = ',')
    (first : digit = false → counts.head? ≠ some ',')
    (behind : ∀ at_, scan version .quantifier at_ cs = .ok out) (at_ : Nat) :
    scan version (.braces digit) at_ (counts ++ '\x7d' :: cs) = .ok (counts ++ '\x7d' :: out) := by
  induction counts generalizing digit at_ with
  | nil => exact scan_cons_eq_ok_iff.2 ⟨_, _, _, rfl, behind _, rfl⟩
  | cons c counts ih =>
    obtain ⟨here, digits⟩ := List.forall_mem_cons.1 digits
    have behind (at_ : Nat) := @ih true digits (by simp) at_
    rcases here with number | rfl
    · exact scan_cons_eq_ok_iff.2 ⟨_, _, _,
        stepBraces_eq_ok_iff.2 ⟨rfl, .inl ⟨number, rfl⟩⟩, behind _, rfl⟩
    · have known : digit = true := by
        cases digit with
        | true => rfl
        | false => exact absurd rfl (first rfl)
      exact scan_cons_eq_ok_iff.2 ⟨_, _, _,
        stepBraces_eq_ok_iff.2 ⟨rfl, .inr (.inl ⟨rfl, known, rfl⟩)⟩, behind _, rfl⟩

/-! ### Patterns -/

/-- A character that is read behind an atom for a quantifier, or for the beginning of one. -/
inductive Repeats : Char → Place → Prop where
  | mark {c : Char} (mark : c = '?' ∨ c = '*' ∨ c = '+') : Repeats c .quantifier
  | braces : Repeats '\x7b' (.braces false)

theorem stepAtom_eq_iff : stepAtom c = (next, w) ↔
    w = [c] ∧ Repeats c next ∨ Place.atom.Begins c ∧ stepStart c = (next, w) := by
  unfold stepAtom Place.Begins
  split
  · rename_i mark
    constructor
    · rintro ⟨⟩
      exact .inl ⟨rfl, .mark mark⟩
    · rintro (⟨rfl, ⟨⟩ | ⟨⟩⟩ | ⟨other, -⟩)
      · rfl
      · rcases mark with mark | mark | mark <;> cases mark
      · rcases mark with mark | mark | mark <;> simp [mark] at other
  · rename_i mark
    split
    · rename_i brace
      subst brace
      constructor
      · rintro ⟨⟩
        exact .inl ⟨rfl, .braces⟩
      · rintro (⟨rfl, repeats⟩ | ⟨other, -⟩)
        · cases repeats with
          | mark wrong => exact absurd wrong mark
          | braces => rfl
        · exact absurd rfl other.2.2.2
    · rename_i brace
      simp only [not_or] at mark
      constructor
      · exact fun read => .inr ⟨⟨mark.1, mark.2.1, mark.2.2, brace⟩, read⟩
      · rintro (⟨rfl, ⟨⟩ | ⟨⟩⟩ | ⟨-, read⟩)
        · rename_i wrong
          simp [mark] at wrong
        · exact absurd rfl brace
        · exact read

/-- Where a piece can begin, a character begins a quantifier or an atom. -/
theorem step_eq_ok_iff (whole : endFault? place = none) :
    step version place c at_ = .ok (next, w) ↔
      (place = .atom ∨ place = .opening) ∧ ¬ (place = .opening ∧ c = '?') ∧ w = [c] ∧
          Repeats c next ∨
        place.Begins c ∧ stepStart c = (next, w) := by
  cases place with
  | start => simp [step, Place.Begins]
  | atom => simp [step, stepAtom_eq_iff]
  | opening =>
    by_cases suffix : c = '?'
    · simp [step, suffix, Place.Begins]
    · simp [step, suffix, stepAtom_eq_iff, Place.Begins]
  | quantifier =>
    by_cases suffix : c = '?' ∨ c = '+'
    · rcases suffix with rfl | rfl <;> simp [step, Place.Begins]
    · rw [not_or] at suffix
      simp [step, suffix, Place.Begins]
  | escape | inClass | classEscape | braces => cases whole

/-- What is behind a backslash is an escape or a named class. -/
theorem piece_of_stepEscape (version : IslVersion) (h : stepEscape c at_ = .ok (next, w)) :
    ∃ p : Piece, p.source = ['\\', c] ∧ p.written = w ∧ next = .atom ∧
      ∀ place ps, place.Begins '\\' → Scanned version .atom ps →
        Scanned version place (p :: ps) := by
  unfold stepEscape at h
  split at h
  · rename_i literal
    cases h
    exact ⟨.escaped c, rfl, rfl, rfl, fun _ _ begins => .escaped begins
      (List.contains_iff_mem.1 literal)⟩
  · split at h
    · rename_i members negated named
      cases h
      obtain ⟨k, rfl, rfl⟩ := Named.of_namedClass? named
      exact ⟨.named k negated, rfl, rfl, rfl, fun _ _ begins => .named begins⟩
    · cases h

theorem stepStart_plain (bare : c ≠ '[' ∧ c ≠ '\\') : stepStart c = (placeBehind c, [c]) := by
  unfold stepStart placeBehind
  split
  · exact absurd rfl bare.1
  · rfl
  · exact absurd rfl bare.2
  · rename_i other _
    rw [if_neg other]

theorem endFault?_placeBehind (c : Char) : endFault? (placeBehind c) = none := by
  unfold placeBehind
  split <;> rfl

/-- What is scanned to the end of a pattern is a row of pieces. -/
theorem scanned_of_scan {place : Place} {at_ : Nat} {cs out : List Char}
    (whole : endFault? place = none) (h : scan version place at_ cs = .ok out) :
    ∃ ps, Scanned version place ps ∧ ps.flatMap Piece.source = cs ∧
      ps.flatMap Piece.written = out := by
  cases cs with
  | nil =>
    rw [scan, whole] at h
    cases h
    exact ⟨[], .done whole, rfl, rfl⟩
  | cons c cs =>
    obtain ⟨next, w, rest, stepped, scanned, rfl⟩ := scan_cons_eq_ok_iff.1 h
    obtain ⟨behind, suffix, rfl, repeats⟩ | ⟨begins, start⟩ := (step_eq_ok_iff whole).1 stepped
    · cases repeats with
      | mark mark =>
        obtain ⟨ps, pieces, rfl, rfl⟩ := scanned_of_scan rfl scanned
        refine ⟨.repeated [c] :: ps, .repeated behind (.mark mark) ?_ pieces, rfl, rfl⟩
        rintro opening ⟨⟩
        exact suffix ⟨opening, rfl⟩
      | braces =>
        obtain ⟨counts, cs', at', out', digits, first, rfl, rfl, closed⟩ := counts_of_scan scanned
        obtain ⟨ps, pieces, rfl, rfl⟩ := scanned_of_scan rfl closed
        exact ⟨.repeated _ :: ps, .repeated behind (.counted digits (first rfl)) nofun pieces,
          by simp [Piece.source], by simp [Piece.written]⟩
    · by_cases bracket : c = '['
      · subst bracket
        cases start
        obtain ⟨ms, cs', at', out', members, rfl, rfl, closed⟩ := members_of_scan scanned
        obtain ⟨ps, pieces, rfl, rfl⟩ := scanned_of_scan rfl closed
        exact ⟨.bracket ms :: ps, .bracket begins members pieces, by simp [Piece.source],
          by simp [Piece.written]⟩
      by_cases backslash : c = '\\'
      · subst backslash
        cases start
        cases cs with
        | nil => cases scanned
        | cons e cs =>
          obtain ⟨next, w, rest, stepped, scanned, rfl⟩ := scan_cons_eq_ok_iff.1 scanned
          obtain ⟨p, source, rfl, rfl, piece⟩ := piece_of_stepEscape version stepped
          obtain ⟨ps, pieces, rfl, rfl⟩ := scanned_of_scan rfl scanned
          exact ⟨p :: ps, piece _ _ begins pieces, by simp [source], by simp⟩
      · rw [stepStart_plain ⟨bracket, backslash⟩] at start
        cases start
        obtain ⟨ps, pieces, rfl, rfl⟩ := scanned_of_scan (endFault?_placeBehind c) scanned
        exact ⟨.plain c :: ps, .plain begins ⟨bracket, backslash⟩ pieces, rfl, rfl⟩
termination_by cs.length

theorem step_begins (begins : place.Begins c) (at_ : Nat) :
    step version place c at_ = .ok (stepStart c) := by
  have whole : endFault? place = none := by
    cases place <;> first | rfl | cases begins
  exact (step_eq_ok_iff whole).2 (.inr ⟨begins, rfl⟩)

theorem scan_of_scanned {ps : List Piece} (scanned : Scanned version place ps) (at_ : Nat) :
    scan version place at_ (ps.flatMap Piece.source) = .ok (ps.flatMap Piece.written) := by
  induction scanned generalizing at_ with
  | done whole => simp [scan, whole]
  | plain begins bare rest ih =>
    have stepped : step version _ _ at_ = .ok (stepStart _) := step_begins begins at_
    rw [stepStart_plain bare] at stepped
    exact scan_cons_eq_ok_iff.2 ⟨_, _, _, stepped, ih _, rfl⟩
  | @escaped place c ps begins literal rest ih =>
    have escape : stepEscape c (at_ + 1) = .ok (.atom, ['\\', c]) :=
      if_pos (List.contains_iff_mem.2 literal)
    exact scan_cons_eq_ok_iff.2 ⟨_, _, _, step_begins begins at_,
      scan_cons_eq_ok_iff.2 ⟨_, _, _, escape, ih _, rfl⟩, rfl⟩
  | @named place k negated ps begins rest ih =>
    have escape : stepEscape (k.letter negated) (at_ + 1) =
        .ok (.atom, bracketed k.members negated) := by
      cases k <;> cases negated <;> rfl
    exact scan_cons_eq_ok_iff.2 ⟨_, _, _, step_begins begins at_,
      scan_cons_eq_ok_iff.2 ⟨_, _, _, escape, ih _, rfl⟩, by simp [Piece.written]⟩
  | @bracket place ms ps begins members rest ih =>
    have closed := scan_of_members members ih (at_ + 1)
    have whole := scan_cons_eq_ok_iff.2 ⟨_, _, _, step_begins begins at_, closed, rfl⟩
    simpa [Piece.source, Piece.written] using whole
  | @repeated place q ps behind quantifier allowed rest ih =>
    have whole : endFault? place = none := by rcases behind with rfl | rfl <;> rfl
    cases quantifier with
    | @mark c mark =>
      have suffix : ¬ (place = .opening ∧ c = '?') := by
        rintro ⟨opening, rfl⟩
        exact allowed opening rfl
      have stepped : step version place c at_ = .ok (.quantifier, [c]) :=
        (step_eq_ok_iff whole).2 (.inl ⟨behind, suffix, rfl, .mark mark⟩)
      exact scan_cons_eq_ok_iff.2 ⟨_, _, _, stepped, ih _, rfl⟩
    | counted digits first =>
      have stepped : step version place '\x7b' at_ = .ok (.braces false, ['\x7b']) :=
        (step_eq_ok_iff whole).2 (.inl ⟨behind, nofun, rfl, .braces⟩)
      have closed : scan version (.braces false) (at_ + 1) _ = .ok _ :=
        scan_of_counts digits (fun _ => first) ih (at_ + 1)
      have whole := scan_cons_eq_ok_iff.2 ⟨_, _, _, stepped, closed, rfl⟩
      simpa [Piece.source, Piece.written] using whole

/-- **A pattern is a row of pieces.** It is accepted exactly if it is made of pieces in places where
they can stand, and it is spelled out piece by piece. -/
theorem expand_eq_ok_iff :
    expand version cs = .ok out ↔
      ∃ ps, Scans version cs ps ∧ ps.flatMap Piece.written = out := by
  constructor
  · intro h
    obtain ⟨ps, scanned, source, written⟩ := scanned_of_scan rfl h
    exact ⟨ps, ⟨scanned, source⟩, written⟩
  · rintro ⟨ps, ⟨scanned, rfl⟩, rfl⟩
    exact scan_of_scanned scanned 0

/-! ## One way to scan a pattern -/

/-- The members of a class are told by what they are written as up to the end of the class. -/
theorem Members.unique {ampersand other : Bool} {ms ns : List Member} {x y : List Char}
    (members : Members version ampersand ms) (members' : Members version other ns)
    (same : ms.flatMap Member.source ++ ']' :: x = ns.flatMap Member.source ++ ']' :: y) :
    ms = ns ∧ x = y := by
  induction members generalizing other ns with
  | nil =>
    cases members' with
    | nil => exact ⟨rfl, (List.cons.inj same).2⟩
    | plain bare => exact absurd (List.cons.inj same).1.symm bare.2.1
    | escaped | named => cases (List.cons.inj same).1
  | plain bare _ _ ih =>
    cases members' with
    | nil => exact absurd (List.cons.inj same).1 bare.2.1
    | plain _ _ rest' =>
      obtain ⟨rfl, behind⟩ := List.cons.inj same
      obtain ⟨rfl, rfl⟩ := ih rest' behind
      exact ⟨rfl, rfl⟩
    | escaped | named => exact absurd (List.cons.inj same).1 bare.2.2
  | escaped mark _ ih =>
    cases members' with
    | nil => cases (List.cons.inj same).1
    | plain bare => exact absurd (List.cons.inj same).1.symm bare.2.2
    | escaped _ rest' =>
      obtain ⟨rfl, behind⟩ := List.cons.inj (List.cons.inj same).2
      obtain ⟨rfl, rfl⟩ := ih rest' behind
      exact ⟨rfl, rfl⟩
    | @named _ k negated =>
      obtain ⟨rfl, -⟩ := List.cons.inj (List.cons.inj same).2
      exact absurd mark (k.letter_not_mark negated)
  | @named _ k negated _ _ _ ih =>
    cases members' with
    | nil => cases (List.cons.inj same).1
    | plain bare => exact absurd (List.cons.inj same).1.symm bare.2.2
    | escaped mark =>
      obtain ⟨rfl, -⟩ := List.cons.inj (List.cons.inj same).2
      exact absurd mark (k.letter_not_mark negated)
    | named _ rest' =>
      obtain ⟨letter, behind⟩ := List.cons.inj (List.cons.inj same).2
      obtain ⟨rfl, rfl⟩ := Named.letter_injective letter
      obtain ⟨rfl, rfl⟩ := ih rest' behind
      exact ⟨rfl, rfl⟩

/-- There is no closing brace among digits and commas. -/
theorem not_closed {counts : List Char} (digits : ∀ c ∈ counts, c.isDigit = true ∨ c = ',') :
    '\x7d' ∉ counts := by
  intro mem
  rcases digits _ mem with digit | comma
  · cases digit
  · cases comma

/-- A row up to the first occurrence of a mark is determined. -/
theorem prefix_of_first {α : Type} {x : α} {us vs s t : List α} (first : x ∉ us) (other : x ∉ vs)
    (h : us ++ x :: s <+: vs ++ x :: t) : us = vs ∧ s <+: t := by
  induction us generalizing vs with
  | nil =>
    cases vs with
    | nil => exact ⟨rfl, (List.cons_prefix_cons.1 h).2⟩
    | cons v vs =>
      exact absurd (List.cons_prefix_cons.1 h).1 fun same => other (same ▸ .head _)
  | cons u us ih =>
    cases vs with
    | nil => exact absurd (List.cons_prefix_cons.1 h).1 fun same => first (same ▸ .head _)
    | cons v vs =>
      obtain ⟨rfl, behind⟩ := List.cons_prefix_cons.1 h
      obtain ⟨rfl, within⟩ :=
        ih (fun mem => first (.tail _ mem)) (fun mem => other (.tail _ mem)) behind
      exact ⟨rfl, within⟩

/-- A quantifier ends where its mark or its brace does. -/
theorem Quantifier.unique {q r x y : List Char} (quantifier : Quantifier q)
    (quantifier' : Quantifier r) (same : q ++ x = r ++ y) : q = r ∧ x = y := by
  cases quantifier with
  | mark mark =>
    cases quantifier' with
    | mark =>
      obtain ⟨rfl, rfl⟩ := List.cons.inj same
      exact ⟨rfl, rfl⟩
    | counted =>
      obtain ⟨rfl, -⟩ := List.cons.inj same
      simp at mark
  | counted digits =>
    cases quantifier' with
    | mark mark =>
      obtain ⟨rfl, -⟩ := List.cons.inj same
      simp at mark
    | counted digits' =>
      simp only [List.cons_append, List.append_assoc, List.cons.injEq, true_and, List.nil_append]
        at same
      obtain ⟨rfl, -⟩ := prefix_of_first (not_closed digits) (not_closed digits')
        ⟨[], (List.append_nil _).trans same⟩
      exact ⟨rfl, (List.cons.inj (List.append_cancel_left same)).2⟩

/-- What begins an atom at a place begins no quantifier there. -/
theorem Quantifier.apart {q x y : List Char} (quantifier : Quantifier q)
    (behind : place = .atom ∨ place = .opening) (begins : place.Begins c) : q ++ x ≠ c :: y := by
  have marks : c ≠ '?' ∧ c ≠ '*' ∧ c ≠ '+' ∧ c ≠ '\x7b' := by
    rcases behind with rfl | rfl <;> exact begins
  rintro same
  cases quantifier with
  | mark mark =>
    obtain ⟨rfl, -⟩ := List.cons.inj same
    simp [marks] at mark
  | counted => exact marks.2.2.2 (List.cons.inj same).1.symm

/-- A pattern is scanned in one way. -/
theorem Scanned.unique {ps qs : List Piece} (scanned : Scanned version place ps)
    (scanned' : Scanned version place qs)
    (same : ps.flatMap Piece.source = qs.flatMap Piece.source) : ps = qs := by
  induction scanned generalizing qs with
  | done =>
    cases scanned' with
    | done => rfl
    | plain | escaped | named | bracket => cases same
    | repeated _ quantifier => cases quantifier <;> cases same
  | plain begins bare _ ih =>
    cases scanned' with
    | done => cases same
    | plain _ _ rest' =>
      obtain ⟨rfl, behind⟩ := List.cons.inj same
      rw [ih rest' behind]
    | escaped | named => exact absurd (List.cons.inj same).1 bare.2
    | bracket => exact absurd (List.cons.inj same).1 bare.1
    | repeated behind quantifier => exact absurd same.symm (quantifier.apart behind begins)
  | escaped begins literal _ ih =>
    cases scanned' with
    | done => cases same
    | plain _ bare => exact absurd (List.cons.inj same).1.symm bare.2
    | escaped _ _ rest' =>
      obtain ⟨rfl, behind⟩ := List.cons.inj (List.cons.inj same).2
      rw [ih rest' behind]
    | @named _ k negated =>
      obtain ⟨rfl, -⟩ := List.cons.inj (List.cons.inj same).2
      exact absurd literal (k.letter_not_literal negated)
    | bracket => cases (List.cons.inj same).1
    | repeated behind quantifier => exact absurd same.symm (quantifier.apart behind begins)
  | @named _ k negated _ begins _ ih =>
    cases scanned' with
    | done => cases same
    | plain _ bare => exact absurd (List.cons.inj same).1.symm bare.2
    | escaped _ literal =>
      obtain ⟨rfl, -⟩ := List.cons.inj (List.cons.inj same).2
      exact absurd literal (k.letter_not_literal negated)
    | named _ rest' =>
      obtain ⟨letter, behind⟩ := List.cons.inj (List.cons.inj same).2
      obtain ⟨rfl, rfl⟩ := Named.letter_injective letter
      rw [ih rest' behind]
    | bracket => cases (List.cons.inj same).1
    | repeated behind quantifier => exact absurd same.symm (quantifier.apart behind begins)
  | bracket begins members _ ih =>
    cases scanned' with
    | done => cases same
    | plain _ bare => exact absurd (List.cons.inj same).1.symm bare.1
    | escaped | named => cases (List.cons.inj same).1
    | bracket _ members' rest' =>
      obtain ⟨rfl, behind⟩ := members.unique members' (by simpa [Piece.source] using same)
      rw [ih rest' behind]
    | repeated behind quantifier => exact absurd same.symm (quantifier.apart behind begins)
  | repeated behind quantifier _ _ ih =>
    cases scanned' with
    | done => cases quantifier <;> cases same
    | plain begins => exact absurd same (quantifier.apart behind begins)
    | escaped begins => exact absurd same (quantifier.apart behind begins)
    | named begins => exact absurd same (quantifier.apart behind begins)
    | bracket begins => exact absurd same (quantifier.apart behind begins)
    | repeated _ quantifier' _ rest' =>
      obtain ⟨rfl, text⟩ := quantifier.unique quantifier' same
      rw [ih rest' text]

theorem Scans.unique {ps qs : List Piece} (scans : Scans version cs ps)
    (scans' : Scans version cs qs) : ps = qs :=
  scans.scanned.unique scans'.scanned (scans.source.trans scans'.source.symm)

end Isl.Pattern
