import Isl.Proofs.Pattern.Piece
/-!
# What is kept of a pattern

A pattern is spelled out character by character, from left to right: the named classes are spelled
out, a tilde in a class is escaped, and every other character is kept. At the end of an accepted
pattern the scanner stands where any atom may begin, so two patterns side by side are spelled out
side by side, unless the second begins with a quantifier (`expand_verbatim`).

* `escapes`: the characters behind backslashes;
* `spelled`: a pattern spelled out, whether it is accepted or not.
-/
namespace Isl.Pattern

variable {version : IslVersion} {place : Place} {cs : List Char} {c : Char} {ampersand : Bool}
  {ms : List Member} {ps qs : List Piece}

/-! ## Spelling -/

/-- The characters behind the backslashes. A backslash takes the next character with it, so the
second of two backslashes takes none. -/
def escapes : List Char → List Char
  | '\\' :: c :: cs => c :: escapes cs
  | _ :: cs => escapes cs
  | [] => []

/-- A pattern spelled out; the flag tells that it begins in a class. -/
def spelled : Bool → List Char → List Char
  | inside, '\\' :: c :: cs =>
    (match namedClass? c with
      | some (members, negated) =>
        if inside && !negated then members else bracketed members negated
      | none => ['\\', c]) ++ spelled inside cs
  | inside, c :: cs =>
    (if inside && c == '~' then ['\\', '~'] else [c]) ++
      spelled (if inside then c != ']' else c == '[') cs
  | _, [] => []

theorem spelled_bare (inside : Bool) (bare : c ≠ '\\') (cs : List Char) :
    spelled inside (c :: cs) =
      (if inside && c == '~' then ['\\', '~'] else [c]) ++
        spelled (if inside then c != ']' else c == '[') cs := by
  rw [spelled.eq_def]
  split
  · rename_i text
    exact absurd (List.cons.inj text).1 bare
  · rename_i text
    obtain ⟨rfl, rfl⟩ := List.cons.inj text
    rfl
  · rename_i text
    cases text

theorem spelled_outside (bare : c ≠ '[' ∧ c ≠ '\\') (cs : List Char) :
    spelled false (c :: cs) = c :: spelled false cs := by
  have outside : (c == '[') = false := beq_false_of_ne bare.1
  simp [spelled_bare _ bare.2, outside]

theorem spelled_escaped (inside : Bool) (unnamed : namedClass? c = none) (cs : List Char) :
    spelled inside ('\\' :: c :: cs) = '\\' :: c :: spelled inside cs := by
  simp [spelled, unnamed]

/-- Without named classes and tildes, a pattern is spelled as it is. -/
theorem spelled_eq_self {inside : Bool} (unnamed : ∀ c ∈ escapes cs, namedClass? c = none)
    (plain : '~' ∉ cs) : spelled inside cs = cs := by
  induction inside, cs using spelled.induct with
  | case1 inside c cs ih =>
    obtain ⟨here, unnamed⟩ := List.forall_mem_cons.1 unnamed
    simp only [List.mem_cons, not_or] at plain
    rw [spelled_escaped inside here, ih unnamed plain.2.2]
  | case2 inside c cs other ih =>
    rw [escapes] at unnamed
    · simp only [List.mem_cons, not_or] at plain
      have kept : (c == '~') = false := beq_false_of_ne (Ne.symm plain.1)
      rw [spelled, ih unnamed plain.2, kept]
      · simp
      · exact other
    · exact other
  | case3 => rfl

/-! ## Pieces are spelled one by one -/

theorem namedClass?_letter (k : Named) (negated : Bool) :
    namedClass? (k.letter negated) = some (k.members, negated) := by
  cases k <;> cases negated <;> rfl

theorem namedClass?_eq_none (other : c ∉ ['d', 'D', 'w', 'W', 's', 'S']) :
    namedClass? c = none := by
  unfold namedClass?
  split
  all_goals first | rfl | simp at other

theorem namedClass?_literal (literal : c ∈ literalEscapes) : namedClass? c = none := by
  have all : literalEscapes.all (fun c => (namedClass? c).isNone) = true := by decide
  exact Option.isNone_iff_eq_none.1 (List.all_eq_true.1 all c literal)

theorem namedClass?_mark (mark : c = '[' ∨ c = ']' ∨ c = '\\') : namedClass? c = none := by
  rcases mark with rfl | rfl | rfl <;> rfl

/-- The members of a class are spelled up to its end. -/
theorem Members.spelled (members : Members version ampersand ms) (rest : List Char) :
    spelled true (ms.flatMap Member.source ++ ']' :: rest) =
      ms.flatMap Member.written ++ ']' :: Pattern.spelled false rest := by
  induction members with
  | nil => exact spelled_bare true (by decide) rest
  | @plain ampersand c ms bare _ _ ih =>
    have inside : (c != ']') = true := bne_iff_ne.2 bare.2.1
    simp only [List.flatMap_cons, Member.source, Member.written, List.cons_append, List.nil_append,
      spelled_bare true bare.2.2, inside, if_true, ih, Bool.true_and, beq_iff_eq, List.append_assoc]
  | escaped mark _ ih =>
    simp [Member.source, Member.written, spelled_escaped true (namedClass?_mark mark), ih]
  | @named ampersand k negated ms _ _ ih =>
    simp only [List.flatMap_cons, List.append_assoc, Member.source, Member.written,
      List.cons_append, List.nil_append, Pattern.spelled, namedClass?_letter, ih]
    cases negated <;> rfl

/-- Text in which neither a class nor an escape begins is spelled as it is. -/
theorem spelled_append {text : List Char} (bare : ∀ c ∈ text, c ≠ '[' ∧ c ≠ '\\')
    (rest : List Char) : spelled false (text ++ rest) = text ++ spelled false rest := by
  induction text with
  | nil => rfl
  | cons c text ih =>
    obtain ⟨here, bare⟩ := List.forall_mem_cons.1 bare
    rw [List.cons_append, spelled_outside here, ih bare, List.cons_append]

/-- Pieces in their places are written as they are spelled. -/
theorem Scanned.spelled (scanned : Scanned version place ps) :
    spelled false (ps.flatMap Piece.source) = ps.flatMap Piece.written := by
  induction scanned with
  | done => rfl
  | plain _ bare _ ih =>
    simp [Piece.source, Piece.written, spelled_outside bare, ih]
  | escaped _ literal _ ih =>
    simp [Piece.source, Piece.written, spelled_escaped false (namedClass?_literal literal), ih]
  | named _ _ ih =>
    simp [Piece.source, Piece.written, Pattern.spelled, namedClass?_letter, ih]
  | bracket _ members _ ih =>
    simp [Piece.source, Piece.written, spelled_bare false, members.spelled, ih]
  | repeated _ quantifier _ _ ih =>
    simp [Piece.source, Piece.written, spelled_append quantifier.bare, ih]

/-! ## Versions -/

/-- Members of a class are members in version 2.0. -/
theorem Members.newer (members : Members version ampersand ms) : Members .v2 ampersand ms := by
  induction members with
  | nil => exact .nil
  | plain bare apart _ ih => exact .plain bare apart ih
  | escaped mark _ ih => exact .escaped mark ih
  | named _ _ ih => exact .named rfl ih

theorem Scanned.newer (scanned : Scanned version place ps) : Scanned .v2 place ps := by
  induction scanned with
  | done whole => exact .done whole
  | plain begins bare _ ih => exact .plain begins bare ih
  | escaped begins literal _ ih => exact .escaped begins literal ih
  | named begins _ ih => exact .named begins ih
  | bracket begins members _ ih => exact .bracket begins members.newer ih
  | repeated behind quantifier allowed _ ih => exact .repeated behind quantifier allowed ih

/-! ## Patterns side by side -/

/-- Where a pattern may end, an atom may begin. -/
theorem Place.begins_of_whole (whole : endFault? place = none)
    (front : c ≠ '?' ∧ c ≠ '*' ∧ c ≠ '+' ∧ c ≠ '\x7b') : place.Begins c := by
  cases place with
  | start => trivial
  | atom | opening => exact front
  | quantifier => exact ⟨front.1, front.2.2.1⟩
  | escape | inClass | classEscape | braces => cases whole

/-- Pieces of a pattern that begins with no quantifier can stand wherever a pattern may end. -/
theorem Scanned.anywhere (scanned : Scanned version .start ps)
    (front : ∀ c, (ps.flatMap Piece.source).head? = some c →
      c ≠ '?' ∧ c ≠ '*' ∧ c ≠ '+' ∧ c ≠ '\x7b')
    (whole : endFault? place = none) : Scanned version place ps := by
  cases scanned with
  | done => exact .done whole
  | plain _ bare rest => exact .plain (Place.begins_of_whole whole (front _ rfl)) bare rest
  | escaped _ literal rest =>
    exact .escaped (Place.begins_of_whole whole (front _ rfl)) literal rest
  | named _ rest => exact .named (Place.begins_of_whole whole (front _ rfl)) rest
  | bracket _ members rest =>
    exact .bracket (Place.begins_of_whole whole (front _ rfl)) members rest
  | repeated behind => simp at behind

theorem Scanned.append (scanned : Scanned version place ps)
    (behind : ∀ place, endFault? place = none → Scanned version place qs) :
    Scanned version place (ps ++ qs) := by
  induction scanned with
  | done whole => exact behind _ whole
  | plain begins bare _ ih => exact .plain begins bare ih
  | escaped begins literal _ ih => exact .escaped begins literal ih
  | named begins _ ih => exact .named begins ih
  | bracket begins members _ ih => exact .bracket begins members ih
  | repeated place quantifier allowed _ ih => exact .repeated place quantifier allowed ih

/-! ## What is kept -/

theorem expand_spelled {out : List Char} (accepted : expand version cs = .ok out) :
    out = spelled false cs := by
  obtain ⟨ps, scans, rfl⟩ := expand_eq_ok_iff.1 accepted
  rw [← scans.scanned.spelled, scans.source]

/-- **Patterns are spelled out where they stand.** What version 1.0 accepts is spelled out alike in
version 2.0; a pattern without named classes and tildes is spelled as it is; a pattern and another
one behind it that begins with no quantifier are spelled out one behind the other; and of any
pattern only the named classes and the tildes in classes are not kept. -/
theorem expand_verbatim :
    (∀ cs out, expand .v1 cs = .ok out → expand .v2 cs = .ok out) ∧
      (∀ version cs out, expand version cs = .ok out →
        (∀ c ∈ escapes cs, c ∉ ['d', 'D', 'w', 'W', 's', 'S']) → '~' ∉ cs → out = cs) ∧
      (∀ version p q s t, expand version p = .ok s → expand version q = .ok t →
        (∀ c, q.head? = some c → c ∉ ['?', '*', '+', '\x7b']) →
          expand version (p ++ q) = .ok (s ++ t)) ∧
      ∀ version cs out, expand version cs = .ok out → out = spelled false cs := by
  refine ⟨fun cs out accepted => ?_, fun version cs out accepted unnamed plain => ?_,
    fun version p q s t first second front => ?_, fun version cs out accepted => ?_⟩
  · obtain ⟨ps, scans, rfl⟩ := expand_eq_ok_iff.1 accepted
    exact expand_eq_ok_iff.2 ⟨ps, ⟨scans.scanned.newer, scans.source⟩, rfl⟩
  · rw [expand_spelled accepted]
    exact spelled_eq_self (fun c mem => namedClass?_eq_none (unnamed c mem)) plain
  · obtain ⟨ps, scans, rfl⟩ := expand_eq_ok_iff.1 first
    obtain ⟨qs, scans', rfl⟩ := expand_eq_ok_iff.1 second
    have behind : ∀ place, endFault? place = none → Scanned version place qs := fun place =>
      scans'.scanned.anywhere fun c head => by simpa using front c (scans'.source ▸ head)
    refine expand_eq_ok_iff.2 ⟨ps ++ qs, ⟨scans.scanned.append behind, ?_⟩, List.flatMap_append⟩
    rw [List.flatMap_append, scans.source, scans'.source]
  · exact expand_spelled accepted

/-- A group that the first pattern opens and the second one closes, behind a backslash that stands
for itself. -/
theorem expand_verbatim_group :
    expand .v2 "(\\w[~^]".toList = .ok "([0-9A-Za-z_][\\~^]".toList ∧
      expand .v2 "b\\\\d)\x7b2\x7d".toList = .ok "b\\\\d)\x7b2\x7d".toList ∧
      expand .v2 ("(\\w[~^]".toList ++ "b\\\\d)\x7b2\x7d".toList) =
        .ok ("([0-9A-Za-z_][\\~^]".toList ++ "b\\\\d)\x7b2\x7d".toList) ∧
      spelled false "(\\w[~^]".toList = "([0-9A-Za-z_][\\~^]".toList := by
  obtain ⟨newer, kept, beside, spells⟩ := expand_verbatim
  have first : expand .v2 "(\\w[~^]".toList = .ok "([0-9A-Za-z_][\\~^]".toList := newer _ _ rfl
  have second : expand .v2 "b\\\\d)\x7b2\x7d".toList = .ok "b\\\\d)\x7b2\x7d".toList := by
    cases accepted : expand .v2 "b\\\\d)\x7b2\x7d".toList with
    | error fault => cases accepted
    | ok out =>
      have escaped : escapes "b\\\\d)\x7b2\x7d".toList = ['\\'] := rfl
      have unnamed : ∀ c ∈ ['\\'], c ∉ ['d', 'D', 'w', 'W', 's', 'S'] := by simp
      rw [kept _ _ _ accepted (escaped ▸ unnamed) (by decide)]
  refine ⟨first, second, beside _ _ _ _ _ first second ?_, (spells _ _ _ first).symm⟩
  rintro c ⟨⟩
  decide

end Isl.Pattern
