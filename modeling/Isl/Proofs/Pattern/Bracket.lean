import Isl.Proofs.Pattern.Class
/-!
# Where classes end

A pattern is read twice: by the scanner that spells it out, and by the syntax that is matched. They
agree on where a class ends as long as its members are steady, that is, as long as the tokens that
they are spelled out in make parts of a class: it is not empty, and no hyphen in it meets another
one or a negated class to make a set operator or a range. Exactly then each class of the pattern is
a class of what is matched, with no set operator in it and nothing nested but the negated classes
that the pattern names (`classes_kept`).

* `negation`, `Steady`: the members of a class;
* `Glyphs`: what stands in a text;
* `Kept`: a text that is read piece by piece.
-/
namespace Isl.Pattern

variable {version : IslVersion} {i m : Bool} {cs out rest : List Char} {ms : List Member}
  {ps : List Piece} {gs : List Glyph}

/-! ## The members of a class -/

/-- Whether a class is negated, and its members. A caret in front negates. -/
def negation : List Member → Bool × List Member
  | .plain '^' :: ms => (true, ms)
  | ms => (false, ms)

/-- What a class is spelled out in, behind its caret. -/
def classTokens (ms : List Member) : List Token := (negation ms).2.flatMap Member.tokens

/-- The tokens of a class make parts of a class. -/
def Steady (ms : List Member) : Prop := ∃ parts, Listed (classTokens ms) parts

/-- No range goes backwards. -/
def Forward (ms : List Member) : Prop :=
  ∀ parts, Listed (classTokens ms) parts → ∀ a b, .range a b ∈ parts → a.toNat ≤ b.toNat

/-- Either there is a caret, or the members do not begin with one. -/
theorem negation_cases (ms : List Member) :
    (∃ ms', ms = .plain '^' :: ms' ∧ negation ms = (true, ms')) ∨
      ms.head? ≠ some (.plain '^') ∧ negation ms = (false, ms) := by
  unfold negation
  split
  · exact .inl ⟨_, rfl, rfl⟩
  · rename_i other
    refine .inr ⟨fun h => ?_, rfl⟩
    obtain ⟨ms', rfl⟩ := List.head?_eq_some_iff.1 h
    exact other ms' rfl

theorem written_eq_classText (ms : List Member) (rest : List Char) :
    ms.flatMap Member.written ++ ']' :: rest =
      classText (negation ms).1 (classTokens ms) rest := by
  unfold classTokens classText closedText
  rw [Member.text_flatMap]
  obtain ⟨ms', rfl, caret⟩ | ⟨-, bare⟩ := negation_cases ms
  · rw [caret]
    rfl
  · rw [bare]
    rfl

theorem Members.classTokens {ampersand : Bool} (members : Members version ampersand ms) :
    Tokens (classTokens ms) := by
  obtain ⟨ms', rfl, caret⟩ | ⟨-, bare⟩ := negation_cases ms
  · rw [Pattern.classTokens, caret]
    cases members with
    | plain _ _ rest => exact rest.tokens.1
  · rw [Pattern.classTokens, bare]
    exact members.tokens.1

theorem fronted (ms : List Member) : Fronted (negation ms).1 (classTokens ms) := by
  unfold Fronted Pattern.classTokens
  obtain ⟨ms', rfl, caret⟩ | ⟨other, bare⟩ := negation_cases ms
  · rw [caret]
    nofun
  · rw [bare]
    rintro -
    cases ms with
    | nil => nofun
    | cons m ms =>
      cases m with
      | plain c =>
        have caret : c ≠ '^' := by simpa using other
        by_cases tilde : c = '~' <;> simp [Member.tokens, tilde, caret]
      | escaped c => simp [Member.tokens]
      | named k negated => cases k <;> cases negated <;> simp [Member.tokens, Named.tokens]

/-! ## Pieces that are classes -/

/-- The negated class that the member is. -/
def Member.nested? : Member → Option Named
  | named k true => some k
  | _ => none

def Token.nested? : Token → Option Named
  | nested k => some k
  | _ => none

def Part.nested? : Part → Option Named
  | nested k => some k
  | _ => none

/-- Whether the class that the piece is is negated, and the tokens that it is spelled out in. -/
def Piece.class? : Piece → Option (Bool × List Token)
  | named k negated => some (negated, k.tokens)
  | bracket ms => some ((negation ms).1, classTokens ms)
  | _ => none

theorem Piece.written_class {p : Piece} {negated : Bool} {ts : List Token}
    (h : p.class? = some (negated, ts)) (rest : List Char) :
    p.written ++ rest = '[' :: classText negated ts rest := by
  cases p with
  | named k negated =>
    cases h
    cases k <;> cases negated <;> rfl
  | bracket ms =>
    cases h
    simp [written, ← written_eq_classText]
  | plain | escaped | repeated => cases h

/-- The text of what is no class has no brackets of its own. -/
inductive Piece.Apart : Piece → Prop where
  | plain {c : Char} (bare : c ≠ '[' ∧ c ≠ '\\') : Apart (.plain c)
  | escaped {c : Char} : Apart (.escaped c)
  | repeated {q : List Char} (bare : ∀ c ∈ q, c ≠ '[' ∧ c ≠ '\\') : Apart (.repeated q)

/-- A piece as it is scanned. -/
def Piece.Sound (p : Piece) : Prop :=
  match p.class? with
  | some (negated, ts) => Tokens ts ∧ Fronted negated ts
  | none => p.Apart

theorem Scanned.sound {place : Place} (scanned : Scanned version place ps) :
    ∀ p ∈ ps, p.Sound := by
  induction scanned with
  | done => nofun
  | plain _ bare _ ih => exact List.forall_mem_cons.2 ⟨.plain bare, ih⟩
  | escaped _ _ _ ih => exact List.forall_mem_cons.2 ⟨.escaped, ih⟩
  | @named _ k negated _ _ _ ih =>
    exact List.forall_mem_cons.2
      ⟨⟨k.tokens_whole, fun _ => by cases k <;> simp [Named.tokens]⟩, ih⟩
  | bracket _ members _ ih =>
    exact List.forall_mem_cons.2 ⟨⟨members.classTokens, fronted _⟩, ih⟩
  | repeated _ quantifier _ _ ih =>
    exact List.forall_mem_cons.2 ⟨.repeated quantifier.bare, ih⟩

/-! ## What stands in a text -/

/-- What stands in a text in the syntax that is matched: a character by itself, an escape, or a
class with the text behind it. -/
inductive Glyph where
  | char (c : Char)
  | escape (c : Char)
  | bracket (set : ClassSet) (behind : List Char)

/-- A text is taken apart. Outside of classes, a backslash takes the next character with it. -/
inductive Glyphs (f : Flags) : List Char → List Glyph → Prop where
  | done : Glyphs f [] []
  | char {c : Char} {cs : List Char} {gs : List Glyph} (bare : c ≠ '[' ∧ c ≠ '\\')
      (rest : Glyphs f cs gs) : Glyphs f (c :: cs) (.char c :: gs)
  | escape {c : Char} {cs : List Char} {gs : List Glyph} (rest : Glyphs f cs gs) :
      Glyphs f ('\\' :: c :: cs) (.escape c :: gs)
  | bracket {cs rest : List Char} {set : ClassSet} {gs : List Glyph}
      (read : class? f cs = some (set, rest)) (behind : Glyphs f rest gs) :
      Glyphs f ('[' :: cs) (.bracket set rest :: gs)

/-- How a piece that is no class should be read. -/
def Piece.glyphs : Piece → List Glyph
  | plain c => [.char c]
  | escaped c => [.escape c]
  | repeated q => q.map .char
  | named _ _ | bracket _ => []

namespace Glyphs

variable {f : Flags}

theorem char_iff {c : Char} (bare : c ≠ '[' ∧ c ≠ '\\') :
    Glyphs f (c :: cs) gs ↔ ∃ behind, Glyphs f cs behind ∧ gs = .char c :: behind := by
  constructor
  · intro h
    cases h with
    | char _ rest => exact ⟨_, rest, rfl⟩
    | escape => exact absurd rfl bare.2
    | bracket => exact absurd rfl bare.1
  · rintro ⟨behind, rest, rfl⟩
    exact .char bare rest

theorem escape_iff {c : Char} :
    Glyphs f ('\\' :: c :: cs) gs ↔ ∃ behind, Glyphs f cs behind ∧ gs = .escape c :: behind := by
  constructor
  · intro h
    cases h with
    | char bare _ => exact absurd rfl bare.2
    | escape rest => exact ⟨_, rest, rfl⟩
  · rintro ⟨behind, rest, rfl⟩
    exact .escape rest

theorem bracket_iff : Glyphs f ('[' :: cs) gs ↔
    ∃ set rest behind, class? f cs = some (set, rest) ∧ Glyphs f rest behind ∧
      gs = .bracket set rest :: behind := by
  constructor
  · intro h
    cases h with
    | char bare _ => exact absurd rfl bare.1
    | bracket read behind => exact ⟨_, _, _, read, behind, rfl⟩
  · rintro ⟨set, rest, behind, read, glyphs, rfl⟩
    exact .bracket read glyphs

/-- What is no class is read as it is written. -/
theorem apart_iff {p : Piece} (apart : p.Apart) :
    Glyphs f (p.written ++ cs) gs ↔ ∃ behind, Glyphs f cs behind ∧ gs = p.glyphs ++ behind := by
  cases apart with
  | plain bare => exact char_iff bare
  | escaped => exact escape_iff
  | @repeated q bare =>
    show Glyphs f (q ++ cs) gs ↔ ∃ behind, Glyphs f cs behind ∧ gs = q.map .char ++ behind
    induction q generalizing gs with
    | nil => simp
    | cons c q ih =>
      obtain ⟨here, bare⟩ := List.forall_mem_cons.1 bare
      rw [List.cons_append, char_iff here]
      constructor
      · rintro ⟨behind, rest, rfl⟩
        obtain ⟨last, glyphs, rfl⟩ := (ih bare).1 rest
        exact ⟨last, glyphs, rfl⟩
      · rintro ⟨last, rest, rfl⟩
        exact ⟨_, (ih bare).2 ⟨last, rest, rfl⟩, rfl⟩

end Glyphs

/-! ## Classes that are kept -/

/-- The set is the union of what the parts stand for, with no set operator in it. -/
def Unites (negated : Bool) (parts : List Part) (set : ClassSet) : Prop :=
  ∃ sets, parts.mapM Part.set? = some sets ∧ set = .bracketed negated (unionOf sets.reverse)

theorem readParts_eq_some_iff {negated : Bool} {parts : List Part} {set : ClassSet}
    {rest' : List Char} :
    readParts negated none [] parts rest = some (set, rest') ↔
      Unites negated parts set ∧ rest = rest' := by
  simp only [readParts, Unites, Option.map_eq_some_iff, List.append_nil, Pending.close,
    Prod.mk.injEq]
  constructor
  · rintro ⟨sets, made, rfl, rfl⟩
    exact ⟨⟨sets, made, rfl⟩, rfl⟩
  · rintro ⟨⟨sets, made, rfl⟩, rfl⟩
    exact ⟨sets, made, rfl, rfl⟩

/-- The negated classes that a piece nests. -/
def Piece.nested : Piece → List Named
  | bracket ms => ms.filterMap Member.nested?
  | _ => []

/-- A text is read piece by piece. A class is read up to the text of the pieces behind it, with no
set operator in it, and it nests no more than the piece does. -/
inductive Kept : List Piece → List Glyph → Prop where
  | done : Kept [] []
  | apart {p : Piece} {ps : List Piece} {gs : List Glyph} (none : p.class? = none)
      (rest : Kept ps gs) : Kept (p :: ps) (p.glyphs ++ gs)
  | bracket {p : Piece} {ps : List Piece} {gs : List Glyph} {negated : Bool} {ts : List Token}
      {parts : List Part} {set : ClassSet} (class_ : p.class? = some (negated, ts))
      (unites : Unites negated parts set) (nested : parts.filterMap Part.nested? = p.nested)
      (rest : Kept ps gs) : Kept (p :: ps) (.bracket set (ps.flatMap Piece.written) :: gs)

theorem Token.Stands.nested? {t : Token} {a : Char} (h : t.Stands a) : t.nested? = none := by
  cases t with
  | char | escape => rfl
  | nested k => cases h.2

theorem Takes.nested_eq {ts us : List Token} {p : Part} (takes : Takes ts p us) :
    ts.filterMap Token.nested? = p.nested?.toList ++ us.filterMap Token.nested? := by
  cases takes with
  | range first last =>
    rw [List.filterMap_cons_none first.nested?, List.filterMap_cons_none rfl,
      List.filterMap_cons_none last.nested?]
    rfl
  | single first =>
    rw [List.filterMap_cons_none first.nested?]
    rfl
  | hyphen | nested => rfl

/-- A nested class is nested as a part of its own. -/
theorem Parts.nested_eq {ts : List Token} {parts : List Part} (h : Parts ts parts) :
    parts.filterMap Part.nested? = ts.filterMap Token.nested? := by
  induction h with
  | nil => rfl
  | @cons ts us p ps takes _ ih =>
    rw [takes.nested_eq, ← ih]
    cases p <;> rfl

theorem Listed.nested_eq {ts : List Token} {parts : List Part} (h : Listed ts parts) :
    parts.filterMap Part.nested? = ts.filterMap Token.nested? := by
  obtain @⟨n, ts, parts, -, made, -⟩ := h
  induction n with
  | zero => exact made.nested_eq
  | succ n ih => exact ih

theorem Member.tokens_nested (m : Member) :
    m.tokens.filterMap Token.nested? = m.nested?.toList := by
  cases m with
  | plain c => by_cases tilde : c = '~' <;> simp [tokens, tilde, nested?, Token.nested?]
  | escaped c => rfl
  | named k negated => cases k <;> cases negated <;> rfl

theorem Member.filterMap_nested (ms : List Member) :
    (ms.flatMap Member.tokens).filterMap Token.nested? = ms.filterMap Member.nested? := by
  induction ms with
  | nil => rfl
  | cons m ms ih =>
    rw [List.flatMap_cons, List.filterMap_append, ih, m.tokens_nested]
    cases nested : m.nested? <;> simp [nested]

theorem Piece.nested_class {p : Piece} {negated : Bool} {ts : List Token}
    (h : p.class? = some (negated, ts)) : ts.filterMap Token.nested? = p.nested := by
  cases p with
  | named k negated =>
    cases h
    cases k <;> rfl
  | bracket ms =>
    cases h
    rw [Pattern.classTokens, Member.filterMap_nested]
    obtain ⟨ms', rfl, caret⟩ | ⟨-, bare⟩ := negation_cases ms
    · rw [caret]
      rfl
    · rw [bare]
      rfl
  | plain | escaped | repeated => cases h

theorem Part.set?_plain {p : Part} {set : ClassSet} (h : p.set? = some set) (op : SetOperator)
    (l r : ClassSet) : set ≠ .operation op l r := by
  cases p with
  | single | nested =>
    cases h
    nofun
  | range a b =>
    obtain ⟨-, made⟩ := Option.ite_none_right_eq_some.1 h
    cases made
    nofun

theorem exists_part {parts : List Part} {sets : List ClassSet} {set : ClassSet}
    (made : parts.mapM Part.set? = some sets) (mem : set ∈ sets) :
    ∃ p ∈ parts, p.set? = some set := by
  induction parts generalizing sets with
  | nil =>
    cases made
    cases mem
  | cons p parts ih =>
    simp only [List.mapM_cons, Option.bind_eq_bind, Option.bind_eq_some_iff] at made
    obtain ⟨first, here, others, there, whole⟩ := made
    cases whole
    rcases List.mem_cons.1 mem with rfl | mem
    · exact ⟨p, .head _, here⟩
    · obtain ⟨p', mem', made⟩ := ih there mem
      exact ⟨p', .tail _ mem', made⟩

/-- A union of parts is no set operator. -/
theorem Unites.plain {negated : Bool} {parts : List Part} {set : ClassSet}
    (h : Unites negated parts set) (op : SetOperator) (l r : ClassSet) :
    set ≠ .bracketed negated (.operation op l r) := by
  obtain ⟨sets, made, rfl⟩ := h
  intro same
  simp only [ClassSet.bracketed.injEq, true_and] at same
  unfold unionOf at same
  split at same
  · rename_i s only
    have mem : s ∈ sets := List.mem_reverse.1 (only ▸ List.mem_singleton_self s)
    obtain ⟨p, -, made⟩ := exists_part made mem
    exact p.set?_plain made op l r same
  · cases same

/-- The tokens of a piece that is a class make parts of a class. -/
def Piece.Steady (p : Piece) : Prop :=
  ∀ negated ts, p.class? = some (negated, ts) → ∃ parts, Listed ts parts

theorem kept_iff (sound : ∀ p ∈ ps, p.Sound)
    (read : Glyphs (.standard i m) (ps.flatMap Piece.written) gs) :
    Kept ps gs ↔ ∀ p ∈ ps, p.Steady := by
  induction ps generalizing gs with
  | nil =>
    cases read
    exact ⟨fun _ => nofun, fun _ => .done⟩
  | cons p ps ih =>
    obtain ⟨here, sound⟩ := List.forall_mem_cons.1 sound
    rw [List.flatMap_cons] at read
    rw [List.forall_mem_cons]
    unfold Piece.Sound at here
    split at here
    · rename_i negated ts class_
      rw [p.written_class class_] at read
      obtain ⟨set, rest, behind, reads, glyphs, rfl⟩ := Glyphs.bracket_iff.1 read
      constructor
      · intro kept
        generalize whole : Glyph.bracket set rest :: behind = gs at kept
        cases kept with
        | apart none => rw [class_] at none; cases none
        | bracket class_' unites _ kept =>
          cases whole
          cases class_.symm.trans class_'
          refine ⟨fun negated' ts' same => ?_, (ih sound glyphs).1 kept⟩
          cases class_.symm.trans same
          exact listed_of_class? here.1 here.2 reads unites.plain
      · rintro ⟨steady, others⟩
        obtain ⟨parts, listed⟩ := steady _ _ class_
        rw [class?_listed listed here.1 here.2] at reads
        obtain ⟨unites, rfl⟩ := readParts_eq_some_iff.1 reads
        exact .bracket class_ unites (listed.nested_eq.trans (Piece.nested_class class_))
          ((ih sound glyphs).2 others)
    · rename_i none
      obtain ⟨behind, glyphs, rfl⟩ := (Glyphs.apart_iff here).1 read
      constructor
      · intro kept
        generalize whole : p.glyphs ++ behind = gs at kept
        cases kept with
        | apart _ kept =>
          obtain rfl := List.append_cancel_left whole
          exact ⟨fun _ _ class_ => (nomatch none.symm.trans class_), (ih sound glyphs).1 kept⟩
        | bracket class_ => exact nomatch none.symm.trans class_
      · rintro ⟨-, others⟩
        exact .apart none ((ih sound glyphs).2 others)

/-- No range of a piece that is a class goes backwards. -/
def Piece.Forward (p : Piece) : Prop :=
  ∀ negated ts, p.class? = some (negated, ts) →
    ∀ parts, Listed ts parts → ∀ a b, .range a b ∈ parts → a.toNat ≤ b.toNat

theorem exists_sets_iff {parts : List Part} :
    (∃ sets, parts.mapM Part.set? = some sets) ↔
      ∀ a b, .range a b ∈ parts → a.toNat ≤ b.toNat := by
  induction parts with
  | nil => exact ⟨fun _ => nofun, fun _ => ⟨[], rfl⟩⟩
  | cons p parts ih =>
    have head : (∃ s, p.set? = some s) ↔ ∀ a b, p = .range a b → a.toNat ≤ b.toNat := by
      cases p <;> simp [Part.set?]
    have whole : (∃ sets, (p :: parts).mapM Part.set? = some sets) ↔
        (∃ s, p.set? = some s) ∧ ∃ sets, parts.mapM Part.set? = some sets := by
      constructor
      · rintro ⟨sets, made⟩
        simp only [List.mapM_cons, Option.bind_eq_bind, Option.bind_eq_some_iff] at made
        obtain ⟨s, here, others, there, -⟩ := made
        exact ⟨⟨s, here⟩, others, there⟩
      · rintro ⟨⟨s, here⟩, others, there⟩
        exact ⟨s :: others, by simp [here, there]⟩
    rw [whole, ih, head]
    simp only [List.mem_cons, eq_comm (a := p)]
    constructor
    · rintro ⟨here, there⟩ a b (same | mem)
      · exact here a b same
      · exact there a b mem
    · exact fun h => ⟨fun a b same => h a b (.inl same), fun a b mem => h a b (.inr mem)⟩

theorem exists_glyphs_iff (sound : ∀ p ∈ ps, p.Sound) (steady : ∀ p ∈ ps, p.Steady) :
    (∃ gs, Glyphs (.standard i m) (ps.flatMap Piece.written) gs) ↔
      ∀ p ∈ ps, p.Forward := by
  induction ps with
  | nil => exact ⟨fun _ => nofun, fun _ => ⟨[], .done⟩⟩
  | cons p ps ih =>
    obtain ⟨here, sound⟩ := List.forall_mem_cons.1 sound
    obtain ⟨stands, steady⟩ := List.forall_mem_cons.1 steady
    rw [List.flatMap_cons, List.forall_mem_cons, ← ih sound steady]
    unfold Piece.Sound at here
    split at here
    · rename_i negated ts class_
      obtain ⟨parts, listed⟩ := stands _ _ class_
      have reads (parts : List Part) (listed : Listed ts parts) :=
        @class?_listed i m (ps.flatMap Piece.written) ts parts negated listed here.1 here.2
      rw [p.written_class class_]
      constructor
      · rintro ⟨gs, read⟩
        obtain ⟨set, rest, behind, read, glyphs, -⟩ := Glyphs.bracket_iff.1 read
        refine ⟨fun negated' ts' same parts' listed' => exists_sets_iff.1 ?_, ?_⟩
        · cases class_.symm.trans same
          rw [reads parts' listed'] at read
          obtain ⟨⟨sets, made, -⟩, -⟩ := readParts_eq_some_iff.1 read
          exact ⟨sets, made⟩
        · rw [reads parts listed] at read
          obtain ⟨-, rfl⟩ := readParts_eq_some_iff.1 read
          exact ⟨behind, glyphs⟩
      · rintro ⟨forward, behind, glyphs⟩
        obtain ⟨sets, made⟩ := exists_sets_iff.2 (forward _ _ class_ _ listed)
        exact ⟨_, .bracket ((reads parts listed).trans
          (readParts_eq_some_iff.2 ⟨⟨sets, made, rfl⟩, rfl⟩)) glyphs⟩
    · rename_i none
      constructor
      · rintro ⟨gs, read⟩
        obtain ⟨behind, glyphs, -⟩ := (Glyphs.apart_iff here).1 read
        exact ⟨fun _ _ class_ => (nomatch none.symm.trans class_), behind, glyphs⟩
      · rintro ⟨-, behind, glyphs⟩
        exact ⟨_, (Glyphs.apart_iff here).2 ⟨behind, glyphs, rfl⟩⟩

theorem Named.listed (k : Named) : Listed k.tokens k.parts :=
  @Listed.mk 0 _ _ (by cases k <;> simp [Token.hyphen]) k.parts_whole (.inr (by cases k <;> nofun))

theorem Named.parts_forward (k : Named) :
    ∀ a b, .range a b ∈ k.parts → a.toNat ≤ b.toNat := by
  have made : ∃ sets, k.parts.mapM Part.set? = some sets := by
    cases k <;> exact ⟨_, rfl⟩
  exact exists_sets_iff.1 made

theorem Piece.steady_named (k : Named) (negated : Bool) : (named k negated).Steady := by
  rintro _ _ ⟨⟩
  exact ⟨k.parts, k.listed⟩

theorem Piece.forward_named (k : Named) (negated : Bool) : (named k negated).Forward := by
  rintro _ _ ⟨⟩ parts listed
  rw [listed.unique k.listed]
  exact k.parts_forward

theorem forall_steady_iff :
    (∀ p ∈ ps, p.Steady) ↔ ∀ ms, .bracket ms ∈ ps → Steady ms := by
  constructor
  · exact fun steady ms mem => steady _ mem _ _ rfl
  · intro steady p mem
    cases p with
    | bracket ms =>
      rintro _ _ ⟨⟩
      exact steady ms mem
    | named k negated => exact Piece.steady_named k negated
    | plain | escaped | repeated => nofun

theorem forall_forward_iff :
    (∀ p ∈ ps, p.Forward) ↔ ∀ ms, .bracket ms ∈ ps → Forward ms := by
  constructor
  · exact fun forward ms mem => forward _ mem _ _ rfl
  · intro forward p mem
    cases p with
    | bracket ms =>
      rintro _ _ ⟨⟩
      exact forward ms mem
    | named k negated => exact Piece.forward_named k negated
    | plain | escaped | repeated => nofun

/-- **Classes end where they end in the pattern, as long as they are steady.** An accepted pattern
is made of pieces in one way. Whatever it is spelled out as is read piece by piece exactly if the
pattern's classes are steady; and then it is read unless a range in one of them goes backwards. -/
theorem classes_kept (accepted : expand version cs = .ok out) (i m : Bool) :
    ∃ ps, Scans version cs ps ∧ (∀ qs, Scans version cs qs → qs = ps) ∧
      (∀ gs, Glyphs (.standard i m) out gs →
        (Kept ps gs ↔ ∀ ms, .bracket ms ∈ ps → Steady ms)) ∧
      ((∀ ms, .bracket ms ∈ ps → Steady ms) →
        ((∃ gs, Glyphs (.standard i m) out gs) ↔ ∀ ms, .bracket ms ∈ ps → Forward ms)) := by
  obtain ⟨ps, scans, rfl⟩ := expand_eq_ok_iff.1 accepted
  refine ⟨ps, scans, fun qs other => other.unique scans, fun gs read => ?_, fun steady => ?_⟩
  · rw [kept_iff scans.scanned.sound read, forall_steady_iff]
  · rw [exists_glyphs_iff scans.scanned.sound (forall_steady_iff.2 steady), forall_forward_iff]

/-- A class without members is not steady. -/
theorem not_steady_nil : ¬ Steady [] := by
  rintro ⟨parts, listed⟩
  generalize empty : classTokens [] = ts at listed
  obtain @⟨n, us, ps, -, -, filled⟩ := listed
  obtain ⟨front, behind⟩ := List.append_eq_nil_iff.1 empty.symm
  rcases filled with hyphens | filled
  · exact Nat.ne_of_gt hyphens ((List.replicate_eq_nil_iff _).1 front)
  · exact filled behind

/-- A class that keeps its negated class, and one that ends where it begins for the pattern, but a
member later for the syntax that is matched. -/
theorem classes_kept_nested :
    let ps : List Piece := [.bracket [.plain 'a', .named .digit true]]
    let qs : List Piece := [.bracket [], .plain 'a', .plain ']']
    (expand .v2 "[a\\D]".toList = .ok "[a[^0-9]]".toList ∧ Scans .v2 "[a\\D]".toList ps ∧
      ∃ gs, Glyphs (.standard false false) "[a[^0-9]]".toList gs ∧ Kept ps gs) ∧
    expand .v2 "[]a]".toList = .ok "[]a]".toList ∧ Scans .v2 "[]a]".toList qs ∧
      ∃ gs, Glyphs (.standard false false) "[]a]".toList gs ∧ ¬ Kept qs gs := by
  intro ps qs
  have accepted : expand .v2 "[a\\D]".toList = .ok "[a[^0-9]]".toList := rfl
  have scans : Scans .v2 "[a\\D]".toList ps :=
    ⟨.bracket trivial (.plain (by decide) (by decide) (.named rfl .nil)) (.done rfl), rfl⟩
  have listed : Listed (classTokens [.plain 'a', .named .digit true])
      [.single 'a', .nested .digit] :=
    @Listed.mk 0 _ _ (by decide) (.cons (.single ⟨by decide, rfl⟩ nofun) (.cons .nested .nil))
      (.inr (by decide))
  have steady : ∀ ms, .bracket ms ∈ ps → Steady ms := by
    rintro ms mem
    cases List.mem_singleton.1 mem
    exact ⟨_, listed⟩
  have forward : ∀ ms, .bracket ms ∈ ps → Forward ms := by
    rintro ms mem
    cases List.mem_singleton.1 mem
    rintro parts other a b mem
    rw [other.unique listed] at mem
    simp at mem
  have accepted' : expand .v2 "[]a]".toList = .ok "[]a]".toList := rfl
  have begins : Place.atom.Begins 'a' ∧ (placeBehind 'a').Begins ']' := by
    simp [placeBehind, Place.Begins]
  have scans' : Scans .v2 "[]a]".toList qs :=
    ⟨.bracket trivial .nil (.plain begins.1 (by decide) (.plain begins.2 (by decide) (.done rfl))),
      rfl⟩
  have read' : Glyphs (.standard false false) "[]a]".toList _ := .bracket rfl .done
  obtain ⟨_, -, unique, kept, reads⟩ := classes_kept accepted false false
  obtain ⟨_, -, unique', kept', -⟩ := classes_kept accepted' false false
  obtain rfl := unique ps scans
  obtain rfl := unique' qs scans'
  obtain ⟨gs, read⟩ := (reads steady).2 forward
  refine ⟨⟨accepted, scans, gs, read, (kept gs read).2 steady⟩, accepted', scans', _, read', ?_⟩
  intro whole
  exact not_steady_nil ((kept' _ read').1 whole [] (List.mem_cons_self ..))

end Isl.Pattern
