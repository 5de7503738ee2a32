import Isl.Pattern.Syntax
import Isl.Proofs.Pattern.Piece
/-!
# Classes as they are spelled out

A class is spelled out in tokens: characters, characters behind a backslash, and negated classes.
The syntax that is matched takes tokens for parts: a hyphen between two characters makes a range of
them, and two hyphens side by side are no part of a class at all. `Parts` is that grammar.

* `Token`, `Tokens`, `Members.tokens`: what members are spelled out in;
* `Part`, `Takes`, `Stuck`: the part that is taken from tokens;
* `Parts`, `Listed`: the parts of tokens, and of a whole class.
-/
namespace Isl.Pattern

variable {version : IslVersion} {ts : List Token}

/-! ## Tokens -/

inductive Token where
  | char (c : Char)
  /-- Behind a backslash. -/
  | escape (c : Char)
  /-- A negated class. -/
  | nested (k : Named)
deriving DecidableEq, Repr

namespace Token

def text : Token → List Char
  | char c => [c]
  | escape c => ['\\', c]
  | nested k => bracketed k.members true

/-- The character that the token stands for. -/
def value? : Token → Option Char
  | char c => some c
  | escape c => Escape.character? c
  | nested _ => none

abbrev hyphen : Token := char '-'

/-- The token stands for the character, and is no hyphen that may make a range. -/
def Stands (t : Token) (a : Char) : Prop := t ≠ hyphen ∧ t.value? = some a

/-- A character that has no meaning of its own in a class, or one that has a meaning behind a
backslash. -/
def Bare : Token → Prop
  | char c => c ≠ '[' ∧ c ≠ ']' ∧ c ≠ '\\' ∧ c ≠ '~'
  | escape c => c ∈ ['[', ']', '\\', '~', 'f', 'n', 'r', 't']
  | nested _ => True

instance (t : Token) : Decidable t.Bare := by
  cases t <;> unfold Bare <;> infer_instance

theorem Stands.unique {t : Token} {a b : Char} (h : t.Stands a) (h' : t.Stands b) : a = b :=
  Option.some.inj (h.2.symm.trans h'.2)

theorem kinds {t : Token} (bare : t.Bare) :
    t = hyphen ∨ (∃ k, t = nested k) ∨ ∃ a, t.Stands a := by
  cases t with
  | char c =>
    by_cases same : c = '-'
    · exact .inl (congrArg char same)
    · exact .inr (.inr ⟨c, by simpa [hyphen] using same, rfl⟩)
  | escape c =>
    simp only [Bare, List.mem_cons, List.not_mem_nil, or_false] at bare
    rcases bare with rfl | rfl | rfl | rfl | rfl | rfl | rfl | rfl <;>
      exact .inr (.inr ⟨_, nofun, rfl⟩)
  | nested k => exact .inr (.inl ⟨k, rfl⟩)

end Token

/-- Tokens that a class is spelled out in. Two ampersands do not stand side by side. -/
inductive Tokens : List Token → Prop where
  | nil : Tokens []
  | cons {t : Token} {ts : List Token} (bare : t.Bare)
      (apart : t = .char '&' → ts.head? ≠ some (.char '&')) (rest : Tokens ts) : Tokens (t :: ts)

def Named.tokens : Named → List Token
  | digit => [.char '0', .hyphen, .char '9']
  | word =>
    [.char '0', .hyphen, .char '9', .char 'A', .hyphen, .char 'Z', .char 'a', .hyphen, .char 'z',
      .char '_']
  | space => [.char ' ', .escape 'f', .escape 'n', .escape 'r', .escape 't']

def Member.tokens : Member → List Token
  | plain c => [if c = '~' then .escape '~' else .char c]
  | escaped c => [.escape c]
  | named k negated => if negated then [.nested k] else k.tokens

theorem Named.text_tokens (k : Named) : k.tokens.flatMap Token.text = k.members := by
  cases k <;> rfl

theorem Member.text_tokens (m : Member) : m.tokens.flatMap Token.text = m.written := by
  cases m with
  | plain c => by_cases tilde : c = '~' <;> simp [tokens, written, tilde, Token.text]
  | escaped c => rfl
  | named k negated =>
    cases negated with
    | true => exact List.append_nil _
    | false => exact k.text_tokens

theorem Member.text_flatMap (ms : List Member) :
    (ms.flatMap Member.tokens).flatMap Token.text = ms.flatMap Member.written := by
  simp [List.flatMap_assoc, Member.text_tokens]

namespace Tokens

theorem head {t : Token} : Tokens (t :: ts) → t.Bare
  | cons bare _ _ => bare

theorem tail {t : Token} : Tokens (t :: ts) → Tokens ts
  | cons _ _ rest => rest

theorem of_append {us : List Token} (tokens : Tokens (us ++ ts)) : Tokens ts := by
  induction us with
  | nil => exact tokens
  | cons u us ih => exact ih tokens.tail

end Tokens

theorem Named.tokens_append (k : Named) (tokens : Tokens ts) : Tokens (k.tokens ++ ts) := by
  cases k with
  | digit | word | space =>
    repeat' refine .cons (by decide) nofun ?_
    exact tokens

theorem Named.tokens_whole (k : Named) : Tokens k.tokens := by
  simpa using k.tokens_append .nil

/-- Members are spelled out in tokens. -/
theorem Members.tokens {ampersand : Bool} {ms : List Member}
    (members : Members version ampersand ms) :
    Tokens (ms.flatMap Member.tokens) ∧
      (ampersand = true → (ms.flatMap Member.tokens).head? ≠ some (.char '&')) := by
  induction members with
  | nil => exact ⟨.nil, nofun⟩
  | @plain ampersand c ms bare apart rest ih =>
    rw [List.flatMap_cons, Member.tokens]
    split
    · exact ⟨.cons (by decide) nofun ih.1, nofun⟩
    · rename_i other
      refine ⟨.cons ⟨bare.1, bare.2.1, bare.2.2, other⟩ ?_ ih.1, ?_⟩
      · rintro ⟨⟩
        exact ih.2 rfl
      · rintro behind ⟨⟩
        exact apart ⟨rfl, behind⟩
  | escaped mark rest ih =>
    refine ⟨.cons ?_ nofun ih.1, nofun⟩
    rcases mark with rfl | rfl | rfl <;> decide
  | @named ampersand k negated ms known rest ih =>
    cases negated with
    | true => exact ⟨.cons trivial nofun ih.1, nofun⟩
    | false => exact ⟨k.tokens_append ih.1, by cases k <;> nofun⟩

/-! ## Parts -/

/-- What a class is the union of. -/
inductive Part where
  | single (a : Char)
  | range (a b : Char)
  | nested (k : Named)
deriving DecidableEq, Repr

/-- The part that is taken from tokens, and the tokens behind it. A hyphen behind a character makes
a range of it and the next one, unless nothing is behind the hyphen. By itself it is a part if no
other one is behind it. -/
inductive Takes : List Token → Part → List Token → Prop where
  | range {s t : Token} {a b : Char} {ts : List Token} (first : s.Stands a) (last : t.Stands b) :
      Takes (s :: .hyphen :: t :: ts) (.range a b) ts
  | single {s : Token} {a : Char} {ts : List Token} (first : s.Stands a)
      (apart : ∀ us, ts = .hyphen :: us → us = []) : Takes (s :: ts) (.single a) ts
  | hyphen {ts : List Token} (apart : ts.head? ≠ some .hyphen) :
      Takes (.hyphen :: ts) (.single '-') ts
  | nested {k : Named} {ts : List Token} : Takes (.nested k :: ts) (.nested k) ts

/-- Tokens that no part can be taken from: two hyphens, in front or behind a character, or a hyphen
between a character and a negated class. -/
inductive Stuck : List Token → Prop where
  | hyphens {ts : List Token} : Stuck (.hyphen :: .hyphen :: ts)
  | behind {s : Token} {a : Char} {ts : List Token} (first : s.Stands a) :
      Stuck (s :: .hyphen :: .hyphen :: ts)
  | overrun {s : Token} {a : Char} {k : Named} {ts : List Token} (first : s.Stands a) :
      Stuck (s :: .hyphen :: .nested k :: ts)

/-- Tokens as the parts that are taken from them one by one. -/
inductive Parts : List Token → List Part → Prop where
  | nil : Parts [] []
  | cons {ts us : List Token} {p : Part} {ps : List Part} (takes : Takes ts p us)
      (rest : Parts us ps) : Parts ts (p :: ps)

section
variable {us vs : List Token} {p q : Part} {ps qs : List Part}

theorem takes_or_stuck (tokens : Tokens ts) (filled : ts ≠ []) :
    (∃ p us, Takes ts p us) ∨ Stuck ts := by
  cases ts with
  | nil => exact absurd rfl filled
  | cons s ts =>
    obtain rfl | ⟨k, rfl⟩ | ⟨a, first⟩ := Token.kinds tokens.head
    · by_cases apart : ts.head? = some .hyphen
      · obtain ⟨us, rfl⟩ := List.head?_eq_some_iff.1 apart
        exact .inr .hyphens
      · exact .inl ⟨_, _, .hyphen apart⟩
    · exact .inl ⟨_, _, .nested⟩
    · by_cases behind : ts.head? = some .hyphen
      · obtain ⟨us, rfl⟩ := List.head?_eq_some_iff.1 behind
        cases us with
        | nil => exact .inl ⟨_, _, .single first (by simp)⟩
        | cons t us =>
          obtain rfl | ⟨k, rfl⟩ | ⟨b, last⟩ := Token.kinds tokens.tail.tail.head
          · exact .inr (.behind first)
          · exact .inr (.overrun first)
          · exact .inl ⟨_, _, .range first last⟩
      · refine .inl ⟨_, _, .single first ?_⟩
        rintro us rfl
        exact absurd rfl behind

namespace Takes

/-- One part can be taken only. -/
theorem unique (h : Takes ts p us) (h' : Takes ts q vs) : p = q ∧ us = vs := by
  cases h with
  | range first last =>
    cases h' with
    | range first' last' => exact ⟨by rw [first.unique first', last.unique last'], rfl⟩
    | single first' apart' => exact nomatch apart' _ rfl
    | hyphen => exact absurd rfl first.1
    | nested => exact nomatch first.2
  | single first apart =>
    cases h' with
    | range first' last' => exact nomatch apart _ rfl
    | single first' => exact ⟨by rw [first.unique first'], rfl⟩
    | hyphen => exact absurd rfl first.1
    | nested => exact nomatch first.2
  | hyphen =>
    cases h' with
    | range first' | single first' => exact absurd rfl first'.1
    | hyphen => exact ⟨rfl, rfl⟩
  | nested =>
    cases h' with
    | range first' | single first' => exact nomatch first'.2
    | nested => exact ⟨rfl, rfl⟩

theorem tokens (h : Takes ts p us) (tokens : Tokens ts) : Tokens us := by
  cases h with
  | range => exact tokens.tail.tail.tail
  | single | hyphen | nested => exact tokens.tail

theorem length_lt (h : Takes ts p us) : us.length < ts.length := by
  cases h <;> simp only [List.length_cons] <;> omega

end Takes

/-- Tokens make parts in one way only. -/
theorem Parts.unique (h : Parts ts ps) (h' : Parts ts qs) : ps = qs := by
  induction h generalizing qs with
  | nil =>
    cases h' with
    | nil => rfl
    | cons takes => cases takes
  | cons takes _ ih =>
    cases h' with
    | nil => cases takes
    | cons takes' rest' =>
      obtain ⟨rfl, rfl⟩ := takes.unique takes'
      rw [ih rest']

end

/-- The parts of a whole class: there is one at least, and hyphens in front are members. -/
inductive Listed : List Token → List Part → Prop where
  | mk {n : Nat} {ts : List Token} {ps : List Part} (apart : ts.head? ≠ some .hyphen)
      (parts : Parts ts ps) (filled : 0 < n ∨ ts ≠ []) :
      Listed (List.replicate n .hyphen ++ ts) (List.replicate n (.single '-') ++ ps)

namespace Named

def parts : Named → List Part
  | digit => [.range '0' '9']
  | word => [.range '0' '9', .range 'A' 'Z', .range 'a' 'z', .single '_']
  | space => [.single ' ', .single '\x0c', .single '\n', .single '\r', .single '\t']

/-- A hyphen behind digits makes no range, since their last character has one already. -/
theorem parts_append {ps : List Part} (k : Named)
    (apart : k ≠ digit → ∀ us, ts = .hyphen :: us → us = []) (rest : Parts ts ps) :
    Parts (k.tokens ++ ts) (k.parts ++ ps) := by
  have stands (c : Char) (other : c ≠ '-') : (Token.char c).Stands c :=
    ⟨by simpa [Token.hyphen] using other, rfl⟩
  have escapes (c a : Char) (known : Escape.character? c = some a) : (Token.escape c).Stands a :=
    ⟨nofun, known⟩
  cases k with
  | digit => exact .cons (.range (stands _ (by decide)) (stands _ (by decide))) rest
  | word =>
    exact .cons (.range (stands _ (by decide)) (stands _ (by decide))) <|
      .cons (.range (stands _ (by decide)) (stands _ (by decide))) <|
      .cons (.range (stands _ (by decide)) (stands _ (by decide))) <|
      .cons (.single (stands _ (by decide)) (apart nofun)) rest
  | space =>
    exact .cons (.single (stands _ (by decide)) (by simp)) <|
      .cons (.single (escapes _ _ rfl) (by simp)) <| .cons (.single (escapes _ _ rfl) (by simp)) <|
      .cons (.single (escapes _ _ rfl) (by simp)) <|
      .cons (.single (escapes _ _ rfl) (apart nofun)) rest

theorem parts_whole (k : Named) : Parts k.tokens k.parts := by
  have parts : Parts (k.tokens ++ []) (k.parts ++ []) := k.parts_append (by simp) .nil
  simpa using parts

theorem of_parts_append {ps : List Part} {k : Named}
    (h : Parts (k.tokens ++ ts) (k.parts ++ ps)) :
    (k ≠ digit → ∀ us, ts = .hyphen :: us → us = []) ∧ Parts ts ps := by
  have range {s t : Token} {a b : Char} {ts : List Token} {ps : List Part}
      (h : Parts (s :: .hyphen :: t :: ts) (.range a b :: ps)) : Parts ts ps := by
    obtain _ | ⟨⟨-⟩, rest⟩ := h
    exact rest
  have single {s : Token} {a : Char} {ts : List Token} {ps : List Part} (other : a ≠ '-')
      (h : Parts (s :: ts) (.single a :: ps)) :
      (∀ us, ts = .hyphen :: us → us = []) ∧ Parts ts ps := by
    obtain _ | ⟨takes, rest⟩ := h
    cases takes with
    | single _ apart => exact ⟨apart, rest⟩
    | hyphen => exact absurd rfl other
  cases k with
  | digit => exact ⟨fun other => absurd rfl other, range h⟩
  | word =>
    have last := single (by decide) (range (range (range h)))
    exact ⟨fun _ => last.1, last.2⟩
  | space =>
    have blanks := (single (by decide) (single (by decide) (single (by decide) h).2).2).2
    have last := single (by decide) (single (by decide) blanks).2
    exact ⟨fun _ => last.1, last.2⟩

end Named

/-- Tokens begin with some hyphens. -/
theorem exists_leading (ts : List Token) :
    ∃ n us, ts = List.replicate n .hyphen ++ us ∧ us.head? ≠ some .hyphen := by
  induction ts with
  | nil => exact ⟨0, [], rfl, nofun⟩
  | cons t ts ih =>
    by_cases hyphen : t = .hyphen
    · obtain ⟨n, us, rfl, apart⟩ := ih
      exact ⟨n + 1, us, by rw [hyphen, List.replicate_succ, List.cons_append], apart⟩
    · exact ⟨0, t :: ts, rfl, by simpa using hyphen⟩

theorem leading_unique {n k : Nat} {us vs : List Token}
    (h : List.replicate n Token.hyphen ++ us = List.replicate k .hyphen ++ vs)
    (apart : us.head? ≠ some .hyphen) (apart' : vs.head? ≠ some .hyphen) : n = k ∧ us = vs := by
  induction n generalizing k with
  | zero =>
    cases k with
    | zero => exact ⟨rfl, h⟩
    | succ k =>
      rw [List.replicate_zero, List.nil_append] at h
      exact absurd (congrArg List.head? h) apart
  | succ n ih =>
    cases k with
    | zero =>
      rw [List.replicate_zero, List.nil_append] at h
      exact absurd (congrArg List.head? h).symm apart'
    | succ k =>
      obtain ⟨rfl, same⟩ := ih (List.cons.inj h).2
      exact ⟨rfl, same⟩

theorem Listed.unique {ps qs : List Part} (h : Listed ts ps) (h' : Listed ts qs) : ps = qs := by
  obtain ⟨apart, parts, -⟩ := h
  generalize same : List.replicate _ Token.hyphen ++ _ = whole at h'
  obtain ⟨apart', parts', -⟩ := h'
  obtain ⟨rfl, rfl⟩ := leading_unique same apart apart'
  rw [parts.unique parts']

end Isl.Pattern
