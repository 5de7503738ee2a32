import Isl.Proofs.Pattern.Bracket
/-!
# What classes stand for

A class that is written as a row of items, which are characters, ranges and named classes, stands
for the characters that its items stand for (`class_denotes`). That holds for rows in which no
hyphen by itself is read as the middle of a range: behind a character, or behind a named class that
is spelled out with a character at its end, it must be the last item. A hyphen in front of a named
class is among those that must not follow a character, and a hyphen behind `\w` or `\s` makes a
range of the last character of that class.

* `Item`: what a class is written as, and what it stands for;
* `Regular`, `RegularClass`: rows of items that are read item by item (`listed_iff`);
* `Part.contains_set`: what the parts of a class stand for.
-/
namespace Isl.Pattern

variable {i m : Bool} {casing : Casing} {n : Nat} {items : List Item}

/-! ## Items -/

namespace Named

/-- The characters of a named class. -/
def holds : Named → Nat → Bool
  | digit, n => '0'.toNat ≤ n && n ≤ '9'.toNat
  | word, n =>
    '0'.toNat ≤ n && n ≤ '9'.toNat || 'A'.toNat ≤ n && n ≤ 'Z'.toNat ||
      'a'.toNat ≤ n && n ≤ 'z'.toNat || n == '_'.toNat
  | space, n =>
    n == ' '.toNat || n == '\x0c'.toNat || n == '\n'.toNat || n == '\r'.toNat || n == '\t'.toNat

end Named

/-- What a class is written as. -/
inductive Item where
  | single (c : Char)
  | range (a b : Char)
  | named (k : Named)
deriving DecidableEq, Repr

/-- Brackets and backslashes are members behind a backslash only. -/
def Member.ofChar (c : Char) : Member :=
  if c = '[' ∨ c = ']' ∨ c = '\\' then .escaped c else .plain c

namespace Item

def members : Item → List Member
  | single c => [.ofChar c]
  | range a b => [.ofChar a, .plain '-', .ofChar b]
  | named k => [.named k false]

/-- Whether the item stands for a code point. -/
def holds : Item → Nat → Bool
  | single c, n => n == c.toNat
  | range a b, n => a.toNat ≤ n && n ≤ b.toNat
  | named k, n => k.holds n

/-- The parts that the item should be read as. -/
def parts : Item → List Part
  | single c => [.single c]
  | range a b => [.range a b]
  | named k => k.parts

def tokens (item : Item) : List Token := item.members.flatMap Member.tokens

end Item

/-! ## Rows of items -/

/-- If the items begin with a hyphen by itself, it is the last of them. -/
def Ends (items : List Item) : Prop := ∀ rest, items = .single '-' :: rest → rest = []

/-- Items that are read item by item. A hyphen by itself is the last item if it is behind a
character, or behind a named class that ends with one, and it has no other hyphen behind it. -/
inductive Regular : List Item → Prop where
  | nil : Regular []
  | single {c : Char} {items : List Item} (other : c ≠ '-') (ends : Ends items)
      (rest : Regular items) : Regular (.single c :: items)
  | hyphen {items : List Item} (apart : items.head? ≠ some (.single '-')) (rest : Regular items) :
      Regular (.single '-' :: items)
  | range {a b : Char} {items : List Item} (first : a ≠ '-') (last : b ≠ '-')
      (rest : Regular items) : Regular (.range a b :: items)
  | named {k : Named} {items : List Item} (ends : k ≠ .digit → Ends items) (rest : Regular items) :
      Regular (.named k :: items)

/-- The items of a whole class: there is one at least, and there may be hyphens in front. -/
inductive RegularClass : List Item → Prop where
  | mk {n : Nat} {items : List Item} (apart : items.head? ≠ some (.single '-'))
      (regular : Regular items) (filled : 0 < n ∨ items ≠ []) :
      RegularClass (List.replicate n (.single '-') ++ items)

/-- The token that a character is spelled out in. -/
def Token.ofChar (c : Char) : Token :=
  if c = '~' ∨ c = '[' ∨ c = ']' ∨ c = '\\' then .escape c else .char c

theorem Member.tokens_ofChar (c : Char) : (Member.ofChar c).tokens = [Token.ofChar c] := by
  by_cases mark : c = '[' ∨ c = ']' ∨ c = '\\'
  · simp [ofChar, Token.ofChar, mark, tokens]
  · by_cases tilde : c = '~'
    · subst tilde
      rfl
    · simp [ofChar, Token.ofChar, mark, tilde, tokens]

theorem Token.value?_ofChar (c : Char) : (ofChar c).value? = some c := by
  unfold ofChar
  split
  · rename_i mark
    rcases mark with rfl | rfl | rfl | rfl <;> rfl
  · rfl

theorem Token.ofChar_eq_hyphen_iff {c : Char} : ofChar c = hyphen ↔ c = '-' := by
  constructor
  · intro h
    have value := value?_ofChar c
    rw [h] at value
    exact (Option.some.inj value).symm
  · rintro rfl
    rfl

theorem Token.stands_ofChar_iff {a c : Char} : (ofChar c).Stands a ↔ a = c ∧ c ≠ '-' := by
  unfold Stands
  rw [value?_ofChar, ne_eq, ofChar_eq_hyphen_iff]
  exact ⟨fun ⟨other, same⟩ => ⟨(Option.some.inj same).symm, other⟩,
    fun ⟨same, other⟩ => ⟨other, congrArg some same.symm⟩⟩

namespace Item

theorem tokens_single (c : Char) : (single c).tokens = [Token.ofChar c] := by
  simp [tokens, members, Member.tokens_ofChar]

theorem tokens_range (a b : Char) :
    (range a b).tokens = [Token.ofChar a, .hyphen, Token.ofChar b] := by
  have hyphen : (Member.plain '-').tokens = [.hyphen] := rfl
  simp [tokens, members, Member.tokens_ofChar, hyphen]

theorem tokens_named (k : Named) : (named k).tokens = k.tokens := by
  simp [tokens, members, Member.tokens]

theorem tokens_filled (item : Item) : item.tokens ≠ [] := by
  cases item with
  | single c => simp [tokens_single]
  | range a b => simp [tokens_range]
  | named k => cases k <;> simp [tokens_named, Named.tokens]

end Item

/-- The tokens of items begin with a hyphen where the items do. -/
theorem Regular.hyphen_of_tokens {us : List Token} (regular : Regular items)
    (h : items.flatMap Item.tokens = .hyphen :: us) :
    ∃ rest, items = .single '-' :: rest ∧ us = rest.flatMap Item.tokens := by
  cases regular with
  | nil => cases h
  | single other =>
    rw [List.flatMap_cons, Item.tokens_single] at h
    exact absurd (Token.ofChar_eq_hyphen_iff.1 (List.cons.inj h).1) other
  | @hyphen items => exact ⟨items, rfl, (List.cons.inj h).2.symm⟩
  | range first =>
    rw [List.flatMap_cons, Item.tokens_range] at h
    exact absurd (Token.ofChar_eq_hyphen_iff.1 (List.cons.inj h).1) first
  | @named k =>
    rw [List.flatMap_cons, Item.tokens_named] at h
    cases k <;> simp [Named.tokens] at h

theorem Regular.ends {us : List Token} (regular : Regular items) (ends : Ends items)
    (h : items.flatMap Item.tokens = .hyphen :: us) : us = [] := by
  obtain ⟨rest, same, rfl⟩ := regular.hyphen_of_tokens h
  rw [ends rest same]
  rfl

/-- Regular items are read item by item. -/
theorem Regular.parts (regular : Regular items) :
    Parts (items.flatMap Item.tokens) (items.flatMap Item.parts) := by
  induction regular with
  | nil => exact .nil
  | single other ends rest ih =>
    rw [List.flatMap_cons, Item.tokens_single]
    exact .cons (.single (Token.stands_ofChar_iff.2 ⟨rfl, other⟩) fun _ => rest.ends ends) ih
  | @hyphen items apart rest ih =>
    refine .cons (.hyphen fun h => ?_) ih
    obtain ⟨us, h⟩ := List.head?_eq_some_iff.1 h
    obtain ⟨_, rfl, -⟩ := rest.hyphen_of_tokens h
    exact apart rfl
  | range first last rest ih =>
    rw [List.flatMap_cons, Item.tokens_range]
    exact .cons (.range (Token.stands_ofChar_iff.2 ⟨rfl, first⟩)
      (Token.stands_ofChar_iff.2 ⟨rfl, last⟩)) ih
  | @named k items ends rest ih =>
    rw [List.flatMap_cons, Item.tokens_named]
    exact k.parts_append (fun other _ => rest.ends (ends other)) ih

theorem ends_of_tokens (h : ∀ us, items.flatMap Item.tokens = .hyphen :: us → us = []) :
    Ends items := by
  rintro rest rfl
  have none : rest.flatMap Item.tokens = [] := h _ rfl
  cases rest with
  | nil => rfl
  | cons item rest =>
    rw [List.flatMap_cons] at none
    exact absurd (List.append_eq_nil_iff.1 none).1 item.tokens_filled

/-- Items that are read item by item are regular. -/
theorem regular_of_parts (parts : Parts (items.flatMap Item.tokens) (items.flatMap Item.parts)) :
    Regular items := by
  induction items with
  | nil => exact .nil
  | cons item items ih =>
    rw [List.flatMap_cons, List.flatMap_cons] at parts
    cases item with
    | single c =>
      rw [Item.tokens_single] at parts
      generalize token : Token.ofChar c = t at parts
      generalize behind : items.flatMap Item.tokens = us at parts ih
      obtain _ | ⟨takes, rest⟩ := parts
      cases takes with
      | single first apart =>
        rw [← token] at first
        rw [← behind] at apart
        exact .single (Token.stands_ofChar_iff.1 first).2 (ends_of_tokens apart) (ih rest)
      | hyphen apart =>
        refine .hyphen (fun h => ?_) (ih rest)
        obtain ⟨_, rfl⟩ := List.head?_eq_some_iff.1 h
        rw [← behind] at apart
        exact apart rfl
    | range a b =>
      rw [Item.tokens_range] at parts
      generalize first : Token.ofChar a = s at parts
      generalize last : Token.ofChar b = t at parts
      obtain _ | ⟨takes, rest⟩ := parts
      cases takes with
      | range here there =>
        rw [← first] at here
        rw [← last] at there
        exact .range (Token.stands_ofChar_iff.1 here).2 (Token.stands_ofChar_iff.1 there).2
          (ih rest)
    | named k =>
      rw [Item.tokens_named] at parts
      obtain ⟨apart, rest⟩ := Named.of_parts_append parts
      exact .named (fun other => ends_of_tokens (apart other)) (ih rest)

/-- Hyphens in front are read as items only if they are. -/
theorem leading_of_listed {n : Nat} {ts : List Token} {ps : List Part}
    (tokens : List.replicate n .hyphen ++ ts = items.flatMap Item.tokens)
    (parts : List.replicate n (.single '-') ++ ps = items.flatMap Item.parts) :
    ∃ rest, items = List.replicate n (.single '-') ++ rest ∧ ts = rest.flatMap Item.tokens ∧
      ps = rest.flatMap Item.parts := by
  induction n generalizing items with
  | zero => exact ⟨items, rfl, tokens, parts⟩
  | succ n ih =>
    cases items with
    | nil => cases tokens
    | cons item items =>
      rw [List.replicate_succ, List.cons_append, List.flatMap_cons] at tokens parts
      cases item with
      | single c =>
        obtain ⟨same, behind⟩ : Part.single '-' = .single c ∧
            List.replicate n (.single '-') ++ ps = items.flatMap Item.parts := List.cons.inj parts
        cases same
        obtain ⟨rest, rfl, rfl, rfl⟩ := ih (List.cons.inj tokens).2 behind
        exact ⟨rest, rfl, rfl, rfl⟩
      | range a b => cases parts
      | named k => cases k <;> cases parts

/-- The items of a class are read item by item exactly if they are regular. -/
theorem listed_iff :
    Listed (items.flatMap Item.tokens) (items.flatMap Item.parts) ↔ RegularClass items := by
  constructor
  · intro listed
    generalize tokens : items.flatMap Item.tokens = ts at listed
    generalize parts : items.flatMap Item.parts = ps at listed
    obtain ⟨apart, made, filled⟩ := listed
    obtain ⟨rest, rfl, rfl, rfl⟩ := leading_of_listed tokens.symm parts.symm
    refine .mk (fun h => ?_) (regular_of_parts made) (filled.imp_right fun h => ?_)
    · obtain ⟨_, rfl⟩ := List.head?_eq_some_iff.1 h
      exact apart rfl
    · rintro rfl
      exact h rfl
  · rintro @⟨n, items, apart, regular, filled⟩
    have tokens : (List.replicate n (Item.single '-') ++ items).flatMap Item.tokens =
        List.replicate n .hyphen ++ items.flatMap Item.tokens := by
      have hyphen : (Item.single '-').tokens = [.hyphen] := rfl
      simp [List.flatMap_append, List.flatMap_replicate, hyphen]
    have parts : (List.replicate n (Item.single '-') ++ items).flatMap Item.parts =
        List.replicate n (.single '-') ++ items.flatMap Item.parts := by
      simp [List.flatMap_append, List.flatMap_replicate, Item.parts]
    rw [tokens, parts]
    refine .mk (fun h => ?_) regular.parts (filled.imp_right fun other none => ?_)
    · obtain ⟨us, h⟩ := List.head?_eq_some_iff.1 h
      obtain ⟨_, rfl, -⟩ := regular.hyphen_of_tokens h
      exact apart rfl
    · cases items with
      | nil => exact other rfl
      | cons item items =>
        rw [List.flatMap_cons] at none
        exact item.tokens_filled (List.append_eq_nil_iff.1 none).1

/-! ## What classes stand for -/

theorem anyContains_eq_any (sets : List ClassSet) :
    ClassSet.anyContains casing sets n = sets.any (·.contains casing n) := by
  induction sets with
  | nil => rfl
  | cons s sets ih => rw [ClassSet.anyContains, ih, List.any_cons]

theorem contains_unionOf (sets : List ClassSet) :
    (unionOf sets).contains casing n = sets.any (·.contains casing n) := by
  unfold unionOf
  split
  · simp
  · rw [ClassSet.contains, anyContains_eq_any, List.any_reverse]

/-- Whether the part stands for a code point. -/
def Part.holds (casing : Casing) : Part → Nat → Bool
  | single a, n => n == a.toNat
  | range a b, n => a.toNat ≤ n && n ≤ b.toNat
  | nested k, n => !ClassSet.closed casing k.holds n

theorem contains_point (a : Nat) : (ClassSet.range a a).contains casing n = (n == a) := by
  rw [ClassSet.contains, Bool.eq_iff_iff]
  simp only [Bool.and_eq_true, decide_eq_true_eq, beq_iff_eq]
  omega

theorem Named.contains_sets (k : Named) :
    (k.sets.any fun s => s.contains casing n) = k.holds n := by
  cases k with
  | digit => simp [sets, holds, ClassSet.contains]
  | word =>
    simp only [sets, List.any_cons, List.any_nil, contains_point]
    simp [holds, ClassSet.contains, Bool.or_assoc]
  | space => simp [sets, holds, contains_point, Bool.or_assoc]

theorem Part.contains_set {p : Part} {set : ClassSet} (made : p.set? = some set) :
    set.contains casing n = p.holds casing n := by
  cases p with
  | single a =>
    cases made
    exact contains_point a.toNat
  | range a b =>
    obtain ⟨-, same⟩ := Option.ite_none_right_eq_some.1 made
    cases same
    rw [ClassSet.contains, holds]
  | nested k =>
    cases made
    rw [ClassSet.contains, holds, Bool.bne_true]
    congr 2
    funext n
    rw [contains_unionOf, List.any_reverse, k.contains_sets]

/-- A union of parts stands for what the parts stand for. -/
theorem Unites.contains_set {negated : Bool} {parts : List Part} {set : ClassSet}
    (unites : Unites negated parts set) :
    set.contains casing n =
      (ClassSet.closed casing (fun n => parts.any (·.holds casing n)) n != negated) := by
  obtain ⟨sets, made, rfl⟩ := unites
  rw [ClassSet.contains]
  congr 2
  funext n
  rw [contains_unionOf, List.any_reverse]
  induction parts generalizing sets with
  | nil =>
    cases made
    rfl
  | cons p parts ih =>
    simp only [List.mapM_cons, Option.bind_eq_bind, Option.bind_eq_some_iff] at made
    obtain ⟨first, here, others, there, whole⟩ := made
    cases whole
    rw [List.any_cons, List.any_cons, p.contains_set here, ih _ there]

theorem Item.holds_parts (item : Item) :
    (item.parts.any fun p => p.holds casing n) = item.holds n := by
  cases item with
  | single c => simp [parts, holds, Part.holds]
  | range a b => simp [parts, holds, Part.holds]
  | named k => cases k <;> simp [parts, holds, Part.holds, Named.parts, Named.holds, Bool.or_assoc]

theorem holds_items (items : List Item) :
    ((items.flatMap Item.parts).any fun p => p.holds casing n) = items.any (·.holds n) := by
  rw [List.any_flatMap]
  simp only [Item.holds_parts]

/-- Only the ranges that the items are can go backwards. -/
theorem forward_items :
    (∀ a b, .range a b ∈ items.flatMap Item.parts → a.toNat ≤ b.toNat) ↔
      ∀ a b, .range a b ∈ items → a.toNat ≤ b.toNat := by
  constructor
  · exact fun h a b mem => h a b (List.mem_flatMap.2 ⟨_, mem, .head _⟩)
  · intro h a b mem
    obtain ⟨item, mem, here⟩ := List.mem_flatMap.1 mem
    cases item with
    | single c => simp [Item.parts] at here
    | range a' b' =>
      obtain ⟨rfl, rfl⟩ : a = a' ∧ b = b' := by simpa [Item.parts] using here
      exact h a b mem
    | named k => exact k.parts_forward a b here

/-- **A regular class stands for what its items stand for.** What the items of a class are spelled
out in makes their own parts exactly if they are regular. Then the class is read up to its end
unless a range goes backwards, and it stands for the characters of the items, or for all others. -/
theorem class_denotes {version : IslVersion} {cs : List Char} {ms : List Member} {negated : Bool}
    (scans : Scans version cs [.bracket ms])
    (written : negation ms = (negated, items.flatMap Item.members)) (i m : Bool) :
    ∃ text, expand version cs = .ok ('[' :: text) ∧
      (Listed (classTokens ms) (items.flatMap Item.parts) ↔ RegularClass items) ∧
      (RegularClass items →
        ((∃ read, class? (.standard i m) text = some read) ↔
          ∀ a b, .range a b ∈ items → a.toNat ≤ b.toNat) ∧
        ∀ set rest, class? (.standard i m) text = some (set, rest) →
          rest = [] ∧ ∀ casing n, set.contains casing n =
            (ClassSet.closed casing (fun n => items.any (·.holds n)) n != negated)) := by
  have tokens : classTokens ms = items.flatMap Item.tokens := by
    rw [classTokens, written, List.flatMap_assoc]
    rfl
  have sound : Tokens (classTokens ms) ∧ Fronted (negation ms).1 (classTokens ms) :=
    scans.scanned.sound _ (.head _)
  have expanded := expand_eq_ok_iff.2 ⟨_, scans, rfl⟩
  have text : [Piece.bracket ms].flatMap Piece.written =
      '[' :: classText negated (classTokens ms) [] := by
    simpa [written] using (Piece.bracket ms).written_class rfl []
  rw [text] at expanded
  refine ⟨_, expanded, tokens ▸ listed_iff, fun regular => ?_⟩
  rw [written, tokens] at sound
  have read : class? (.standard i m) (classText negated (classTokens ms) []) =
      readParts negated none [] (items.flatMap Item.parts) [] := by
    rw [tokens]
    exact class?_listed (listed_iff.2 regular) sound.1 sound.2
  constructor
  · rw [read, ← forward_items, ← exists_sets_iff]
    constructor
    · rintro ⟨⟨set, rest⟩, read⟩
      obtain ⟨⟨sets, made, -⟩, -⟩ := readParts_eq_some_iff.1 read
      exact ⟨sets, made⟩
    · rintro ⟨sets, made⟩
      exact ⟨_, readParts_eq_some_iff.2 ⟨⟨sets, made, rfl⟩, rfl⟩⟩
  · intro set rest here
    obtain ⟨unites, rfl⟩ := readParts_eq_some_iff.1 (read.symm.trans here)
    refine ⟨rfl, fun casing n => ?_⟩
    simp only [unites.contains_set, holds_items]

theorem class_denotes_digits :
    let ms : List Member := [.named .digit false, .plain '-', .plain 'a']
    let items : List Item := [.named .digit, .single '-', .single 'a']
    Scans .v2 "[\\d-a]".toList [.bracket ms] ∧
      negation ms = (false, items.flatMap Item.members) ∧ RegularClass items ∧
      ∃ set, class? (.standard false false) "0-9-a]".toList = some (set, []) ∧
        ∀ casing n, set.contains casing n =
          (ClassSet.closed casing (fun n => items.any (·.holds n)) n != false) := by
  intro ms items
  have scans : Scans .v2 "[\\d-a]".toList [.bracket ms] :=
    ⟨.bracket trivial (.named rfl (.plain (by decide) (by decide) (.plain (by decide) (by decide)
      .nil))) (.done rfl), rfl⟩
  have regular : RegularClass items :=
    @RegularClass.mk 0 _ (by simp)
      (.named nofun (.hyphen (by simp) (.single (by decide) nofun .nil))) (.inr nofun)
  have written : negation ms = (false, items.flatMap Item.members) := rfl
  obtain ⟨text, expanded, -, reads⟩ := class_denotes scans written false false
  cases expanded
  obtain ⟨whole, denotes⟩ := reads regular
  obtain ⟨⟨set, rest⟩, read⟩ := whole.2 (by simp [items])
  obtain ⟨rfl, denotes⟩ := denotes set rest read
  exact ⟨scans, written, regular, set, read, denotes⟩

end Isl.Pattern
