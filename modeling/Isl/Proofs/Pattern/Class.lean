import Isl.Proofs.Pattern.Progress
import Isl.Proofs.Pattern.Token
/-!
# How classes are read

A class that is spelled out in tokens is read as the union of its parts, up to the bracket behind
its tokens. Tokens that no parts can be found for are read as something else: a set operator, or a
class that ends before its tokens do.

* `Part.set?`: the set that a part stands for;
* `classRange?_range`, `classRange?_single`: what a hyphen between two characters does;
* `Takes.read`, `Stuck.read`: one step through a class;
* `classRest?_parts`, `parts_of_classRest?`: the rest of a class;
* `class?_listed`: a class from its beginning.
-/
namespace Isl.Pattern

variable {i m : Bool} {s t : Token} {a b c : Char} {cs rest : List Char} {ts : List Token}
  {ps : List Part} {fuel : Nat} {negated : Bool} {pending : Pending} {items : List ClassSet}

/-! ## Sets -/

def Named.sets : Named → List ClassSet
  | digit => [.range 0x30 0x39]
  | word => [.range 0x30 0x39, .range 0x41 0x5A, .range 0x61 0x7A, .range 0x5F 0x5F]
  | space => [.range 0x20 0x20, .range 0xC 0xC, .range 0xA 0xA, .range 0xD 0xD, .range 9 9]

/-- The set that a part stands for. No range goes backwards. -/
def Part.set? : Part → Option ClassSet
  | single a => some (.range a.toNat a.toNat)
  | range a b => if a.toNat ≤ b.toNat then some (.range a.toNat b.toNat) else none
  | nested k => some (.bracketed true (unionOf k.sets.reverse))

/-! ## Members and ranges -/

/-- The text of tokens up to the bracket that closes a class, and what is behind it. -/
def closedText (ts : List Token) (rest : List Char) : List Char :=
  ts.flatMap Token.text ++ ']' :: rest

theorem closedText_cons (t : Token) (ts : List Token) (rest : List Char) :
    closedText (t :: ts) rest = t.text ++ closedText ts rest := by
  simp [closedText]

theorem closedText_char (c : Char) (ts : List Token) (rest : List Char) :
    closedText (.char c :: ts) rest = c :: closedText ts rest := rfl

/-- A negated class is closed within the class around it. -/
theorem closedText_nested (k : Named) (ts : List Token) (rest : List Char) :
    closedText (.nested k :: ts) rest =
      '[' :: closedText (.char '^' :: k.tokens) (closedText ts rest) := by
  rw [closedText_cons, closedText_char]
  cases k <;> rfl

@[simp] theorem skip_standard (cs : List Char) : (Flags.standard i m).skip cs = cs := rfl

@[simp] theorem memberCode?_standard (c : Char) :
    memberCode? (.standard i m) c = some c.toNat := rfl

/-- A character in a class, escaped or not, is read as what it stands for. -/
theorem classItem?_value (bare : t.Bare) (value : t.value? = some a) :
    classItem? (.standard i m) (t.text ++ cs) = some (.character a, cs) := by
  cases t with
  | char c =>
    cases value
    unfold classItem? Token.text
    split
    · rename_i same
      cases same
      exact absurd rfl bare.2.2.1
    · rename_i same
      cases same
      rfl
    · rename_i none
      cases none
  | escape c =>
    simp only [Token.Bare, List.mem_cons, List.not_mem_nil, or_false] at bare
    rcases bare with rfl | rfl | rfl | rfl | rfl | rfl | rfl | rfl <;> cases value <;> rfl
  | nested k => cases value

theorem classRange?_single {d : Char} (bare : t.Bare) (value : t.value? = some a)
    (apart : d = '-' → cs.head? = some ']' ∨ cs.head? = some '-') :
    classRange? (.standard i m) (t.text ++ d :: cs) = some (.range a.toNat a.toNat, d :: cs) := by
  unfold classRange?
  rw [classItem?_value bare value]
  by_cases hyphen : d = '-'
  · subst hyphen
    cases cs with
    | nil => simp at apart
    | cons e cs =>
      rcases apart rfl with h | h <;> cases h <;> rfl
  · simp [itemSet?, hyphen]

theorem classRange?_range (bare : t.Bare) (value : t.value? = some a)
    (item : classItem? (.standard i m) cs = some (.character b, rest))
    (inside : cs.head? ≠ some ']') (apart : cs.head? ≠ some '-') :
    classRange? (.standard i m) (t.text ++ '-' :: cs) = (Part.range a b).set?.map (·, rest) := by
  unfold classRange?
  rw [classItem?_value bare value]
  cases cs with
  | nil => cases item
  | cons d cs =>
    simp only [List.head?_cons, ne_eq, Option.some.injEq] at inside apart
    simp [inside, apart, item, rangeSet?, Part.set?]
    split <;> rfl

/-! ## One step through a class -/

theorem classRest?_close :
    classRest? (.standard i m) (fuel + 1) negated pending items (']' :: rest) =
      some (.bracketed negated (pending.close items), rest) := by
  simp [classRest?, Flags.standard, Flags.skip]

theorem classRest?_operator :
    classRest? (.standard i m) (fuel + 1) negated pending items ('-' :: '-' :: cs) =
      classRest? (.standard i m) fuel negated (some (pending.close items, .difference)) [] cs :=
  rfl

theorem classRest?_nested (k : Named) (enough : 6 ≤ fuel) :
    classRest? (.standard i m) (fuel + 1) negated pending items ((Token.nested k).text ++ cs) =
      (Part.nested k).set?.bind fun s =>
        classRest? (.standard i m) fuel negated pending (s :: items) cs := by
  obtain ⟨n, rfl⟩ := Nat.exists_eq_add_of_le' enough
  cases k <;> rfl

/-- What does not end a class, begin another one or belong to a set operator begins a part. -/
theorem classRest?_part (plain : c ≠ ']' ∧ c ≠ '[' ∧ c ≠ '~')
    (apart : c = '&' ∨ c = '-' → cs.head? ≠ some c) :
    classRest? (.standard i m) (fuel + 1) negated pending items (c :: cs) =
      (classRange? (.standard i m) (c :: cs)).bind fun read =>
        classRest? (.standard i m) fuel negated pending (read.1 :: items) read.2 := by
  rw [classRest?]
  simp only [skip_standard]
  split
  · rename_i h; cases h
  · rename_i h; cases h; exact absurd rfl plain.1
  · rename_i h; cases h; exact absurd rfl (apart (.inl rfl))
  · rename_i h; cases h; exact absurd rfl (apart (.inr rfl))
  · rename_i h; cases h; exact absurd rfl plain.2.2
  · rename_i h; cases h; exact absurd rfl plain.2.1
  · rfl

/-- How the text of a token begins. -/
theorem Token.text_cons (bare : t.Bare) :
    ∃ c tail, t.text = c :: tail ∧ c ≠ ']' ∧ c ≠ '~' ∧ (c = '[' → t.value? = none) ∧
      (c ≠ '[' → c ≠ '\\' → t = .char c) := by
  cases t with
  | char c => exact ⟨c, [], rfl, bare.2.1, bare.2.2.2, fun h => absurd h bare.1, fun _ _ => rfl⟩
  | escape c =>
    exact ⟨'\\', [c], rfl, by decide, by decide, by simp, fun _ h => absurd rfl h⟩
  | nested k => exact ⟨'[', _, rfl, by decide, by decide, fun _ => rfl, fun h => absurd rfl h⟩

theorem closedText_head (tokens : Tokens ts) (rest : List Char) :
    ∃ c cs, closedText ts rest = c :: cs ∧ (c = ']' → ts = []) ∧
      (c ≠ ']' → c ≠ '[' → c ≠ '\\' → ts.head? = some (.char c)) := by
  cases ts with
  | nil => exact ⟨']', rest, rfl, fun _ => rfl, fun h => absurd rfl h⟩
  | cons t ts =>
    obtain ⟨c, tail, text, inside, -, -, same⟩ := Token.text_cons tokens.head
    exact ⟨c, _, by rw [closedText_cons, text]; rfl, fun h => absurd h inside,
      fun _ h h' => congrArg some (same h h')⟩

/-- A token that stands for a character begins a part. -/
theorem classRest?_token (tokens : Tokens (t :: ts)) (value : t.value? = some a)
    (alone : t = .hyphen → ts.head? ≠ some .hyphen) :
    classRest? (.standard i m) (fuel + 1) negated pending items (closedText (t :: ts) rest) =
      (classRange? (.standard i m) (closedText (t :: ts) rest)).bind fun read =>
        classRest? (.standard i m) fuel negated pending (read.1 :: items) read.2 := by
  obtain ⟨c, tail, text, closed, tilde, nested, same⟩ := Token.text_cons tokens.head
  obtain ⟨d, cs, behind, -, next⟩ := closedText_head tokens.tail rest
  rw [closedText_cons, text]
  refine classRest?_part ⟨closed, fun h => ?_, tilde⟩ fun mark => ?_
  · rw [nested h] at value
    cases value
  · obtain rfl : t = .char c := by
      rcases mark with rfl | rfl <;> exact same (by decide) (by decide)
    obtain rfl : [] = tail := (List.cons.inj text).2
    rw [behind]
    rintro ⟨⟩
    cases tokens with
    | cons _ apart _ =>
      rcases mark with rfl | rfl
      · exact apart rfl (next (by decide) (by decide) (by decide))
      · exact alone rfl (next (by decide) (by decide) (by decide))

/-- A character with no hyphen behind it, or with one that makes no range, is a part. -/
theorem classRest?_single (tokens : Tokens (t :: ts)) (value : t.value? = some a)
    (alone : t = .hyphen → ts.head? ≠ some .hyphen)
    (apart : ∀ us, ts = .hyphen :: us → us = [] ∨ us.head? = some .hyphen) :
    classRest? (.standard i m) (fuel + 1) negated pending items (closedText (t :: ts) rest) =
      (Part.single a).set?.bind fun s =>
        classRest? (.standard i m) fuel negated pending (s :: items) (closedText ts rest) := by
  obtain ⟨d, cs, behind, -, next⟩ := closedText_head tokens.tail rest
  rw [classRest?_token tokens value alone, closedText_cons, behind,
    classRange?_single tokens.head value]
  · rfl
  · rintro rfl
    cases ts with
    | nil => cases behind
    | cons u us =>
      obtain rfl : u = .hyphen := by simpa using next (by decide) (by decide) (by decide)
      rw [closedText_cons] at behind
      cases behind
      rcases apart us rfl with rfl | hyphen
      · exact .inl rfl
      · cases us with
        | nil => cases hyphen
        | cons v vs =>
          obtain rfl : v = .hyphen := by simpa using hyphen
          exact .inr rfl

/-- A hyphen between two characters makes a range. -/
theorem classRest?_range (tokens : Tokens (s :: .hyphen :: t :: ts)) (first : s.Stands a)
    (last : t.Stands b) :
    classRest? (.standard i m) (fuel + 1) negated pending items
        (closedText (s :: .hyphen :: t :: ts) rest) =
      (Part.range a b).set?.bind fun s =>
        classRest? (.standard i m) fuel negated pending (s :: items) (closedText ts rest) := by
  obtain ⟨d, cs, behind, inside, next⟩ := closedText_head tokens.tail.tail rest
  have item : classItem? (.standard i m) (closedText (t :: ts) rest) =
      some (.character b, closedText ts rest) := by
    rw [closedText_cons]
    exact classItem?_value tokens.tail.tail.head last.2
  rw [classRest?_token tokens first.2 (fun h => absurd h first.1), closedText_cons, closedText_char,
    classRange?_range tokens.head first.2 item]
  · cases (Part.range a b).set? <;> rfl
  · rw [behind]
    rintro ⟨⟩
    cases inside rfl
  · rw [behind]
    rintro ⟨⟩
    exact last.1 (by simpa using next (by decide) (by decide) (by decide))

/-- A hyphen between a character and a negated class makes a range up to the bracket, and the class
around them ends where the negated one should. -/
theorem classRest?_overrun {k : Named} (tokens : Tokens (s :: .hyphen :: .nested k :: ts))
    (first : s.Stands a) :
    classRest? (.standard i m) (fuel + 1) negated pending items
        (closedText (s :: .hyphen :: .nested k :: ts) rest) =
      (Part.range a '[').set?.bind fun s =>
        classRest? (.standard i m) fuel negated pending (s :: items)
          (closedText (.char '^' :: k.tokens) (closedText ts rest)) := by
  rw [classRest?_token tokens first.2 (fun h => absurd h first.1), closedText_cons, closedText_char,
    closedText_nested, classRange?_range tokens.head first.2 rfl (by simp) (by simp)]
  cases (Part.range a '[').set? <;> rfl

/-! ## The rest of a class -/

theorem closedText_length_lt (t : Token) (ts : List Token) (rest : List Char) :
    (closedText ts rest).length < (closedText (t :: ts) rest).length := by
  have filled : 0 < t.text.length := by
    cases t <;> exact Nat.succ_pos _
  rw [closedText_cons, List.length_append]
  omega

theorem closedText_length (ts : List Token) (rest : List Char) :
    rest.length < (closedText ts rest).length := by
  simp only [closedText, List.length_append, List.length_cons]
  omega

theorem closedText_nested_length (k : Named) (ts : List Token) (rest : List Char) :
    6 ≤ (closedText (.nested k :: ts) rest).length := by
  have long : 6 ≤ (Token.nested k).text.length := by
    cases k <;> decide
  rw [closedText_cons, List.length_append]
  omega

namespace Takes

variable {us : List Token} {p : Part}

theorem closedText_length_lt (takes : Takes ts p us) (rest : List Char) :
    (closedText us rest).length < (closedText ts rest).length := by
  cases takes with
  | @range s t =>
    have first := Pattern.closedText_length_lt s (.hyphen :: t :: us) rest
    have hyphen := Pattern.closedText_length_lt .hyphen (t :: us) rest
    have last := Pattern.closedText_length_lt t us rest
    omega
  | single | hyphen | nested => exact Pattern.closedText_length_lt _ us rest

/-- A part that is taken from the tokens of a class is read. -/
theorem read (takes : Takes ts p us) (tokens : Tokens ts)
    (fuelled : (closedText ts rest).length ≤ fuel) :
    classRest? (.standard i m) (fuel + 1) negated pending items (closedText ts rest) =
      p.set?.bind fun s =>
        classRest? (.standard i m) fuel negated pending (s :: items) (closedText us rest) := by
  cases takes with
  | range first last => exact classRest?_range tokens first last
  | single first apart =>
    exact classRest?_single tokens first.2 (fun h => absurd h first.1) fun us h => .inl (apart us h)
  | hyphen apart =>
    refine classRest?_single tokens rfl (fun _ => apart) ?_
    rintro us rfl
    exact absurd rfl apart
  | @nested k us =>
    have long := closedText_nested_length k us rest
    rw [closedText_cons]
    exact classRest?_nested k (by omega)

end Takes

/-- What a class is read as that is made of parts. -/
def readParts (negated : Bool) (pending : Pending) (items : List ClassSet) (ps : List Part)
    (rest : List Char) : Option (ClassSet × List Char) :=
  (ps.mapM Part.set?).map fun sets =>
    (.bracketed negated (pending.close (sets.reverse ++ items)), rest)

theorem readParts_cons (p : Part) :
    readParts negated pending items (p :: ps) rest =
      p.set?.bind fun s => readParts negated pending (s :: items) ps rest := by
  unfold readParts
  cases head : p.set? with
  | none => simp [head]
  | some s => cases tail : ps.mapM Part.set? <;> simp [head, tail]

/-- **The rest of a class.** Tokens that make parts are read as these parts, up to the bracket
behind the tokens. -/
theorem classRest?_parts (parts : Parts ts ps) (tokens : Tokens ts)
    (fuelled : (closedText ts rest).length < fuel) :
    classRest? (.standard i m) fuel negated pending items (closedText ts rest) =
      readParts negated pending items ps rest := by
  induction parts generalizing fuel items with
  | nil =>
    obtain ⟨fuel, rfl⟩ := Nat.exists_eq_add_one.2 (Nat.zero_lt_of_lt fuelled)
    exact classRest?_close
  | cons takes parts ih =>
    obtain ⟨fuel, rfl⟩ := Nat.exists_eq_add_one.2 (Nat.zero_lt_of_lt fuelled)
    have fuelled := Nat.le_of_lt_succ fuelled
    rw [takes.read tokens fuelled, readParts_cons]
    congr 1
    funext set
    exact ih (takes.tokens tokens) (Nat.lt_of_lt_of_le (takes.closedText_length_lt rest) fuelled)

theorem Named.caret_parts (k : Named) : Parts (.char '^' :: k.tokens) (.single '^' :: k.parts) :=
  .cons (.single ⟨by decide, rfl⟩ (by cases k <;> simp [tokens])) k.parts_whole

theorem Named.caret_tokens (k : Named) : Tokens (.char '^' :: k.tokens) :=
  .cons (by decide) nofun k.tokens_whole

/-- Behind a set operator, a class is read as what the operator makes. -/
theorem operation_of_classRest? {left set : ClassSet} {op : SetOperator}
    (read : classRest? (.standard i m) fuel negated (some (left, op)) items cs = some (set, rest)) :
    ∃ op l r, set = .bracketed negated (.operation op l r) := by
  induction fuel generalizing left op items cs with
  | zero => cases read
  | succ fuel ih =>
    rw [classRest?] at read
    simp only [skip_standard] at read
    split at read
    · cases read
    · split at read
      · cases read
      · cases read
        exact ⟨_, _, _, rfl⟩
    · exact ih read
    · exact ih read
    · exact ih read
    · split at read
      · split at read
        · cases read
        · exact ih read
      · simp only [Option.bind_eq_bind, Option.bind_eq_some_iff] at read
        obtain ⟨_, _, read⟩ := read
        exact ih read
    · simp only [Option.bind_eq_bind, Option.bind_eq_some_iff] at read
      obtain ⟨_, _, read⟩ := read
      exact ih read

/-- Tokens that no part can be taken from are read with a set operator, or not up to the bracket
behind them. -/
theorem Stuck.read {rest' : List Char} {set : ClassSet} (stuck : Stuck ts) (tokens : Tokens ts)
    (fuelled : (closedText ts rest).length ≤ fuel)
    (read : classRest? (.standard i m) (fuel + 1) negated none items (closedText ts rest) =
      some (set, rest')) :
    (∃ op l r, set = .bracketed negated (.operation op l r)) ∨ rest.length < rest'.length := by
  cases stuck with
  | hyphens => exact .inl (operation_of_classRest? (classRest?_operator.symm.trans read))
  | @behind s a ts first =>
    rw [classRest?_single tokens first.2 (fun h => absurd h first.1) (by simp)] at read
    obtain ⟨_, -, read⟩ := Option.bind_eq_some_iff.1 read
    cases fuel with
    | zero => cases read
    | succ fuel =>
      exact .inl (operation_of_classRest? (classRest?_operator.symm.trans read))
  | @overrun s a k ts first =>
    rw [classRest?_overrun tokens first] at read
    obtain ⟨_, -, read⟩ := Option.bind_eq_some_iff.1 read
    have behind := closedText_length_lt s (.hyphen :: .nested k :: ts) rest
    have nested := closedText_length_lt .hyphen (.nested k :: ts) rest
    rw [closedText_nested, List.length_cons] at nested
    rw [classRest?_parts k.caret_parts k.caret_tokens (by omega)] at read
    obtain ⟨_, -, here⟩ := Option.map_eq_some_iff.1 read
    cases here
    exact .inr (closedText_length ts rest)

/-- What is read up to its own bracket and without a set operator is made of parts. -/
theorem parts_of_classRest? {ts : List Token} {fuel : Nat} {items : List ClassSet}
    {rest' : List Char} {set : ClassSet} (tokens : Tokens ts)
    (fuelled : (closedText ts rest).length < fuel)
    (read : classRest? (.standard i m) fuel negated none items (closedText ts rest) =
      some (set, rest')) :
    (∃ ps, Parts ts ps) ∨ (∃ op l r, set = .bracketed negated (.operation op l r)) ∨
      rest.length < rest'.length := by
  obtain ⟨fuel, rfl⟩ := Nat.exists_eq_add_one.2 (Nat.zero_lt_of_lt fuelled)
  have fuelled := Nat.le_of_lt_succ fuelled
  by_cases filled : ts = []
  · subst filled
    exact .inl ⟨[], .nil⟩
  obtain ⟨p, us, takes⟩ | stuck := takes_or_stuck tokens filled
  · have shorter := takes.length_lt
    rw [takes.read tokens fuelled] at read
    obtain ⟨_, -, read⟩ := Option.bind_eq_some_iff.1 read
    have behind := parts_of_classRest? (takes.tokens tokens)
      (Nat.lt_of_lt_of_le (takes.closedText_length_lt rest) fuelled) read
    refine behind.imp_left ?_
    rintro ⟨ps, parts⟩
    exact ⟨p :: ps, .cons takes parts⟩
  · exact .inr (stuck.read tokens fuelled read)
termination_by ts.length

/-! ## Whole classes -/

/-- A class behind its bracket: a caret in front negates. -/
def classText (negated : Bool) (ts : List Token) (rest : List Char) : List Char :=
  (if negated then ['^'] else []) ++ closedText ts rest

/-- Tokens of a class that is not negated do not begin with a caret. -/
def Fronted (negated : Bool) (ts : List Token) : Prop :=
  negated = false → ts.head? ≠ some (.char '^')

theorem closedText_hyphens (n : Nat) (ts : List Token) (rest : List Char) :
    closedText (List.replicate n .hyphen ++ ts) rest =
      List.replicate n '-' ++ closedText ts rest := by
  induction n with
  | zero => rfl
  | succ n ih => exact congrArg ('-' :: ·) ih

theorem hyphens_replicate {n : Nat} (enough : n ≤ fuel) (apart : cs.head? ≠ some '-') :
    hyphens (.standard i m) fuel items (List.replicate n '-' ++ cs) =
      (List.replicate n (.range 0x2D 0x2D) ++ items, cs) := by
  induction n generalizing fuel items with
  | zero =>
    cases cs with
    | nil => cases fuel <;> rfl
    | cons c cs =>
      have other : c ≠ '-' := by simpa using apart
      cases fuel with
      | zero => rfl
      | succ fuel => simp [hyphens, other]
  | succ n ih =>
    obtain ⟨fuel, rfl⟩ := Nat.exists_eq_add_one.2 (Nat.zero_lt_of_lt enough)
    refine (@ih fuel (.range 0x2D 0x2D :: items) (Nat.le_of_succ_le_succ enough)).trans ?_
    simp [List.replicate_succ']

theorem classText_length_lt (negated : Bool) (n : Nat) (ts : List Token) (rest : List Char) :
    (closedText ts rest).length <
      (classText negated (List.replicate n .hyphen ++ ts) rest).length + 1 := by
  rw [classText, closedText_hyphens, List.length_append, List.length_append]
  omega

/-- The beginning of a class that neither is empty nor has more than hyphens in front. -/
theorem classOpening_classText {n : Nat} (tokens : Tokens ts) (apart : ts.head? ≠ some .hyphen)
    (fronted : Fronted negated (List.replicate n .hyphen ++ ts)) :
    classOpening (.standard i m) (classText negated (List.replicate n .hyphen ++ ts) rest) =
      if 0 < n ∨ ts ≠ [] then (negated, List.replicate n (.range 0x2D 0x2D), closedText ts rest)
      else (negated, [.range 0x5D 0x5D], rest) := by
  obtain ⟨c, cs, text, inside, next⟩ := closedText_head tokens rest
  have other : (closedText ts rest).head? ≠ some '-' := by
    rw [text]
    rintro ⟨⟩
    exact apart (next (by decide) (by decide) (by decide))
  unfold classOpening
  split
  rename_i negated' tail front
  have caret : negated' = negated ∧ tail = List.replicate n '-' ++ closedText ts rest := by
    rw [skip_standard, classText, closedText_hyphens] at front
    cases negated with
    | true =>
      cases front
      exact ⟨rfl, rfl⟩
    | false =>
      cases n with
      | succ n =>
        cases front
        exact ⟨rfl, rfl⟩
      | zero =>
        have plain : c ≠ '^' := by
          rintro rfl
          exact fronted rfl (next (by decide) (by decide) (by decide))
        rw [text] at front ⊢
        simp [plain] at front
        exact ⟨front.1, front.2.symm⟩
  obtain ⟨rfl, rfl⟩ := caret
  rw [hyphens_replicate (by simp) other, List.append_nil]
  cases n with
  | succ n => rfl
  | zero =>
    cases ts with
    | nil => rfl
    | cons t ts =>
      have closed : c ≠ ']' := fun h => nomatch inside h
      simp [text, closed]

theorem readParts_hyphens (n : Nat) :
    readParts negated pending items (List.replicate n (.single '-') ++ ps) rest =
      readParts negated pending (List.replicate n (.range 0x2D 0x2D) ++ items) ps rest := by
  induction n generalizing items with
  | zero => rfl
  | succ n ih =>
    rw [List.replicate_succ, List.cons_append, readParts_cons, List.replicate_succ']
    simpa [Part.set?] using @ih (.range 0x2D 0x2D :: items)

/-- **A class.** What makes the parts of a class is read as the union of these parts, up to its
bracket. -/
theorem class?_listed (listed : Listed ts ps) (tokens : Tokens ts) (fronted : Fronted negated ts) :
    class? (.standard i m) (classText negated ts rest) = readParts negated none [] ps rest := by
  obtain @⟨n, ts, ps, apart, parts, filled⟩ := listed
  have opening := @classOpening_classText i m rest ts negated n tokens.of_append apart fronted
  rw [if_pos filled] at opening
  rw [class?, opening, readParts_hyphens, List.append_nil]
  exact classRest?_parts parts tokens.of_append (classText_length_lt negated n ts rest)

/-- What is read up to its own bracket and without a set operator is made of parts. -/
theorem listed_of_class? {set : ClassSet} (tokens : Tokens ts) (fronted : Fronted negated ts)
    (read : class? (.standard i m) (classText negated ts rest) = some (set, rest))
    (plain : ∀ op l r, set ≠ .bracketed negated (.operation op l r)) : ∃ ps, Listed ts ps := by
  obtain ⟨n, us, rfl, apart⟩ := exists_leading ts
  rw [class?, classOpening_classText tokens.of_append apart fronted] at read
  by_cases filled : 0 < n ∨ us ≠ []
  · rw [if_pos filled] at read
    obtain ⟨ps, parts⟩ | ⟨op, l, r, rfl⟩ | longer :=
      parts_of_classRest? tokens.of_append (classText_length_lt negated n us rest) read
    · exact ⟨_, .mk apart parts filled⟩
    · exact absurd rfl (plain op l r)
    · exact absurd longer (Nat.lt_irrefl _)
  · rw [if_neg filled] at read
    exact absurd (classRest?_length_lt read) (Nat.lt_irrefl _)

end Isl.Pattern
