import Isl.Proofs.Ion.Blank
import Isl.Proofs.Ion.Quoted
import Isl.Proofs.Number.Digits
/-!
# Symbols and annotations that are read back

A symbol is written as an identifier or between single quotes. In front of a double colon it is an
annotation; the annotations of a value end where no symbol with a double colon follows.

* `Reads`: what a reader takes off a text, whatever stands before it;
* `symbolToken?_symbol`: a written symbol is taken as a whole;
* `Lone`, `annotations_chars`: annotations are read up to a text that none begins.
-/
namespace Isl.Ion

variable {c : Char} {cs text rest : List Char} {n budget : Nat} {s : String}

/-- Wherever the text stands, the reader takes it off what is left and comes to a result. -/
def Reads {α : Type} (r : Reader α) (text rest : List Char) (a : α) : Prop :=
  ∀ n, ∃ n', r ⟨text ++ rest, n⟩ = .ok (a, ⟨rest, n'⟩)

/-! ## Identifiers -/

theorem isIdentChar_of_start (h : isIdentStart c = true) : isIdentChar c = true := by
  simp only [isIdentStart, isIdentChar, Char.isAlphanum, Bool.or_eq_true] at h ⊢
  obtain (letter | low) | dollar := h
  · exact .inl (.inl (.inl letter))
  · exact .inl (.inr low)
  · exact .inr dollar

/-- No identifier begins like anything else. -/
theorem plain_of_isIdentStart (h : isIdentStart c = true) :
    isStart c = true ∧ c.isDigit = false ∧ c ≠ '\'' ∧ c ≠ '"' ∧ c ≠ '\x7b' ∧ c ≠ '[' ∧ c ≠ '(' ∧
      c ≠ '+' ∧ c ≠ '-' :=
  forall_ascii (P := fun c => isIdentStart c = true → isStart c = true ∧ c.isDigit = false ∧
    c ≠ '\'' ∧ c ≠ '"' ∧ c ≠ '\x7b' ∧ c ≠ '[' ∧ c ≠ '(' ∧ c ≠ '+' ∧ c ≠ '-') (by decide +kernel)
    (isIdentChar_lt (isIdentChar_of_start h)) h

/-- An identifier ends where something else begins. -/
theorem takeWhile_ident (run : ∀ c ∈ cs, isIdentChar c = true)
    (stops : ∀ c, rest.head? = some c → isIdentChar c = false) (n : Nat) :
    Cursor.takeWhile ⟨cs ++ rest, n⟩ isIdentChar = (cs, ⟨rest, n + byteCount cs⟩) := by
  obtain ⟨front, back⟩ := Digits.span_append run stops
  simp only [Cursor.takeWhile, front, back]

theorem startsWith_other (n : Nat) {x : Char} {pattern : List Char} (other : c ≠ x) :
    Cursor.startsWith ⟨c :: cs, n⟩ (x :: pattern) = false := by
  simp [Cursor.startsWith, List.isPrefixOf, Ne.symm other]

/-- A name that is written without quotes. -/
theorem isIdentifier_spec (h : isIdentifier cs = true) :
    ∃ c tail, cs = c :: tail ∧ isIdentStart c = true ∧ (∀ d ∈ cs, isIdentChar d = true) ∧
      String.ofList cs ∉ keywords := by
  cases cs with
  | nil => cases h
  | cons c tail =>
    simp only [isIdentifier, Bool.and_eq_true, List.all_eq_true, Bool.not_eq_true',
      List.contains_eq_mem, decide_eq_false_iff_not] at h
    obtain ⟨⟨start, others⟩, free⟩ := h
    exact ⟨c, tail, rfl, start, List.forall_mem_cons.2 ⟨isIdentChar_of_start start, others⟩, free⟩

/-! ## Symbols -/

theorem starts_symbol (s : String) : Starts (symbolChars s) := by
  unfold symbolChars
  split
  · rename_i identifier
    obtain ⟨c, tail, split, start, -⟩ := isIdentifier_spec identifier
    exact ⟨c, tail, split, (plain_of_isIdentStart start).1⟩
  · exact ⟨'\'', _, rfl, by decide⟩

theorem symbolChars_ne_brace (s : String) (rest : List Char) :
    (symbolChars s ++ rest).head? ≠ some '\x7b' := by
  unfold symbolChars
  split
  · rename_i identifier
    obtain ⟨c, tail, split, start, -⟩ := isIdentifier_spec identifier
    obtain ⟨-, -, -, -, brace, -⟩ := plain_of_isIdentStart start
    simpa [split] using brace
  · simp [quoted]

/-- A written symbol is taken as a whole, unless what follows could go on with it. -/
theorem symbolToken?_symbol (s : String) (ident : ∀ c, rest.head? = some c → isIdentChar c = false)
    (quote : rest.head? ≠ some '\'') (n : Nat) :
    ∃ n', symbolToken? ⟨symbolChars s ++ rest, n⟩ = .ok (some (s, ⟨rest, n'⟩)) := by
  unfold symbolChars
  split
  · rename_i identifier
    obtain ⟨c, tail, split, start, run, -⟩ := isIdentifier_spec identifier
    obtain ⟨-, -, other, -⟩ := plain_of_isIdentStart start
    have taken := takeWhile_ident run ident n
    refine ⟨n + byteCount s.toList, ?_⟩
    unfold symbolToken?
    rw [split] at taken ⊢
    simp only [List.cons_append] at taken ⊢
    rw [if_neg (fun h => other h.1), if_pos start, taken, ← split, String.ofList_toList]
  · obtain ⟨n', read⟩ := quoted?_quoted isQuote_single s.toList rest n
    have short := not_longQuote s.toList n quote
    refine ⟨n', ?_⟩
    unfold symbolToken?
    unfold quoted at read short ⊢
    simp only [List.cons_append] at read short ⊢
    rw [if_pos ⟨trivial, by rw [short]; rfl⟩, read]
    simp [Except.map, String.ofList_toList]

/-! ## Annotations -/

/-- Text in front of which annotations end. -/
structure Lone (text : List Char) : Prop where
  starts : Starts text
  alone : ∀ n, symbolToken? ⟨text, n⟩ = .ok none ∨
    ∃ name behind c, symbolToken? ⟨text, n⟩ = .ok (some (name, behind)) ∧
      skipBlank behind = .ok c ∧ c.rest.head? ≠ some ':'

theorem startsWith_colons {c : Cursor} (other : c.rest.head? ≠ some ':') :
    c.startsWith [':', ':'] = false := by
  obtain ⟨rest, n⟩ := c
  cases rest with
  | nil => rfl
  | cons c rest => exact startsWith_other n fun same => other (congrArg some same)

theorem annotations_lone (lone : Lone text) (n budget : Nat) (acc : List String) :
    annotations (budget + 1) ⟨text, n⟩ acc = .ok (acc.reverse, ⟨text, n⟩) := by
  have stays := lone.starts.stays n
  obtain none | ⟨name, behind, c, token, skipped, other⟩ := lone.alone n
  · simp only [annotations, bind, Except.bind, stays, none]
  · simp [annotations, bind, Except.bind, stays, token, skipped, startsWith_colons other]

/-- Written annotations are read one after the other. -/
theorem annotations_chars (names : List String) (lone : Lone text) (n : Nat)
    (acc : List String) (enough : names.length < budget) :
    ∃ n', annotations budget ⟨annotationChars names ++ text, n⟩ acc =
      .ok (acc.reverse ++ names, ⟨text, n'⟩) := by
  induction names generalizing n acc budget with
  | nil =>
    obtain ⟨budget, rfl⟩ := Nat.exists_eq_add_one.2 enough
    exact ⟨n, by simpa [annotationChars] using annotations_lone lone n budget acc⟩
  | cons name names ih =>
    obtain ⟨budget, rfl⟩ := Nat.exists_eq_add_one.2 (Nat.zero_lt_of_lt enough)
    have front : annotationChars (name :: names) ++ text =
        symbolChars name ++ ':' :: ':' :: (annotationChars names ++ text) := by
      simp [annotationChars]
    generalize annotationChars names ++ text = others at ih front
    obtain ⟨m, token⟩ := symbolToken?_symbol name (by simp; decide)
      (show (':' :: ':' :: others).head? ≠ some '\'' by simp) n
    have stays := ((starts_symbol name).append (':' :: ':' :: others)).stays n
    have colons := stays_cons (':' :: others) (c := ':') (by decide) (by decide) m
    have colons' : Cursor.startsWith ⟨':' :: ':' :: others, m⟩ [':', ':'] = true := rfl
    have behind : Cursor.drop ⟨':' :: ':' :: others, m⟩ 2 = ⟨others, m + 2⟩ := rfl
    obtain ⟨n', read⟩ := ih (m + 2) (name :: acc) (Nat.lt_of_succ_lt_succ enough)
    refine ⟨n', ?_⟩
    rw [front]
    simp only [annotations, bind, Except.bind, stays, token, colons, colons', behind, if_true, read,
      List.reverse_cons, List.append_assoc, List.singleton_append]

theorem length_annotationChars (names : List String) :
    names.length ≤ (annotationChars names).length := by
  induction names with
  | nil => simp
  | cons name names ih =>
    simp only [annotationChars, List.flatMap_cons, List.length_append, List.length_cons] at ih ⊢
    omega

/-- Annotations are looked for behind any gap. -/
theorem annotations_skip {c c' : Cursor} (skipped : skipBlank c = .ok c')
    (stays : skipBlank c' = .ok c') (budget : Nat) (acc : List String) :
    annotations (budget + 1) c acc = annotations (budget + 1) c' acc := by
  simp only [annotations, bind, Except.bind, skipped, stays]

end Isl.Ion
