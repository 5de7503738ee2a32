import Isl.Pattern.Syntax
/-!
# Reading goes forward

What is left behind an escape or a class is shorter than what it was read from
(`Escape.read?_length_lt`, `classRest?_length_lt`).
-/
namespace Isl.Pattern

variable {f : Flags} {cs rest : List Char} {n fuel : Nat}

namespace Flags

theorem skipFrom_length_le (comment : Bool) (cs : List Char) :
    (skipFrom comment cs).length ≤ cs.length := by
  induction cs generalizing comment with
  | nil => exact Nat.le_refl _
  | cons c cs ih =>
    rw [skipFrom]
    split
    · exact Nat.le_succ_of_le (ih _)
    · split
      · exact Nat.le_succ_of_le (ih _)
      · split
        · exact Nat.le_succ_of_le (ih _)
        · exact Nat.le_refl _

theorem skip_length_le (f : Flags) (cs : List Char) : (f.skip cs).length ≤ cs.length := by
  unfold skip
  split
  · exact skipFrom_length_le false cs
  · exact Nat.le_refl _

end Flags

/-! ## Escapes -/

namespace Escape

theorem digits?_length_le {count k : Nat} (read : digits? f count n cs = some (k, rest)) :
    rest.length ≤ cs.length := by
  induction count generalizing n cs with
  | zero =>
    cases read
    exact Nat.le_refl _
  | succ count ih =>
    cases cs with
    | nil => cases read
    | cons c cs =>
      simp only [digits?, Option.bind_eq_bind, Option.bind_eq_some_iff] at read
      obtain ⟨d, -, read⟩ := read
      exact Nat.le_succ_of_le (Nat.le_trans (ih read) (f.skip_length_le cs))

theorem bracedDigits?_length_le {digits : Option Nat} {k : Nat}
    (read : bracedDigits? f fuel digits cs = some (k, rest)) : rest.length ≤ cs.length := by
  induction fuel generalizing digits cs with
  | zero => cases read
  | succ fuel ih =>
    have shorter := f.skip_length_le cs
    rw [bracedDigits?] at read
    split at read
    · cases read
    · rename_i tail skipped
      rw [skipped, List.length_cons] at shorter
      obtain ⟨_, -, here⟩ := Option.map_eq_some_iff.1 read
      cases here
      have behind := f.skip_length_le tail
      omega
    · rename_i c tail _ skipped
      rw [skipped, List.length_cons] at shorter
      simp only [Option.bind_eq_bind, Option.bind_eq_some_iff] at read
      obtain ⟨d, -, read⟩ := read
      have behind := ih read
      omega

theorem byNumber?_length_le {letter : Char} {e : Escape}
    (read : byNumber? f letter cs = some (e, rest)) : rest.length ≤ cs.length := by
  have shorter := f.skip_length_le cs
  unfold byNumber? at read
  split at read
  · rename_i tail skipped
    rw [skipped, List.length_cons] at shorter
    simp only [Option.bind_eq_bind, Option.bind_eq_some_iff] at read
    obtain ⟨⟨n, behind⟩, digits, c, -, here⟩ := read
    cases here
    exact Nat.le_of_lt (Nat.lt_of_le_of_lt (bracedDigits?_length_le digits) shorter)
  · simp only [Option.bind_eq_bind, Option.bind_eq_some_iff] at read
    obtain ⟨⟨n, behind⟩, digits, read⟩ := read
    split at read
    · cases read
    · obtain ⟨c, -, here⟩ := Option.bind_eq_some_iff.1 read
      cases here
      exact Nat.le_trans (digits?_length_le digits) shorter

theorem bracedName?_length_le {name found : List Char}
    (read : bracedName? f fuel name cs = some (found, rest)) : rest.length ≤ cs.length := by
  induction fuel generalizing name cs with
  | zero => cases read
  | succ fuel ih =>
    have shorter := f.skip_length_le cs
    rw [bracedName?] at read
    split at read
    · cases read
    · rename_i skipped
      cases read
      rw [skipped, List.length_cons] at shorter
      omega
    · rename_i skipped
      rw [skipped, List.length_cons] at shorter
      have behind := ih read
      omega

theorem property?_length_le {negated : Bool} {e : Escape}
    (read : property? f negated cs = some (e, rest)) : rest.length ≤ cs.length := by
  have shorter := f.skip_length_le cs
  unfold property? at read
  generalize f.skip cs = skipped at read shorter
  cases skipped with
  | nil => cases read
  | cons c tail =>
    refine Nat.le_of_lt (Nat.lt_of_le_of_lt ?_ shorter)
    by_cases brace : c = '\x7b'
    · subst brace
      simp only [Option.bind_eq_bind, Option.bind_eq_some_iff] at read
      obtain ⟨⟨name, behind⟩, named, s, -, read⟩ := read
      split at read
      · cases read
        exact bracedName?_length_le named
      · cases read
    · by_cases backslash : c = '\\'
      · subst backslash
        cases read
      · simp only [Option.bind_eq_bind, Option.bind_some, Option.bind_eq_some_iff] at read
        obtain ⟨s, -, read⟩ := read
        split at read
        · cases read
          exact f.skip_length_le tail
        · cases read

theorem edgeName_length_le (f : Flags) (fuel : Nat) (name cs : List Char) :
    (edgeName f fuel name cs).2.length ≤ cs.length := by
  induction fuel generalizing name cs with
  | zero => exact Nat.le_refl _
  | succ fuel ih =>
    cases cs with
    | nil => exact Nat.le_refl _
    | cons c cs =>
      rw [edgeName]
      split
      · exact Nat.le_succ_of_le (Nat.le_trans (ih _ _) (f.skip_length_le cs))
      · exact Nat.le_refl _

theorem edge?_length_le {e : Escape} (read : edge? f cs = some (e, rest)) :
    rest.length ≤ cs.length := by
  unfold edge? at read
  split at read
  · rename_i inner
    have shorter := f.skip_length_le inner
    split at read
    · cases read
    · rename_i c tail skipped
      rw [skipped, List.length_cons] at shorter
      split at read
      · split at read
        · rename_i name behind named
          have := edgeName_length_le f (tail.length + 1) [] (c :: tail)
          rw [named] at this
          obtain ⟨_, -, here⟩ := Option.map_eq_some_iff.1 read
          cases here
          simp only [List.length_cons] at this ⊢
          omega
        · cases read
      · cases read
        exact Nat.le_refl _
  · cases read
    exact Nat.le_refl _

theorem read?_length_lt {e : Escape} (read : read? f cs = some (e, rest)) :
    rest.length < cs.length := by
  cases cs with
  | nil => cases read
  | cons c cs =>
    refine Nat.lt_succ_of_le ?_
    have mapped {α : Type} {g : α → Escape} {o : Option α}
        (read : (o.map fun x => (g x, cs)) = some (e, rest)) : rest.length ≤ cs.length := by
      obtain ⟨_, -, here⟩ := Option.map_eq_some_iff.1 read
      cases here
      exact Nat.le_refl _
    have same {e' : Escape} (read : some (e', cs) = some (e, rest)) : rest.length ≤ cs.length := by
      cases read
      exact Nat.le_refl _
    unfold read? at read
    simp only at read
    split at read
    all_goals first
      | exact byNumber?_length_le read
      | exact property?_length_le read
      | exact edge?_length_le read
      | exact mapped read
      | exact same read

end Escape

/-! ## Classes -/

theorem classItem?_length_lt {e : Escape} (read : classItem? f cs = some (e, rest)) :
    rest.length < cs.length := by
  unfold classItem? at read
  split at read
  · exact Nat.lt_succ_of_lt (Escape.read?_length_lt read)
  · cases read
    exact Nat.lt_succ_self _
  · cases read

theorem classRange?_length_lt {s : ClassSet} (read : classRange? f cs = some (s, rest)) :
    rest.length < cs.length := by
  simp only [classRange?, Option.bind_eq_bind, Option.bind_eq_some_iff] at read
  obtain ⟨⟨first, behind⟩, item, read⟩ := read
  have shorter := Nat.lt_of_le_of_lt (f.skip_length_le behind) (classItem?_length_lt item)
  have alone {after : List Char} {o : Option ClassSet} (within : after.length < cs.length)
      (read : (o.bind fun s => some (s, after)) = some (s, rest)) : rest.length < cs.length := by
    obtain ⟨_, -, here⟩ := Option.bind_eq_some_iff.1 read
    cases here
    exact within
  generalize f.skip behind = skipped at read shorter
  split at read
  · cases read
  · rename_i tail
    have shorter' := Nat.lt_of_le_of_lt (f.skip_length_le tail) (Nat.lt_of_succ_lt shorter)
    split at read
    · exact alone shorter read
    · exact alone shorter read
    · obtain ⟨⟨last, behind⟩, item, read⟩ := Option.bind_eq_some_iff.1 read
      exact alone (Nat.lt_trans (classItem?_length_lt item) shorter') read
  · exact alone shorter read

theorem asciiClass?_length_lt {found : AsciiClass × Bool × List Char}
    (read : asciiClass? cs = some found) : found.2.2.length < cs.length := by
  have behind {cs rest : List Char} (h : cs.dropWhile (· != ':') = ':' :: ']' :: rest) :
      rest.length < cs.length := by
    have shorter := (List.dropWhile_suffix (l := cs) (· != ':')).length_le
    rw [h, List.length_cons, List.length_cons] at shorter
    omega
  unfold asciiClass? at read
  split at read
  · rename_i cs
    simp only at read
    split at read
    · rename_i rest dropped
      obtain ⟨_, -, here⟩ := Option.map_eq_some_iff.1 read
      cases here
      have shorter := behind dropped
      simp only at shorter ⊢
      split at shorter <;> simp only [List.length_cons] at * <;> omega
    · cases read
  · cases read

theorem hyphens_length_le (f : Flags) (fuel : Nat) (items : List ClassSet) (cs : List Char) :
    (hyphens f fuel items cs).2.length ≤ cs.length := by
  fun_induction hyphens f fuel items cs with
  | case1 fuel items cs ih => exact Nat.le_succ_of_le (Nat.le_trans ih (f.skip_length_le cs))
  | case2 => exact Nat.le_refl _

theorem classOpening_length_le (f : Flags) (cs : List Char) :
    (classOpening f cs).2.2.length ≤ cs.length := by
  have shorter := f.skip_length_le cs
  unfold classOpening
  split
  rename_i negated tail front
  have within : tail.length ≤ cs.length := by
    split at front
    · rename_i skipped
      cases front
      rw [skipped] at shorter
      exact Nat.le_trans (f.skip_length_le _) (Nat.le_of_succ_le shorter)
    · cases front
      exact shorter
  have behind := hyphens_length_le f tail.length [] tail
  split
  · rename_i read
    rw [read] at behind
    exact Nat.le_of_succ_le (Nat.le_trans behind within)
  · rename_i read
    rw [read] at behind
    exact Nat.le_trans behind within

/-- **A class goes forward.** What is left behind the rest of a class is shorter than that rest. -/
theorem classRest?_length_lt {negated : Bool} {pending : Pending} {items : List ClassSet}
    {s : ClassSet} (read : classRest? f fuel negated pending items cs = some (s, rest)) :
    rest.length < cs.length := by
  induction fuel generalizing negated pending items cs s rest with
  | zero => cases read
  | succ fuel ih =>
    refine Nat.lt_of_lt_of_le ?_ (f.skip_length_le cs)
    rw [classRest?] at read
    generalize f.skip cs = skipped at read
    split at read
    · cases read
    · split at read
      · cases read
      · cases read
        exact Nat.lt_succ_self _
    · exact Nat.lt_succ_of_lt (Nat.lt_succ_of_lt (ih read))
    · exact Nat.lt_succ_of_lt (Nat.lt_succ_of_lt (ih read))
    · exact Nat.lt_succ_of_lt (Nat.lt_succ_of_lt (ih read))
    · split at read
      · rename_i ascii
        split at read
        · cases read
        · exact Nat.lt_succ_of_lt (Nat.lt_trans (ih read) (asciiClass?_length_lt ascii))
      · rename_i tail _ _
        simp only [Option.bind_eq_bind, Option.bind_eq_some_iff] at read
        obtain ⟨⟨inner, behind⟩, nested, read⟩ := read
        have shorter := Nat.lt_trans (ih read) (ih nested)
        exact Nat.lt_succ_of_lt (Nat.lt_of_lt_of_le shorter (classOpening_length_le f tail))
    · simp only [Option.bind_eq_bind, Option.bind_eq_some_iff] at read
      obtain ⟨⟨first, behind⟩, item, read⟩ := read
      exact Nat.lt_trans (ih read) (classRange?_length_lt item)

end Isl.Pattern
