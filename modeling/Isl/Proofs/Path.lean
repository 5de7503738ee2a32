import Isl.Path
import Mathlib.Data.List.Forall2
/-!
# The text of a path

A slash begins every step and stands in none of them, and a name can be told from its escaped text.
So the text of a path says which path it is, once it is known where the path goes by index and where
by name: `1` may be the one or the other, and the text of the root is that of one empty name.

* `escaped_eq_replaced`: escaping is two replacements, of `~` and then of `/`;
* `escaped_inj`, `stepName_inj`: what a single step is written as;
* `steps_inj`: a slash before each step keeps them apart;
* `toText_eq_iff`: paths of one shape have the same text exactly if they are the same.
-/
namespace Isl.TreePath

variable {c d : Char} {cs ds xs ys : List Char} {p q : TreePath} {s t : PathStep}

/-! ## Names -/

/-- The characters of an escaped name. -/
def escaped (cs : List Char) : List Char := cs.flatMap escapeChar

/-- A text with every occurrence of a character replaced. -/
def replaced (c : Char) (text : List Char) (cs : List Char) : List Char :=
  cs.flatMap fun d => if d = c then text else [d]

/-- Replacing `~` first loses nothing: a `~` that stands for a slash is written after it. -/
theorem escaped_eq_replaced (cs : List Char) :
    escaped cs = replaced '/' ['~', '1'] (replaced '~' ['~', '0'] cs) := by
  rw [escaped, replaced, replaced, List.flatMap_assoc]
  congr 1
  funext c
  unfold escapeChar
  split
  · rfl
  · simp

theorem slash_not_mem_escaped (cs : List Char) : '/' ∉ escaped cs := by
  intro mem
  obtain ⟨c, -, mem⟩ := List.mem_flatMap.1 mem
  unfold escapeChar at mem
  split at mem
  · simp at mem
  · split at mem
    · simp at mem
    · rename_i other
      exact other (List.mem_singleton.1 mem).symm

theorem escapeChar_ne_nil (c : Char) : escapeChar c ≠ [] := by
  unfold escapeChar
  split_ifs <;> simp

/-- No escaped character is the beginning of another one. -/
theorem escapeChar_append_inj (h : escapeChar c ++ xs = escapeChar d ++ ys) : c = d ∧ xs = ys := by
  unfold escapeChar at h
  split_ifs at h <;> grind

theorem escaped_inj (h : escaped cs = escaped ds) : cs = ds := by
  induction cs generalizing ds with
  | nil =>
    cases ds with
    | nil => rfl
    | cons d ds => exact absurd (List.append_eq_nil_iff.1 h.symm).1 (escapeChar_ne_nil d)
  | cons c cs ih =>
    cases ds with
    | nil => exact absurd (List.append_eq_nil_iff.1 h).1 (escapeChar_ne_nil c)
    | cons d ds =>
      obtain ⟨rfl, rest⟩ := escapeChar_append_inj h
      rw [ih rest]

/-! ## Steps -/

/-- What is written behind the slash. -/
def stepName : PathStep → List Char
  | .index n => Nat.toDigits 10 n
  | .field name => escaped name.toList

theorem stepChars_eq (s : PathStep) : stepChars s = '/' :: stepName s := by
  cases s <;> rfl

theorem slash_not_mem_stepName (s : PathStep) : '/' ∉ stepName s := by
  cases s with
  | index n =>
    intro mem
    cases Nat.isDigit_of_mem_toDigits (by decide) (by decide) mem
  | field name => exact slash_not_mem_escaped _

def IsIndex : PathStep → Prop
  | .index _ => True
  | .field _ => False

theorem stepName_inj (alike : IsIndex s ↔ IsIndex t) (h : stepName s = stepName t) : s = t := by
  cases s with
  | index m =>
    cases t with
    | index n =>
      have numbers := congrArg (Nat.ofDigitChars 10 · 0) h
      simp only [stepName, Nat.ofDigitChars_ten_toDigits] at numbers
      rw [numbers]
    | field name => exact (alike.1 trivial).elim
  | field name =>
    cases t with
    | index n => exact (alike.2 trivial).elim
    | field name' => rw [String.toList_inj.1 (escaped_inj h)]

/-- A step ends in front of the next slash, or at the end. -/
theorem stepName_append_inj {rest rest' : List Char}
    (stops : rest.head? = none ∨ rest.head? = some '/')
    (stops' : rest'.head? = none ∨ rest'.head? = some '/')
    (h : stepName s ++ rest = stepName t ++ rest') : stepName s = stepName t ∧ rest = rest' := by
  have cut : ∀ s {rest : List Char}, rest.head? = none ∨ rest.head? = some '/' →
      (stepName s ++ rest).takeWhile (· != '/') = stepName s := by
    intro s rest stops
    have run : ∀ c ∈ stepName s, (c != '/') = true := fun c mem =>
      bne_iff_ne.2 fun slash => slash_not_mem_stepName s (slash ▸ mem)
    rw [List.takeWhile_append_of_pos run]
    cases rest with
    | nil => simp
    | cons c rest => simp_all
  have names : stepName s = stepName t := by rw [← cut s stops, ← cut t stops', h]
  exact ⟨names, List.append_cancel_left (names ▸ h)⟩

theorem head?_steps (steps : List PathStep) :
    (steps.flatMap stepChars).head? = none ∨ (steps.flatMap stepChars).head? = some '/' := by
  cases steps with
  | nil => exact .inl rfl
  | cons s steps => exact .inr (by rw [List.flatMap_cons, stepChars_eq]; rfl)

theorem steps_inj {ss ts : List PathStep}
    (alike : List.Forall₂ (fun s t => IsIndex s ↔ IsIndex t) ss ts)
    (h : ss.flatMap stepChars = ts.flatMap stepChars) : ss = ts := by
  induction alike with
  | nil => rfl
  | @cons s t ss ts first _ ih =>
    rw [List.flatMap_cons, List.flatMap_cons, stepChars_eq, stepChars_eq, List.cons_append,
      List.cons_append, List.cons.injEq] at h
    obtain ⟨names, rest⟩ := stepName_append_inj (head?_steps ss) (head?_steps ts) h.2
    rw [stepName_inj first names, ih rest]

/-! ## Paths -/

/-- Both paths go by index in the same places, and by name in the same places. -/
def SameShape (p q : TreePath) : Prop :=
  ∀ i : Nat, ((∃ n, p.steps[i]? = some (.index n)) ↔ ∃ n, q.steps[i]? = some (.index n)) ∧
    ((∃ name, p.steps[i]? = some (.field name)) ↔ ∃ name, q.steps[i]? = some (.field name))

theorem SameShape.symm (alike : SameShape p q) : SameShape q p :=
  fun i => ⟨(alike i).1.symm, (alike i).2.symm⟩

theorem SameShape.length_le (alike : SameShape p q) : p.steps.length ≤ q.steps.length := by
  refine Nat.le_of_not_lt fun shorter => ?_
  obtain ⟨index, field⟩ := alike q.steps.length
  have none : q.steps[q.steps.length]? = none := List.getElem?_eq_none (Nat.le_refl _)
  rw [none, List.getElem?_eq_getElem shorter] at index field
  cases step : p.steps[q.steps.length] with
  | index n => simp [step] at index
  | field name => simp [step] at field

theorem SameShape.forall₂ (alike : SameShape p q) :
    List.Forall₂ (fun s t => IsIndex s ↔ IsIndex t) p.steps q.steps := by
  rw [List.forall₂_iff_get]
  refine ⟨Nat.le_antisymm alike.length_le alike.symm.length_le, fun i h h' => ?_⟩
  have index := (alike i).1
  rw [List.getElem?_eq_getElem h, List.getElem?_eq_getElem h'] at index
  rw [List.get_eq_getElem, List.get_eq_getElem]
  cases first : p.steps[i] <;> cases second : q.steps[i] <;> simp_all [IsIndex]

/-- **The text of a path identifies the path** among those of its shape, whatever the names. -/
theorem toText_eq_iff (alike : SameShape p q) : p.toText = q.toText ↔ p = q := by
  refine ⟨fun h => ?_, fun h => h ▸ rfl⟩
  obtain ⟨ss⟩ := p
  obtain ⟨ts⟩ := q
  have steps : List.Forall₂ _ ss ts := alike.forall₂
  cases steps with
  | nil => rfl
  | cons first others =>
    have chars := String.ofList_injective h
    rw [steps_inj (.cons first others) chars]

/-- A name `~1` is not taken for a slash, nor one more name for an empty one. -/
theorem toText_eq_iff_escaped :
    ((root.index 0).field "~1").toText ≠ ((root.index 0).field "/").toText ∧
      ((root.field "").field "/").toText ≠ ((root.field "/").field "").toText := by
  have alike : SameShape ((root.index 0).field "~1") ((root.index 0).field "/") := by
    intro i
    rcases i with - | - | i <;> simp [root, index, field]
  have alike' : SameShape ((root.field "").field "/") ((root.field "/").field "") := by
    intro i
    rcases i with - | - | i <;> simp [root, field]
  refine ⟨fun h => ?_, fun h => ?_⟩
  · exact absurd ((toText_eq_iff alike).1 h) (by decide)
  · exact absurd ((toText_eq_iff alike').1 h) (by decide)

/-- Which steps go by index has to be known. -/
example : (root.index 1).toText = (root.field "1").toText := by decide

end Isl.TreePath
