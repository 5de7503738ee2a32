import Isl.Proofs.Directory
import Mathlib.Data.List.Basic
import Mathlib.Logic.Relation
/-!
# Ids stay below the base

The components of an id are the names in it and the steps up between them. In normal form each step
up has taken the name in front of it away. An id that is neither absolute nor ever goes up farther
than it went down is resolved to its normal form below the base, unless nothing is left of it; all
other ids are denied (`resolve_confined`).

* `FilePath.components`: the steps that lead on;
* `Cancels`: a step up takes the name in front of it away;
* `resolve`, `elements_eq`: the place that an id stands for, and what is looked for there.
-/
namespace Isl

/-! ## Components -/

namespace FilePath

variable {path step : String}

/-- The steps of a path that lead on. Empty ones and single dots lead nowhere. -/
def components (path : String) : List String :=
  (steps path).filter fun step => !(step.isEmpty || step == ".")

theorem splitChars_no_slash {cs part : List Char} (mem : part ∈ splitChars cs) : '/' ∉ part := by
  induction cs generalizing part with
  | nil =>
    cases List.mem_singleton.1 mem
    exact List.not_mem_nil
  | cons c cs ih =>
    by_cases slash : c = '/'
    · rw [splitChars, if_pos slash] at mem
      rcases List.mem_cons.1 mem with rfl | mem
      · exact List.not_mem_nil
      · exact ih mem
    · rw [splitChars, if_neg slash] at mem
      split at mem
      · rename_i first rest split
        rw [split] at ih
        rcases List.mem_cons.1 mem with rfl | mem
        · simpa [Ne.symm slash] using ih (List.mem_cons_self ..)
        · exact ih (List.mem_cons_of_mem _ mem)
      · cases List.mem_singleton.1 mem
        simpa using Ne.symm slash

/-- A component is a name or a step up. -/
theorem isPlain_of_mem_components (mem : step ∈ components path) (down : step ≠ "..") :
    IsPlain step := by
  obtain ⟨listed, leads⟩ := List.mem_filter.1 mem
  simp only [Bool.not_eq_true', Bool.or_eq_false_iff, String.isEmpty_eq_false_iff,
    beq_eq_false_iff_ne] at leads
  obtain ⟨cs, part, rfl⟩ := List.mem_map.1 listed
  exact ⟨leads.1, leads.2, down, by simpa using splitChars_no_slash part⟩

end FilePath

/-! ## Normal form -/

namespace DirectoryAuthority

variable {a : DirectoryAuthority} {id : String} {names front steps : List String}

/-- A step up and the name in front of it cancel out. -/
inductive Cancels : List String → List String → Prop where
  | pair {name : String} (down : IsPlain name) (before behind : List String) :
      Cancels (before ++ name :: ".." :: behind) (before ++ behind)

theorem normalizeFrom_up (front steps : List String) :
    normalizeFrom front (".." :: steps) =
      if front.isEmpty then .error .escapes else normalizeFrom front.dropLast steps := rfl

theorem normalizeFrom_name {name : String} (down : IsPlain name) (front steps : List String) :
    normalizeFrom front (name :: steps) = normalizeFrom (front ++ [name]) steps := by
  have filled : name.isEmpty = false := by simpa using down.filled
  simp [normalizeFrom, filled, down.here, down.up]

/-- Only the components count. -/
theorem normalizeFrom_leading (front steps : List String) :
    normalizeFrom front steps =
      normalizeFrom front (steps.filter fun step => !(step.isEmpty || step == ".")) := by
  induction steps generalizing front with
  | nil => rfl
  | cons step steps ih =>
    by_cases leads : (step.isEmpty || step == ".") = true
    · rw [List.filter_cons_of_neg (by simp [leads]), ← ih, normalizeFrom, if_pos leads]
    · rw [List.filter_cons_of_pos (by simp [leads]), normalizeFrom, normalizeFrom, if_neg leads,
        if_neg leads]
      simp only [← ih]

/-- What cancels out makes no difference. -/
theorem Cancels.normalizeFrom {steps' : List String} (cancels : Cancels steps steps')
    (front : List String) :
    DirectoryAuthority.normalizeFrom front steps =
      DirectoryAuthority.normalizeFrom front steps' := by
  obtain ⟨down, before, behind⟩ := cancels
  induction before generalizing front with
  | nil =>
    rw [List.nil_append, List.nil_append, normalizeFrom_name down, normalizeFrom_up,
      List.dropLast_concat, if_neg (by simp)]
  | cons step before ih =>
    simp only [List.cons_append, DirectoryAuthority.normalizeFrom, ih]

theorem normalizeFrom_plain (plain : ∀ n ∈ names, IsPlain n) :
    normalizeFrom [] names = if names = [] then .error .empty else .ok names := by
  split
  · rename_i none
    rw [none]
    rfl
  · rename_i nonempty
    exact @normalizeFrom_names names [] plain nonempty

theorem normalizeFrom_reduced (reduced : Relation.ReflTransGen Cancels steps names)
    (plain : ∀ n ∈ names, IsPlain n) :
    normalizeFrom [] steps = if names = [] then .error .empty else .ok names := by
  rw [← normalizeFrom_plain plain]
  induction reduced using Relation.ReflTransGen.head_induction_on with
  | refl => rfl
  | head cancels _ ih => rw [cancels.normalizeFrom, ih]

/-- How far the components of a path lead down, where they do not lead up. -/
def downs (steps : List String) : Nat := steps.countP (· != "..")

/-- Some of the components, from the first one on, lead up farther than down. -/
def Escapes (depth : Nat) (steps : List String) : Prop :=
  ∃ before, before <+: steps ∧ depth + downs before < before.count ".."

theorem escapes_up_top (steps : List String) : Escapes 0 (".." :: steps) :=
  ⟨[".."], List.prefix_append [".."] steps, by decide⟩

theorem escapes_up_iff {depth : Nat} :
    Escapes (depth + 1) (".." :: steps) ↔ Escapes depth steps := by
  constructor
  · rintro ⟨before, within, less⟩
    rcases List.prefix_cons_iff.1 within with rfl | ⟨before, rfl, inside⟩
    · simp at less
    · refine ⟨before, inside, ?_⟩
      simp [downs] at less
      unfold downs
      omega
  · rintro ⟨before, within, less⟩
    refine ⟨".." :: before, (List.prefix_cons_inj _).2 within, ?_⟩
    simp [downs] at less ⊢
    omega

theorem escapes_down_iff {depth : Nat} {name : String} (down : name ≠ "..") :
    Escapes depth (name :: steps) ↔ Escapes (depth + 1) steps := by
  have step (before : List String) : downs (name :: before) = downs before + 1 := by
    simp [downs, down]
  constructor
  · rintro ⟨before, within, less⟩
    rcases List.prefix_cons_iff.1 within with rfl | ⟨before, rfl, inside⟩
    · simp at less
    · refine ⟨before, inside, ?_⟩
      rw [step, List.count_cons_of_ne down] at less
      omega
  · rintro ⟨before, within, less⟩
    refine ⟨name :: before, (List.prefix_cons_inj _).2 within, ?_⟩
    rw [step, List.count_cons_of_ne down]
    omega

theorem not_escapes_nil (depth : Nat) : ¬ Escapes depth [] := by
  rintro ⟨before, within, less⟩
  rw [List.prefix_nil.1 within] at less
  simp at less

/-- Either the steps lead up farther than they and the names in front of them lead down, or they
have a normal form. -/
theorem escapes_or_reduces (plain : ∀ n ∈ front, IsPlain n)
    (leads : ∀ step ∈ steps, step ≠ ".." → IsPlain step) :
    Escapes front.length steps ∧ normalizeFrom front steps = .error .escapes ∨
      ¬ Escapes front.length steps ∧
        ∃ names, (∀ n ∈ names, IsPlain n) ∧
          Relation.ReflTransGen Cancels (front ++ steps) names := by
  induction steps generalizing front with
  | nil => exact .inr ⟨not_escapes_nil _, front, plain, by rw [List.append_nil]⟩
  | cons step steps ih =>
    obtain ⟨here, others⟩ := List.forall_mem_cons.1 leads
    by_cases up : step = ".."
    · subst up
      rcases List.eq_nil_or_concat' front with rfl | ⟨front, name, rfl⟩
      · exact .inl ⟨escapes_up_top steps, rfl⟩
      · have down : IsPlain name := plain name (by simp)
        have cancels := Cancels.pair down front steps
        rw [normalizeFrom_up, if_neg (by simp), List.dropLast_concat, List.length_append,
          List.length_singleton, escapes_up_iff, List.append_assoc, List.singleton_append]
        refine (ih (fun n mem => plain n (by simp [mem])) others).imp_right ?_
        rintro ⟨stays, names, named, reduced⟩
        exact ⟨stays, names, named, .head cancels reduced⟩
    · have down := here up
      have named : ∀ n ∈ front ++ [step], IsPlain n := by
        intro n mem
        rcases List.mem_append.1 mem with mem | mem
        · exact plain n mem
        · exact List.mem_singleton.1 mem ▸ down
      have next := ih named others
      rw [List.length_append, List.length_singleton, List.append_assoc, List.singleton_append]
        at next
      rwa [normalizeFrom_name down, escapes_down_iff up]

/-- What an id is resolved to. -/
inductive Resolves (id : String) : Except Denial (List String) → Prop where
  | absolute (absolute : FilePath.isAbsolute id = true) : Resolves id (.error .absolute)
  | escapes (relative : FilePath.isAbsolute id = false)
      (escapes : Escapes 0 (FilePath.components id)) : Resolves id (.error .escapes)
  | empty (relative : FilePath.isAbsolute id = false)
      (reduced : Relation.ReflTransGen Cancels (FilePath.components id) []) :
      Resolves id (.error .empty)
  | names {names : List String} (relative : FilePath.isAbsolute id = false) (nonempty : names ≠ [])
      (plain : ∀ n ∈ names, IsPlain n)
      (reduced : Relation.ReflTransGen Cancels (FilePath.components id) names) :
      Resolves id (.ok names)

theorem normalize_relative (relative : FilePath.isAbsolute id = false) :
    normalize id = normalizeFrom [] (FilePath.components id) := by
  rw [normalize, relative]
  exact normalizeFrom_leading [] (FilePath.steps id)

/-- An id escapes, or it has a normal form. -/
theorem components_cases (id : String) :
    Escapes 0 (FilePath.components id) ∧
        normalizeFrom [] (FilePath.components id) = .error .escapes ∨
      ¬ Escapes 0 (FilePath.components id) ∧ ∃ names, (∀ n ∈ names, IsPlain n) ∧
        Relation.ReflTransGen Cancels (FilePath.components id) names :=
  @escapes_or_reduces [] _ nofun fun _ mem => FilePath.isPlain_of_mem_components mem

theorem normalize_eq_iff {r : Except Denial (List String)} :
    normalize id = r ↔ Resolves id r := by
  constructor
  · rintro rfl
    cases absolute : FilePath.isAbsolute id with
    | true =>
      rw [normalize, if_pos absolute]
      exact .absolute absolute
    | false =>
      rw [normalize_relative absolute]
      obtain ⟨escapes, denied⟩ | ⟨-, names, plain, reduced⟩ := components_cases id
      · exact denied ▸ .escapes absolute escapes
      · rw [normalizeFrom_reduced reduced plain]
        split
        · rename_i none
          exact .empty absolute (none ▸ reduced)
        · rename_i nonempty
          exact .names absolute nonempty plain reduced
  · intro resolves
    cases resolves with
    | absolute absolute => rw [normalize, if_pos absolute]
    | escapes relative escapes =>
      rw [normalize_relative relative]
      obtain ⟨-, denied⟩ | ⟨stays, -⟩ := components_cases id
      · exact denied
      · exact absurd escapes stays
    | empty relative reduced =>
      rw [normalize_relative relative, normalizeFrom_reduced reduced (List.forall_mem_nil _),
        if_pos rfl]
    | names relative nonempty plain reduced =>
      rw [normalize_relative relative, normalizeFrom_reduced reduced plain, if_neg nonempty]

/-! ## Places -/

/-- The place that an id stands for, no link followed. -/
def resolve (a : DirectoryAuthority) (id : String) : Except Denial (List String) :=
  (normalize id).map (a.base ++ ·)

theorem resolve_eq_ok_iff {place : List String} :
    a.resolve id = .ok place ↔ ∃ names, place = a.base ++ names ∧ normalize id = .ok names := by
  rw [resolve]
  cases normalize id <;> simp [Except.map, eq_comm]

theorem resolve_eq_error_iff {denial : Denial} :
    a.resolve id = .error denial ↔ normalize id = .error denial := by
  rw [resolve]
  cases normalize id <;> simp [Except.map]

/-- A file is served if it is below the base, whatever links lead to it. -/
theorem elements_eq_ok {stream : ElementStream} (served : a.elements id = .ok stream) :
    stream = .empty ∨ ∃ place content, a.base <+: place ∧
      a.disk.find? place = some (.file content) ∧ stream = .deferred fun _ => a.valuesAt place := by
  unfold elements at served
  split at served
  · cases served
  · split at served
    · cases served
      exact .inl rfl
    · rename_i place _
      split at served
      · rename_i content found
        split at served
        · rename_i below
          cases served
          exact .inr ⟨place, content, List.isPrefixOf_iff_prefix.1 below, found, rfl⟩
        · cases served
      · cases served
        exact .inl rfl

/-- The file in the place of an id is what is served by it. -/
theorem elements_of_resolve {place : List String} {content : ByteArray} (tree : a.disk.Tree)
    (resolved : a.resolve id = .ok place) (found : a.disk.find? place = some (.file content)) :
    a.elements id = .ok (.deferred fun _ => a.valuesAt place) := by
  obtain ⟨names, rfl, normal⟩ := resolve_eq_ok_iff.1 resolved
  have below : a.base.isPrefixOf (a.base ++ names) = true := by simp
  simp only [elements, normal, tree.walk_names false Disk.linkLimit found, found, below, if_true]

/-- **Ids cannot leave the base.** An id is resolved to the base and one or more names behind it,
which are the normal form of its components. It is denied exactly if it is absolute, if some of its
components, from the first one on, lead up farther than down, or if nothing is left of it. What is
served is the file in that place, or at least a file below the base. -/
theorem resolve_confined (a : DirectoryAuthority) (id : String) :
    (∀ place, a.resolve id = .ok place ↔
      FilePath.isAbsolute id = false ∧ ∃ names, place = a.base ++ names ∧ names ≠ [] ∧
        (∀ n ∈ names, IsPlain n) ∧
          Relation.ReflTransGen Cancels (FilePath.components id) names) ∧
      ((∃ denial, a.resolve id = .error denial) ↔
        FilePath.isAbsolute id = true ∨ Escapes 0 (FilePath.components id) ∨
          Relation.ReflTransGen Cancels (FilePath.components id) []) ∧
      (∀ denial, a.resolve id = .error denial → a.elements id = .error (.accessDenied id denial)) ∧
      (∀ place content, a.disk.Tree → a.resolve id = .ok place →
        a.disk.find? place = some (.file content) →
          a.elements id = .ok (.deferred fun _ => a.valuesAt place)) ∧
      ∀ stream, a.elements id = .ok stream → stream = .empty ∨ ∃ place content, a.base <+: place ∧
        a.disk.find? place = some (.file content) ∧
          stream = .deferred fun _ => a.valuesAt place := by
  refine ⟨fun place => ?_, ?_, fun denial denied => ?_,
    fun place content tree resolved found => elements_of_resolve tree resolved found,
    fun stream => elements_eq_ok⟩
  · simp only [resolve_eq_ok_iff, normalize_eq_iff]
    constructor
    · rintro ⟨names, rfl, resolves⟩
      cases resolves with
      | names relative nonempty plain reduced =>
        exact ⟨relative, names, rfl, nonempty, plain, reduced⟩
    · rintro ⟨relative, names, rfl, nonempty, plain, reduced⟩
      exact ⟨names, rfl, .names relative nonempty plain reduced⟩
  · simp only [resolve_eq_error_iff, normalize_eq_iff]
    constructor
    · rintro ⟨denial, absolute | ⟨-, escapes⟩ | ⟨-, reduced⟩⟩
      · exact .inl absolute
      · exact .inr (.inl escapes)
      · exact .inr (.inr reduced)
    · intro reason
      cases absolute : FilePath.isAbsolute id with
      | true => exact ⟨_, .absolute absolute⟩
      | false =>
        obtain cause | escapes | reduced := reason
        · cases cause.symm.trans absolute
        · exact ⟨_, .escapes absolute escapes⟩
        · exact ⟨_, .empty absolute reduced⟩
  · rw [resolve_eq_error_iff] at denied
    simp only [elements, denied]

/-- A way up that is made up for later is denied all the same. -/
theorem resolve_confined_compensated :
    let a : DirectoryAuthority := ⟨⟨[(["a.isl"], .file ⟨#[]⟩)], []⟩, []⟩
    a.resolve "x/.././/a.isl" = .ok ["a.isl"] ∧
      a.elements "x/.././/a.isl" = .ok (.deferred fun _ => a.valuesAt ["a.isl"]) ∧
      ∃ denial, a.resolve "x/../../x/a.isl" = .error denial ∧
        a.elements "x/../../x/a.isl" = .error (.accessDenied "x/../../x/a.isl" denial) := by
  intro a
  have tree : a.disk.Tree :=
    Disk.tree_singleton ⟨by decide, by decide, by decide, by decide, by decide⟩ _ _
  have relative : FilePath.isAbsolute "x/.././/a.isl" = false := by
    simp [FilePath.isAbsolute, String.startsWith_string_iff, Bool.eq_false_iff]
  have components : FilePath.components "x/.././/a.isl" = ["x", "..", "a.isl"] := rfl
  have reduced : Relation.ReflTransGen Cancels ["x", "..", "a.isl"] ["a.isl"] :=
    .single (.pair ⟨by decide, by decide, by decide, by decide⟩ [] ["a.isl"])
  have plain : ∀ n ∈ ["a.isl"], IsPlain n :=
    List.forall_mem_singleton.2 ⟨by decide, by decide, by decide, by decide⟩
  have escapes : Escapes 0 (FilePath.components "x/../../x/a.isl") :=
    ⟨["x", "..", ".."], ⟨["x", "a.isl"], rfl⟩, by decide⟩
  obtain ⟨resolved, -, -, serves, -⟩ := resolve_confined a "x/.././/a.isl"
  obtain ⟨-, denied, refuses, -, -⟩ := resolve_confined a "x/../../x/a.isl"
  have place := (resolved ["a.isl"]).2
    ⟨relative, ["a.isl"], rfl, by decide, plain, components ▸ reduced⟩
  obtain ⟨denial, denied⟩ := denied.2 (.inr (.inl escapes))
  exact ⟨place, serves _ _ tree place rfl, denial, denied, refuses denial denied⟩

end DirectoryAuthority
end Isl
