import Isl.Proofs.Table
import Isl.System.Universe
/-!
# What a walk along imports has read

A walk looks at one schema after the other. What it has in the end was in the cache or comes from
the library, and holds everything that its documents import.

* `Gathers`, `gathers_gather`: the walk as a relation, one rule for each turn it can take;
* `Drawn`, `drawn_gather`: where the schemas of a load come from;
* `closed_gather`: what a document of the load imports takes part in the load.
-/
namespace Isl

namespace Universe

/-- A walk along imports, from what it has and what is left to look at to what it comes to. -/
inductive Gathers (lib : Library) (cached : String → Option Schema) :
    Universe → List Quest → Except GatherFault Universe → Prop where
  | done (u : Universe) : Gathers lib cached u [] (.ok u)
  | seen {u : Universe} {q : Quest} {rest : List Quest} {r : Except GatherFault Universe}
      (old : u.contains q.id = true) (later : Gathers lib cached u rest r) :
      Gathers lib cached u (q :: rest) r
  | held {u : Universe} {q : Quest} {rest : List Quest} {r : Except GatherFault Universe}
      {s : Schema} (new : u.contains q.id = false) (found : cached q.id = some s)
      (later : Gathers lib cached (u.addCached q.id s) rest r) :
      Gathers lib cached u (q :: rest) r
  | failed {u : Universe} {q : Quest} {rest : List Quest} {e : SchemaError}
      (new : u.contains q.id = false) (free : cached q.id = none)
      (missing : lib.document q.id = .error e) :
      Gathers lib cached u (q :: rest) (.error ⟨q, e, u⟩)
  | read {u : Universe} {q : Quest} {rest : List Quest} {r : Except GatherFault Universe}
      {d : SchemaDocument} (new : u.contains q.id = false) (free : cached q.id = none)
      (found : lib.document q.id = .ok d)
      (later : Gathers lib cached (u.addPending q.id q.chain d) (questsOf q.chain d ++ rest) r) :
      Gathers lib cached u (q :: rest) r

variable {lib : Library} {cached : String → Option Schema} {root : SchemaDocument}

theorem gathers_gatherFrom (start : List String) (u : Universe) (todo : List Quest)
    (mentioned : ∀ q ∈ todo, lib.Mentions start q.id) :
    Gathers lib cached u todo (gatherFrom lib cached start u todo mentioned) := by
  fun_induction gatherFrom lib cached start u todo mentioned with
  | case1 u => exact .done u
  | case2 u q rest _ _ old _ ih => exact .seen old ih
  | case3 u q rest _ _ new s found _ ih => exact .held (by simpa using new) found ih
  | case4 u q rest _ _ new free e missing => exact .failed (by simpa using new) free missing
  | case5 u q rest _ _ new free d found _ ih => exact .read (by simpa using new) free found ih

theorem gathers_gather (lib : Library) (cached : String → Option Schema) (root : SchemaDocument) :
    Gathers lib cached (ofRoot root) (questsOf [] root) (gather lib cached root) :=
  gathers_gatherFrom root.importIds _ _ _

/-- The walk takes one way only. -/
theorem Gathers.unique {u : Universe} {todo : List Quest} {r r' : Except GatherFault Universe}
    (h : Gathers lib cached u todo r) (h' : Gathers lib cached u todo r') : r = r' := by
  induction h with
  | done u =>
    cases h'
    rfl
  | seen old _ ih =>
    cases h' with
    | seen _ later => exact ih later
    | held new _ _ | failed new _ _ | read new _ _ _ =>
      rw [old] at new
      cases new
  | held new found _ ih =>
    cases h' with
    | seen old _ =>
      rw [old] at new
      cases new
    | held _ same later =>
      rw [found] at same
      cases same
      exact ih later
    | failed _ free _ | read _ free _ _ =>
      rw [found] at free
      cases free
  | failed new free missing =>
    cases h' with
    | seen old _ =>
      rw [old] at new
      cases new
    | held _ found _ =>
      rw [found] at free
      cases free
    | failed _ _ same =>
      rw [missing] at same
      cases same
      rfl
    | read _ _ found _ =>
      rw [missing] at found
      cases found
  | read new free found _ ih =>
    cases h' with
    | seen old _ =>
      rw [old] at new
      cases new
    | held _ there _ =>
      rw [there] at free
      cases free
    | failed _ _ missing =>
      rw [missing] at found
      cases found
    | read _ _ same later =>
      rw [found] at same
      cases same
      exact ih later

theorem gather_eq {r : Except GatherFault Universe}
    (h : Gathers lib cached (ofRoot root) (questsOf [] root) r) : gather lib cached root = r :=
  (gathers_gather lib cached root).unique h

/-- Where the schemas of a load come from. -/
structure Drawn (u : Universe) (lib : Library) (cached : String → Option Schema)
    (root : SchemaDocument) : Prop where
  pending : ∀ id d, u.pending.find? id = some d →
    root.id = some id ∧ d = root ∨ lib.document id = .ok d ∧ cached id = none
  cached : ∀ id s, u.cached.find? id = some s → cached id = some s
  apart : ∀ id, u.cached.contains id = true → u.pending.contains id = false
  root : ∀ id, root.id = some id → u.pending.find? id = some root
  ascending : Ascending u.pending.names

theorem pending_ofRoot {id : String} {d : SchemaDocument}
    (found : (ofRoot root).pending.find? id = some d) : root.id = some id ∧ d = root := by
  unfold ofRoot at found
  split at found
  · rename_i key named
    simp only [Table.find?_insert] at found
    by_cases same : key = id
    · rw [if_pos same] at found
      cases found
      exact ⟨named.trans (congrArg some same), rfl⟩
    · rw [if_neg same] at found
      cases found
  · cases found

theorem cached_ofRoot (root : SchemaDocument) : (ofRoot root).cached = .empty := by
  unfold ofRoot
  split
  · rfl
  · rfl

theorem ascending_ofRoot (root : SchemaDocument) : Ascending (ofRoot root).pending.names := by
  unfold ofRoot
  split
  · exact Table.ascending_insert _ root List.Pairwise.nil
  · exact List.Pairwise.nil

theorem drawn_ofRoot (lib : Library) (cached : String → Option Schema) (root : SchemaDocument) :
    (ofRoot root).Drawn lib cached root := by
  refine ⟨?_, ?_, ?_, ?_, ascending_ofRoot root⟩
  · intro id d found
    exact .inl (pending_ofRoot found)
  · intro id s found
    rw [cached_ofRoot] at found
    cases found
  · intro id contained
    rw [cached_ofRoot] at contained
    cases contained
  · intro id named
    simp [ofRoot, named, Table.find?_insert]

theorem drawn_addCached {u : Universe} {id : String} {s : Schema} (drawn : u.Drawn lib cached root)
    (new : u.contains id = false) (found : cached id = some s) :
    (u.addCached id s).Drawn lib cached root := by
  refine ⟨drawn.pending, ?_, ?_, drawn.root, drawn.ascending⟩
  · intro key τ held
    simp only [addCached, Table.find?_insert] at held
    by_cases same : id = key
    · rw [if_pos same] at held
      cases held
      exact same ▸ found
    · rw [if_neg same] at held
      exact drawn.cached key τ held
  · intro key contained
    simp only [addCached, Table.contains_insert, Bool.or_eq_true, beq_iff_eq] at contained
    rcases contained with rfl | contained
    · simp only [contains, Bool.or_eq_false_iff] at new
      exact new.1
    · exact drawn.apart key contained

theorem drawn_addPending {u : Universe} {id : String} {chain : List String} {d : SchemaDocument}
    (drawn : u.Drawn lib cached root) (new : u.contains id = false) (free : cached id = none)
    (found : lib.document id = .ok d) : (u.addPending id chain d).Drawn lib cached root := by
  simp only [contains, Bool.or_eq_false_iff] at new
  refine ⟨?_, drawn.cached, ?_, ?_, Table.ascending_insert id d drawn.ascending⟩
  · intro key e read
    simp only [addPending, Table.find?_insert] at read
    by_cases same : id = key
    · rw [if_pos same] at read
      cases read
      exact .inr ⟨same ▸ found, same ▸ free⟩
    · rw [if_neg same] at read
      exact drawn.pending key e read
  · intro key contained
    have other : id ≠ key := by
      rintro rfl
      rw [show (u.addPending id chain d).cached = u.cached from rfl, new.2] at contained
      cases contained
    simp [addPending, Table.contains_insert, other, drawn.apart key contained]
  · intro key mine
    have there := drawn.root key mine
    have other : id ≠ key := by
      rintro rfl
      simp [Table.contains, there] at new
    simp [addPending, Table.find?_insert, other, there]

theorem Gathers.drawn {u : Universe} {todo : List Quest} {r : Except GatherFault Universe}
    (h : Gathers lib cached u todo r) (drawn : u.Drawn lib cached root) {v : Universe}
    (result : r = .ok v) : v.Drawn lib cached root := by
  induction h with
  | done u =>
    cases result
    exact drawn
  | seen _ _ ih => exact ih drawn result
  | held new found _ ih => exact ih (drawn_addCached drawn new found) result
  | failed new free missing => cases result
  | read new free found _ ih => exact ih (drawn_addPending drawn new free found) result

theorem drawn_gather {v : Universe} (h : gather lib cached root = .ok v) :
    v.Drawn lib cached root :=
  (gathers_gather lib cached root).drawn (drawn_ofRoot lib cached root) h

/-! ## Imports take part in the load -/

/-- An id takes part in the load, or is about to. -/
def Expects (u : Universe) (todo : List Quest) (id : String) : Prop :=
  u.contains id = true ∨ ∃ q ∈ todo, q.id = id

/-- All that the documents of a load import is expected. -/
structure Closed (u : Universe) (root : SchemaDocument) (todo : List Quest) : Prop where
  root : ∀ i ∈ root.importIds, u.Expects todo i
  pending : ∀ id d, u.pending.find? id = some d → ∀ i ∈ d.importIds, u.Expects todo i

theorem expects_questsOf {u : Universe} {chain : List String} {d : SchemaDocument}
    {rest : List Quest} {i : String} (h : i ∈ d.importIds) :
    u.Expects (questsOf chain d ++ rest) i := by
  refine .inr ⟨⟨i, chain ++ [i]⟩, List.mem_append_left _ ?_, rfl⟩
  exact List.mem_map.2 ⟨i, List.mem_reverse.2 h, rfl⟩

theorem closed_ofRoot (root : SchemaDocument) : (ofRoot root).Closed root (questsOf [] root) := by
  have own : ∀ i ∈ root.importIds, (ofRoot root).Expects (questsOf [] root) i := by
    intro i hi
    have expected : (ofRoot root).Expects (questsOf [] root ++ []) i := expects_questsOf hi
    rwa [List.append_nil] at expected
  refine ⟨own, ?_⟩
  intro id d found
  exact (pending_ofRoot found).2 ▸ own

/-- A schema that was expected stays so when its turn has come. -/
theorem Expects.turn {u v : Universe} {q : Quest} {rest todo : List Quest} {i : String}
    (h : u.Expects (q :: rest) i) (now : v.contains q.id = true)
    (keeps : ∀ key, u.contains key = true → v.contains key = true)
    (left : ∀ p ∈ rest, p ∈ todo) : v.Expects todo i := by
  rcases h with there | ⟨p, mem, rfl⟩
  · exact .inl (keeps i there)
  · rcases List.mem_cons.1 mem with rfl | mem
    · exact .inl now
    · exact .inr ⟨p, left p mem, rfl⟩

theorem Gathers.closed {u : Universe} {todo : List Quest} {r : Except GatherFault Universe}
    (h : Gathers lib cached u todo r) (closed : u.Closed root todo) {v : Universe}
    (result : r = .ok v) : v.Closed root [] := by
  induction h with
  | done u =>
    cases result
    exact closed
  | seen old _ ih =>
    refine ih ⟨?_, ?_⟩ result
    · intro i hi
      exact (closed.root i hi).turn old (fun _ h => h) fun _ h => h
    · intro id d found i hi
      exact (closed.pending id d found i hi).turn old (fun _ h => h) fun _ h => h
  | @held u q rest r s new found _ ih =>
    have now : (u.addCached q.id s).contains q.id = true := by simp [contains_addCached]
    have keeps : ∀ key, u.contains key = true → (u.addCached q.id s).contains key = true := by
      intro key h
      simp [contains_addCached, h]
    refine ih ⟨?_, ?_⟩ result
    · intro i hi
      exact (closed.root i hi).turn now keeps fun _ h => h
    · intro id d found i hi
      exact (closed.pending id d found i hi).turn now keeps fun _ h => h
  | failed new free missing => cases result
  | @read u q rest r d new free found _ ih =>
    have now : (u.addPending q.id q.chain d).contains q.id = true := by simp [contains_addPending]
    have keeps : ∀ key, u.contains key = true →
        (u.addPending q.id q.chain d).contains key = true := by
      intro key h
      simp [contains_addPending, h]
    have left : ∀ p ∈ rest, p ∈ questsOf q.chain d ++ rest := fun _ h => List.mem_append_right _ h
    refine ih ⟨?_, ?_⟩ result
    · intro i hi
      exact (closed.root i hi).turn now keeps left
    · intro id e read i hi
      simp only [addPending, Table.find?_insert] at read
      by_cases same : q.id = id
      · rw [if_pos same] at read
        cases read
        exact expects_questsOf hi
      · rw [if_neg same] at read
        exact (closed.pending id e read i hi).turn now keeps left

/-- What the root and the documents of a load import takes part in the load. -/
theorem closed_gather {v : Universe} (h : gather lib cached root = .ok v) :
    (∀ i ∈ root.importIds, v.contains i = true) ∧
      ∀ id d, v.pending.find? id = some d → ∀ i ∈ d.importIds, v.contains i = true := by
  have closed := (gathers_gather lib cached root).closed (closed_ofRoot root) h
  have there : ∀ i, v.Expects [] i → v.contains i = true := by
    rintro i (there | ⟨q, mem, -⟩)
    · exact there
    · cases mem
  exact ⟨fun i hi => there i (closed.root i hi),
    fun id d found i hi => there i (closed.pending id d found i hi)⟩

theorem contains_iff {u : Universe} {id : String} :
    u.contains id = true ↔
      (∃ d, u.pending.find? id = some d) ∨ ∃ s, u.cached.find? id = some s := by
  simp only [contains, Bool.or_eq_true, Table.contains_iff]

end Universe
end Isl
