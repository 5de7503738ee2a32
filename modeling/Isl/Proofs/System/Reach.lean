import Isl.Proofs.System.Faithful
import Isl.Proofs.System.Concord
/-!
# What a load reads

A walk along imports asks for each document once and comes to exactly the schemas that its root
reaches, without a look beyond those that are cached. What a compilation asks about is among them,
so nothing else could change what it comes to.

* `Library.Reaches`: the schemas that imports lead to;
* `Universe.Fetches`: a walk, with the ids that it asks the library for in their order;
* `Universe.contains_gather_iff`: what a walk has in the end is the root and what it reaches;
* `Universe.origin?_includes`: a look-up does not leave the schemas of the load;
* `Universe.gather_exact`: all of this for every library, cache and root.
-/
namespace Isl

/-- A root reaches what it needs, and what is needed by the documents that it reaches. Nothing is
read behind a cached schema, and the root is not read again. -/
inductive Library.Reaches (lib : Library) (cached : String → Option Schema)
    (root : SchemaDocument) : String → Prop where
  | direct {id : String} (needs : root.Needs id) : Reaches lib cached root id
  | onward {id other : String} {d : SchemaDocument} (reached : Reaches lib cached root id)
      (foreign : root.id ≠ some id) (free : cached id = none)
      (document : lib.document id = .ok d) (needs : d.Needs other) : Reaches lib cached root other

namespace Universe

variable {lib : Library} {cached : String → Option Schema} {root : SchemaDocument}
  {u v world : Universe} {todo : List Quest} {asked : List String}
  {r : Except GatherFault Universe} {id name : String}

/-! ## Each document is asked for once -/

/-- A walk along imports, with the ids that it asks the library for in their order. -/
inductive Fetches (lib : Library) (cached : String → Option Schema) :
    Universe → List Quest → List String → Except GatherFault Universe → Prop where
  | done (u : Universe) : Fetches lib cached u [] [] (.ok u)
  | seen {u : Universe} {q : Quest} {rest : List Quest} {asked : List String}
      {r : Except GatherFault Universe} (old : u.contains q.id = true)
      (later : Fetches lib cached u rest asked r) : Fetches lib cached u (q :: rest) asked r
  | held {u : Universe} {q : Quest} {rest : List Quest} {asked : List String}
      {r : Except GatherFault Universe} {s : Schema} (new : u.contains q.id = false)
      (found : cached q.id = some s)
      (later : Fetches lib cached (u.addCached q.id s) rest asked r) :
      Fetches lib cached u (q :: rest) asked r
  | failed {u : Universe} {q : Quest} {rest : List Quest} {e : SchemaError}
      (new : u.contains q.id = false) (free : cached q.id = none)
      (missing : lib.document q.id = .error e) :
      Fetches lib cached u (q :: rest) [q.id] (.error ⟨q, e, u⟩)
  | read {u : Universe} {q : Quest} {rest : List Quest} {asked : List String}
      {r : Except GatherFault Universe} {d : SchemaDocument} (new : u.contains q.id = false)
      (free : cached q.id = none) (found : lib.document q.id = .ok d)
      (later : Fetches lib cached (u.addPending q.id q.chain d) (questsOf q.chain d ++ rest)
        asked r) :
      Fetches lib cached u (q :: rest) (q.id :: asked) r

theorem Gathers.fetches (h : Gathers lib cached u todo r) :
    ∃ asked, Fetches lib cached u todo asked r := by
  induction h with
  | done u => exact ⟨[], .done u⟩
  | seen old _ ih =>
    obtain ⟨asked, later⟩ := ih
    exact ⟨asked, .seen old later⟩
  | held new found _ ih =>
    obtain ⟨asked, later⟩ := ih
    exact ⟨asked, .held new found later⟩
  | failed new free missing => exact ⟨_, .failed new free missing⟩
  | read new free found _ ih =>
    obtain ⟨asked, later⟩ := ih
    exact ⟨_, .read new free found later⟩

/-- What is asked for did not take part yet, and takes part from then on. -/
theorem Fetches.once (h : Fetches lib cached u todo asked r) :
    asked.Nodup ∧ ∀ id ∈ asked, u.contains id = false := by
  induction h with
  | done u => exact ⟨List.nodup_nil, nofun⟩
  | seen _ _ ih => exact ih
  | @held u q rest asked r s new found _ ih =>
    refine ⟨ih.1, ?_⟩
    intro id mem
    have later := ih.2 id mem
    rw [contains_addCached, Bool.or_eq_false_iff] at later
    exact later.2
  | failed new free missing =>
    refine ⟨List.nodup_singleton _, ?_⟩
    intro id mem
    rw [List.mem_singleton.1 mem]
    exact new
  | @read u q rest asked r d new free found _ ih =>
    have later : ∀ id ∈ asked, q.id ≠ id ∧ u.contains id = false := by
      intro id mem
      have apart := ih.2 id mem
      rw [contains_addPending, Bool.or_eq_false_iff, beq_eq_false_iff_ne] at apart
      exact apart
    refine ⟨List.nodup_cons.2 ⟨fun again => (later q.id again).1 rfl, ih.1⟩, ?_⟩
    intro id mem
    rcases List.mem_cons.1 mem with rfl | mem
    · exact new
    · exact (later id mem).2

/-- The documents that a walk adds are those that it asks for. -/
theorem Fetches.pending (h : Fetches lib cached u todo asked r) (result : r = .ok v) (id : String) :
    v.pending.contains id = true ↔ u.pending.contains id = true ∨ id ∈ asked := by
  induction h with
  | done u =>
    cases result
    simp
  | seen _ _ ih => exact ih result
  | held _ _ _ ih => exact ih result
  | failed => cases result
  | @read u q rest asked r d new free found _ ih =>
    rw [ih result]
    simp only [addPending, Table.contains_insert, Bool.or_eq_true, beq_iff_eq, List.mem_cons]
    grind

/-- What a walk asks for in the end: the documents that it has, and the one that it misses. -/
def askedIn : Except GatherFault Universe → List String
  | .ok v => v.chains.names
  | .error fault => fault.reached.chains.names ++ [fault.quest.id]

theorem Fetches.chained (h : Fetches lib cached u todo asked r) (id : String) :
    id ∈ askedIn r ↔ id ∈ u.chains.names ∨ id ∈ asked := by
  induction h with
  | done u => simp [askedIn]
  | seen _ _ ih => exact ih
  | held _ _ _ ih => exact ih
  | failed => simp [askedIn]
  | @read u q rest asked r d new free found _ ih =>
    rw [ih]
    simp only [addPending, Table.names, Table.insert, Table.map_insertEntry, NameSet.mem_insert,
      List.mem_cons]
    grind

theorem contains_ofRoot : (ofRoot root).contains id = true ↔ root.id = some id := by
  constructor
  · intro part
    rcases contains_iff.1 part with ⟨d, found⟩ | ⟨s, held⟩
    · exact (pending_ofRoot found).1
    · rw [cached_ofRoot] at held
      cases held
  · intro named
    refine contains_iff.2 (.inl ⟨root, ?_⟩)
    simp [ofRoot, named, Table.find?_insert]

theorem Fetches.foreign (h : Fetches lib cached (ofRoot root) todo asked r)
    (named : root.id = some id) : id ∉ asked := by
  intro mem
  have unread := h.once.2 id mem
  rw [contains_ofRoot.2 named] at unread
  cases unread

/-- A walk from a root asks for the other documents that it has in the end. -/
theorem Fetches.mem_iff
    (h : Fetches lib cached (ofRoot root) todo asked (.ok world)) :
    id ∈ asked ↔ world.pending.contains id = true ∧ root.id ≠ some id := by
  constructor
  · intro mem
    exact ⟨(h.pending rfl id).2 (.inr mem), fun named => h.foreign named mem⟩
  · rintro ⟨there, foreign⟩
    rcases (h.pending rfl id).1 there with own | mem
    · obtain ⟨d, found⟩ := Table.contains_iff.1 own
      exact absurd (pending_ofRoot found).1 foreign
    · exact mem

/-! ## What is reached -/

/-- A walk comes upon nothing but what its root reaches. -/
theorem Gathers.reached (h : Gathers lib cached u todo r) (result : r = .ok v)
    (rooted : ∀ id, root.id = some id → u.contains id = true)
    (sound : ∀ id, u.contains id = true → root.id = some id ∨ lib.Reaches cached root id)
    (ahead : ∀ q ∈ todo, lib.Reaches cached root q.id) (id : String)
    (part : v.contains id = true) : root.id = some id ∨ lib.Reaches cached root id := by
  induction h with
  | done u =>
    cases result
    exact sound id part
  | seen old _ ih => exact ih result rooted sound fun q mem => ahead q (List.mem_cons_of_mem _ mem)
  | @held u q rest r s new found _ ih =>
    refine ih result ?_ ?_ fun p mem => ahead p (List.mem_cons_of_mem _ mem)
    · intro key named
      simp [contains_addCached, rooted key named]
    · intro key there
      rw [contains_addCached, Bool.or_eq_true, beq_iff_eq] at there
      rcases there with rfl | there
      · exact .inr (ahead q (List.mem_cons_self ..))
      · exact sound key there
  | failed => cases result
  | @read u q rest r d new free found _ ih =>
    have here := ahead q (List.mem_cons_self ..)
    have foreign : root.id ≠ some q.id := by
      intro named
      rw [rooted q.id named] at new
      cases new
    refine ih result ?_ ?_ ?_
    · intro key named
      simp [contains_addPending, rooted key named]
    · intro key there
      rw [contains_addPending, Bool.or_eq_true, beq_iff_eq] at there
      rcases there with rfl | there
      · exact .inr here
      · exact sound key there
    · intro p mem
      rcases List.mem_append.1 mem with own | left
      · have needs := SchemaDocument.mem_importIds_iff.1 (mem_questsOf own)
        exact .onward here foreign free found needs
      · exact ahead p (List.mem_cons_of_mem _ left)

/-- A walk that succeeds has come to all that its root reaches. -/
theorem contains_of_reaches (h : gather lib cached root = .ok world)
    (reached : lib.Reaches cached root id) : world.contains id = true := by
  have drawn := drawn_gather h
  obtain ⟨own, others⟩ := closed_gather h
  induction reached with
  | direct needs => exact own _ (SchemaDocument.mem_importIds_iff.2 needs)
  | @onward id other d reached foreign free document needs ih =>
    rcases contains_iff.1 ih with ⟨e, found⟩ | ⟨s, held⟩
    · obtain ⟨named, -⟩ | ⟨same, -⟩ := drawn.pending id e found
      · exact absurd named foreign
      · obtain rfl := Except.ok.inj (document.symm.trans same)
        exact others id d found other (SchemaDocument.mem_importIds_iff.2 needs)
    · rw [drawn.cached id s held] at free
      cases free

/-- What a walk has in the end is the root and what it reaches. -/
theorem contains_gather_iff (h : gather lib cached root = .ok world) :
    world.contains id = true ↔ root.id = some id ∨ lib.Reaches cached root id := by
  constructor
  · refine (gathers_gather lib cached root).reached h ?_ ?_ ?_ id
    · exact fun key named => contains_ofRoot.2 named
    · exact fun key part => .inl (contains_ofRoot.1 part)
    · exact fun q mem => .direct (SchemaDocument.mem_importIds_iff.1 (mem_questsOf mem))
  · rintro (named | reached)
    · exact contains_iff.2 (.inl ⟨root, (drawn_gather h).root id named⟩)
    · exact contains_of_reaches h reached

/-- It takes from the cache what it reaches there, unless it is the root. -/
theorem cached_gather_iff (h : gather lib cached root = .ok world) {σ : Schema} :
    world.cached.find? id = some σ ↔
      lib.Reaches cached root id ∧ root.id ≠ some id ∧ cached id = some σ := by
  have drawn := drawn_gather h
  constructor
  · intro held
    have unread := drawn.apart id (Table.contains_iff.2 ⟨σ, held⟩)
    have foreign : root.id ≠ some id := by
      intro named
      rw [Table.contains_iff.2 ⟨root, drawn.root id named⟩] at unread
      cases unread
    have part := (contains_gather_iff h).1 (contains_iff.2 (.inr ⟨σ, held⟩))
    exact ⟨part.resolve_left foreign, foreign, drawn.cached id σ held⟩
  · rintro ⟨reached, foreign, there⟩
    rcases contains_iff.1 (contains_of_reaches h reached) with ⟨d, found⟩ | ⟨τ, held⟩
    · obtain ⟨named, -⟩ | ⟨-, free⟩ := drawn.pending id d found
      · exact absurd named foreign
      · rw [there] at free
        cases free
    · rw [held, ← drawn.cached id τ held, there]

/-- It reads the rest of what it reaches. -/
theorem pending_gather_iff (h : gather lib cached root = .ok world) {d : SchemaDocument} :
    world.pending.find? id = some d ↔ root.id = some id ∧ d = root ∨
      lib.Reaches cached root id ∧ root.id ≠ some id ∧ cached id = none ∧
        lib.document id = .ok d := by
  have drawn := drawn_gather h
  constructor
  · intro found
    by_cases named : root.id = some id
    · have mine := drawn.root id named
      rw [found] at mine
      exact .inl ⟨named, Option.some.inj mine⟩
    · obtain ⟨same, -⟩ | ⟨document, free⟩ := drawn.pending id d found
      · exact absurd same named
      · have part := (contains_gather_iff h).1 (contains_iff.2 (.inl ⟨d, found⟩))
        exact .inr ⟨part.resolve_left named, named, free, document⟩
  · rintro (⟨named, rfl⟩ | ⟨reached, foreign, free, document⟩)
    · exact drawn.root id named
    · rcases contains_iff.1 (contains_of_reaches h reached) with ⟨e, found⟩ | ⟨τ, held⟩
      · obtain ⟨named, -⟩ | ⟨same, -⟩ := drawn.pending id e found
        · exact absurd named foreign
        · rw [found, Except.ok.inj (same.symm.trans document)]
      · rw [drawn.cached id τ held] at free
        cases free

/-! ## Nothing else is asked about -/

/-- A world with all of another one, and with anything beside it. -/
structure Includes (v u : Universe) : Prop where
  cached : ∀ id, u.contains id = true → v.cached.find? id = u.cached.find? id
  pending : ∀ id, u.contains id = true → v.pending.find? id = u.pending.find? id

/-- What the documents of a world import takes part in it. -/
def Whole (u : Universe) : Prop :=
  ∀ id d, u.pending.find? id = some d → ∀ i ∈ d.importIds, u.contains i = true

theorem Includes.contains (includes : v.Includes u) (part : u.contains id = true) :
    v.contains id = true := by
  rcases contains_iff.1 part with ⟨d, found⟩ | ⟨s, held⟩
  · exact contains_iff.2 (.inl ⟨d, by rw [includes.pending id part, found]⟩)
  · exact contains_iff.2 (.inr ⟨s, by rw [includes.cached id part, held]⟩)

theorem Includes.reads (includes : v.Includes u) {d : SchemaDocument} (read : u.Reads id d) :
    v.Reads id d := by
  have part : u.contains id = true := contains_iff.2 (.inl ⟨d, read.2⟩)
  exact ⟨(includes.cached id part).trans read.1, (includes.pending id part).trans read.2⟩

theorem Includes.declaredTypes (includes : v.Includes u) (part : u.contains id = true) :
    v.declaredTypes id = u.declaredTypes id := by
  simp only [Universe.declaredTypes, includes.cached id part, includes.pending id part]

theorem Includes.importedNames (includes : v.Includes u) (ascending : Ascending u.pending.names)
    (mem : name ∈ u.importedNames) : name ∈ v.importedNames := by
  obtain ⟨d, value, listed⟩ := List.mem_flatMap.1 mem
  obtain ⟨e, entry, rfl⟩ := List.mem_map.1 value
  have found := Table.find?_of_mem_entries ascending entry
  have part : u.contains e.1 = true := contains_iff.2 (.inl ⟨e.2, found⟩)
  have there := (includes.pending e.1 part).trans found
  exact List.mem_flatMap.2 ⟨e.2, Table.mem_values_of_find? there, listed⟩

theorem mem_ids_of_contains (part : u.contains id = true) :
    id ∈ u.pending.names ++ u.cached.names := by
  rcases contains_iff.1 part with ⟨d, found⟩ | ⟨s, held⟩
  · exact List.mem_append_left _ (Table.mem_names_of_find? found)
  · exact List.mem_append_right _ (Table.mem_names_of_find? held)

/-- Two lists leave the same questions open that a search in this world can come to. -/
def SameOpen (u : Universe) (first : String) (qs qs' : List (String × String)) : Prop :=
  ∀ id name, u.contains id = true → name ∈ first :: u.importedNames →
    ((id, name) ∈ qs ↔ (id, name) ∈ qs')

theorem SameOpen.without {first : String} {qs qs' : List (String × String)}
    (same : u.SameOpen first qs qs') (question : String × String) :
    u.SameOpen first (without question qs) (without question qs') := by
  intro id name part asked
  rw [mem_without, mem_without, same id name part asked]

theorem findSome?_congr {α β : Type} {f g : α → Option β} {as : List α}
    (same : ∀ a ∈ as, f a = g a) : as.findSome? f = as.findSome? g := by
  induction as with
  | nil => rfl
  | cons a as ih =>
    rw [List.findSome?_cons, List.findSome?_cons, same a (List.mem_cons_self ..),
      ih fun x mem => same x (List.mem_cons_of_mem _ mem)]

/-- The search follows imports from one schema of the load to another one, and ever fewer questions
are left, so their number carries the induction. -/
theorem originAmong_includes (includes : v.Includes u) (whole : u.Whole) {first : String}
    (n : Nat) :
    ∀ {qs qs' : List (String × String)} {id name : String}, qs.length = n →
      u.SameOpen first qs qs' → u.contains id = true → name ∈ first :: u.importedNames →
      v.originAmong qs' id name = u.originAmong qs id name := by
  induction n using Nat.strongRecOn with
  | ind n ih =>
    intro qs qs' id name length same part asked
    by_cases open_ : (id, name) ∈ qs
    · have open' := (same id name part asked).1 open_
      cases held : u.cached.find? id with
      | some s =>
        rw [originAmong_cached open_ held,
          originAmong_cached open' ((includes.cached id part).trans held)]
      | none =>
        cases found : u.pending.find? id with
        | none =>
          rw [originAmong_unread open_ held found, originAmong_unread open'
            ((includes.cached id part).trans held) ((includes.pending id part).trans found)]
        | some d =>
          have read : u.Reads id d := ⟨held, found⟩
          cases own : d.declared? name with
          | some t =>
            rw [originAmong_declared open_ read own,
              originAmong_declared open' (includes.reads read) own]
          | none =>
            have fewer := length_without_lt open_
            have left := same.without (id, name)
            have through : ∀ i ∈ d.imports,
                v.throughImport (Universe.without (id, name) qs') name i =
                  u.throughImport (Universe.without (id, name) qs) name i := by
              intro i header
              have there : u.contains i.schemaId = true :=
                whole id d found _ (SchemaDocument.schemaId_mem_importIds header)
              cases i with
              | wildcard other =>
                have next := ih _ (length ▸ fewer) rfl left there asked
                exact congrArg (Option.filter fun o => !o.transitive) next
              | single other typeName newName =>
                have named := List.mem_cons_of_mem first (mem_importedNames read header)
                have next := ih _ (length ▸ fewer) rfl left there named
                exact congrArg (fun o => if newName.getD typeName = name then o else none) next
            rw [originAmong_imports open_ read own,
              originAmong_imports open' (includes.reads read) own]
            congr 1
            exact findSome?_congr through
    · have closed' : (id, name) ∉ qs' := fun mem => open_ ((same id name part asked).2 mem)
      rw [originAmong_closed open_, originAmong_closed closed']

/-- A look-up in a schema of the load stays within the load. -/
theorem origin?_includes (includes : v.Includes u) (whole : u.Whole)
    (ascending : Ascending u.pending.names) (part : u.contains id = true) (name : String) :
    v.origin? id name = u.origin? id name := by
  refine originAmong_includes includes whole _ rfl ?_ part (List.mem_cons_self ..)
  intro key m there mem
  have mem' : m ∈ name :: v.importedNames := by
    rcases List.mem_cons.1 mem with rfl | imported
    · exact List.mem_cons_self ..
    · exact List.mem_cons_of_mem _ (includes.importedNames ascending imported)
  rw [mem_questions, mem_questions]
  exact ⟨fun _ => ⟨mem_ids_of_contains (includes.contains there), mem'⟩,
    fun _ => ⟨mem_ids_of_contains there, mem⟩⟩

/-- A document that imports only from a world compiles there as it does with anything beside it. -/
theorem run_includes (includes : v.Includes u) (whole : u.Whole)
    (ascending : Ascending u.pending.names) (settings : Settings) {d : SchemaDocument}
    (parts : ∀ i ∈ d.importIds, u.contains i = true) :
    (settings.compilation v d).run = (settings.compilation u d).run := by
  refine Compilation.run_of_answers (c := settings.compilation u d) ?_
  intro i mem
  exact Compilation.answers_of_origin? (includes.declaredTypes (parts i mem))
    (origin?_includes includes whole ascending (parts i mem))

/-! ## All together -/

/-- A walk ends, having asked for no id twice and never for its root. When it succeeds, it has the
root and exactly what the root reaches: from the cache what the cache has of it, and the rest read
from the library. Every schema that the root or a document of the load needs is there, and schemas
that are not there have no influence on what is compiled. -/
theorem gather_exact (lib : Library) (cached : String → Option Schema) (root : SchemaDocument) :
    ∃ asked, Fetches lib cached (ofRoot root) (questsOf [] root) asked (gather lib cached root) ∧
      asked.Nodup ∧ (∀ id, root.id = some id → id ∉ asked) ∧
      ∀ world, gather lib cached root = .ok world →
        (∀ id, id ∈ asked ↔ world.pending.contains id = true ∧ root.id ≠ some id) ∧
        (∀ id, world.contains id = true ↔ root.id = some id ∨ lib.Reaches cached root id) ∧
        (∀ id σ, world.cached.find? id = some σ ↔
          lib.Reaches cached root id ∧ root.id ≠ some id ∧ cached id = some σ) ∧
        (∀ id d, world.pending.find? id = some d ↔ root.id = some id ∧ d = root ∨
          lib.Reaches cached root id ∧ root.id ≠ some id ∧ cached id = none ∧
            lib.document id = .ok d) ∧
        ∀ d, d = root ∨ (∃ id, world.pending.find? id = some d) →
          (∀ id, d.Needs id → world.contains id = true) ∧
          ∀ (settings : Settings) (other : Universe), other.Includes world →
            (settings.compilation other d).run = (settings.compilation world d).run := by
  obtain ⟨asked, fetches⟩ := (gathers_gather lib cached root).fetches
  refine ⟨asked, fetches, fetches.once.1, fun id => fetches.foreign, ?_⟩
  intro world h
  have ascending := (drawn_gather h).ascending
  obtain ⟨own, whole⟩ := closed_gather h
  refine ⟨fun id => (h ▸ fetches).mem_iff, fun id => contains_gather_iff h,
    fun id σ => cached_gather_iff h, fun id d => pending_gather_iff h, ?_⟩
  intro d mine
  have parts : ∀ i ∈ d.importIds, world.contains i = true := by
    rcases mine with rfl | ⟨id, found⟩
    · exact own
    · exact whole id d found
  exact ⟨fun id needs => parts id (SchemaDocument.mem_importIds_iff.2 needs),
    fun settings other includes => run_includes includes whole ascending settings parts⟩

theorem includes_addPending {chain : List String} {d : SchemaDocument}
    (new : u.contains id = false) : (u.addPending id chain d).Includes u := by
  refine ⟨fun _ _ => rfl, ?_⟩
  intro key part
  have other : id ≠ key := by
    rintro rfl
    rw [new] at part
    cases part
  simp [addPending, Table.find?_insert, other]

/-- In a circle, the walk comes back to its root, and asks only for the other schema. -/
theorem gather_exact_circle :
    gather circleSystem.library circleSystem.cache.get? circleB = .ok circleWorld ∧
      circleSystem.library.Reaches circleSystem.cache.get? circleB "b.isl" ∧
      (∃ asked, Fetches circleSystem.library circleSystem.cache.get? (ofRoot circleB)
          (questsOf [] circleB) asked (.ok circleWorld) ∧ asked.Nodup ∧ "b.isl" ∉ asked ∧
          ∀ id, id ∈ asked ↔ circleWorld.pending.contains id = true ∧ some "b.isl" ≠ some id) ∧
      (∀ id, circleWorld.contains id = true ↔ some "b.isl" = some id ∨
        circleSystem.library.Reaches circleSystem.cache.get? circleB id) ∧
      circleB.Needs "c.isl" ∧ circleWorld.contains "c.isl" = true ∧
      (circleSystem.settings.compilation
          (circleWorld.addPending "d.isl" ["d.isl"] declaringDocument) circleB).run =
        (circleSystem.settings.compilation circleWorld circleB).run := by
  have needs : circleB.Needs "c.isl" :=
    .header (i := .single "c.isl" "u" (some "t")) (List.mem_cons_self ..)
  have back : circleC.Needs "b.isl" :=
    .header (i := .single "b.isl" "t" (some "u")) (List.mem_cons_self ..)
  have reached : circleSystem.library.Reaches circleSystem.cache.get? circleB "b.isl" :=
    .onward (.direct needs) (by decide) rfl rfl back
  obtain ⟨asked, fetches, once, foreign, all⟩ :=
    gather_exact circleSystem.library circleSystem.cache.get? circleB
  obtain ⟨mem, contains, -, -, compiles⟩ := all circleWorld gather_circle
  obtain ⟨parts, others⟩ := compiles circleB (.inl rfl)
  exact ⟨gather_circle, reached,
    ⟨asked, gather_circle ▸ fetches, once, foreign "b.isl" rfl, mem⟩, contains, needs,
    parts "c.isl" needs, others _ _ (includes_addPending rfl)⟩

end Universe

/-- A system tells its authorities of each id that the walk asked for. -/
theorem System.attempt_asked (s : System) (cache : Cache Schema) (root : SchemaDocument) :
    ∃ asked, Universe.Fetches s.library cache.get? (.ofRoot root) (Universe.questsOf [] root) asked
      (Universe.gather s.library cache.get? root) ∧
      ∀ id, id ∈ (s.attempt cache root).asked ↔ id ∈ asked := by
  obtain ⟨asked, fetches⟩ := (Universe.gathers_gather s.library cache.get? root).fetches
  refine ⟨asked, fetches, ?_⟩
  intro id
  have chained := fetches.chained id
  have nothing : (Universe.ofRoot root).chains.names = [] := by
    unfold Universe.ofRoot
    split
    · rfl
    · rfl
  rw [nothing] at chained
  unfold attempt
  cases gathered : Universe.gather s.library cache.get? root with
  | error fault => simpa [gathered, Universe.askedIn] using chained
  | ok world => simpa [gathered, Universe.askedIn] using chained

end Isl
