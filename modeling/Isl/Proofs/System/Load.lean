import Isl.Proofs.System.Calls
import Isl.Proofs.System.Gather
import Isl.Proofs.System.Origin
/-!
# A load that succeeds

The root and the documents that were read for it are compiled against the same world, in which every
document comes from the library and every compiled schema from the cache.

* `System.Loads`: the parts of a load that succeeds;
* `Loads.run`, `Loads.compiles`: what was compiled are the root and the documents that were read;
* `Loads.document`, `Loads.held`, `Loads.takesPart`: what the world of the load holds.
-/
namespace Isl

theorem SchemaError.mapM_eq_ok {α β : Type} {f : α → Except SchemaError β} {as : List α}
    {bs : List β} (h : as.mapM f = .ok bs) :
    (∀ b ∈ bs, ∃ a ∈ as, f a = .ok b) ∧ ∀ a ∈ as, ∃ b ∈ bs, f a = .ok b := by
  induction as generalizing bs with
  | nil =>
    simp only [List.mapM_nil, pure, Except.pure, Except.ok.injEq] at h
    subst h
    simp
  | cons a as ih =>
    simp only [List.mapM_cons, SchemaError.bind_eq_ok_iff, pure, Except.pure, Except.ok.injEq] at h
    obtain ⟨b, first, rest, others, rfl⟩ := h
    obtain ⟨back, forth⟩ := ih others
    constructor
    · intro c hc
      rcases List.mem_cons.1 hc with rfl | hc
      · exact ⟨a, List.mem_cons_self .., first⟩
      · obtain ⟨x, hx, made⟩ := back c hc
        exact ⟨x, List.mem_cons_of_mem _ hx, made⟩
    · intro x hx
      rcases List.mem_cons.1 hx with rfl | hx
      · exact ⟨b, List.mem_cons_self .., first⟩
      · obtain ⟨c, hc, made⟩ := forth x hx
        exact ⟨c, List.mem_cons_of_mem _ hc, made⟩

namespace Settings

theorem mem_members {root d : SchemaDocument} {world : Universe} {id : String} :
    (id, d) ∈ members root world ↔ (id, d) ∈ world.pending.entries ∧ root.id ≠ some id := by
  simp [members]

theorem compileMember_eq_ok_iff {settings : Settings} {world : Universe} {id : String}
    {d : SchemaDocument} {σ : Schema} :
    settings.compileMember world id d = .ok σ ↔ (settings.compilation world d).run = .ok σ := by
  unfold compileMember
  cases (settings.compilation world d).run with
  | error e => exact ⟨nofun, nofun⟩
  | ok τ => exact Iff.rfl

end Settings

namespace System

/-- A load that succeeds: its root, what it reached, and what it compiled. -/
structure Loads (s : System) (c : Call) (root : SchemaDocument) (world : Universe) (σ : Schema)
    (members : List Schema) : Prop where
  compiled : s.compiled c = σ :: members
  gathered : Universe.gather s.library s.cache.get? root = .ok world
  compiles : s.settings.compile world root = .ok (σ, members)
  source : root.id = none ∨ ∃ id, s.library.document id = .ok root

theorem id_of_read {settings : Settings} {values : List Element} {root : SchemaDocument}
    (h : settings.read values = .ok root) : root.id = none := by
  unfold Settings.read Reader.document at h
  cases read : Reader.finish .root
      (Reader.itemsFrom settings.dialect 0
        (Reader.beginning settings.dialect values settings.failFast) values) with
  | error e =>
    rw [read] at h
    cases h
  | ok p =>
    rw [read] at h
    cases h
    rfl

theorem attempt?_source {s : System} {c : Call} {a : Attempt} (made : s.attempt? c = some a)
    {σ : Schema} {members : List Schema} (ended : a.outcome = .ok (σ, members)) :
    ∃ root, (root.id = none ∨ ∃ id, s.library.document id = .ok root) ∧
      (s.attempt s.cache root).outcome = .ok (σ, members) := by
  obtain ⟨id, -, -, rfl⟩ | ⟨values, made⟩ := attempt?_cases made
  · obtain ⟨root, document, attempted⟩ := attemptId_eq_ok_iff.1 ended
    exact ⟨root, .inr ⟨id, document⟩, attempted⟩
  · obtain ⟨root, read, rfl⟩ := attemptValues?_eq_some_iff.1 made
    exact ⟨root, .inl (id_of_read read), ended⟩

/-- Whatever a call compiles was compiled in a load that succeeded. -/
theorem loads_of_compiled {s : System} {c : Call} {τ : Schema} (mem : τ ∈ s.compiled c) :
    ∃ root world σ members, s.Loads c root world σ members := by
  cases all : s.compiled c with
  | nil => simp [all] at mem
  | cons σ members =>
    obtain ⟨a, made, ended⟩ := compiled_eq_cons_iff.1 all
    obtain ⟨root, source, attempted⟩ := attempt?_source made ended
    obtain ⟨world, gathered, compiles⟩ := attempt_eq_ok_iff.1 attempted
    exact ⟨root, world, σ, members, ⟨all, gathered, compiles, source⟩⟩

namespace Loads

variable {s : System} {c : Call} {root d : SchemaDocument} {world : Universe} {σ τ : Schema}
  {members : List Schema} {id : String}

theorem drawn (h : s.Loads c root world σ members) :
    world.Drawn s.library s.cache.get? root := Universe.drawn_gather h.gathered

/-- The documents of a load are those of the library. -/
theorem document (h : s.Loads c root world σ members) (found : world.pending.find? id = some d) :
    s.library.document id = .ok d := by
  obtain ⟨named, rfl⟩ | ⟨document, -⟩ := h.drawn.pending id d found
  · rcases h.source with anonymous | ⟨key, document⟩
    · rw [anonymous] at named
      cases named
    · have same := document_id document
      rw [named] at same
      exact Option.some.inj same ▸ document
  · exact document

theorem held (h : s.Loads c root world σ members) (found : world.cached.find? id = some τ) :
    s.cache.get? id = some τ := h.drawn.cached id τ found

theorem reads (h : s.Loads c root world σ members) (found : world.pending.find? id = some d) :
    world.Reads id d := Universe.reads_of_pending (h.drawn.apart id) found

/-- What was compiled is the root or one of the documents that were read. -/
theorem run (h : s.Loads c root world σ members) (mem : τ ∈ s.compiled c) :
    ∃ d, (s.settings.compilation world d).run = .ok τ ∧
      (d = root ∨ ∃ id, world.pending.find? id = some d) := by
  obtain ⟨each, own⟩ := compile_eq_ok_iff.1 h.compiles
  rw [h.compiled] at mem
  rcases List.mem_cons.1 mem with rfl | mem
  · exact ⟨root, own, .inl rfl⟩
  · obtain ⟨⟨id, d⟩, listed, made⟩ := (SchemaError.mapM_eq_ok each).1 τ mem
    have entry := (Settings.mem_members.1 listed).1
    have found := Table.find?_of_mem_entries h.drawn.ascending entry
    exact ⟨d, Settings.compileMember_eq_ok_iff.1 made, .inr ⟨id, found⟩⟩

/-- Every document that was read has been compiled. -/
theorem compiled_of_read (h : s.Loads c root world σ members)
    (found : world.pending.find? id = some d) :
    ∃ τ ∈ s.compiled c, (s.settings.compilation world d).run = .ok τ := by
  obtain ⟨each, own⟩ := compile_eq_ok_iff.1 h.compiles
  rw [h.compiled]
  by_cases mine : root.id = some id
  · have same := h.drawn.root id mine
    rw [found] at same
    cases same
    exact ⟨σ, List.mem_cons_self .., own⟩
  · have listed := Settings.mem_members.2 ⟨Table.mem_entries_of_find? found, mine⟩
    obtain ⟨τ, mem, made⟩ := (SchemaError.mapM_eq_ok each).2 _ listed
    exact ⟨τ, List.mem_cons_of_mem _ mem, Settings.compileMember_eq_ok_iff.1 made⟩

/-- What a compiled document imports takes part in the load. -/
theorem takesPart (h : s.Loads c root world σ members)
    (mine : d = root ∨ ∃ id, world.pending.find? id = some d) {i : String} (mem : i ∈ d.importIds) :
    world.contains i = true := by
  obtain ⟨ofRoot, ofPending⟩ := Universe.closed_gather h.gathered
  rcases mine with rfl | ⟨id, found⟩
  · exact ofRoot i mem
  · exact ofPending id d found i mem

end Loads

end System
end Isl
