import Isl.Proofs.System.Walk
/-!
# Loads and the cache

With transitive imports disallowed, the cache decides how much work a load is, and nothing else.

* `attempt_covered`: attempts with caches that a catalog covers come to the same;
* `attempt_known`: an attempt on a schema of the catalog gives the schema that the catalog has;
* `load_independent`: a load after any calls gives what it gives on a fresh system.
-/
namespace Isl.System

variable {s : System} {known : String → Option Schema} {root : SchemaDocument}
  {cached cached' : String → Option Schema} {u v : Universe}

/-- The root decides the result once its members are compiled. -/
theorem compile_fst (settings : Settings) (world : Universe) (root : SchemaDocument) :
    (settings.compile world root).map (·.1) =
      ((Settings.members root world).mapM fun m => settings.compileMember world m.1 m.2) >>=
        fun _ => (settings.compilation world root).run := by
  unfold Settings.compile
  cases (Settings.members root world).mapM fun m => settings.compileMember world m.1 m.2 with
  | error e => rfl
  | ok compiled =>
    simp only [bind, Except.bind]
    cases (settings.compilation world root).run with
    | error e => rfl
    | ok σ => rfl

section

variable {settings : Settings} {lib : Library}

/-- Members from the catalog compile. -/
theorem member_known (catalog : Catalog settings lib known) (stocked : u.Stocked lib)
    (ascending : Ascending u.pending.names) {m : String × SchemaDocument}
    (mem : m ∈ Settings.members root u) (inside : outside known m.1 = false) :
    ∃ σ, settings.compileMember u m.1 m.2 = .ok σ := by
  have found := Table.find?_of_mem_entries ascending (Settings.mem_members.1 mem).1
  obtain ⟨σ, there, document⟩ :=
    Universe.known_of_document catalog inside (stocked.pending m.1 m.2 found)
  have ran := catalog.runs m.1 σ there u fun i hi =>
    stocked.faithful (stocked.closed m.1 m.2 found i (document ▸ hi))
  rw [document] at ran
  exact ⟨σ, Settings.compileMember_eq_ok_iff.2 ran⟩

/-- A document compiles to the same in two worlds that have all that it imports. -/
theorem run_stocked (strict : settings.allowTransitive = false) (hu : u.Stocked lib)
    (hv : v.Stocked lib) {d : SchemaDocument}
    (inU : ∀ i ∈ d.importIds, u.contains i = true)
    (inV : ∀ i ∈ d.importIds, v.contains i = true) :
    (settings.compilation u d).run = (settings.compilation v d).run :=
  (Compilation.run_congr (c := settings.compilation u d) (v := v) strict fun i hi =>
    (hu.faithful (inU i hi)).agrees (hv.faithful (inV i hi))).symm

theorem compile_covered (strict : settings.allowTransitive = false)
    (catalog : Catalog settings lib known)
    (covered : ∀ id σ, cached id = some σ → known id = some σ)
    (covered' : ∀ id σ, cached' id = some σ → known id = some σ)
    (source : ∀ id, root.id = some id → lib.document id = .ok root)
    (gathered : Universe.gather lib cached root = .ok u)
    (gathered' : Universe.gather lib cached' root = .ok v)
    (same : u.frontier known = v.frontier known) :
    (settings.compile u root).map (·.1) = (settings.compile v root).map (·.1) := by
  have hu := Universe.stocked_gather gathered source fun id σ h =>
    catalog.bound id σ (covered id σ h)
  have hv := Universe.stocked_gather gathered' source fun id σ h =>
    catalog.bound id σ (covered' id σ h)
  have ascending := (Universe.drawn_gather gathered).ascending
  have ascending' := (Universe.drawn_gather gathered').ascending
  have own := run_stocked strict hu hv (Universe.closed_gather gathered).1
    (Universe.closed_gather gathered').1
  have members := Settings.members_outside ascending ascending' same root
  rw [compile_fst, compile_fst, own,
    mapM_filter (p := fun m => outside known m.1) fun m mem inside =>
      member_known catalog hu ascending mem inside,
    mapM_filter (p := fun m => outside known m.1) fun m mem inside =>
      member_known catalog hv ascending' mem inside, members]
  congr 1
  refine mapM_congr ?_
  intro m mem
  have out : outside known m.1 = true := (List.mem_filter.1 mem).2
  have inV := Table.find?_of_mem_entries ascending'
    (Settings.mem_members.1 (List.mem_filter.1 mem).1).1
  have inU : u.pending.find? m.1 = some m.2 := by
    rw [← Universe.frontier_document (u := u) out, same, Universe.frontier_document out, inV]
  have chains : u.chains.find? m.1 = v.chains.find? m.1 := by
    have chain := congrFun (congrArg Frontier.chain? same) m.1
    simpa only [Universe.frontier, out, if_true] using chain
  have run := run_stocked strict hu hv (hu.closed m.1 m.2 inU) (hv.closed m.1 m.2 inV)
  unfold Settings.compileMember
  rw [run, chains]

end

/-- Attempts with caches that a catalog covers come to the same. -/
theorem attempt_covered (strict : s.settings.allowTransitive = false)
    (catalog : Catalog s.settings s.library known) {cache cache' : Cache Schema}
    (covered : ∀ id σ, cache.get? id = some σ → known id = some σ)
    (covered' : ∀ id σ, cache'.get? id = some σ → known id = some σ)
    (source : ∀ id, root.id = some id → s.library.document id = .ok root) :
    (s.attempt cache root).outcome.map (·.1) = (s.attempt cache' root).outcome.map (·.1) := by
  have seen := Universe.frontier_gather catalog covered covered' root
  unfold attempt
  cases gathered : Universe.gather s.library cache.get? root with
  | error fault =>
    cases gathered' : Universe.gather s.library cache'.get? root with
    | error fault' =>
      rw [gathered, gathered'] at seen
      simp only [Universe.seenFrom, Except.error.injEq, Prod.mk.injEq] at seen
      simp only [seen.1, seen.2]
    | ok v =>
      rw [gathered, gathered'] at seen
      cases seen
  | ok u =>
    cases gathered' : Universe.gather s.library cache'.get? root with
    | error fault' =>
      rw [gathered, gathered'] at seen
      cases seen
    | ok v =>
      rw [gathered, gathered'] at seen
      simp only [Universe.seenFrom, Except.ok.injEq] at seen
      exact compile_covered strict catalog covered covered' source gathered gathered' seen

/-- An attempt on a schema of the catalog gives the schema that the catalog has. -/
theorem attempt_known (catalog : Catalog s.settings s.library known) {cache : Cache Schema}
    (covered : ∀ id σ, cache.get? id = some σ → known id = some σ) {id : String} {σ : Schema}
    (there : known id = some σ) :
    (s.attemptId cache id).outcome.map (·.1) = .ok σ := by
  have bound := catalog.bound id σ there
  have named : σ.document.id = some id := bound.named
  have pending : ∀ key d, (Universe.ofRoot σ.document).pending.find? key = some d →
      outside known key = false := by
    intro key d found
    have mine := (Universe.pending_ofRoot found).1
    rw [named] at mine
    cases mine
    exact outside_eq_false_iff.2 ⟨σ, there⟩
  obtain ⟨world, gathered, inside⟩ :=
    (Universe.gathers_gather s.library cache.get? σ.document).stays catalog pending fun q mem =>
      outside_eq_false_iff.2 (catalog.closed id σ there q.id (Universe.mem_questsOf mem))
  have stocked := Universe.stocked_gather gathered
    (fun key mine => Option.some.inj (named.symm.trans mine) ▸ bound.document)
    fun key τ h => catalog.bound key τ (covered key τ h)
  have ascending := (Universe.drawn_gather gathered).ascending
  have nobody : (Settings.members σ.document world).filter (fun m => outside known m.1) = [] := by
    rw [List.filter_eq_nil_iff]
    intro m mem
    have found := Table.find?_of_mem_entries ascending (Settings.mem_members.1 mem).1
    simp [inside m.1 m.2 found]
  have own := catalog.runs id σ there world fun i hi =>
    stocked.faithful ((Universe.closed_gather gathered).1 i hi)
  unfold attemptId attempt
  simp only [bound.document, gathered]
  rw [compile_fst, mapM_filter (p := fun m => outside known m.1) fun m mem inside =>
    member_known catalog stocked ascending mem inside, nobody, own]
  rfl

theorem attemptId_system {s t : System} (settings : s.settings = t.settings)
    (library : s.library = t.library) (cache : Cache Schema) (id : String) :
    s.attemptId cache id = t.attemptId cache id := by
  simp only [attemptId, attempt, settings, library]

theorem load_schema_attempted (idle : s.cache.Idle) {id : String}
    (absent : s.cache.get? id = none) :
    (s.load id).2.map (·.schema) = (s.attemptId s.cache id).outcome.map (·.1) := by
  rw [load_attempted idle absent]
  cases (s.attemptId s.cache id).outcome with
  | error e => rfl
  | ok r => rfl

/-- What a load gives does not depend on what was loaded, compiled or invalidated before: it is the
same error or the same schema as on a fresh system, whatever the schemas import. -/
theorem load_independent {settings : Settings} (strict : settings.allowTransitive = false)
    (authorities : List Authority) (cs : List Call) (id : String) :
    (((fresh settings authorities).calls cs).load id).2.map (·.schema) =
      ((fresh settings authorities).load id).2.map (·.schema) := by
  have idle := idle_fresh settings authorities
  obtain ⟨known, covered⟩ := covered_calls strict authorities cs
  have policy := settings_calls idle cs
  have library := library_calls idle cs
  have idle' := idle_calls idle cs
  rw [load_schema_attempted idle (Cache.get?_empty id), ← attemptId_system policy library]
  generalize (fresh settings authorities).calls cs = s at covered policy idle'
  have strict' : s.settings.allowTransitive = false := by
    rw [policy]
    exact strict
  have nothing : ∀ key σ, (Cache.empty : Cache Schema).get? key = some σ → known key = some σ := by
    intro key σ found
    cases found
  cases found : s.cache.get? id with
  | some σ =>
    obtain ⟨build, answer⟩ := load_cached idle' found
    rw [answer]
    exact (attempt_known covered.catalog nothing (covered.cached id σ found)).symm
  | none =>
    rw [load_schema_attempted idle' found]
    unfold attemptId
    cases document : s.library.document id with
    | error e => rfl
    | ok root =>
      refine attempt_covered strict' covered.catalog covered.cached nothing ?_
      intro key named
      exact Option.some.inj ((document_id document).symm.trans named) ▸ document

/-- A schema that is loaded again after it was imported, cached and dropped. -/
theorem load_independent_small :
    Settings.standard.allowTransitive = false ∧
      ((smallSystem.calls
          [.compileValues importingValues, .load "b.isl", .invalidate "b.isl"]).load "b.isl").2.map
          (·.schema) = .ok declaringSchema := by
  refine ⟨rfl, (load_independent rfl _ _ "b.isl").trans ?_⟩
  have gathered : Universe.gather smallSystem.library smallSystem.cache.get? declaringDocument =
      .ok (.ofRoot declaringDocument) := Universe.gather_eq (.done _)
  have document : smallSystem.library.document "b.isl" = .ok declaringDocument := rfl
  have nobody : Settings.members declaringDocument (.ofRoot declaringDocument) = [] := by
    have listed : ((Universe.ofRoot declaringDocument).pending.entries.filter fun e =>
        declaringDocument.id != some e.1) = [] := rfl
    simp only [Settings.members, listed, List.mergeSort_nil]
  have outcome := attemptId_eq_ok_iff.2 ⟨declaringDocument, document,
    attempt_eq_ok_iff.2 ⟨_, gathered, compile_eq_ok_iff.2 ⟨by rw [nobody]; rfl, rfl⟩⟩⟩
  rw [load_schema_attempted (idle_fresh _ _) rfl]
  exact congrArg (Except.map _) outcome

end Isl.System
