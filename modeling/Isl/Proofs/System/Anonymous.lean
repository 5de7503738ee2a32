import Isl.Proofs.System.Reach
/-!
# A document with and without an id

A document that is compiled without an id is read a second time, as one of the schemas that it
imports, if its imports lead back to it. When it is loaded by its id, it is its own root and is not
read again. An import of itself is refused in both cases: of the root when it has the id, and of the
schema that is read a second time when it has not.

* `Compilation.run_under`: a compilation depends on the id of its document only if that is imported;
* `Universe.gather_ok_iff`: a walk succeeds exactly if all that its root reaches can be read;
* `Universe.reaches_withId`, `Universe.includes_withId`: both walks read the same schemas;
* `System.compileValues_iff_load`: both succeed, or none.
-/
namespace Isl

/-! ## A compilation under another id -/

namespace Compilation

variable {c : Compilation} {b b' : Bindings} {id? : Option String} {σ : Schema}

/-- The same compilation with another id, or none, for its document. -/
def under (c : Compilation) (id? : Option String) : Compilation :=
  { c with document := { c.document with id := id? } }

theorem bindAll_under (id : String) (b : Bindings) (ts : List NamedType) :
    (c.under id?).bindAll id b ts = c.bindAll id b ts := by
  induction ts generalizing b with
  | nil => rfl
  | cons t ts ih =>
    simp only [bindAll, ih]
    rfl

theorem importOne_under {i : HeaderImport} (other : id? ≠ some i.schemaId)
    (h : c.importOne b i = .ok b') : (c.under id?).importOne b i = .ok b' := by
  cases i with
  | wildcard id =>
    obtain ⟨-, bound, all, made⟩ := importOne_wildcard_eq_ok_iff.1 h
    exact importOne_wildcard_eq_ok_iff.2 ⟨other, bound, (bindAll_under ..).trans all, made⟩
  | single id typeName newName =>
    obtain ⟨-, origin, visible, bound, one, made⟩ := importOne_single_eq_ok_iff.1 h
    exact importOne_single_eq_ok_iff.2 ⟨other, origin, visible, bound, one, made⟩

theorem importAll_under {is : List HeaderImport} (others : ∀ i ∈ is, id? ≠ some i.schemaId)
    (h : c.importAll b is = .ok b') : (c.under id?).importAll b is = .ok b' := by
  induction is generalizing b with
  | nil => exact h
  | cons i is ih =>
    obtain ⟨bound, first, rest⟩ := importAll_cons_eq_ok_iff.1 h
    exact importAll_cons_eq_ok_iff.2 ⟨bound,
      importOne_under (others i (List.mem_cons_self ..)) first,
      ih (fun j mem => others j (List.mem_cons_of_mem _ mem)) rest⟩

theorem checkMention_under {m : Mention} {unresolved unresolved' : NameSet}
    (other : ∀ id typeName, m = .imported id typeName → id? ≠ some id)
    (h : c.checkMention b unresolved m = .ok (b', unresolved')) :
    (c.under id?).checkMention b unresolved m = .ok (b', unresolved') := by
  cases m with
  | name name => exact h
  | imported id typeName =>
    obtain ⟨-, visible, made⟩ := checkMention_imported_eq_ok_iff.1 h
    exact checkMention_imported_eq_ok_iff.2 ⟨other id typeName rfl, visible, made⟩

theorem checkMentions_under {ms : List Mention} {unresolved unresolved' : NameSet}
    (others : ∀ id typeName, .imported id typeName ∈ ms → id? ≠ some id)
    (h : c.checkMentions b unresolved ms = .ok (b', unresolved')) :
    (c.under id?).checkMentions b unresolved ms = .ok (b', unresolved') := by
  induction ms generalizing b unresolved with
  | nil => exact h
  | cons m ms ih =>
    obtain ⟨bound, left, first, rest⟩ := checkMentions_cons_eq_ok_iff.1 h
    refine checkMentions_cons_eq_ok_iff.2 ⟨bound, left, checkMention_under ?_ first, ih ?_ rest⟩
    · rintro id typeName rfl
      exact others id typeName (List.mem_cons_self ..)
    · exact fun id typeName mem => others id typeName (List.mem_cons_of_mem _ mem)

/-- A document that compiles does so under any id that it does not import from. -/
theorem run_under (h : c.run = .ok σ) (id? : Option String)
    (others : ∀ id ∈ c.document.importIds, id? ≠ some id) :
    ∃ τ, (c.under id?).run = .ok τ := by
  obtain ⟨declarations, ends, b₀, b, imported, checked, -⟩ := run_eq_ok_iff.1 h
  refine ⟨_, run_eq_ok_iff.2 ⟨declarations, ends, b₀, b, importAll_under ?_ imported,
    checkMentions_under ?_ checked, rfl⟩⟩
  · exact fun i mem => others _ (SchemaDocument.schemaId_mem_importIds mem)
  · intro id typeName mem
    obtain ⟨a, holds, mentioned⟩ := SchemaDocument.mem_mentions_iff.1 mem
    cases a with
    | imported =>
      cases mentioned
      exact others id (SchemaDocument.mem_importIds holds)
    | reference => cases mentioned
    | inline => cases mentioned

end Compilation

/-! ## The walk -/

namespace Universe

variable {lib : Library} {cached : String → Option Schema} {root : SchemaDocument}
  {u v : Universe} {todo : List Quest} {r : Except GatherFault Universe} {id : String}

/-- A walk that fails has come upon a schema that cannot be read. -/
theorem Gathers.missing (h : Gathers lib cached u todo r) {fault : GatherFault}
    (result : r = .error fault) (rooted : ∀ id, root.id = some id → u.contains id = true)
    (ahead : ∀ q ∈ todo, lib.Reaches cached root q.id) :
    lib.Reaches cached root fault.quest.id ∧ root.id ≠ some fault.quest.id ∧
      cached fault.quest.id = none ∧ lib.document fault.quest.id = .error fault.error := by
  have foreign : ∀ {u : Universe} {q : Quest}, (∀ id, root.id = some id → u.contains id = true) →
      u.contains q.id = false → root.id ≠ some q.id := by
    intro u q rooted new named
    rw [rooted q.id named] at new
    cases new
  induction h with
  | done u => cases result
  | seen _ _ ih => exact ih result rooted fun q mem => ahead q (List.mem_cons_of_mem _ mem)
  | held new found _ ih =>
    refine ih result ?_ fun p mem => ahead p (List.mem_cons_of_mem _ mem)
    intro key named
    simp [contains_addCached, rooted key named]
  | failed new free missing =>
    cases result
    exact ⟨ahead _ (List.mem_cons_self ..), foreign rooted new, free, missing⟩
  | @read u q rest r d new free found _ ih =>
    refine ih result ?_ ?_
    · intro key named
      simp [contains_addPending, rooted key named]
    · intro p mem
      rcases List.mem_append.1 mem with own | left
      · have needs := SchemaDocument.mem_importIds_iff.1 (mem_questsOf own)
        exact .onward (ahead q (List.mem_cons_self ..)) (foreign rooted new) free found needs
      · exact ahead p (List.mem_cons_of_mem _ left)

theorem missing_gather {fault : GatherFault} (h : gather lib cached root = .error fault) :
    lib.Reaches cached root fault.quest.id ∧ root.id ≠ some fault.quest.id ∧
      cached fault.quest.id = none ∧ lib.document fault.quest.id = .error fault.error :=
  (gathers_gather lib cached root).missing h (fun _ named => contains_ofRoot.2 named)
    fun _ mem => .direct (SchemaDocument.mem_importIds_iff.1 (mem_questsOf mem))

/-- A walk succeeds exactly if all that its root reaches can be read. -/
theorem gather_ok_iff :
    (∃ world, gather lib cached root = .ok world) ↔
      ∀ id, lib.Reaches cached root id → root.id ≠ some id → cached id = none →
        ∃ d, lib.document id = .ok d := by
  constructor
  · rintro ⟨world, gathered⟩ id reached foreign free
    rcases contains_iff.1 (contains_of_reaches gathered reached) with ⟨d, found⟩ | ⟨σ, held⟩
    · obtain own | ⟨-, -, -, document⟩ := (pending_gather_iff gathered).1 found
      · exact absurd own.1 foreign
      · exact ⟨d, document⟩
    · rw [(drawn_gather gathered).cached id σ held] at free
      cases free
  · intro readable
    cases gathered : gather lib cached root with
    | ok world => exact ⟨world, rfl⟩
    | error fault =>
      obtain ⟨reached, foreign, free, missing⟩ := missing_gather gathered
      obtain ⟨d, found⟩ := readable _ reached foreign free
      cases missing.symm.trans found

theorem needs_withId {other : String} : (root.withId id).Needs other ↔ root.Needs other := by
  rw [← SchemaDocument.mem_importIds_iff, ← SchemaDocument.mem_importIds_iff,
    SchemaDocument.importIds_withId]

/-- With its id or without one, a root reaches the same schemas. -/
theorem reaches_withId (anonymous : root.id = none)
    (document : lib.document id = .ok (root.withId id)) {other : String} :
    lib.Reaches cached (root.withId id) other ↔ lib.Reaches cached root other := by
  constructor
  · intro reached
    induction reached with
    | direct needs => exact .direct (needs_withId.1 needs)
    | onward _ _ free found needs ih => exact .onward ih (by simp [anonymous]) free found needs
  · intro reached
    induction reached with
    | direct needs => exact .direct (needs_withId.2 needs)
    | @onward key other d _ _ free found needs ih =>
      by_cases own : id = key
      · -- What is read a second time needs what the root needs.
        subst own
        obtain rfl := Except.ok.inj (document.symm.trans found)
        exact .direct needs
      · exact .onward ih (by simpa [SchemaDocument.withId] using own) free found needs

/-- The load by an id has all that the walk without one has. -/
theorem includes_withId (anonymous : root.id = none)
    (document : lib.document id = .ok (root.withId id)) (free : cached id = none)
    (hu : gather lib cached root = .ok u) (hv : gather lib cached (root.withId id) = .ok v) :
    v.Includes u := by
  have named : (root.withId id).id = some id := rfl
  have reached : ∀ {key}, u.contains key = true → lib.Reaches cached root key := by
    intro key part
    refine ((contains_gather_iff hu).1 part).resolve_left ?_
    simp [anonymous]
  refine ⟨fun key part => Option.ext fun σ => ?_, fun key part => Option.ext fun d => ?_⟩
  · rw [cached_gather_iff hu, cached_gather_iff hv, reaches_withId anonymous document, anonymous,
      named]
    constructor
    · rintro ⟨there, -, held⟩
      exact ⟨there, nofun, held⟩
    · rintro ⟨there, -, held⟩
      refine ⟨there, ?_, held⟩
      rintro ⟨⟩
      cases free.symm.trans held
  · rw [pending_gather_iff hu, pending_gather_iff hv, reaches_withId anonymous document, anonymous,
      named]
    constructor
    · rintro (⟨⟨⟩, rfl⟩ | ⟨there, -, found⟩)
      · exact .inr ⟨reached part, nofun, free, document⟩
      · exact .inr ⟨there, nofun, found⟩
    · rintro (⟨⟨⟩, -⟩ | ⟨there, -, unheld, found⟩)
      by_cases own : id = key
      · subst own
        exact .inl ⟨rfl, Except.ok.inj (found.symm.trans document)⟩
      · exact .inr ⟨there, by simpa using own, unheld, found⟩

end Universe

/-! ## Both ways -/

theorem SchemaError.mapM_ok_iff {α β : Type} {f : α → Except SchemaError β} {as : List α} :
    (∃ bs, as.mapM f = .ok bs) ↔ ∀ a ∈ as, ∃ b, f a = .ok b := by
  induction as with
  | nil => simp [pure, Except.pure]
  | cons a as ih =>
    simp only [List.mapM_cons, SchemaError.bind_eq_ok_iff, pure, Except.pure, Except.ok.injEq,
      List.forall_mem_cons, ← ih]
    constructor
    · rintro ⟨_, b, first, bs, rest, -⟩
      exact ⟨⟨b, first⟩, bs, rest⟩
    · rintro ⟨⟨b, first⟩, bs, rest⟩
      exact ⟨_, b, first, bs, rest, rfl⟩

namespace System

variable {s : System} {cache : Cache Schema} {root : SchemaDocument} {id : String}

/-- The document compiles in this world. -/
def Compiles (settings : Settings) (world : Universe) (d : SchemaDocument) : Prop :=
  ∃ σ, (settings.compilation world d).run = .ok σ

/-- The members of a load compile exactly if everything that was read but the root does. -/
theorem members_ok_iff {settings : Settings} {world : Universe} {lib : Library}
    {cached : String → Option Schema} (drawn : world.Drawn lib cached root) :
    (∃ members, (Settings.members root world).mapM
        (fun m => settings.compileMember world m.1 m.2) = .ok members) ↔
      ∀ id d, root.id ≠ some id → world.pending.find? id = some d → Compiles settings world d := by
  rw [SchemaError.mapM_ok_iff]
  constructor
  · intro each id d foreign found
    have listed := Settings.mem_members.2 ⟨Table.mem_entries_of_find? found, foreign⟩
    obtain ⟨τ, made⟩ := each _ listed
    exact ⟨τ, Settings.compileMember_eq_ok_iff.1 made⟩
  · rintro each ⟨id, d⟩ listed
    obtain ⟨entry, foreign⟩ := Settings.mem_members.1 listed
    have found := Table.find?_of_mem_entries drawn.ascending entry
    obtain ⟨τ, made⟩ := each id d foreign found
    exact ⟨τ, Settings.compileMember_eq_ok_iff.2 made⟩

/-- An attempt succeeds exactly if the walk does, and the root and what was read compile. -/
theorem attempt_ok_iff :
    (∃ r, (s.attempt cache root).outcome = .ok r) ↔
      ∃ world, Universe.gather s.library cache.get? root = .ok world ∧
        Compiles s.settings world root ∧
        ∀ id d, root.id ≠ some id → world.pending.find? id = some d →
          Compiles s.settings world d := by
  constructor
  · rintro ⟨⟨σ, members⟩, ended⟩
    obtain ⟨world, gathered, compiles⟩ := attempt_eq_ok_iff.1 ended
    obtain ⟨each, own⟩ := compile_eq_ok_iff.1 compiles
    have drawn := Universe.drawn_gather gathered
    exact ⟨world, gathered, ⟨σ, own⟩, (members_ok_iff drawn).1 ⟨members, each⟩⟩
  · rintro ⟨world, gathered, ⟨σ, own⟩, each⟩
    obtain ⟨members, all⟩ := (members_ok_iff (Universe.drawn_gather gathered)).2 each
    exact ⟨(σ, members), attempt_eq_ok_iff.2 ⟨world, gathered, compile_eq_ok_iff.2 ⟨all, own⟩⟩⟩

/-- The walk of the load succeeds exactly if the walk without the id does. -/
theorem gather_withId {lib : Library} {cached : String → Option Schema} (anonymous : root.id = none)
    (document : lib.document id = .ok (root.withId id)) :
    (∃ world, Universe.gather lib cached (root.withId id) = .ok world) ↔
      ∃ world, Universe.gather lib cached root = .ok world := by
  simp only [Universe.gather_ok_iff, Universe.reaches_withId anonymous document]
  constructor
  · intro readable key reached _ free
    by_cases own : id = key
    · exact own ▸ ⟨_, document⟩
    · exact readable key reached (by simpa [SchemaDocument.withId] using own) free
  · intro readable key reached _ free
    exact readable key reached (by simp [anonymous]) free

/-- What compiles without the id compiles with it, as long as nothing imports it that is not there:
an import of the id brings in the document that has it. -/
theorem compiles_withId {lib : Library} {cached : String → Option Schema} {u v : Universe}
    {settings : Settings} (anonymous : root.id = none)
    (document : lib.document id = .ok (root.withId id)) (free : cached id = none)
    (hu : Universe.gather lib cached root = .ok u)
    (hv : Universe.gather lib cached (root.withId id) = .ok v) :
    (Compiles settings u root ∧
        ∀ key d, u.pending.find? key = some d → Compiles settings u d) ↔
      Compiles settings v (root.withId id) ∧
        ∀ key d, id ≠ key → v.pending.find? key = some d → Compiles settings v d := by
  have includes := Universe.includes_withId anonymous document free hu hv
  obtain ⟨parts, whole⟩ := Universe.closed_gather hu
  have ascending := (Universe.drawn_gather hu).ascending
  have same : ∀ d : SchemaDocument, (∀ i ∈ d.importIds, u.contains i = true) →
      (Compiles settings v d ↔ Compiles settings u d) := by
    intro d parts
    rw [Compiles, Compiles, Universe.run_includes includes whole ascending settings parts]
  have sameRoot : Compiles settings v (root.withId id) ↔ Compiles settings u (root.withId id) :=
    same _ (by rwa [SchemaDocument.importIds_withId])
  have again : ∀ {d}, u.pending.find? id = some d → d = root.withId id := by
    intro d found
    obtain ⟨named, -⟩ | ⟨-, -, -, there⟩ := (Universe.pending_gather_iff hu).1 found
    · cases anonymous.symm.trans named
    · exact Except.ok.inj (there.symm.trans document)
  have elsewhere : ∀ {key d}, id ≠ key →
      (u.pending.find? key = some d ↔ v.pending.find? key = some d) := by
    intro key d other
    rw [Universe.pending_gather_iff hu, Universe.pending_gather_iff hv,
      Universe.reaches_withId anonymous document, anonymous]
    simp [SchemaDocument.withId, other]
  rw [sameRoot]
  constructor
  · rintro ⟨⟨σ, own⟩, each⟩
    refine ⟨?_, fun key d other found => ?_⟩
    · by_cases back : id ∈ root.importIds
      · have reached := ((Universe.contains_gather_iff hu).1 (parts id back)).resolve_left
          (by simp [anonymous])
        exact each id _ ((Universe.pending_gather_iff hu).2
          (.inr ⟨reached, by simp [anonymous], free, document⟩))
      · refine Compilation.run_under own (some id) ?_
        rintro key mem ⟨⟩
        exact back mem
    · have read := (elsewhere other).2 found
      exact (same d (whole key d read)).2 (each key d read)
  · rintro ⟨own, each⟩
    refine ⟨?_, fun key d read => ?_⟩
    · obtain ⟨σ, ran⟩ := own
      have bare : { root.withId id with id := none } = root := by
        rw [← anonymous]
        rfl
      have compiles := Compilation.run_under ran none nofun
      exact bare ▸ compiles
    · by_cases mine : id = key
      · subst mine
        exact again read ▸ own
      · exact (same d (whole key d read)).1 (each key d mine ((elsewhere mine).1 read))

/-- A document that an id leads to is compiled without the id exactly if it is with it. -/
theorem attempt_withId (anonymous : root.id = none)
    (document : s.library.document id = .ok (root.withId id)) (free : cache.get? id = none) :
    (∃ r, (s.attempt cache root).outcome = .ok r) ↔
      ∃ r, (s.attempt cache (root.withId id)).outcome = .ok r := by
  have members : ∀ world : Universe, (∀ key d, root.id ≠ some key →
      world.pending.find? key = some d → Compiles s.settings world d) ↔
        ∀ key d, world.pending.find? key = some d → Compiles s.settings world d := by
    simp [anonymous]
  have others : ∀ world : Universe, (∀ key d, (root.withId id).id ≠ some key →
      world.pending.find? key = some d → Compiles s.settings world d) ↔
        ∀ key d, id ≠ key → world.pending.find? key = some d → Compiles s.settings world d := by
    simp [SchemaDocument.withId]
  simp only [attempt_ok_iff, members, others]
  constructor
  · rintro ⟨u, hu, compiles⟩
    obtain ⟨v, hv⟩ := (gather_withId anonymous document).2 ⟨u, hu⟩
    exact ⟨v, hv, (compiles_withId anonymous document free hu hv).1 compiles⟩
  · rintro ⟨v, hv, compiles⟩
    obtain ⟨u, hu⟩ := (gather_withId anonymous document).1 ⟨v, hv⟩
    exact ⟨u, hu, (compiles_withId anonymous document free hu hv).2 compiles⟩

theorem load_ok_iff {d : SchemaDocument} (idle : s.cache.Idle) (free : s.cache.get? id = none)
    (document : s.library.document id = .ok d) :
    (∃ loaded, (s.load id).2 = .ok loaded) ↔ ∃ r, (s.attempt s.cache d).outcome = .ok r := by
  rw [load_attempted idle free]
  simp only [attemptId, document]
  cases (s.attempt s.cache d).outcome with
  | error e => simp [Except.map]
  | ok r => simp [Except.map]

/-- Values that an id leads to compile exactly if a load of the id succeeds. -/
theorem compileValues_iff_load {values : List Element} (idle : s.cache.Idle)
    (free : s.cache.get? id = none) (read : s.settings.read values = .ok root)
    (document : s.library.document id = .ok (root.withId id)) :
    (∃ σ, (s.compileValues values).2 = .ok σ) ↔ ∃ loaded, (s.load id).2 = .ok loaded := by
  have compiled : (∃ σ, (s.compileValues values).2 = .ok σ) ↔
      ∃ r, (s.attempt s.cache root).outcome = .ok r := by
    simp only [compileValues, read]
    cases (s.attempt s.cache root).outcome with
    | error e => simp [Except.map]
    | ok r => simp [Except.map]
  rw [compiled, load_ok_iff idle free document]
  exact attempt_withId (id_of_read read) document free

end System
end Isl
