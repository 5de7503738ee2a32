import Isl.Proofs.System.Faithful
import Isl.Proofs.System.Coherence
import Isl.Proofs.System.References
/-!
# Schemas that were compiled before

A strict system has at any time a catalog of schemas that it has compiled, whether the cache still
holds them or not. The catalog has whatever its schemas import, and compiling one of its documents
again, in any world that is faithful to the library, gives the schema that it has.

* `Catalog`: the invariant of such a collection;
* `Loads.catalog`: a load that succeeds extends it by what it compiled;
* `System.covered_calls`: after any calls on a fresh system, a catalog covers the cache.
-/
namespace Isl

/-- Schemas by id that know what the library lets them know, with all that they import, and that
come out of their documents in every world that is faithful to the library. -/
structure Catalog (settings : Settings) (lib : Library) (known : String → Option Schema) :
    Prop where
  bound : ∀ id σ, known id = some σ → σ.Bound lib id
  closed : ∀ id σ, known id = some σ → ∀ i ∈ σ.document.importIds, ∃ τ, known i = some τ
  runs : ∀ id σ, known id = some σ → ∀ u : Universe,
    (∀ i ∈ σ.document.importIds, u.Faithful lib i) →
      (settings.compilation u σ.document).run = .ok σ

theorem catalog_empty (settings : Settings) (lib : Library) :
    Catalog settings lib fun _ => none := by
  refine ⟨?_, ?_, ?_⟩
  · intro id σ known
    cases known
  · intro id σ known
    cases known
  · intro id σ known
    cases known

/-- What a strict compilation makes of a document of the library knows what the library lets it
know. -/
theorem Settings.bound_of_run {settings : Settings} (strict : settings.allowTransitive = false)
    {lib : Library} {world : Universe} (stocked : world.Stocked lib) {id : String}
    {d : SchemaDocument} (read : world.Reads id d) (named : d.id = some id) {σ : Schema}
    (ran : (settings.compilation world d).run = .ok σ) : σ.Bound lib id := by
  have document := stocked.pending id d read.2
  have same : σ.document = d := Compilation.document_of_run ran
  have part := Universe.contains_iff.2 (.inl ⟨d, read.2⟩)
  refine ⟨by rw [Schema.id?, same, named], by rw [same, document], ?_⟩
  intro name
  constructor
  · rintro ⟨origin, found⟩
    cases own : d.declared? name with
    | some t => exact .declared document own
    | none =>
      have free : σ.declared? name = none := by rw [Schema.declared?, same, own]
      simp only [Schema.origin?, free, Option.map_eq_some_iff] at found
      obtain ⟨target, bound, -⟩ := found
      cases Compilation.run_binds ran bound with
      | @wildcard other t header declared =>
        have there : world.contains other = true := stocked.imported read header
        obtain ⟨e, first, document', own'⟩ :=
          (stocked.declares_iff there).1 ⟨t, declared, rfl⟩
        exact .wildcard document header document' own'
      | @single other typeName newName origin header visible =>
        have there : world.contains other = true := stocked.imported read header
        have found := (Compilation.exported_eq_ok_iff.1 visible).1
        have knows := ((stocked.faithful there).knows typeName).1 ⟨origin, found⟩
        exact .single document header knows
      | demanded header far visible =>
        obtain ⟨-, near⟩ := Compilation.exported_strict strict visible
        rw [far] at near
        cases near
  · intro knows
    have known := stocked.knows_of_library knows part
    exact Compilation.run_origin ran read known

namespace System

variable {s : System} {c : Call} {root d : SchemaDocument} {world : Universe} {σ τ : Schema}
  {members : List Schema} {id : String} {known : String → Option Schema}

/-- Every cached schema is in the catalog. -/
structure Covered (s : System) (known : String → Option Schema) : Prop where
  catalog : Catalog s.settings s.library known
  cached : ∀ key σ, s.cache.get? key = some σ → known key = some σ

theorem Loads.stocked (h : s.Loads c root world σ members) (covered : s.Covered known) :
    world.Stocked s.library := by
  refine Universe.stocked_gather h.gathered ?_ ?_
  · intro id named
    exact h.document (h.drawn.root id named)
  · intro id τ found
    exact covered.catalog.bound id τ (covered.cached id τ found)

/-- The catalog with the documents that were read and compiled in a load. -/
def extend (settings : Settings) (world : Universe) (known : String → Option Schema)
    (id : String) : Option Schema :=
  (known id).or
    ((world.pending.find? id).bind fun d => (settings.compilation world d).run.toOption)

theorem extend_known (settings : Settings) (world : Universe) (h : known id = some σ) :
    extend settings world known id = some σ := by
  simp [extend, h]

/-- What is new in the catalog was read and compiled. -/
theorem extend_cases {settings : Settings} (h : extend settings world known id = some σ) :
    known id = some σ ∨ ∃ d, world.pending.find? id = some d ∧
      (settings.compilation world d).run = .ok σ := by
  rcases Option.or_eq_some_iff.1 h with old | ⟨-, new⟩
  · exact .inl old
  · obtain ⟨d, found, ran⟩ := Option.bind_eq_some_iff.1 new
    refine .inr ⟨d, found, ?_⟩
    cases result : (settings.compilation world d).run with
    | error e => simp [result, Except.toOption] at ran
    | ok τ =>
      simp only [result, Except.toOption, Option.some.injEq] at ran
      exact congrArg Except.ok ran

theorem Loads.extend_contains (h : s.Loads c root world σ members) (covered : s.Covered known)
    (part : world.contains id = true) : ∃ τ, extend s.settings world known id = some τ := by
  rcases Universe.contains_iff.1 part with ⟨d, found⟩ | ⟨τ, held⟩
  · obtain ⟨τ, -, ran⟩ := h.compiled_of_read found
    cases old : known id with
    | some υ => exact ⟨υ, extend_known s.settings world old⟩
    | none => exact ⟨τ, by simp [extend, old, found, ran, Except.toOption]⟩
  · exact ⟨τ, extend_known s.settings world (covered.cached id τ (h.held held))⟩

/-- A load that succeeds extends the catalog by what it compiled. -/
theorem Loads.catalog (h : s.Loads c root world σ members)
    (strict : s.settings.allowTransitive = false) (covered : s.Covered known) :
    Catalog s.settings s.library (extend s.settings world known) := by
  have stocked := h.stocked covered
  refine ⟨?_, ?_, ?_⟩
  · intro id τ found
    obtain old | ⟨d, pending, ran⟩ := extend_cases found
    · exact covered.catalog.bound id τ old
    · have named := document_id (h.document pending)
      exact Settings.bound_of_run strict stocked (stocked.reads pending) named ran
  · intro id τ found i mem
    obtain old | ⟨d, pending, ran⟩ := extend_cases found
    · obtain ⟨υ, there⟩ := covered.catalog.closed id τ old i mem
      exact ⟨υ, extend_known s.settings world there⟩
    · have same : τ.document = d := Compilation.document_of_run ran
      exact h.extend_contains covered (stocked.closed id d pending i (same ▸ mem))
  · intro id τ found u faithful
    obtain old | ⟨d, pending, ran⟩ := extend_cases found
    · exact covered.catalog.runs id τ old u faithful
    · have same : τ.document = d := Compilation.document_of_run ran
      rw [same] at faithful ⊢
      have agree : ∀ i ∈ d.importIds, world.Agrees u i := by
        intro i mem
        exact (stocked.faithful (stocked.closed id d pending i mem)).agrees (faithful i mem)
      rw [← ran]
      exact Compilation.run_congr (c := s.settings.compilation world d) strict agree

/-- A schema that was compiled in the load is the one that the extended catalog has. -/
theorem Loads.extend_compiled (h : s.Loads c root world σ members) (covered : s.Covered known)
    (mem : τ ∈ s.compiled c) (named : τ.id? = some id) :
    extend s.settings world known id = some τ := by
  have stocked := h.stocked covered
  obtain ⟨d, ran, mine⟩ := h.run mem
  have same : τ.document = d := Compilation.document_of_run ran
  have pending : world.pending.find? id = some d := by
    rw [Schema.id?, same] at named
    rcases mine with rfl | ⟨key, found⟩
    · exact h.drawn.root id named
    · obtain rfl := Option.some.inj ((document_id (h.document found)).symm.trans named)
      exact found
  cases old : known id with
  | none => simp [extend, old, pending, ran, Except.toOption]
  | some υ =>
    have bound := covered.catalog.bound id υ old
    have document : υ.document = d := by
      have there := bound.document
      rw [h.document pending] at there
      exact (Except.ok.inj there).symm
    have again := covered.catalog.runs id υ old world fun i hi =>
      stocked.faithful (stocked.closed id d pending i (document ▸ hi))
    rw [document, ran] at again
    cases again
    exact extend_known s.settings world old

/-- Each call leaves a cache that a catalog covers. -/
theorem covered_call (idle : s.cache.Idle) (strict : s.settings.allowTransitive = false)
    (covered : s.Covered known) (c : Call) : ∃ known', (s.call c).Covered known' := by
  have settings := settings_call idle c
  have library := library_call idle c
  by_cases nothing : s.compiled c = []
  · refine ⟨known, by rw [settings, library]; exact covered.catalog, ?_⟩
    intro key τ found
    obtain before | ⟨mem, -⟩ := get?_call idle found
    · exact covered.cached key τ before
    · rw [nothing] at mem
      cases mem
  · obtain ⟨υ, mem⟩ := List.exists_mem_of_ne_nil _ nothing
    obtain ⟨root, world, σ, members, loads⟩ := loads_of_compiled mem
    refine ⟨extend s.settings world known, ?_, ?_⟩
    · rw [settings, library]
      exact loads.catalog strict covered
    · intro key τ found
      obtain before | ⟨mem, named⟩ := get?_call idle found
      · exact extend_known s.settings world (covered.cached key τ before)
      · exact loads.extend_compiled covered mem named

theorem covered_fresh (settings : Settings) (authorities : List Authority) :
    (fresh settings authorities).Covered fun _ => none := by
  refine ⟨catalog_empty _ _, ?_⟩
  intro key σ found
  cases found

/-- Whatever was called before, a catalog covers the cache. -/
theorem covered_calls {settings : Settings} (strict : settings.allowTransitive = false)
    (authorities : List Authority) (cs : List Call) :
    ∃ known, ((fresh settings authorities).calls cs).Covered known := by
  refine (calls_invariant
    (P := fun t => t.settings.allowTransitive = false ∧ ∃ known, t.Covered known) ?_
    (idle_fresh settings authorities) ⟨strict, _, covered_fresh settings authorities⟩ cs).2
  rintro s c idle ⟨strict, known, covered⟩
  exact ⟨by rw [settings_call idle c, strict], covered_call idle strict covered c⟩

end System
end Isl
