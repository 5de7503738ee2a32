import Isl.Proofs.System.Load
import Isl.Proofs.System.References
/-!
# The cache and the library

A system that starts without schemas only ever caches schemas under their own ids, made from the
documents that the library has for these ids. So whatever a load finds in a schema that takes part
in it, cached or read, is in the document of the library.

* `System.Coherent`, `coherent_calls`: the invariant, after any calls on a fresh system;
* `Loads.declared`: the types that a schema of a load declares are in its document;
* `Loads.origin_near`: so is a declaration that is not found through imports.
-/
namespace Isl.System

/-- Cached schemas have the ids that they are cached under, and the documents of the library. -/
structure Coherent (s : System) : Prop where
  named : ∀ key σ, s.cache.get? key = some σ → σ.id? = some key
  document : ∀ key σ, s.cache.get? key = some σ → s.library.document key = .ok σ.document

theorem coherent_fresh (settings : Settings) (authorities : List Authority) :
    (fresh settings authorities).Coherent := by
  refine ⟨?_, ?_⟩
  · intro key σ found
    cases found
  · intro key σ found
    cases found

variable {s : System} {c : Call} {root d : SchemaDocument} {world : Universe} {σ τ : Schema}
  {members : List Schema} {id key name : String}

/-- A compiled schema with an id has the document of that id. -/
theorem Loads.document_of_compiled (h : s.Loads c root world σ members) (mem : τ ∈ s.compiled c)
    (named : τ.id? = some key) : s.library.document key = .ok τ.document := by
  obtain ⟨d, ran, mine⟩ := h.run mem
  have same : τ.document = d := Compilation.document_of_run ran
  rw [Schema.id?, same] at named
  rw [same]
  rcases mine with rfl | ⟨id, found⟩
  · rcases h.source with anonymous | ⟨id, document⟩
    · rw [anonymous] at named
      cases named
    · obtain rfl := Option.some.inj ((document_id document).symm.trans named)
      exact document
  · have document := h.document found
    obtain rfl := Option.some.inj ((document_id document).symm.trans named)
    exact document

theorem coherent_call (idle : s.cache.Idle) (coherent : s.Coherent) (c : Call) :
    (s.call c).Coherent := by
  refine ⟨?_, ?_⟩
  · intro key τ found
    obtain before | ⟨-, named⟩ := get?_call idle found
    · exact coherent.named key τ before
    · exact named
  · intro key τ found
    rw [library_call idle]
    obtain before | ⟨mem, named⟩ := get?_call idle found
    · exact coherent.document key τ before
    · obtain ⟨root, world, σ, members, loads⟩ := loads_of_compiled mem
      exact loads.document_of_compiled mem named

theorem idle_fresh (settings : Settings) (authorities : List Authority) :
    (fresh settings authorities).cache.Idle := Cache.idle_empty

theorem coherent_calls (settings : Settings) (authorities : List Authority) (cs : List Call) :
    ((fresh settings authorities).calls cs).Coherent :=
  calls_invariant (P := Coherent) (fun _ c idle coherent => coherent_call idle coherent c)
    (idle_fresh settings authorities) (coherent_fresh settings authorities) cs

/-! ## What a load finds -/

/-- A type that a schema of a load declares is in the document of the library. -/
theorem Loads.declared (h : s.Loads c root world σ members) (coherent : s.Coherent) {t : NamedType}
    (mem : t ∈ world.declaredTypes id) : ∃ d, s.library.document id = .ok d ∧ t ∈ d.types := by
  cases held : world.cached.find? id with
  | some τ =>
    rw [Universe.declaredTypes_cached held] at mem
    exact ⟨τ.document, coherent.document id τ (h.held held), mem⟩
  | none =>
    cases read : world.pending.find? id with
    | some d =>
      rw [Universe.declaredTypes_read ⟨held, read⟩] at mem
      exact ⟨d, h.document read, mem⟩
    | none => simp [Universe.declaredTypes, held, read] at mem

/-- A declaration that is not found through imports is in the document of the library. -/
theorem Loads.origin_near (h : s.Loads c root world σ members) (coherent : s.Coherent)
    {origin : Origin} (found : world.origin? id name = some origin)
    (near : origin.transitive = false) :
    ∃ d t, s.library.document id = .ok d ∧ d.declared? name = some t ∧
      origin = ⟨id, t, false⟩ := by
  obtain ⟨τ, t, held, own, rfl⟩ | ⟨d, t, read, own, rfl⟩ := Universe.origin?_near found near
  · have there := h.held held
    refine ⟨τ.document, t, coherent.document id τ there, own, ?_⟩
    rw [coherent.named id τ there, Option.getD_some]
  · exact ⟨d, t, h.document read.2, own, rfl⟩

end Isl.System

/-!
## Strict imports

When types may not be imported from schemas that only import them, a schema has a name in scope only
if one of its header imports names the very schema that declares the type.

* `SchemaDocument.Imports`: a header import of a type from the schema that declares it;
* `System.imports_strict`: the names and imports of every schema that was ever compiled.
-/

namespace Isl

/-- A header import that makes a type of the schema that declares it available under a name. -/
inductive SchemaDocument.Imports (d : SchemaDocument) (schemaId typeName : String) :
    String → Prop where
  | wildcard (header : .wildcard schemaId ∈ d.imports) : Imports d schemaId typeName typeName
  | single {newName : Option String} (header : .single schemaId typeName newName ∈ d.imports) :
      Imports d schemaId typeName (newName.getD typeName)

namespace System

variable {s : System} {c : Call} {root : SchemaDocument} {world : Universe} {σ τ : Schema}
  {members : List Schema}

theorem Loads.bound_strict (h : s.Loads c root world σ members) (coherent : s.Coherent)
    (strict : s.settings.allowTransitive = false) {d : SchemaDocument} {name : String}
    {target : ImportedType} (bound : (s.settings.compilation world d).Binds name target) :
    (∃ e, s.library.document target.schemaId = .ok e ∧ target.declaration ∈ e.types) ∧
      d.Imports target.schemaId target.declaration.name name := by
  cases bound with
  | @wildcard id t header declared => exact ⟨h.declared coherent declared, .wildcard header⟩
  | @single id typeName newName origin header visible =>
    obtain ⟨found, near⟩ := Compilation.exported_strict strict visible
    obtain ⟨e, t, document, own, rfl⟩ := h.origin_near coherent found near
    obtain ⟨mem, rfl⟩ := declared?_eq_some own
    exact ⟨⟨e, document, mem⟩, .single header⟩
  | demanded header far visible =>
    obtain ⟨-, near⟩ := Compilation.exported_strict strict visible
    rw [far] at near
    cases near

/-- Whatever a system has done before, and whichever schema a call compiles, its answer or another
one: with transitive imports disallowed, a name in scope of the schema stands for a type that
another schema declares itself, and the header imports that type from that schema. An import in
place names a type that the schema of the given id declares itself. -/
theorem imports_strict {settings : Settings} (strict : settings.allowTransitive = false)
    {authorities : List Authority} {cs : List Call} {c : Call} {τ : Schema}
    (compiled : τ ∈ ((fresh settings authorities).calls cs).compiled c) :
    (∀ name target, τ.inScope.find? name = some target →
      (∃ d, settings.fetch authorities target.schemaId = .ok d ∧ target.declaration ∈ d.types) ∧
        τ.document.Imports target.schemaId target.declaration.name name) ∧
    ∀ id typeName n, τ.document.Holds (.imported id typeName n) →
      ∃ d, settings.fetch authorities id = .ok d ∧ ∃ t ∈ d.types, t.name = typeName := by
  have idle := idle_fresh settings authorities
  have coherent := coherent_calls settings authorities cs
  have answers : ((fresh settings authorities).calls cs).library.document =
      settings.fetch authorities := congrArg Library.document (library_calls idle cs)
  have policy : ((fresh settings authorities).calls cs).settings.allowTransitive = false := by
    rw [settings_calls idle cs]
    exact strict
  obtain ⟨root, world, σ, members, loads⟩ := loads_of_compiled compiled
  obtain ⟨d, ran, -⟩ := loads.run compiled
  obtain rfl : d = τ.document := (Compilation.document_of_run ran).symm
  rw [← answers]
  constructor
  · intro name target found
    exact loads.bound_strict coherent policy (Compilation.run_binds ran found)
  · intro id typeName n holds
    have mentioned := SchemaDocument.mem_mentions_iff.2 ⟨_, holds, rfl⟩
    obtain ⟨-, ⟨origin, visible⟩, -⟩ := Compilation.run_settled ran mentioned
    obtain ⟨found, near⟩ := Compilation.exported_strict policy visible
    obtain ⟨e, t, document, own, -⟩ := loads.origin_near coherent found near
    exact ⟨e, document, t, declared?_eq_some own⟩

/-- The name that the header brings is imported from the schema that declares the type. -/
theorem imports_strict_small :
    importingSchema ∈ (smallSystem.calls []).compiled (.compileValues importingValues) ∧
      (∃ d, smallSystem.library.document "b.isl" = .ok d ∧ ⟨"t", ⟨[], []⟩⟩ ∈ d.types) ∧
      importingSchema.document.Imports "b.isl" "t" "t" := by
  have compiled : importingSchema ∈
      (smallSystem.calls []).compiled (.compileValues importingValues) := by
    rw [calls, List.foldl_nil, compiled_small]
    exact List.mem_cons_self ..
  have strict : Settings.standard.allowTransitive = false := rfl
  obtain ⟨names, -⟩ := imports_strict strict compiled
  exact ⟨compiled, names "t" ⟨"b.isl", ⟨"t", ⟨[], []⟩⟩⟩ rfl⟩

end System
end Isl
