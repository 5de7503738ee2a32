import Isl.Proofs.System.Binding
import Isl.Proofs.System.Load
import Isl.Proofs.System.Mentions
/-!
# References lead to types

A compiled schema has no reference that leads nowhere, whatever it was compiled against and whether
or not types may be imported from schemas that only import them.

* `Compilation.run_origin`: a schema that was compiled has an origin for all that its document knew;
* `System.references_lead`: the references and imports of every schema that a call compiles.
-/
namespace Isl

namespace Schema

variable {σ : Schema} {name : String}

theorem origin?_of_declared {t : NamedType} (own : σ.declared? name = some t) :
    σ.origin? name = some ⟨σ.id?.getD "", t, false⟩ := by
  simp only [origin?, own]

theorem origin?_of_bound {target : ImportedType} (bound : σ.inScope.find? name = some target) :
    ∃ origin, σ.origin? name = some origin := by
  cases own : σ.declared? name with
  | some t => exact ⟨_, origin?_of_declared own⟩
  | none =>
    refine ⟨⟨target.schemaId, target.declaration, true⟩, ?_⟩
    simp only [origin?, own, bound, Option.map_some]

theorem resolve?_of_origin {origin : Origin} (h : σ.origin? name = some origin) :
    ∃ definition, σ.resolve? name = some definition :=
  ⟨_, congrArg (Option.map _) h⟩

end Schema

namespace Compilation

variable {c : Compilation} {σ : Schema} {id name : String}

/-- A compiled schema has an origin for every name that its document was known to know. -/
theorem run_origin (h : c.run = .ok σ) (read : c.world.Reads id c.document)
    (known : c.world.Knows id name) : ∃ origin, σ.origin? name = some origin := by
  obtain ⟨t, own⟩ | ⟨other, header, t, declared, rfl⟩ |
    ⟨other, typeName, newName, header, rfl, -⟩ := known.cases_read read
  · exact ⟨_, Schema.origin?_of_declared (t := t) (by rwa [Schema.declared?, document_of_run h])⟩
  · obtain ⟨-, all⟩ := run_brings h header
    obtain ⟨target, bound, -⟩ := all t declared
    exact Schema.origin?_of_bound bound
  · obtain ⟨-, origin, -, target, bound, -⟩ := run_brings h header
    exact Schema.origin?_of_bound bound

/-- A name that a compilation knows is built in, or the compiled schema resolves it. -/
theorem run_resolve (h : c.run = .ok σ) (known : c.isKnown ⟨σ.imports, σ.inScope⟩ name = true) :
    c.vocabulary.isBuiltinType name = true ∨ ∃ definition, σ.resolve? name = some definition := by
  rcases isKnown_iff.1 known with builtin | declared | bound
  · exact .inl builtin
  · obtain ⟨t, own⟩ := Option.isSome_iff_exists.1 declared
    rw [← document_of_run h] at own
    exact .inr (Schema.resolve?_of_origin (Schema.origin?_of_declared own))
  · obtain ⟨target, bound⟩ := Table.contains_iff.1 bound
    obtain ⟨origin, found⟩ := Schema.origin?_of_bound bound
    exact .inr (Schema.resolve?_of_origin found)

end Compilation

namespace System

variable {s : System} {c : Call} {root : SchemaDocument} {world : Universe} {σ τ : Schema}
  {members : List Schema} {id name : String}

/-- Where a load found an origin, the schema of that id has one: it was compiled in the same load,
or the cache had it. -/
theorem Loads.origin (h : s.Loads c root world σ members) (part : world.contains id = true)
    {found : Origin} (visible : world.origin? id name = some found) :
    ∃ τ, (τ ∈ s.compiled c ∧ τ.id? = some id ∨ s.cache.get? id = some τ) ∧
      ∃ origin, τ.origin? name = some origin := by
  have known := Universe.origin?_isSome_iff.1 ⟨found, visible⟩
  rcases Universe.contains_iff.1 part with ⟨d, pending⟩ | ⟨τ, cached⟩
  · obtain ⟨τ, mem, ran⟩ := h.compiled_of_read pending
    have named : τ.id? = some id := by
      rw [Schema.id?, Compilation.document_of_run ran]
      exact document_id (h.document pending)
    exact ⟨τ, .inl ⟨mem, named⟩, Compilation.run_origin ran (h.reads pending) known⟩
  · exact ⟨τ, .inr (h.held cached), known.cases_cached cached⟩

/-- No schema that a call compiles has a dangling reference, and what the call answers is the first
of them. At any depth of the types that it declares, a reference is a built-in type or resolves to a
definition, and an import in place names another schema, which is recorded among the imports and has
an origin for the type. -/
theorem references_lead (compiled : τ ∈ s.compiled c) :
    (∀ name n, τ.document.Holds (.reference name n) →
      (s.settings.dialect.vocabulary τ.version).isBuiltinType name = true ∨
        ∃ definition, τ.resolve? name = some definition) ∧
    ∀ id typeName n, τ.document.Holds (.imported id typeName n) →
      τ.id? ≠ some id ∧ (∃ i, τ.findImport? id = some i) ∧
        ∃ other, (other ∈ s.compiled c ∧ other.id? = some id ∨ s.cache.get? id = some other) ∧
          ∃ origin, other.origin? typeName = some origin := by
  obtain ⟨root, world, σ, members, loads⟩ := loads_of_compiled compiled
  obtain ⟨d, ran, mine⟩ := loads.run compiled
  obtain rfl : d = τ.document := (Compilation.document_of_run ran).symm
  constructor
  · intro name n holds
    have mentioned := SchemaDocument.mem_mentions_iff.2 ⟨_, holds, rfl⟩
    exact Compilation.run_resolve ran (Compilation.run_settled ran mentioned)
  · intro id typeName n holds
    have mentioned := SchemaDocument.mem_mentions_iff.2 ⟨_, holds, rfl⟩
    obtain ⟨foreign, ⟨found, visible⟩, recorded⟩ := Compilation.run_settled ran mentioned
    have part := loads.takesPart mine (SchemaDocument.mem_importIds holds)
    refine ⟨foreign, Table.contains_iff.1 recorded, ?_⟩
    exact loads.origin part (Compilation.exported_eq_ok_iff.1 visible).1

end System

/-! ## A small load -/

/-- `type::{ name: t }` -/
def declaringValues : List Element := [⟨["type"], .struct [⟨"name", .symbol "t"⟩]⟩]

/-- `schema_header::{ imports: [{ id: "b.isl" }] }`
`type::{ name: x, type: t, element: { id: "b.isl", type: t } }` -/
def importingValues : List Element :=
  [⟨["schema_header"], .struct [⟨"imports", .list [.struct [⟨"id", .string "b.isl"⟩]]⟩]⟩,
    ⟨["type"], .struct [⟨"name", .symbol "x"⟩, ⟨"type", .symbol "t"⟩,
      ⟨"element", .struct [⟨"id", .string "b.isl"⟩, ⟨"type", .symbol "t"⟩]⟩]⟩]

def declaringDocument : SchemaDocument := ⟨some "b.isl", .v1, [.type ⟨"t", ⟨[], []⟩⟩]⟩

def importingDocument : SchemaDocument :=
  ⟨none, .v1, [.header ⟨[.wildcard "b.isl"], .none, []⟩,
    .type ⟨"x", ⟨[.type (.reference "t" .unmarked),
      .element (.imported "b.isl" "t" .unmarked) false], []⟩⟩]⟩

/-- A system with a schema to import from. -/
def smallSystem : System :=
  .ofAuthorities [.memory (MemoryAuthority.empty.insertValues "b.isl" declaringValues)]

/-- What the small load comes upon. -/
def smallWorld : Universe :=
  (Universe.ofRoot importingDocument).addPending "b.isl" ["b.isl"] declaringDocument

theorem gather_small :
    Universe.gather smallSystem.library smallSystem.cache.get? importingDocument =
      .ok smallWorld :=
  Universe.gather_eq (.read rfl rfl rfl (.seen rfl (.done smallWorld)))

theorem members_small :
    Settings.members importingDocument smallWorld = [("b.isl", declaringDocument)] := by
  have listed : (smallWorld.pending.entries.filter fun e => importingDocument.id != some e.1) =
      [("b.isl", declaringDocument)] := rfl
  simp only [Settings.members, listed, List.mergeSort_singleton]

theorem origin_small :
    smallWorld.origin? "b.isl" "t" = some ⟨"b.isl", ⟨"t", ⟨[], []⟩⟩, false⟩ :=
  Universe.originAmong_declared (d := declaringDocument) (by decide +kernel) ⟨rfl, rfl⟩ rfl

def declaringSchema : Schema := ⟨declaringDocument, .empty, .empty⟩

/-- The schema that imports has one import and one name in scope. -/
def importingSchema : Schema :=
  ⟨importingDocument, .ofList [("b.isl", ⟨true, .empty⟩)],
    .ofList [("t", ⟨"b.isl", ⟨"t", ⟨[], []⟩⟩⟩)]⟩

theorem run_small :
    (smallSystem.settings.compilation smallWorld importingDocument).run = .ok importingSchema := by
  refine Compilation.run_eq_ok_iff.2 ⟨rfl, rfl, ⟨importingSchema.imports, importingSchema.inScope⟩,
    ⟨importingSchema.imports, importingSchema.inScope⟩, rfl, ?_, rfl⟩
  refine Compilation.checkMentions_cons_eq_ok_iff.2 ⟨_, [], rfl, ?_⟩
  refine Compilation.checkMentions_cons_eq_ok_iff.2 ⟨_, [], ?_, rfl⟩
  have visible : (smallSystem.settings.compilation smallWorld importingDocument).exported
      "b.isl" "t" = .ok ⟨"b.isl", ⟨"t", ⟨[], []⟩⟩, false⟩ :=
    Compilation.exported_eq_ok_iff.2 ⟨origin_small, by simp⟩
  exact Compilation.checkMention_imported_eq_ok_iff.2 ⟨by decide, ⟨_, visible⟩, rfl, rfl⟩

theorem compile_small :
    smallSystem.settings.compile smallWorld importingDocument =
      .ok (importingSchema, [declaringSchema]) := by
  have declaring : smallSystem.settings.compileMember smallWorld "b.isl" declaringDocument =
      .ok declaringSchema := rfl
  refine System.compile_eq_ok_iff.2 ⟨?_, run_small⟩
  simp [members_small, declaring, bind, Except.bind, pure, Except.pure]

theorem compiled_small :
    smallSystem.compiled (.compileValues importingValues) = [importingSchema, declaringSchema] := by
  have made : smallSystem.attempt? (.compileValues importingValues) =
      some (smallSystem.attempt smallSystem.cache importingDocument) := rfl
  have outcome : (smallSystem.attempt smallSystem.cache importingDocument).outcome =
      .ok (importingSchema, [declaringSchema]) :=
    System.attempt_eq_ok_iff.2 ⟨smallWorld, gather_small, compile_small⟩
  exact System.compiled_eq_cons_iff.2 ⟨_, made, outcome⟩

/-- A name from a header import and an import in place lead to the type that is declared. -/
theorem references_lead_small :
    importingSchema ∈ smallSystem.compiled (.compileValues importingValues) ∧
      (∃ definition, importingSchema.resolve? "t" = some definition) ∧
      ∃ other, (other ∈ smallSystem.compiled (.compileValues importingValues) ∧
          other.id? = some "b.isl" ∨ smallSystem.cache.get? "b.isl" = some other) ∧
        ∃ origin, other.origin? "t" = some origin := by
  have compiled : importingSchema ∈ smallSystem.compiled (.compileValues importingValues) := by
    rw [compiled_small]
    exact List.mem_cons_self ..
  have declared : (⟨"x", ⟨[.type (.reference "t" .unmarked),
      .element (.imported "b.isl" "t" .unmarked) false], []⟩⟩ : NamedType) ∈
      importingDocument.types := List.mem_cons_self ..
  obtain ⟨references, imports⟩ := System.references_lead compiled
  refine ⟨compiled, ?_, ?_⟩
  · have named := references "t" .unmarked
      ⟨_, declared, .direct (List.mem_cons_self ..) (.type _)⟩
    exact named.resolve_left (by decide)
  · have there := imports "b.isl" "t" .unmarked
      ⟨_, declared, .direct (List.mem_cons_of_mem _ (List.mem_cons_self ..)) (.element _ false)⟩
    exact there.2.2

end Isl

/-!
## Chains of imports

A schema that does not declare a name itself may know it by several imports, and each of them may
lead further. The search along imports goes down one of these chains to its end.

* `Universe.Points`: the declarations that chains of imports lead to in a load;
* `Universe.points_of_origin?`: what the search finds is one of them;
* `Universe.points_declared`: what a schema declares itself is the only one.
-/

namespace Isl

/-- The declaration of an origin, and the schema that it is in. -/
def Origin.target (o : Origin) : ImportedType := ⟨o.schemaId, o.declaration⟩

namespace Universe

variable {u : Universe} {id name : String}

/-- Cached schemas have the ids that they are cached under. -/
def Labelled (u : Universe) : Prop := ∀ id s, u.cached.find? id = some s → s.id? = some id

/-- Chains of imports lead from a name to a declaration. A chain goes on only from a schema that
does not declare the name itself, and ends at a cached schema with what this schema means by it. -/
inductive Points (u : Universe) : String → String → ImportedType → Prop where
  | cached {id name : String} {s : Schema} {o : Origin} (held : u.cached.find? id = some s)
      (known : s.origin? name = some o) : Points u id name o.target
  | declared {id name : String} {d : SchemaDocument} {t : NamedType} (read : u.Reads id d)
      (own : d.declared? name = some t) : Points u id name ⟨id, t⟩
  | wildcard {id name other : String} {d : SchemaDocument} {t : NamedType} (read : u.Reads id d)
      (free : d.declared? name = none) (header : .wildcard other ∈ d.imports)
      (there : (u.declaredTypes other).find? (·.name == name) = some t) :
      Points u id name ⟨other, t⟩
  | single {id other typeName : String} {newName : Option String} {d : SchemaDocument}
      {target : ImportedType} (read : u.Reads id d)
      (free : d.declared? (newName.getD typeName) = none)
      (header : .single other typeName newName ∈ d.imports)
      (there : Points u other typeName target) : Points u id (newName.getD typeName) target

theorem labelled_of_bare (bare : ∀ id, u.cached.find? id = none) : u.Labelled := by
  intro id s held
  rw [bare] at held
  cases held

/-! ### The search -/

theorem origin?_cached {s : Schema} (held : u.cached.find? id = some s) :
    u.origin? id name = s.origin? name :=
  originAmong_cached (mem_questions.2 ⟨List.mem_append_right _ (Table.mem_names_of_find? held),
    List.mem_cons_self ..⟩) held

theorem origin?_declared {d : SchemaDocument} {t : NamedType} (read : u.Reads id d)
    (own : d.declared? name = some t) : u.origin? id name = some ⟨id, t, false⟩ :=
  originAmong_declared (mem_questions.2 ⟨read.mem_ids, List.mem_cons_self ..⟩) read own

theorem origin?_far {d : SchemaDocument} {o : Origin} (read : u.Reads id d)
    (other : d.declared? name = none) (found : u.origin? id name = some o) :
    o.transitive = true := by
  cases near : o.transitive with
  | true => rfl
  | false =>
    obtain ⟨s, _, held, -⟩ | ⟨e, t, same, own, -⟩ := origin?_near found near
    · rw [read.1] at held
      cases held
    · obtain rfl := read.unique same
      rw [other] at own
      cases own

/-- A chain from a document that was read ends there, or goes on with one of its imports. -/
theorem Points.cases_read {d : SchemaDocument} {x : ImportedType} (read : u.Reads id d)
    (points : u.Points id name x) :
    (∃ t, d.declared? name = some t ∧ x = ⟨id, t⟩) ∨
      (∃ other t, .wildcard other ∈ d.imports ∧
        (u.declaredTypes other).find? (·.name == name) = some t ∧ x = ⟨other, t⟩) ∨
      ∃ other typeName newName, .single other typeName newName ∈ d.imports ∧
        newName.getD typeName = name ∧ u.Points other typeName x := by
  have same : ∀ {e : SchemaDocument}, u.Reads id e → e = d := fun other => other.unique read
  cases points with
  | cached held _ =>
    rw [read.1] at held
    cases held
  | declared read' own => exact .inl ⟨_, same read' ▸ own, rfl⟩
  | wildcard read' _ header there =>
    exact .inr (.inl ⟨_, _, same read' ▸ header, there, rfl⟩)
  | single read' _ header there =>
    exact .inr (.inr ⟨_, _, _, same read' ▸ header, rfl, there⟩)

variable (labelled : u.Labelled)

include labelled

/-- What is not found through imports is the first declaration of the name. -/
theorem declared_of_near {questions : List (String × String)} {o : Origin}
    (found : u.originAmong questions id name = some o) (near : o.transitive = false) :
    ∃ t, (u.declaredTypes id).find? (·.name == name) = some t ∧ o = ⟨id, t, false⟩ := by
  obtain ⟨s, t, held, own, rfl⟩ | ⟨d, t, read, own, rfl⟩ := originAmong_near found near
  · refine ⟨t, ?_, ?_⟩
    · rw [declaredTypes_cached held]
      exact own
    · rw [labelled id s held, Option.getD_some]
  · refine ⟨t, ?_, rfl⟩
    rw [declaredTypes_read read]
    exact own

/-- The search takes ever fewer questions with it, so their number carries the induction. -/
theorem points_of_originAmong (n : Nat) :
    ∀ {questions : List (String × String)} {id name : String} {o : Origin}, questions.length = n →
      u.originAmong questions id name = some o → u.Points id name o.target := by
  induction n using Nat.strongRecOn with
  | ind n ih =>
    intro questions id name o length found
    obtain ⟨s, held, known⟩ | ⟨d, t, read, own, rfl⟩ |
        ⟨d, i, o', read, header, open_, passed, rfl⟩ := originAmong_cases found
    · exact .cached held known
    · exact .declared read own
    · cases own : d.declared? name with
      | some t =>
        -- The search would have stopped here.
        rw [originAmong_declared open_ read own, Option.some.injEq] at found
        rw [← found]
        exact .declared read own
      | none =>
        cases i with
        | wildcard other =>
          obtain ⟨there, near⟩ := Option.filter_eq_some_iff.1 passed
          obtain ⟨t, first, rfl⟩ := declared_of_near labelled there (by simpa using near)
          exact .wildcard read own header first
        | single other typeName newName =>
          by_cases named : newName.getD typeName = name
          · subst named
            simp only [throughImport, if_true] at passed
            have fewer := length_without_lt open_
            have there := ih _ (length ▸ fewer) rfl passed
            exact .single read own header there
          · simp only [throughImport, if_neg named] at passed
            cases passed

/-- What is found is at the end of a chain of imports. -/
theorem points_of_origin? {o : Origin} (found : u.origin? id name = some o) :
    u.Points id name o.target := points_of_originAmong labelled _ rfl found

/-- A schema that declares a name means its own declaration by it. -/
theorem points_declared {t : NamedType} {x : ImportedType}
    (own : (u.declaredTypes id).find? (·.name == name) = some t) (points : u.Points id name x) :
    x = ⟨id, t⟩ := by
  cases points with
  | @cached _ _ s _ held known =>
    rw [declaredTypes_cached held] at own
    have near := Schema.origin?_of_declared (σ := s) own
    rw [known, labelled id s held] at near
    rw [Option.some.inj near]
    rfl
  | declared read own' =>
    rw [declaredTypes_read read] at own
    rw [Option.some.inj (own'.symm.trans own)]
  | wildcard read free _ _ | single read free _ _ =>
    rw [declaredTypes_read read] at own
    cases free.symm.trans own

end Universe

end Isl
