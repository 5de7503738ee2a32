import Isl.Proofs.System.Binding
import Isl.Proofs.System.Gather
import Isl.Proofs.System.Mentions
import Isl.Proofs.System.Origin
/-!
# What the schemas of a library know

The names that a schema knows are determined by the library alone. A world is faithful to the
library about a schema if a look-up there gives what the library makes of it, whether the schema
is cached in that world or read for it.

* `Library.Knows`: a chain of imports between documents of the library leads to a declaration;
* `Universe.Faithful`: what a world says about a schema is what the library has;
* `Universe.Stocked`, `Stocked.faithful`: a world of documents from the library and of cached
  schemas that know what the library lets them know is faithful about each of its schemas.
-/
namespace Isl

/-- A schema of the library knows a name by a chain of imports. -/
inductive Library.Knows (lib : Library) : String → String → Prop where
  | declared {id name : String} {d : SchemaDocument} {t : NamedType}
      (document : lib.document id = .ok d) (own : d.declared? name = some t) : Knows lib id name
  | wildcard {id name other : String} {d e : SchemaDocument} {t : NamedType}
      (document : lib.document id = .ok d) (header : .wildcard other ∈ d.imports)
      (there : lib.document other = .ok e) (own : e.declared? name = some t) : Knows lib id name
  | single {id other typeName : String} {newName : Option String} {d : SchemaDocument}
      (document : lib.document id = .ok d) (header : .single other typeName newName ∈ d.imports)
      (there : Knows lib other typeName) : Knows lib id (newName.getD typeName)

/-- A compiled schema knows what the library lets it know. -/
structure Schema.Bound (σ : Schema) (lib : Library) (id : String) : Prop where
  named : σ.id? = some id
  document : lib.document id = .ok σ.document
  knows : ∀ name, (∃ origin, σ.origin? name = some origin) ↔ lib.Knows id name

namespace Universe

variable {u v : Universe} {lib : Library} {id name : String}

/-- What a world says about a schema is what the library has. -/
structure Faithful (u : Universe) (lib : Library) (id : String) : Prop where
  types : ∃ d, lib.document id = .ok d ∧ u.declaredTypes id = d.types
  near : ∀ {d : SchemaDocument} {name : String} {t : NamedType}, lib.document id = .ok d →
    d.declared? name = some t → u.origin? id name = some ⟨id, t, false⟩
  far : ∀ {d : SchemaDocument} {name : String} {origin : Origin}, lib.document id = .ok d →
    d.declared? name = none → u.origin? id name = some origin → origin.transitive = true
  knows : ∀ name, (∃ origin, u.origin? id name = some origin) ↔ lib.Knows id name

/-- A world whose documents are those of the library, whose cached schemas know what the library
lets them know, and which has whatever the documents import. -/
structure Stocked (u : Universe) (lib : Library) : Prop where
  pending : ∀ id d, u.pending.find? id = some d → lib.document id = .ok d
  cached : ∀ id σ, u.cached.find? id = some σ → σ.Bound lib id
  apart : ∀ id, u.cached.contains id = true → u.pending.contains id = false
  closed : ∀ id d, u.pending.find? id = some d → ∀ i ∈ d.importIds, u.contains i = true

namespace Stocked

theorem reads (stocked : u.Stocked lib) {d : SchemaDocument} (found : u.pending.find? id = some d) :
    u.Reads id d := reads_of_pending (stocked.apart id) found

/-- What the world has of a schema: it is cached, or its document was read. -/
theorem cases (stocked : u.Stocked lib) (part : u.contains id = true) :
    (∃ σ, u.cached.find? id = some σ ∧ σ.Bound lib id) ∨
      ∃ d, u.Reads id d ∧ lib.document id = .ok d := by
  rcases contains_iff.1 part with ⟨d, found⟩ | ⟨σ, held⟩
  · exact .inr ⟨d, stocked.reads found, stocked.pending id d found⟩
  · exact .inl ⟨σ, held, stocked.cached id σ held⟩

theorem types (stocked : u.Stocked lib) (part : u.contains id = true) :
    ∃ d, lib.document id = .ok d ∧ u.declaredTypes id = d.types := by
  obtain ⟨σ, held, bound⟩ | ⟨d, read, document⟩ := stocked.cases part
  · exact ⟨σ.document, bound.document, declaredTypes_cached held⟩
  · exact ⟨d, document, declaredTypes_read read⟩

/-- A schema that declares a type takes part in the load, and so does its document. -/
theorem declares_iff (stocked : u.Stocked lib) (part : u.contains id = true) :
    u.Declares id name ↔ ∃ d t, lib.document id = .ok d ∧ d.declared? name = some t := by
  obtain ⟨d, document, same⟩ := stocked.types part
  constructor
  · rintro ⟨t, mem, rfl⟩
    obtain ⟨first, own⟩ := declared?_of_mem (same ▸ mem)
    exact ⟨d, first, document, own⟩
  · rintro ⟨e, t, there, own⟩
    rw [document] at there
    cases there
    obtain ⟨mem, named⟩ := declared?_eq_some own
    exact ⟨t, same ▸ mem, named⟩

theorem imported (stocked : u.Stocked lib) {d : SchemaDocument} (read : u.Reads id d)
    {i : HeaderImport} (header : i ∈ d.imports) : u.contains i.schemaId = true :=
  stocked.closed id d read.2 _ (SchemaDocument.schemaId_mem_importIds header)

theorem knows_of_knowsWithin (stocked : u.Stocked lib) {k : Nat} (h : u.KnowsWithin k id name) :
    lib.Knows id name := by
  induction h with
  | cached held known => exact ((stocked.cached _ _ held).knows _).1 ⟨_, known⟩
  | declared read own => exact .declared (stocked.pending _ _ read.2) own
  | @wildcard k id name other d read header there =>
    have part : u.contains other = true := stocked.imported read header
    obtain ⟨e, t, document, own⟩ := (stocked.declares_iff part).1 there
    exact .wildcard (stocked.pending _ _ read.2) header document own
  | single read header _ ih => exact .single (stocked.pending _ _ read.2) header ih

theorem knows_of_library (stocked : u.Stocked lib) (h : lib.Knows id name)
    (part : u.contains id = true) : u.Knows id name := by
  induction h with
  | @declared id name d t document own =>
    have there := (stocked.declares_iff part).2 ⟨d, t, document, own⟩
    exact ⟨0, there.knowsWithin 0⟩
  | @wildcard id name other d e t document header there own =>
    obtain ⟨σ, held, bound⟩ | ⟨f, read, same⟩ := stocked.cases part
    · obtain ⟨origin, known⟩ := (bound.knows name).2 (.wildcard document header there own)
      exact ⟨0, .cached held known⟩
    · rw [document] at same
      cases same
      have other_part : u.contains other = true := stocked.imported read header
      have declares := (stocked.declares_iff other_part).2 ⟨e, t, there, own⟩
      exact ⟨1, .wildcard read header declares⟩
  | @single id other typeName newName d document header there ih =>
    obtain ⟨σ, held, bound⟩ | ⟨f, read, same⟩ := stocked.cases part
    · obtain ⟨origin, known⟩ := (bound.knows _).2 (.single document header there)
      exact ⟨0, .cached held known⟩
    · rw [document] at same
      cases same
      have other_part : u.contains other = true := stocked.imported read header
      obtain ⟨k, known⟩ := ih other_part
      exact ⟨k + 1, .single read header known⟩

theorem faithful (stocked : u.Stocked lib) (part : u.contains id = true) : u.Faithful lib id := by
  refine ⟨stocked.types part, ?_, ?_, ?_⟩
  · intro d name t document own
    have declares := (stocked.declares_iff part).2 ⟨d, t, document, own⟩
    obtain ⟨origin, found, near⟩ := origin?_declares declares
    obtain ⟨σ, first, held, there, rfl⟩ | ⟨e, first, read, there, rfl⟩ := origin?_near found near
    · have bound := stocked.cached id σ held
      have same := bound.document
      rw [document] at same
      cases same
      obtain rfl := Option.some.inj (own.symm.trans there)
      rw [found, bound.named, Option.getD_some]
    · have same := stocked.pending id e read.2
      rw [document] at same
      cases same
      obtain rfl := Option.some.inj (own.symm.trans there)
      exact found
  · intro d name origin document none_ found
    cases far : origin.transitive with
    | true => rfl
    | false =>
      obtain ⟨t, mem, named⟩ := declares_of_near found far
      obtain ⟨e, first, same, own⟩ := (stocked.declares_iff part).1 ⟨t, mem, named⟩
      rw [document] at same
      cases same
      rw [none_] at own
      cases own
  · intro name
    rw [origin?_isSome_iff]
    constructor
    · rintro ⟨k, h⟩
      exact stocked.knows_of_knowsWithin h
    · exact fun h => stocked.knows_of_library h part

end Stocked

/-- What a walk has read for a root of the library, beside cached schemas that are bound, is a stock
of the library. -/
theorem stocked_gather {cached : String → Option Schema} {root : SchemaDocument}
    (gathered : gather lib cached root = .ok u)
    (source : ∀ id, root.id = some id → lib.document id = .ok root)
    (bound : ∀ id σ, cached id = some σ → σ.Bound lib id) : u.Stocked lib := by
  have drawn := drawn_gather gathered
  refine ⟨?_, ?_, drawn.apart, (closed_gather gathered).2⟩
  · intro id d found
    obtain ⟨named, rfl⟩ | ⟨document, -⟩ := drawn.pending id d found
    · exact source id named
    · exact document
  · intro id σ held
    exact bound id σ (drawn.cached id σ held)

end Universe
end Isl

/-!
## What a compilation depends on

A compilation asks its world only about the schemas that its document imports. A strict one asks
only what they declare and whether they know a name. Two worlds that agree on that give the same
result, error or schema.

* `Compilation.run_of_answers`: a compilation that gets the same answers comes to the same;
* `Universe.Agrees`: two worlds say the same about a schema;
* `Faithful.agrees`: worlds that are faithful to one library do;
* `Compilation.run_congr`: a strict compilation comes to the same in both.
-/

namespace Isl

/-- Two worlds say the same about a schema: what it declares, what it knows without imports, and
which names it does not know. -/
structure Universe.Agrees (u v : Universe) (id : String) : Prop where
  types : u.declaredTypes id = v.declaredTypes id
  near : ∀ name origin, origin.transitive = false →
    (u.origin? id name = some origin ↔ v.origin? id name = some origin)
  none : ∀ name, u.origin? id name = none ↔ v.origin? id name = none

theorem Universe.Agrees.symm {u v : Universe} {id : String} (agree : u.Agrees v id) :
    v.Agrees u id :=
  ⟨agree.types.symm, fun name origin near => (agree.near name origin near).symm,
    fun name => (agree.none name).symm⟩

/-- A name that one world knows through imports, the other knows through imports as well. -/
theorem Universe.Agrees.far {u v : Universe} {id name : String} (agree : u.Agrees v id)
    {origin : Origin} (found : u.origin? id name = some origin) (far : origin.transitive = true) :
    ∃ other, v.origin? id name = some other ∧ other.transitive = true := by
  cases there : v.origin? id name with
  | none =>
    rw [(agree.none name).2 there] at found
    cases found
  | some other =>
    refine ⟨other, rfl, ?_⟩
    cases near : other.transitive with
    | true => rfl
    | false =>
      rw [(agree.near name other near).2 there] at found
      cases found
      rw [far] at near
      cases near

theorem Universe.Faithful.near_iff {u : Universe} {lib : Library} {id name : String}
    (h : u.Faithful lib id) {origin : Origin} (near : origin.transitive = false) :
    u.origin? id name = some origin ↔
      ∃ d t, lib.document id = .ok d ∧ d.declared? name = some t ∧ origin = ⟨id, t, false⟩ := by
  constructor
  · intro found
    obtain ⟨d, document, -⟩ := h.types
    cases own : d.declared? name with
    | none =>
      rw [h.far document own found] at near
      cases near
    | some t =>
      have same := h.near document own
      rw [found] at same
      exact ⟨d, t, document, own, Option.some.inj same⟩
  · rintro ⟨d, t, document, own, rfl⟩
    exact h.near document own

/-- Two worlds that are faithful to one library agree. -/
theorem Universe.Faithful.agrees {u v : Universe} {lib : Library} {id : String}
    (hu : u.Faithful lib id) (hv : v.Faithful lib id) : u.Agrees v id := by
  refine ⟨?_, ?_, ?_⟩
  · obtain ⟨d, document, types⟩ := hu.types
    obtain ⟨e, same, types'⟩ := hv.types
    rw [document] at same
    cases same
    rw [types, types']
  · intro name origin near
    rw [hu.near_iff near, hv.near_iff near]
  · intro name
    have unknown : ∀ {w : Universe}, w.Faithful lib id →
        (w.origin? id name = none ↔ ¬lib.Knows id name) := by
      intro w hw
      rw [← hw.knows name, Option.eq_none_iff_forall_ne_some, not_exists]
    rw [unknown hu, unknown hv]

/-- Imports are recorded for these schemas only. -/
def Bindings.Within (b : Bindings) (ids : List String) : Prop := ∀ id ∈ b.imports.names, id ∈ ids

theorem Bindings.within_recordImport {b : Bindings} {ids : List String} (within : b.Within ids)
    {id : String} (mem : id ∈ ids) (f : SchemaImport → SchemaImport) :
    (b.recordImport id f).Within ids := by
  intro key listed
  simp only [recordImport, Table.names, Table.insert, Table.map_insertEntry,
    NameSet.mem_insert] at listed
  rcases listed with rfl | earlier
  · exact mem
  · exact within key earlier

namespace Compilation

variable {c : Compilation} {v : Universe} {b b' : Bindings}

/-- The same compilation in another world. -/
def against (c : Compilation) (v : Universe) : Compilation := { c with world := v }

/-! ### Questions -/

/-- A compilation gets the same answers about a schema in another world. -/
structure Answers (c : Compilation) (v : Universe) (id : String) : Prop where
  types : v.declaredTypes id = c.world.declaredTypes id
  exported : ∀ name, (c.against v).exported id name = c.exported id name
  reaches : ∀ name,
    (v.origin? id name).any (·.transitive) = (c.world.origin? id name).any (·.transitive)

theorem answers_of_origin? {id : String} (types : v.declaredTypes id = c.world.declaredTypes id)
    (origins : ∀ name, v.origin? id name = c.world.origin? id name) : c.Answers v id := by
  refine ⟨types, ?_, ?_⟩
  · intro name
    have there : (c.against v).world.origin? id name = c.world.origin? id name := origins name
    rw [exported, there]
    rfl
  · intro name
    rw [origins]

theorem exported_congr (strict : c.allowTransitive = false) {id : String}
    (agree : c.world.Agrees v id) (name : String) :
    (c.against v).exported id name = c.exported id name := by
  unfold exported
  cases found : c.world.origin? id name with
  | none =>
    have there : (c.against v).world.origin? id name = none := (agree.none name).1 found
    rw [there]
  | some origin =>
    cases far : origin.transitive with
    | false =>
      have there : (c.against v).world.origin? id name = some origin :=
        (agree.near name origin far).1 found
      rw [there]
      simp [far]
    | true =>
      obtain ⟨other, there, far'⟩ := agree.far found far
      have there' : (c.against v).world.origin? id name = some other := there
      rw [there']
      simp [far, far', strict, against]

theorem reaches_congr {id : String} (agree : c.world.Agrees v id) (name : String) :
    (v.origin? id name).any (·.transitive) = (c.world.origin? id name).any (·.transitive) := by
  rw [Bool.eq_iff_iff]
  simp only [Option.any_eq_true]
  constructor
  · rintro ⟨origin, found, far⟩
    exact agree.symm.far found far
  · rintro ⟨origin, found, far⟩
    exact agree.far found far

theorem answers_of_agrees (strict : c.allowTransitive = false) {id : String}
    (agree : c.world.Agrees v id) : c.Answers v id :=
  ⟨agree.types.symm, exported_congr strict agree, reaches_congr agree⟩

theorem transitiveSource_congr (answers : ∀ id ∈ b.imports.names, c.Answers v id)
    (name : String) : (c.against v).transitiveSource? b name = c.transitiveSource? b name := by
  unfold transitiveSource?
  congr 1
  have each : ∀ es : List (String × SchemaImport), (∀ e ∈ es, c.Answers v e.1) →
      es.find? (fun i => i.2.wildcard && (v.origin? i.1 name).any (·.transitive)) =
        es.find? fun i => i.2.wildcard && (c.world.origin? i.1 name).any (·.transitive) := by
    intro es
    induction es with
    | nil => exact fun _ => rfl
    | cons e es ih =>
      intro answers
      have first := (answers e (List.mem_cons_self ..)).reaches name
      have rest := ih fun e' he' => answers e' (List.mem_cons_of_mem _ he')
      simp only [List.find?_cons, first, rest]
  exact each _ fun e he => answers e.1 (List.mem_map_of_mem he)

/-! ### Imports -/

theorem bindAll_congr (id : String) (b : Bindings) (ts : List NamedType) :
    (c.against v).bindAll id b ts = c.bindAll id b ts := by
  induction ts generalizing b with
  | nil => rfl
  | cons t ts ih =>
    simp only [bindAll]
    congr 1
    funext bound
    exact ih bound

theorem importOne_congr {i : HeaderImport} (answers : c.Answers v i.schemaId) (b : Bindings) :
    (c.against v).importOne b i = c.importOne b i := by
  cases i with
  | wildcard id =>
    have types : (c.against v).world.declaredTypes id = c.world.declaredTypes id := answers.types
    simp only [importOne, types, bindAll_congr]
    rfl
  | single id typeName newName =>
    have here : c.Answers v id := answers
    simp only [importOne, here.exported]
    rfl

theorem importAll_congr {is : List HeaderImport} (answers : ∀ i ∈ is, c.Answers v i.schemaId)
    (b : Bindings) : (c.against v).importAll b is = c.importAll b is := by
  induction is generalizing b with
  | nil => rfl
  | cons i is ih =>
    simp only [importAll, importOne_congr (answers i (List.mem_cons_self ..))]
    congr 1
    funext bound
    exact ih (fun j hj => answers j (List.mem_cons_of_mem _ hj)) bound

/-! ### Mentions -/

variable {ids : List String}

theorem within_bind {name : String} {target : ImportedType} (within : b.Within ids)
    (h : c.bind b name target = .ok b') : b'.Within ids := by
  obtain ⟨-, ⟨-, rfl⟩ | ⟨_, -, -, -, rfl⟩⟩ := bind_eq_ok_iff.1 h
  · exact within
  · exact within

theorem within_bindAll {id : String} {ts : List NamedType} (within : b.Within ids)
    (h : c.bindAll id b ts = .ok b') : b'.Within ids := by
  induction ts generalizing b with
  | nil =>
    cases h
    exact within
  | cons t ts ih =>
    obtain ⟨bound, first, rest⟩ := bindAll_cons_eq_ok_iff.1 h
    exact ih (within_bind within first) rest

theorem within_importAll {is : List HeaderImport} (within : b.Within ids)
    (mem : ∀ i ∈ is, i.schemaId ∈ ids) (h : c.importAll b is = .ok b') : b'.Within ids := by
  induction is generalizing b with
  | nil =>
    cases h
    exact within
  | cons i is ih =>
    obtain ⟨bound, first, rest⟩ := importAll_cons_eq_ok_iff.1 h
    refine ih ?_ (fun j hj => mem j (List.mem_cons_of_mem _ hj)) rest
    have here := mem i (List.mem_cons_self ..)
    cases i with
    | wildcard id =>
      obtain ⟨-, all, bindings, rfl⟩ := importOne_wildcard_eq_ok_iff.1 first
      exact Bindings.within_recordImport (within_bindAll within bindings) here _
    | single id typeName newName =>
      obtain ⟨-, origin, -, one, binding, rfl⟩ := importOne_single_eq_ok_iff.1 first
      exact Bindings.within_recordImport (within_bind within binding) here _

/-- The schema that a mention imports from, if there is one, is among these. -/
def MentionWithin (ids : List String) : Mention → Prop
  | .name _ => True
  | .imported id _ => id ∈ ids

theorem within_checkMention {m : Mention} {unresolved unresolved' : NameSet}
    (within : b.Within ids) (mem : MentionWithin ids m)
    (h : c.checkMention b unresolved m = .ok (b', unresolved')) : b'.Within ids := by
  cases m with
  | name name =>
    rcases checkMention_name_eq_ok_iff.1 h with
      ⟨-, rfl, -⟩ | ⟨-, -, rfl, -⟩ | ⟨-, id, origin, -, -, bound, -⟩
    · exact within
    · exact within
    · exact within_bind within bound
  | imported id typeName =>
    obtain ⟨-, -, rfl, -⟩ := checkMention_imported_eq_ok_iff.1 h
    exact Bindings.within_recordImport within mem _

theorem checkMention_congr (answers : ∀ id ∈ ids, c.Answers v id) {m : Mention}
    (within : b.Within ids) (mem : MentionWithin ids m) (unresolved : NameSet) :
    (c.against v).checkMention b unresolved m = c.checkMention b unresolved m := by
  cases m with
  | name name =>
    have source := transitiveSource_congr (fun id listed => answers id (within id listed)) name
    simp only [checkMention, source]
    cases found : c.transitiveSource? b name with
    | none => rfl
    | some id =>
      obtain ⟨e, listed, rfl⟩ := Option.map_eq_some_iff.1 found
      have named : e.1 ∈ b.imports.names := List.mem_map_of_mem (List.mem_of_find?_eq_some listed)
      simp only [(answers e.1 (within e.1 named)).exported]
      rfl
  | imported id typeName =>
    simp only [checkMention, (answers id mem).exported]
    rfl

theorem checkMentions_congr (answers : ∀ id ∈ ids, c.Answers v id) {ms : List Mention}
    (within : b.Within ids) (mem : ∀ m ∈ ms, MentionWithin ids m) (unresolved : NameSet) :
    (c.against v).checkMentions b unresolved ms = c.checkMentions b unresolved ms := by
  induction ms generalizing b unresolved with
  | nil => rfl
  | cons m ms ih =>
    have here := mem m (List.mem_cons_self ..)
    simp only [checkMentions, checkMention_congr answers within here]
    cases first : c.checkMention b unresolved m with
    | error e => rfl
    | ok r =>
      obtain ⟨b₁, left⟩ := r
      exact ih (within_checkMention within here first)
        (fun n hn => mem n (List.mem_cons_of_mem _ hn)) left

theorem mentionWithin_importIds {d : SchemaDocument} {m : Mention} (mem : m ∈ d.mentions) :
    MentionWithin d.importIds m := by
  obtain ⟨a, holds, mentioned⟩ := SchemaDocument.mem_mentions_iff.1 mem
  cases a with
  | reference name n =>
    cases mentioned
    trivial
  | imported id typeName n =>
    cases mentioned
    exact SchemaDocument.mem_importIds holds
  | inline e n => cases mentioned

/-- A compilation depends on nothing but the answers about the schemas that it imports. -/
theorem run_of_answers (answers : ∀ id ∈ c.document.importIds, c.Answers v id) :
    (c.against v).run = c.run := by
  have headers : ∀ i ∈ c.document.imports, i.schemaId ∈ c.document.importIds :=
    fun i mem => SchemaDocument.schemaId_mem_importIds mem
  have imports := importAll_congr (fun i mem => answers _ (headers i mem)) .empty
  have document : (c.against v).document = c.document := rfl
  unfold run
  rw [document, imports]
  cases imported : c.importAll .empty c.document.imports with
  | error e => rfl
  | ok b =>
    have within : b.Within c.document.importIds :=
      within_importAll (fun id listed => by cases listed) headers imported
    have mentions := checkMentions_congr answers within
      (fun m mem => mentionWithin_importIds mem) []
    simp only [Bind.bind, Except.bind, mentions]
    rfl

/-- A strict compilation depends on nothing but what its world says about the imported schemas. -/
theorem run_congr (strict : c.allowTransitive = false)
    (agree : ∀ id ∈ c.document.importIds, c.world.Agrees v id) : (c.against v).run = c.run :=
  run_of_answers fun id mem => answers_of_agrees strict (agree id mem)

end Compilation
end Isl
