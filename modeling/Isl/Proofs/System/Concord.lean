import Isl.Proofs.System.Leads
/-!
# What imported names mean

A schema that imports a type from another one under some name is in concord with it when both mean
the same declaration, the one by that name and the other by the name of the type. The importing
schema was compiled with what a search from outside finds in the other schema, and the other one
with what a search beyond its own header finds. These part only where chains of imports do.

* `Schema.meaning?`, `Schema.Imports`: what a name means, and which names header imports bring;
* `Loads.meaning_wildcard`, `Loads.meaning_single`: what a schema means by an imported name;
* `System.imports_concord`: when the schemas of a load from scratch are in concord.
-/
namespace Isl

namespace Schema

/-- What a schema means by a name: a declaration, and the schema that it is in. -/
def meaning? (σ : Schema) (name : String) : Option ImportedType := (σ.origin? name).map (·.target)

/-- A schema has a header import of a type of another schema under some name. An import of the
schema as a whole is one of each type that it declares. -/
inductive Imports (a b : Schema) : String → String → Prop where
  | wildcard {id typeName : String} {t : NamedType} (named : b.id? = some id)
      (header : .wildcard id ∈ a.document.imports) (own : b.declared? typeName = some t) :
      Imports a b typeName typeName
  | single {id typeName : String} {newName : Option String} (named : b.id? = some id)
      (header : .single id typeName newName ∈ a.document.imports) :
      Imports a b typeName (newName.getD typeName)

/-- Schemas that import from each other mean the same by an imported name. -/
def Concord (schemas : List Schema) : Prop :=
  ∀ a ∈ schemas, ∀ b ∈ schemas, ∀ typeName name, a.Imports b typeName name →
    ∃ target, a.meaning? name = some target ∧ b.meaning? typeName = some target

/-- No single import of these schemas can be followed to two declarations. -/
def Definite (schemas : List Schema) (lib : Library) : Prop :=
  ∀ a ∈ schemas, ∀ id typeName newName, .single id typeName newName ∈ a.document.imports →
    ∀ x y, lib.Leads id typeName x → lib.Leads id typeName y → x = y

/-- The header imports of these schemas do not lead in a circle. -/
def Layered (schemas : List Schema) : Prop :=
  ∃ rank : String → Nat, ∀ a ∈ schemas, ∀ id, a.id? = some id →
    ∀ i ∈ a.document.imports, rank i.schemaId < rank id

variable {σ : Schema} {id name : String}

theorem meaning?_of_declared {t : NamedType} (named : σ.id? = some id)
    (own : σ.declared? name = some t) : σ.meaning? name = some ⟨id, t⟩ := by
  simp [meaning?, origin?_of_declared own, named, Origin.target]

theorem meaning?_of_bound {target : ImportedType} (other : σ.declared? name = none)
    (bound : σ.inScope.find? name = some target) : σ.meaning? name = some target := by
  simp [meaning?, origin?, other, bound, Origin.target]

end Schema

namespace System

variable {s : System} {c : Call} {root : SchemaDocument} {world : Universe} {σ τ a b : Schema}
  {members : List Schema} {id name typeName : String} {newName : Option String}

namespace Loads

/-! ## A load from scratch -/

theorem unheld (h : s.Loads c root world σ members) (bare : ∀ key, s.cache.get? key = none)
    (id : String) : world.cached.find? id = none := by
  cases held : world.cached.find? id with
  | none => rfl
  | some τ =>
    have cached := h.held held
    rw [bare] at cached
    cases cached

theorem leads (h : s.Loads c root world σ members) (bare : ∀ key, s.cache.get? key = none)
    {o : Origin} (found : world.origin? id name = some o) : s.library.Leads id name o.target :=
  Universe.leads_of_origin? (h.unheld bare) (fun _ _ => h.document) found

theorem run_own (h : s.Loads c root world σ members) (mem : τ ∈ s.compiled c) :
    (s.settings.compilation world τ.document).run = .ok τ ∧
      (τ.document = root ∨ ∃ id, world.pending.find? id = some τ.document) := by
  obtain ⟨d, ran, mine⟩ := h.run mem
  obtain rfl : τ.document = d := Compilation.document_of_run ran
  exact ⟨ran, mine⟩

theorem reads_own (h : s.Loads c root world σ members) (mem : τ ∈ s.compiled c)
    (named : τ.id? = some id) : world.Reads id τ.document := by
  obtain ⟨-, same | ⟨key, found⟩⟩ := h.run_own mem
  · refine h.reads ?_
    rw [Schema.id?, same] at named
    exact same ▸ h.drawn.root id named
  · obtain rfl := Option.some.inj ((document_id (h.document found)).symm.trans named)
    exact h.reads found

theorem document_own (h : s.Loads c root world σ members) (mem : τ ∈ s.compiled c)
    (named : τ.id? = some id) {d : SchemaDocument} (document : s.library.document id = .ok d) :
    τ.document = d :=
  Except.ok.inj ((h.document (h.reads_own mem named).2).symm.trans document)

/-- What a header imports from was compiled in the same load. -/
theorem imported (h : s.Loads c root world σ members) (bare : ∀ key, s.cache.get? key = none)
    (mem : τ ∈ s.compiled c) {i : HeaderImport} (header : i ∈ τ.document.imports) :
    ∃ b ∈ s.compiled c, b.id? = some i.schemaId := by
  have part := h.takesPart (h.run_own mem).2 (SchemaDocument.schemaId_mem_importIds header)
  rcases Universe.contains_iff.1 part with ⟨d, found⟩ | ⟨held, cached⟩
  · obtain ⟨b, mem_b, ran⟩ := h.compiled_of_read found
    refine ⟨b, mem_b, ?_⟩
    rw [Schema.id?, Compilation.document_of_run ran]
    exact document_id (h.document found)
  · rw [h.unheld bare] at cached
    cases cached

theorem declared_own (h : s.Loads c root world σ members) (mem : τ ∈ s.compiled c)
    (named : τ.id? = some id) {t : NamedType} (own : τ.declared? name = some t) :
    s.library.Declares ⟨id, t⟩ :=
  Library.declares_of_declared? (h.document (h.reads_own mem named).2) own

/-- What a schema that is imported as a whole declares. -/
theorem imported_type (h : s.Loads c root world σ members)
    (bare : ∀ key, s.cache.get? key = none) (mem : τ ∈ s.compiled c)
    (header : .wildcard id ∈ τ.document.imports) {t : NamedType}
    (listed : t ∈ world.declaredTypes id) :
    ∃ b ∈ s.compiled c, b.id? = some id ∧ b.declared? t.name = some t := by
  obtain ⟨b, mem_b, named⟩ := h.imported bare mem header
  have named : b.id? = some id := named
  rw [Universe.declaredTypes_read (h.reads_own mem_b named)] at listed
  exact ⟨b, mem_b, named, Compilation.declared?_of_mem (h.run_own mem_b).1 listed⟩

/-! ## What a compiled schema means by a name -/

theorem declares_of_bound (h : s.Loads c root world σ members)
    (bare : ∀ key, s.cache.get? key = none) (mem : τ ∈ s.compiled c) {target : ImportedType}
    (bound : τ.inScope.find? name = some target) : s.library.Declares target := by
  have ran := (h.run_own mem).1
  cases Compilation.run_binds ran bound with
  | @wildcard id t header declared =>
    obtain ⟨b, mem_b, named, own⟩ := h.imported_type bare mem header declared
    exact h.declared_own mem_b named own
  | single header visible =>
    exact (h.leads bare (Compilation.exported_eq_ok_iff.1 visible).1).declares
  | demanded header far visible =>
    exact (h.leads bare (Compilation.exported_eq_ok_iff.1 visible).1).declares

/-- A schema that has a name in scope for a declaration means this declaration. -/
theorem meaning_of_has (h : s.Loads c root world σ members)
    (bare : ∀ key, s.cache.get? key = none) (mem : τ ∈ s.compiled c) {target : ImportedType}
    (has : Bindings.Has ⟨τ.imports, τ.inScope⟩ name target.schemaId target.declaration.name)
    (real : s.library.Declares target) : τ.meaning? name = some target := by
  obtain ⟨first, bound, schemaId, named⟩ := has
  obtain rfl := (h.declares_of_bound bare mem bound).ext real schemaId named
  exact Schema.meaning?_of_bound (Compilation.run_undeclared (h.run_own mem).1 bound) bound

/-- By a name from a schema that is imported as a whole, a schema means what is declared there. -/
theorem meaning_wildcard (h : s.Loads c root world σ members)
    (bare : ∀ key, s.cache.get? key = none) (mem : a ∈ s.compiled c)
    (header : .wildcard id ∈ a.document.imports) {d : SchemaDocument} {t : NamedType}
    (there : s.library.document id = .ok d) (own : d.declared? name = some t) :
    a.meaning? name = some ⟨id, t⟩ := by
  obtain ⟨listed, rfl⟩ := declared?_eq_some own
  obtain ⟨-, all⟩ := Compilation.run_brings (h.run_own mem).1 header
  obtain ⟨b, mem_b, named⟩ := h.imported bare mem header
  have read : world.Reads id b.document := h.reads_own mem_b named
  obtain rfl := h.document_own mem_b named there
  have declared : t ∈ world.declaredTypes id := by rwa [Universe.declaredTypes_read read]
  have real : s.library.Declares ⟨id, t⟩ := Library.declares_of_declared? there own
  exact h.meaning_of_has bare mem (all t declared) real

/-- By a name from a single import, a schema means what a search finds in the other schema. -/
theorem meaning_single (h : s.Loads c root world σ members)
    (bare : ∀ key, s.cache.get? key = none) (mem : a ∈ s.compiled c)
    (header : .single id typeName newName ∈ a.document.imports) :
    ∃ o, (s.settings.compilation world a.document).exported id typeName = .ok o ∧
      s.library.Leads id typeName o.target ∧
      a.meaning? (newName.getD typeName) = some o.target := by
  obtain ⟨-, o, visible, has⟩ := Compilation.run_brings (h.run_own mem).1 header
  have there := h.leads bare (Compilation.exported_eq_ok_iff.1 visible).1
  exact ⟨o, visible, there, h.meaning_of_has bare mem has there.declares⟩

/-- A schema in which a search finds a name means by it what some chain of imports leads to. -/
theorem meaning_leads (h : s.Loads c root world σ members)
    (bare : ∀ key, s.cache.get? key = none) (mem : b ∈ s.compiled c) (named : b.id? = some id)
    {o : Origin} (found : world.origin? id name = some o) :
    ∃ target, b.meaning? name = some target ∧ s.library.Leads id name target := by
  have read := h.reads_own mem named
  have document := h.document read.2
  obtain ⟨t, own⟩ | ⟨other, header, declares⟩ | ⟨other, typeName, newName, header, rfl, -⟩ :=
    (Universe.origin?_isSome_iff.1 ⟨o, found⟩).cases_read read
  · exact ⟨_, Schema.meaning?_of_declared named own, .declared document own⟩
  · obtain ⟨t, listed, rfl⟩ := declares
    obtain ⟨e, mem_e, named_e, own⟩ := h.imported_type bare mem header listed
    have there := h.document (h.reads_own mem_e named_e).2
    exact ⟨_, h.meaning_wildcard bare mem header there own, .wildcard document header there own⟩
  · obtain ⟨o, -, there, meaning⟩ := h.meaning_single bare mem header
    exact ⟨_, meaning, .single document header there⟩

/-! ## Concord -/

/-- Schemas in concord mean by a name whatever a chain of imports leads to. -/
theorem meaning_of_concord (h : s.Loads c root world σ members)
    (bare : ∀ key, s.cache.get? key = none) (concord : Schema.Concord (s.compiled c))
    {target : ImportedType} (leads : s.library.Leads id name target) (mem : b ∈ s.compiled c)
    (named : b.id? = some id) : b.meaning? name = some target := by
  induction leads generalizing b with
  | declared document own =>
    obtain rfl := h.document_own mem named document
    exact Schema.meaning?_of_declared named own
  | wildcard document header there own =>
    obtain rfl := h.document_own mem named document
    exact h.meaning_wildcard bare mem header there own
  | single document header there ih =>
    obtain rfl := h.document_own mem named document
    obtain ⟨f, mem_f, named_f⟩ := h.imported bare mem header
    obtain ⟨meant, here, there⟩ := concord b mem f mem_f _ _ (.single named_f header)
    rw [ih mem_f named_f] at there
    cases there
    exact here

/-- A single import leads to one declaration if the schema that it imports from means that by the
name of the type, whichever it is. -/
theorem definite_of_meaning (h : s.Loads c root world σ members)
    (bare : ∀ key, s.cache.get? key = none)
    (means : ∀ {id name target b}, s.library.Leads id name target → b ∈ s.compiled c →
      b.id? = some id → b.meaning? name = some target) :
    Schema.Definite (s.compiled c) s.library := by
  intro a mem id typeName newName header x y hx hy
  obtain ⟨b, mem_b, named⟩ := h.imported bare mem header
  exact Option.some.inj ((means hx mem_b named).symm.trans (means hy mem_b named))

/-- Schemas are in concord about all that is imported with a schema as a whole, so they are if
they are about single imports. -/
theorem concord_of_single (h : s.Loads c root world σ members)
    (bare : ∀ key, s.cache.get? key = none)
    (single : ∀ {a b id typeName newName}, a ∈ s.compiled c → b ∈ s.compiled c →
      b.id? = some id → .single id typeName newName ∈ a.document.imports →
      ∃ target, a.meaning? (newName.getD typeName) = some target ∧
        b.meaning? typeName = some target) :
    Schema.Concord (s.compiled c) := by
  intro a mem b mem_b typeName name imports
  cases imports with
  | wildcard named header own =>
    have there := h.document (h.reads_own mem_b named).2
    exact ⟨_, h.meaning_wildcard bare mem header there own,
      Schema.meaning?_of_declared named own⟩
  | single named header => exact single mem mem_b named header

/-- Where a single import leads to one declaration only, both schemas mean this one. -/
theorem concord_of_definite (h : s.Loads c root world σ members)
    (bare : ∀ key, s.cache.get? key = none)
    (definite : Schema.Definite (s.compiled c) s.library) : Schema.Concord (s.compiled c) := by
  refine h.concord_of_single bare ?_
  intro a b id typeName newName mem mem_b named header
  obtain ⟨o, visible, leads, here⟩ := h.meaning_single bare mem header
  obtain ⟨target, there, leads'⟩ :=
    h.meaning_leads bare mem_b named (Compilation.exported_eq_ok_iff.1 visible).1
  obtain rfl := definite a mem _ _ _ header _ _ leads leads'
  exact ⟨_, here, there⟩

/-- Where a type can be imported only from the schema that declares it, both mean this one. -/
theorem concord_of_strict (h : s.Loads c root world σ members)
    (bare : ∀ key, s.cache.get? key = none) (strict : s.settings.allowTransitive = false) :
    Schema.Concord (s.compiled c) := by
  refine h.concord_of_single bare ?_
  intro a b id typeName newName mem mem_b named header
  obtain ⟨o, visible, -, here⟩ := h.meaning_single bare mem header
  obtain ⟨found, near⟩ := Compilation.exported_strict strict visible
  obtain ⟨held, _, cached, -⟩ | ⟨d, t, read, own, rfl⟩ := Universe.origin?_near found near
  · cases (h.unheld bare id).symm.trans cached
  · obtain rfl := h.document_own mem_b named (h.document read.2)
    exact ⟨_, here, Schema.meaning?_of_declared named own⟩

/-- Where imports do not lead in a circle, no name of any schema leads to two declarations: the
rank of the schema carries the induction. -/
theorem meaning_of_layered (h : s.Loads c root world σ members)
    (bare : ∀ key, s.cache.get? key = none) {rank : String → Nat}
    (descends : ∀ a ∈ s.compiled c, ∀ id, a.id? = some id →
      ∀ i ∈ a.document.imports, rank i.schemaId < rank id) (n : Nat) :
    ∀ {id name : String} {target : ImportedType} {b : Schema}, rank id = n →
      s.library.Leads id name target → b ∈ s.compiled c → b.id? = some id →
      b.meaning? name = some target := by
  induction n using Nat.strongRecOn with
  | ind n ih =>
    intro id name target b ranked leads mem named
    cases leads with
    | declared document own =>
      obtain rfl := h.document_own mem named document
      exact Schema.meaning?_of_declared named own
    | wildcard document header there own =>
      obtain rfl := h.document_own mem named document
      exact h.meaning_wildcard bare mem header there own
    | single document header there =>
      obtain rfl := h.document_own mem named document
      obtain ⟨f, mem_f, named_f⟩ := h.imported bare mem header
      have lower := ranked ▸ descends b mem _ named _ header
      obtain ⟨o, -, leads, here⟩ := h.meaning_single bare mem header
      have first := ih _ lower rfl leads mem_f named_f
      have second := ih _ lower rfl there mem_f named_f
      rw [here]
      exact first.symm.trans second

end Loads

/-- The schemas that a call compiles on a system that has loaded nothing yet, its answer the first
of them, mean the same by an imported name exactly if no single import can be followed to two
declarations. So they do with transitive imports disallowed, and where imports do not lead in a
circle. -/
theorem imports_concord (settings : Settings) (authorities : List Authority) (c : Call) :
    (Schema.Concord ((fresh settings authorities).compiled c) ↔
      Schema.Definite ((fresh settings authorities).compiled c)
        (settings.library authorities)) ∧
    (settings.allowTransitive = false →
      Schema.Concord ((fresh settings authorities).compiled c)) ∧
    (Schema.Layered ((fresh settings authorities).compiled c) →
      Schema.Concord ((fresh settings authorities).compiled c)) := by
  have bare : ∀ key, (fresh settings authorities).cache.get? key = none := Cache.get?_empty
  refine ⟨⟨fun concord a mem => ?_, fun definite a mem => ?_⟩, fun strict a mem => ?_,
    fun layered a mem => ?_⟩
  · obtain ⟨root, world, σ, members, loads⟩ := loads_of_compiled mem
    refine loads.definite_of_meaning bare (fun leads mem' named => ?_) a mem
    exact loads.meaning_of_concord bare concord leads mem' named
  · obtain ⟨root, world, σ, members, loads⟩ := loads_of_compiled mem
    exact loads.concord_of_definite bare definite a mem
  · obtain ⟨root, world, σ, members, loads⟩ := loads_of_compiled mem
    exact loads.concord_of_strict bare strict a mem
  · obtain ⟨root, world, σ, members, loads⟩ := loads_of_compiled mem
    obtain ⟨rank, descends⟩ := layered
    have definite := loads.definite_of_meaning bare fun leads mem' named =>
      loads.meaning_of_layered bare descends _ rfl leads mem' named
    exact loads.concord_of_definite bare definite a mem

end System

/-! ## A circle of imports -/

/-- A schema that imports two types of another one under the same name. -/
def circleDocument (id other first second name own : String) : SchemaDocument :=
  ⟨some id, .v1, [.header ⟨[.single other first (some name), .single other second (some name)],
    .none, []⟩, .type ⟨own, ⟨[], []⟩⟩]⟩

section

theorem imports_circle (id other first second name own : String) :
    (circleDocument id other first second name own).imports =
      [.single other first (some name), .single other second (some name)] := rfl

theorem types_circle (id other first second name own : String) :
    (circleDocument id other first second name own).types = [⟨own, ⟨[], []⟩⟩] := rfl

theorem declared_circle (id other first second name own : String) :
    (circleDocument id other first second name own).declared? own = some ⟨own, ⟨[], []⟩⟩ := by
  simp [SchemaDocument.declared?, types_circle]

variable {u : Universe} {a b first second name own : String}

/-- Two such schemas that take the names from each other: a search for one of them comes back to
where it began, and goes on to the declaration in the schema itself. -/
theorem origin_circle (apart : a ≠ b) (other : own ≠ name) (other' : second ≠ first)
    (reads : u.Reads a (circleDocument a b first second name own))
    (reads' : u.Reads b (circleDocument b a name own first second)) :
    u.origin? a name = some ⟨a, ⟨own, ⟨[], []⟩⟩, true⟩ := by
  have asked : (a, name) ∈ u.questions name :=
    Universe.mem_questions.2 ⟨reads.mem_ids, List.mem_cons_self ..⟩
  have next : (b, first) ∈ Universe.without (a, name) (u.questions name) := by
    refine Universe.mem_without.2
      ⟨Universe.mem_questions.2 ⟨reads'.mem_ids, ?_⟩, by simp [apart.symm]⟩
    exact List.mem_cons_of_mem _ (Universe.mem_importedNames reads (List.mem_cons_self ..))
  have last : (a, own) ∈
      Universe.without (b, first) (Universe.without (a, name) (u.questions name)) := by
    refine Universe.mem_without.2 ⟨Universe.mem_without.2
      ⟨Universe.mem_questions.2 ⟨reads.mem_ids, ?_⟩, by simp [other]⟩, by simp [apart]⟩
    exact List.mem_cons_of_mem _
      (Universe.mem_importedNames reads' (List.mem_cons_of_mem _ (List.mem_cons_self ..)))
  have closed : (a, name) ∉
      Universe.without (b, first) (Universe.without (a, name) (u.questions name)) := by
    simp [Universe.mem_without]
  have free : (circleDocument a b first second name own).declared? name = none := by
    simp [SchemaDocument.declared?, types_circle, other]
  have free' : (circleDocument b a name own first second).declared? first = none := by
    simp [SchemaDocument.declared?, types_circle, other']
  have there : u.originAmong (Universe.without (a, name) (u.questions name)) b first =
      some ⟨a, ⟨own, ⟨[], []⟩⟩, true⟩ := by
    rw [Universe.originAmong_imports next reads' free']
    simp [imports_circle, Universe.throughImport, Universe.originAmong_closed closed,
      Universe.originAmong_declared last reads (declared_circle ..)]
  rw [Universe.origin?, Universe.originAmong_imports asked reads free]
  simp [imports_circle, Universe.throughImport, there]

theorem near_circle (reads : u.Reads a (circleDocument a b first second name own)) :
    u.origin? a own = some ⟨a, ⟨own, ⟨[], []⟩⟩, false⟩ :=
  Universe.originAmong_declared
    (Universe.mem_questions.2 ⟨reads.mem_ids, List.mem_cons_self ..⟩) reads (declared_circle ..)

/-- The first search brings the declaration in the other schema, and so does the second one. -/
theorem run_circle {c : Compilation}
    (document : c.document = circleDocument a b first second name own)
    (apart : a ≠ b) (other : own ≠ name) (allowed : c.allowTransitive = true)
    (far : c.world.origin? b first = some ⟨b, ⟨second, ⟨[], []⟩⟩, true⟩)
    (near : c.world.origin? b second = some ⟨b, ⟨second, ⟨[], []⟩⟩, false⟩) :
    ∃ τ, c.run = .ok τ ∧ τ.document = c.document ∧
      τ.inScope = Table.empty.insert name ⟨b, ⟨second, ⟨[], []⟩⟩⟩ := by
  have notSelf : c.document.id ≠ some b := by simp [document, circleDocument, apart]
  have free : c.declares name = false := by
    simp [Compilation.declares, SchemaDocument.declared?, document, types_circle, other]
  obtain ⟨b₁, one, bound⟩ : ∃ b₁, c.importOne .empty (.single b first (some name)) = .ok b₁ ∧
      b₁.inScope = Table.empty.insert name ⟨b, ⟨second, ⟨[], []⟩⟩⟩ :=
    ⟨_, Compilation.importOne_single_eq_ok_iff.2 ⟨notSelf, _,
      Compilation.exported_eq_ok_iff.2 ⟨far, fun _ => allowed⟩, _,
      Compilation.bind_eq_ok_iff.2 ⟨free, .inl ⟨rfl, rfl⟩⟩, rfl⟩, rfl⟩
  have found : b₁.inScope.find? name = some ⟨b, ⟨second, ⟨[], []⟩⟩⟩ := by
    simp [bound, Table.find?_insert]
  obtain ⟨b₂, two, same⟩ : ∃ b₂, c.importOne b₁ (.single b second (some name)) = .ok b₂ ∧
      b₂.inScope = b₁.inScope :=
    ⟨_, Compilation.importOne_single_eq_ok_iff.2 ⟨notSelf, _,
      Compilation.exported_eq_ok_iff.2 ⟨near, fun _ => allowed⟩, _,
      Compilation.bind_eq_ok_iff.2 ⟨free, .inr ⟨_, found, rfl, rfl, rfl⟩⟩, rfl⟩, rfl⟩
  refine ⟨_, Compilation.run_eq_ok_iff.2 ⟨?_, ?_, b₂, b₂, ?_, ?_, rfl⟩, rfl, same.trans bound⟩
  · simp [Compilation.checkDeclarations, document, types_circle, Compilation.repeatedAfter]
  · rw [Compilation.checkEnds, document]
    rfl
  · rw [document, imports_circle]
    exact Compilation.importAll_cons_eq_ok_iff.2
      ⟨b₁, one, Compilation.importAll_cons_eq_ok_iff.2 ⟨b₂, two, rfl⟩⟩
  · rw [document]
    rfl

end

/-- `schema_header::{ imports: [{ id: other, type: first, as: name },
{ id: other, type: second, as: name }] } type::{ name: own }` -/
def circleValues (other first second name own : String) : List Element :=
  [⟨["schema_header"], .struct [⟨"imports", .list
      [.struct [⟨"id", .string other⟩, ⟨"type", .symbol first⟩, ⟨"as", .symbol name⟩],
        .struct [⟨"id", .string other⟩, ⟨"type", .symbol second⟩, ⟨"as", .symbol name⟩]]⟩]⟩,
    ⟨["type"], .struct [⟨"name", .symbol own⟩]⟩]

def circleB : SchemaDocument := circleDocument "b.isl" "c.isl" "u" "y" "t" "x"

def circleC : SchemaDocument := circleDocument "c.isl" "b.isl" "t" "x" "u" "y"

/-- A system that allows transitive imports, with two schemas that import each other. -/
def circleSystem : System :=
  .fresh ⟨.standard, false, true⟩ [.memory ((MemoryAuthority.empty.insertValues "b.isl"
    (circleValues "c.isl" "u" "y" "t" "x")).insertValues "c.isl"
      (circleValues "b.isl" "t" "x" "u" "y"))]

def circleWorld : Universe := (Universe.ofRoot circleB).addPending "c.isl" ["c.isl"] circleC

theorem gather_circle :
    Universe.gather circleSystem.library circleSystem.cache.get? circleB = .ok circleWorld := by
  have found : circleSystem.library.document "c.isl" = .ok circleC := rfl
  exact Universe.gather_eq
    (.read rfl rfl found (.seen rfl (.seen rfl (.seen rfl (.done circleWorld)))))

theorem members_circle : Settings.members circleB circleWorld = [("c.isl", circleC)] := by
  have listed : (circleWorld.pending.entries.filter fun e => circleB.id != some e.1) =
      [("c.isl", circleC)] := rfl
  simp only [Settings.members, listed, List.mergeSort_singleton]

/-- Each of the two takes its name for a declaration in the other one. -/
theorem compiled_circle :
    ∃ σ τ, circleSystem.compiled (.load "b.isl") = [σ, τ] ∧
      (σ.document = circleB ∧ σ.inScope = Table.empty.insert "t" ⟨"c.isl", ⟨"y", ⟨[], []⟩⟩⟩) ∧
      τ.document = circleC ∧ τ.inScope = Table.empty.insert "u" ⟨"b.isl", ⟨"x", ⟨[], []⟩⟩⟩ := by
  have readsB : circleWorld.Reads "b.isl" circleB := ⟨rfl, rfl⟩
  have readsC : circleWorld.Reads "c.isl" circleC := ⟨rfl, rfl⟩
  obtain ⟨σ, ranB, fromB⟩ := run_circle (c := circleSystem.settings.compilation circleWorld circleB)
    rfl (by decide) (by decide) rfl
    (origin_circle (by decide) (by decide) (by decide) readsC readsB) (near_circle readsC)
  obtain ⟨τ, ranC, fromC⟩ := run_circle (c := circleSystem.settings.compilation circleWorld circleC)
    rfl (by decide) (by decide) rfl
    (origin_circle (by decide) (by decide) (by decide) readsB readsC) (near_circle readsB)
  have member : circleSystem.settings.compileMember circleWorld "c.isl" circleC = .ok τ :=
    Settings.compileMember_eq_ok_iff.2 ranC
  have members : (Settings.members circleB circleWorld).mapM
      (fun m => circleSystem.settings.compileMember circleWorld m.1 m.2) = .ok [τ] := by
    simp [members_circle, member, bind, Except.bind, pure, Except.pure]
  have document : circleSystem.library.document "b.isl" = .ok circleB := rfl
  have outcome : (circleSystem.attemptId circleSystem.cache "b.isl").outcome = .ok (σ, [τ]) :=
    System.attemptId_eq_ok_iff.2 ⟨circleB, document, System.attempt_eq_ok_iff.2
      ⟨circleWorld, gather_circle, System.compile_eq_ok_iff.2 ⟨members, ranB⟩⟩⟩
  have made : circleSystem.attempt? (.load "b.isl") =
    some (circleSystem.attemptId circleSystem.cache "b.isl") := rfl
  exact ⟨σ, τ, System.compiled_eq_cons_iff.2 ⟨_, made, outcome⟩, fromB, fromC⟩

theorem layered_small :
    Schema.Layered (smallSystem.compiled (.compileValues importingValues)) := by
  rw [compiled_small]
  refine ⟨fun _ => 0, fun a mem id named i header => ?_⟩
  obtain rfl | rfl : a = importingSchema ∨ a = declaringSchema := by simpa using mem
  · exact nomatch (show (none : Option String) = some id from named)
  · exact nomatch (show i ∈ ([] : List HeaderImport) from header)

/-- In the circle, the schema that imports `t` as `u` means by `u` something else than the other one
by `t`. Where only one of two schemas imports from the other, both mean the same. -/
theorem System.imports_concord_circle :
    (∃ σ ∈ circleSystem.compiled (.load "b.isl"), ∃ τ ∈ circleSystem.compiled (.load "b.isl"),
      τ.Imports σ "t" "u" ∧ τ.meaning? "u" = some ⟨"b.isl", ⟨"x", ⟨[], []⟩⟩⟩ ∧
      σ.meaning? "t" = some ⟨"c.isl", ⟨"y", ⟨[], []⟩⟩⟩ ∧
      ¬Schema.Definite (circleSystem.compiled (.load "b.isl")) circleSystem.library) ∧
    Schema.Layered (smallSystem.compiled (.compileValues importingValues)) ∧
    Schema.Concord (smallSystem.compiled (.compileValues importingValues)) ∧
    Settings.standard.allowTransitive = false ∧ importingSchema.Imports declaringSchema "t" "t" ∧
    ∃ target, importingSchema.meaning? "t" = some target ∧
      declaringSchema.meaning? "t" = some target := by
  have oneWay := (System.imports_concord .standard _ _).2.2 layered_small
  have imports : importingSchema.Imports declaringSchema "t" "t" :=
    .wildcard rfl (List.mem_cons_self ..) rfl
  have strict := (System.imports_concord .standard _ (.compileValues importingValues)).2.1 rfl
    importingSchema (compiled_small ▸ List.mem_cons_self ..) declaringSchema
    (compiled_small ▸ List.mem_cons_of_mem _ (List.mem_cons_self ..)) "t" "t" imports
  refine ⟨?_, layered_small, oneWay, rfl, imports, strict⟩
  obtain ⟨σ, τ, compiled, ⟨documentB, scopeB⟩, documentC, scopeC⟩ := compiled_circle
  have mem : σ ∈ circleSystem.compiled (.load "b.isl") := by simp [compiled]
  have mem' : τ ∈ circleSystem.compiled (.load "b.isl") := by simp [compiled]
  have imports : τ.Imports σ "t" "u" := by
    have named : σ.id? = some "b.isl" := by
      rw [Schema.id?, documentB]
      rfl
    have header : .single "b.isl" "t" (some "u") ∈ τ.document.imports := by
      rw [documentC]
      exact List.mem_cons_self ..
    exact .single named header
  have meant : τ.meaning? "u" = some ⟨"b.isl", ⟨"x", ⟨[], []⟩⟩⟩ := by
    refine Schema.meaning?_of_bound ?_ (by rw [scopeC]; rfl)
    rw [Schema.declared?, documentC]
    rfl
  have meant' : σ.meaning? "t" = some ⟨"c.isl", ⟨"y", ⟨[], []⟩⟩⟩ := by
    refine Schema.meaning?_of_bound ?_ (by rw [scopeB]; rfl)
    rw [Schema.declared?, documentB]
    rfl
  refine ⟨σ, mem, τ, mem', imports, meant, meant', ?_⟩
  intro definite
  obtain ⟨target, here, there⟩ :=
    (System.imports_concord _ _ _).1.2 definite τ mem' σ mem _ _ imports
  rw [meant] at here
  rw [meant', ← here] at there
  simp at there

end Isl
