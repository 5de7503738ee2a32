import Isl.Proofs.System.Compile
/-!
# What a compilation binds

A compilation that succeeds has a reason for every name that it brings into scope, has in scope
whatever its header imports bring, and has led every mention of its document to a type.

* `Compilation.Binds`, `run_binds`: every name in scope was bound by a header import or on demand;
* `run_brings`: the names that header imports bring are in scope;
* `run_settled`: every mention of the document leads to a type.
-/
namespace Isl

namespace Compilation

variable {c : Compilation} {b b' : Bindings}

/-! ## Every name is bound for a reason -/

/-- What a compilation may bind a name to. -/
inductive Binds (c : Compilation) : String → ImportedType → Prop where
  | wildcard {id : String} {t : NamedType} (header : .wildcard id ∈ c.document.imports)
      (declared : t ∈ c.world.declaredTypes id) : Binds c t.name ⟨id, t⟩
  | single {id typeName : String} {newName : Option String} {origin : Origin}
      (header : .single id typeName newName ∈ c.document.imports)
      (visible : c.exported id typeName = .ok origin) :
      Binds c (newName.getD typeName) ⟨origin.schemaId, origin.declaration⟩
  /-- A reference through the imports of a schema that is imported as a whole. -/
  | demanded {id name : String} {origin : Origin} (header : .wildcard id ∈ c.document.imports)
      (far : origin.transitive = true) (visible : c.exported id name = .ok origin) :
      Binds c name ⟨origin.schemaId, origin.declaration⟩

/-- A strict compilation takes nothing that was found through imports. -/
theorem exported_strict {id name : String} {origin : Origin}
    (strict : c.allowTransitive = false) (visible : c.exported id name = .ok origin) :
    c.world.origin? id name = some origin ∧ origin.transitive = false := by
  obtain ⟨found, allowed⟩ := exported_eq_ok_iff.1 visible
  refine ⟨found, ?_⟩
  cases far : origin.transitive with
  | false => rfl
  | true =>
    rw [allowed far] at strict
    cases strict

/-- Bindings that a compilation may have. -/
structure Reasoned (c : Compilation) (b : Bindings) : Prop where
  binds : ∀ name target, b.inScope.find? name = some target → c.Binds name target
  ascending : Ascending b.imports.names
  wildcards : ∀ id i, b.imports.find? id = some i → i.wildcard = true →
    .wildcard id ∈ c.document.imports

theorem reasoned_empty (c : Compilation) : c.Reasoned .empty := by
  refine ⟨?_, List.Pairwise.nil, ?_⟩
  · intro name target found
    cases found
  · intro id i found
    cases found

theorem reasoned_bind {name : String} {target : ImportedType} (reasoned : c.Reasoned b)
    (reason : c.Binds name target) (h : c.bind b name target = .ok b') : c.Reasoned b' := by
  obtain ⟨-, ⟨-, rfl⟩ | ⟨_, -, -, -, rfl⟩⟩ := bind_eq_ok_iff.1 h
  · refine ⟨?_, reasoned.ascending, reasoned.wildcards⟩
    intro n x found
    simp only [Table.find?_insert] at found
    by_cases same : name = n
    · rw [if_pos same] at found
      cases found
      exact same ▸ reason
    · rw [if_neg same] at found
      exact reasoned.binds n x found
  · exact reasoned

theorem reasoned_recordImport {id : String} {f : SchemaImport → SchemaImport}
    (reasoned : c.Reasoned b)
    (reason : ∀ i, (f i).wildcard = true → i.wildcard = true ∨ .wildcard id ∈ c.document.imports) :
    c.Reasoned (b.recordImport id f) := by
  refine ⟨reasoned.binds, Table.ascending_insert id _ reasoned.ascending, ?_⟩
  intro key i found wildcard
  simp only [Bindings.recordImport, Table.find?_insert] at found
  by_cases same : id = key
  · subst same
    rw [if_pos rfl] at found
    cases found
    rcases reason _ wildcard with earlier | header
    · cases known : b.imports.find? id with
      | none => simp [known, SchemaImport.none] at earlier
      | some i => exact reasoned.wildcards id i known (by simpa [known] using earlier)
    · exact header
  · rw [if_neg same] at found
    exact reasoned.wildcards key i found wildcard

theorem reasoned_bindAll {id : String} {ts : List NamedType} (reasoned : c.Reasoned b)
    (reason : ∀ t ∈ ts, c.Binds t.name ⟨id, t⟩) (h : c.bindAll id b ts = .ok b') :
    c.Reasoned b' := by
  induction ts generalizing b with
  | nil =>
    cases h
    exact reasoned
  | cons t ts ih =>
    obtain ⟨bound, first, rest⟩ := bindAll_cons_eq_ok_iff.1 h
    have reasonedFirst := reasoned_bind reasoned (reason t (List.mem_cons_self ..)) first
    exact ih reasonedFirst (fun u hu => reason u (List.mem_cons_of_mem _ hu)) rest

theorem reasoned_importOne {i : HeaderImport} (reasoned : c.Reasoned b)
    (header : i ∈ c.document.imports) (h : c.importOne b i = .ok b') : c.Reasoned b' := by
  cases i with
  | wildcard id =>
    obtain ⟨-, bound, all, rfl⟩ := importOne_wildcard_eq_ok_iff.1 h
    have reasonedAll := reasoned_bindAll reasoned (fun t ht => .wildcard header ht) all
    exact reasoned_recordImport reasonedAll fun _ _ => .inr header
  | single id typeName newName =>
    obtain ⟨-, origin, visible, bound, one, rfl⟩ := importOne_single_eq_ok_iff.1 h
    have reasonedOne := reasoned_bind reasoned (.single header visible) one
    exact reasoned_recordImport reasonedOne fun _ wildcard => .inl wildcard

theorem reasoned_importAll {is : List HeaderImport} (reasoned : c.Reasoned b)
    (header : ∀ i ∈ is, i ∈ c.document.imports) (h : c.importAll b is = .ok b') :
    c.Reasoned b' := by
  induction is generalizing b with
  | nil =>
    cases h
    exact reasoned
  | cons i is ih =>
    obtain ⟨bound, first, rest⟩ := importAll_cons_eq_ok_iff.1 h
    have reasonedFirst := reasoned_importOne reasoned (header i (List.mem_cons_self ..)) first
    exact ih reasonedFirst (fun j hj => header j (List.mem_cons_of_mem _ hj)) rest

/-- A schema that reaches a name through its own imports is imported as a whole. -/
theorem transitiveSource_header {name id : String} (reasoned : c.Reasoned b)
    (h : c.transitiveSource? b name = some id) :
    .wildcard id ∈ c.document.imports ∧
      ∃ origin, c.world.origin? id name = some origin ∧ origin.transitive = true := by
  obtain ⟨⟨key, i⟩, found, rfl⟩ := Option.map_eq_some_iff.1 h
  have passes := List.find?_some found
  simp only [Bool.and_eq_true, Option.any_eq_true] at passes
  obtain ⟨wildcard, origin, reached, far⟩ := passes
  have entry := Table.find?_of_mem_entries reasoned.ascending (List.mem_of_find?_eq_some found)
  exact ⟨reasoned.wildcards key i entry wildcard, origin, reached, far⟩

theorem reasoned_checkMention {m : Mention} {unresolved unresolved' : NameSet}
    (reasoned : c.Reasoned b) (h : c.checkMention b unresolved m = .ok (b', unresolved')) :
    c.Reasoned b' := by
  cases m with
  | name name =>
    rcases checkMention_name_eq_ok_iff.1 h with
      ⟨-, rfl, -⟩ | ⟨-, -, rfl, -⟩ | ⟨-, id, origin, source, visible, bound, -⟩
    · exact reasoned
    · exact reasoned
    · obtain ⟨header, found, reached, far⟩ := transitiveSource_header reasoned source
      have same := (exported_eq_ok_iff.1 visible).1
      rw [reached] at same
      cases same
      exact reasoned_bind reasoned (.demanded header far visible) bound
  | imported id typeName =>
    obtain ⟨-, -, rfl, -⟩ := checkMention_imported_eq_ok_iff.1 h
    exact reasoned_recordImport reasoned fun _ wildcard => .inl wildcard

theorem reasoned_checkMentions {ms : List Mention} {unresolved unresolved' : NameSet}
    (reasoned : c.Reasoned b) (h : c.checkMentions b unresolved ms = .ok (b', unresolved')) :
    c.Reasoned b' := by
  induction ms generalizing b unresolved with
  | nil =>
    cases h
    exact reasoned
  | cons m ms ih =>
    obtain ⟨bound, left, first, rest⟩ := checkMentions_cons_eq_ok_iff.1 h
    exact ih (reasoned_checkMention reasoned first) rest

theorem run_reasoned {σ : Schema} (h : c.run = .ok σ) : c.Reasoned ⟨σ.imports, σ.inScope⟩ := by
  obtain ⟨-, -, b₀, b, imported, checked, rfl⟩ := run_eq_ok_iff.1 h
  have header := reasoned_importAll c.reasoned_empty (fun _ hi => hi) imported
  exact reasoned_checkMentions header checked

/-- Every name that a compiled schema has in scope was bound by a header import, or on demand. -/
theorem run_binds {σ : Schema} (h : c.run = .ok σ) {name : String} {target : ImportedType}
    (found : σ.inScope.find? name = some target) : c.Binds name target :=
  (run_reasoned h).binds name target found

end Compilation

/-! ## What header imports bring is there -/

/-- A name is bound to a type that a schema declares under another name, or the same one. -/
def Bindings.Has (b : Bindings) (name schemaId typeName : String) : Prop :=
  ∃ target, b.inScope.find? name = some target ∧ target.schemaId = schemaId ∧
    target.declaration.name = typeName

theorem Bindings.Extends.has {later earlier : Bindings} (extends_ : later.Extends earlier)
    {name schemaId typeName : String} (h : earlier.Has name schemaId typeName) :
    later.Has name schemaId typeName := by
  obtain ⟨target, found, same⟩ := h
  exact ⟨target, extends_.inScope name target found, same⟩

namespace Compilation

variable {c : Compilation} {b b' : Bindings}

theorem bind_has {name : String} {target : ImportedType} (h : c.bind b name target = .ok b') :
    b'.Has name target.schemaId target.declaration.name := by
  obtain ⟨-, ⟨-, rfl⟩ | ⟨first, found, schemaId, declaration, rfl⟩⟩ := bind_eq_ok_iff.1 h
  · exact ⟨target, by simp [Table.find?_insert], rfl, rfl⟩
  · exact ⟨first, found, schemaId, declaration⟩

theorem bindAll_has {id : String} {ts : List NamedType} (h : c.bindAll id b ts = .ok b')
    {t : NamedType} (mem : t ∈ ts) : b'.Has t.name id t.name := by
  induction ts generalizing b with
  | nil => cases mem
  | cons u ts ih =>
    obtain ⟨bound, first, rest⟩ := bindAll_cons_eq_ok_iff.1 h
    rcases List.mem_cons.1 mem with rfl | mem
    · exact (grows_bindAll rest).extends.has (bind_has first)
    · exact ih rest mem

/-- What a header import brings, once it has been looked at. -/
def Brings (c : Compilation) (b : Bindings) : HeaderImport → Prop
  | .wildcard id => c.document.id ≠ some id ∧
    ∀ t ∈ c.world.declaredTypes id, b.Has t.name id t.name
  | .single id typeName newName => c.document.id ≠ some id ∧
    ∃ origin, c.exported id typeName = .ok origin ∧
      b.Has (newName.getD typeName) origin.schemaId origin.declaration.name

theorem Brings.extends {later earlier : Bindings} (extends_ : later.Extends earlier)
    {i : HeaderImport} (h : c.Brings earlier i) : c.Brings later i := by
  cases i with
  | wildcard id =>
    obtain ⟨other, all⟩ := h
    exact ⟨other, fun t ht => extends_.has (all t ht)⟩
  | single id typeName newName =>
    obtain ⟨other, origin, visible, has⟩ := h
    exact ⟨other, origin, visible, extends_.has has⟩

theorem importOne_brings {i : HeaderImport} (h : c.importOne b i = .ok b') : c.Brings b' i := by
  cases i with
  | wildcard id =>
    obtain ⟨other, bound, all, rfl⟩ := importOne_wildcard_eq_ok_iff.1 h
    exact ⟨other, fun t ht => (bound.recordImport_extends id _).has (bindAll_has all ht)⟩
  | single id typeName newName =>
    obtain ⟨other, origin, visible, bound, one, rfl⟩ := importOne_single_eq_ok_iff.1 h
    exact ⟨other, origin, visible, (bound.recordImport_extends id _).has (bind_has one)⟩

theorem importAll_brings {is : List HeaderImport} (h : c.importAll b is = .ok b')
    {i : HeaderImport} (mem : i ∈ is) : c.Brings b' i := by
  induction is generalizing b with
  | nil => cases mem
  | cons j is ih =>
    obtain ⟨bound, first, rest⟩ := importAll_cons_eq_ok_iff.1 h
    rcases List.mem_cons.1 mem with rfl | mem
    · exact (importOne_brings first).extends (grows_importAll rest).extends
    · exact ih rest mem

/-- The names that a compiled schema imports are all in scope. -/
theorem run_brings {σ : Schema} (h : c.run = .ok σ) {i : HeaderImport}
    (mem : i ∈ c.document.imports) : c.Brings ⟨σ.imports, σ.inScope⟩ i := by
  obtain ⟨-, -, b₀, b, imported, checked, rfl⟩ := run_eq_ok_iff.1 h
  exact (importAll_brings imported mem).extends (grows_checkMentions checked).extends

/-! ## Every mention leads to a type -/

/-- A mention that has been led to a type. -/
def Settled (c : Compilation) (b : Bindings) : Mention → Prop
  | .name name => c.isKnown b name = true
  | .imported id typeName => c.document.id ≠ some id ∧
    (∃ origin, c.exported id typeName = .ok origin) ∧ b.imports.contains id = true

theorem Settled.extends {later earlier : Bindings} (extends_ : later.Extends earlier) {m : Mention}
    (h : c.Settled earlier m) : c.Settled later m := by
  cases m with
  | name name =>
    rcases isKnown_iff.1 h with builtin | declared | bound
    · exact isKnown_iff.2 (.inl builtin)
    · exact isKnown_iff.2 (.inr (.inl declared))
    · obtain ⟨target, found⟩ := Table.contains_iff.1 bound
      have kept := Table.contains_iff.2 ⟨target, extends_.inScope name target found⟩
      exact isKnown_iff.2 (.inr (.inr kept))
  | imported id typeName =>
    obtain ⟨other, visible, recorded⟩ := h
    exact ⟨other, visible, extends_.imports id recorded⟩

/-- Names that were noted as unresolved stay so. -/
theorem unresolved_of_checkMention {m : Mention} {unresolved : NameSet}
    (h : c.checkMention b unresolved m = .ok (b', [])) : unresolved = [] := by
  cases m with
  | name name =>
    rcases checkMention_name_eq_ok_iff.1 h with
      ⟨-, -, same⟩ | ⟨-, -, -, noted⟩ | ⟨-, _, _, -, -, -, same⟩
    · exact same.symm
    · exact absurd noted.symm (NameSet.insert_ne_nil unresolved name)
    · exact same.symm
  | imported id typeName => exact (checkMention_imported_eq_ok_iff.1 h).2.2.2

theorem unresolved_of_checkMentions {ms : List Mention} {unresolved : NameSet}
    (h : c.checkMentions b unresolved ms = .ok (b', [])) : unresolved = [] := by
  induction ms generalizing b unresolved with
  | nil =>
    cases h
    rfl
  | cons m ms ih =>
    obtain ⟨bound, left, first, rest⟩ := checkMentions_cons_eq_ok_iff.1 h
    obtain rfl := ih rest
    exact unresolved_of_checkMention first

theorem checkMention_settled {m : Mention} (h : c.checkMention b [] m = .ok (b', [])) :
    c.Settled b' m := by
  cases m with
  | name name =>
    rcases checkMention_name_eq_ok_iff.1 h with
      ⟨known, rfl, -⟩ | ⟨-, -, -, noted⟩ | ⟨-, id, origin, -, -, bound, -⟩
    · exact known
    · exact absurd noted.symm (NameSet.insert_ne_nil [] name)
    · obtain ⟨target, found, -⟩ := bind_has bound
      exact isKnown_iff.2 (.inr (.inr (Table.contains_iff.2 ⟨target, found⟩)))
  | imported id typeName =>
    obtain ⟨other, visible, rfl, -⟩ := checkMention_imported_eq_ok_iff.1 h
    exact ⟨other, visible, b.recordImport_contains id _⟩

theorem checkMentions_settled {ms : List Mention} (h : c.checkMentions b [] ms = .ok (b', []))
    {m : Mention} (mem : m ∈ ms) : c.Settled b' m := by
  induction ms generalizing b with
  | nil => cases mem
  | cons n ms ih =>
    obtain ⟨bound, left, first, rest⟩ := checkMentions_cons_eq_ok_iff.1 h
    obtain rfl := unresolved_of_checkMentions rest
    rcases List.mem_cons.1 mem with rfl | mem
    · exact (checkMention_settled first).extends (grows_checkMentions rest).extends
    · exact ih rest mem

/-- Every mention of a document that compiles leads to a type. -/
theorem run_settled {σ : Schema} (h : c.run = .ok σ) {m : Mention}
    (mem : m ∈ c.document.mentions) : c.Settled ⟨σ.imports, σ.inScope⟩ m := by
  obtain ⟨-, -, b₀, b, -, checked, rfl⟩ := run_eq_ok_iff.1 h
  exact checkMentions_settled checked mem

end Compilation
end Isl
