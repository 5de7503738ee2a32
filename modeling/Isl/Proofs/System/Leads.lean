import Mathlib.Data.List.Nodup
import Isl.Proofs.System.Coherence
import Isl.Proofs.System.References
/-!
# Where names lead

A chain of imports leads from a name to a declaration. Several chains may begin at one name, and
the search along imports follows one of them. A compiled schema means by a name what some chain
leads to, and its own header decides which.

* `Library.Leads`: a chain of imports between documents of the library;
* `Universe.Points.leads`: without cached schemas, what is found is at the end of such a chain;
* `Compilation.run_undeclared`: no name that a compiled schema has in scope is declared in it;
* `Compilation.declared?_of_mem`: the names of its types are distinct.
-/
namespace Isl

/-- A chain of imports leads from a name that a schema of the library knows to a declaration. -/
inductive Library.Leads (lib : Library) : String → String → ImportedType → Prop where
  | declared {id name : String} {d : SchemaDocument} {t : NamedType}
      (document : lib.document id = .ok d) (own : d.declared? name = some t) :
      Leads lib id name ⟨id, t⟩
  | wildcard {id name other : String} {d e : SchemaDocument} {t : NamedType}
      (document : lib.document id = .ok d) (header : .wildcard other ∈ d.imports)
      (there : lib.document other = .ok e) (own : e.declared? name = some t) :
      Leads lib id name ⟨other, t⟩
  | single {id other typeName : String} {newName : Option String} {d : SchemaDocument}
      {target : ImportedType} (document : lib.document id = .ok d)
      (header : .single other typeName newName ∈ d.imports)
      (there : Leads lib other typeName target) :
      Leads lib id (newName.getD typeName) target

/-- The document of a schema declares a type under its own name. -/
def Library.Declares (lib : Library) (target : ImportedType) : Prop :=
  ∃ d, lib.document target.schemaId = .ok d ∧
    d.declared? target.declaration.name = some target.declaration

theorem Library.Declares.ext {lib : Library} {x y : ImportedType} (hx : lib.Declares x)
    (hy : lib.Declares y) (schemaId : x.schemaId = y.schemaId)
    (named : x.declaration.name = y.declaration.name) : x = y := by
  obtain ⟨id, t⟩ := x
  obtain ⟨id', t'⟩ := y
  obtain ⟨d, document, own⟩ := hx
  obtain ⟨d', document', own'⟩ := hy
  obtain rfl : id = id' := schemaId
  obtain rfl : d = d' := Except.ok.inj (document.symm.trans document')
  have named : t.name = t'.name := named
  rw [named] at own
  obtain rfl : t = t' := Option.some.inj (own.symm.trans own')
  rfl

theorem Library.declares_of_declared? {lib : Library} {id name : String} {d : SchemaDocument}
    {t : NamedType} (document : lib.document id = .ok d) (own : d.declared? name = some t) :
    lib.Declares ⟨id, t⟩ := by
  obtain ⟨-, rfl⟩ := declared?_eq_some own
  exact ⟨d, document, own⟩

theorem Library.Leads.declares {lib : Library} {id name : String} {target : ImportedType}
    (leads : lib.Leads id name target) : lib.Declares target := by
  induction leads with
  | declared document own => exact declares_of_declared? document own
  | wildcard _ _ there own => exact declares_of_declared? there own
  | single _ _ _ ih => exact ih

namespace Universe

variable {u : Universe} {lib : Library}

theorem reads_of_declared (bare : ∀ id, u.cached.find? id = none) {id name : String}
    {t : NamedType} (first : (u.declaredTypes id).find? (·.name == name) = some t) :
    ∃ d, u.Reads id d ∧ d.declared? name = some t := by
  cases found : u.pending.find? id with
  | none => simp [declaredTypes, bare id, found] at first
  | some d =>
    have read : u.Reads id d := ⟨bare id, found⟩
    rw [declaredTypes_read read] at first
    exact ⟨d, read, first⟩

/-- Without cached schemas, a chain leads through documents of the library. -/
theorem Points.leads (bare : ∀ id, u.cached.find? id = none)
    (documents : ∀ id d, u.pending.find? id = some d → lib.document id = .ok d)
    {id name : String} {target : ImportedType} (points : u.Points id name target) :
    lib.Leads id name target := by
  induction points with
  | cached held _ =>
    rw [bare] at held
    cases held
  | declared read own => exact .declared (documents _ _ read.2) own
  | wildcard read _ header there =>
    obtain ⟨e, read', own⟩ := reads_of_declared bare there
    exact .wildcard (documents _ _ read.2) header (documents _ _ read'.2) own
  | single read _ header _ ih => exact .single (documents _ _ read.2) header ih

/-- So is what the search finds at the end of such a chain. -/
theorem leads_of_origin? (bare : ∀ id, u.cached.find? id = none)
    (documents : ∀ id d, u.pending.find? id = some d → lib.document id = .ok d)
    {id name : String} {o : Origin} (found : u.origin? id name = some o) :
    lib.Leads id name o.target :=
  (points_of_origin? (labelled_of_bare bare) found).leads bare documents

end Universe

/-! ## Names that a compilation binds -/

namespace Compilation

variable {c : Compilation} {b b' : Bindings} {σ : Schema}

section

/-- What holds of no bindings, and is kept whenever a name is bound or an import is recorded, holds
of the bindings of a schema that compiles. -/
structure Kept (c : Compilation) (P : Bindings → Prop) : Prop where
  empty : P .empty
  bind : ∀ {b b' name target}, P b → c.bind b name target = .ok b' → P b'
  record : ∀ {b} id f, P b → P (b.recordImport id f)

variable {P : Bindings → Prop}

theorem Kept.along (kept : c.Kept P) (grows : c.Grows b b') (before : P b) : P b' := by
  induction grows with
  | refl => exact before
  | tail _ adds ih =>
    cases adds with
    | bind bound => exact kept.bind ih bound
    | record id _ => exact kept.record id _ ih

theorem Kept.run (kept : c.Kept P) (h : c.run = .ok σ) : P ⟨σ.imports, σ.inScope⟩ := by
  obtain ⟨-, -, b₀, b, imported, checked, rfl⟩ := run_eq_ok_iff.1 h
  exact kept.along ((grows_importAll imported).trans (grows_checkMentions checked)) kept.empty

end

/-- No name in scope is one that the document declares. -/
def Undeclared (c : Compilation) (b : Bindings) : Prop :=
  ∀ name target, b.inScope.find? name = some target → c.declares name = false

theorem kept_undeclared (c : Compilation) : c.Kept c.Undeclared where
  empty := by
    intro name target found
    cases found
  bind := by
    intro b b' name target before bound n x found
    obtain ⟨free, ⟨-, rfl⟩ | ⟨_, -, -, -, rfl⟩⟩ := bind_eq_ok_iff.1 bound
    · simp only [Table.find?_insert] at found
      by_cases same : name = n
      · exact same ▸ free
      · rw [if_neg same] at found
        exact before n x found
    · exact before n x found
  record id f before := before

theorem run_undeclared (h : c.run = .ok σ) {name : String} {target : ImportedType}
    (bound : σ.inScope.find? name = some target) : σ.declared? name = none := by
  have free := c.kept_undeclared.run h name target bound
  rw [declares, Option.isSome_eq_false_iff, Option.isNone_iff_eq_none] at free
  rwa [Schema.declared?, document_of_run h]

theorem repeatedAfter_eq_none {before names : List String}
    (h : repeatedAfter before names = none) : names.Nodup ∧ ∀ n ∈ names, n ∉ before := by
  induction names generalizing before with
  | nil => simp
  | cons n ns ih =>
    by_cases old : n ∈ before
    · simp [repeatedAfter, old] at h
    · simp only [repeatedAfter, old, if_false] at h
      obtain ⟨distinct, new⟩ := ih h
      refine ⟨List.nodup_cons.2 ⟨?_, distinct⟩, ?_⟩
      · intro again
        exact new n again (List.mem_append_right _ (List.mem_singleton_self n))
      · intro m mem
        rcases List.mem_cons.1 mem with rfl | mem
        · exact old
        · exact fun earlier => new m mem (List.mem_append_left _ earlier)

theorem distinct_of_run (h : c.run = .ok σ) : (σ.types.map (·.name)).Nodup := by
  obtain ⟨declarations, -⟩ := run_eq_ok_iff.1 h
  unfold checkDeclarations at declarations
  cases repeated : repeatedAfter [] (c.document.types.map (·.name)) with
  | some name => simp [repeated] at declarations
  | none =>
    rw [Schema.types, document_of_run h]
    exact (repeatedAfter_eq_none repeated).1

/-- Each type of a schema that compiles is the one that it declares under its name. -/
theorem declared?_of_mem (h : c.run = .ok σ) {t : NamedType} (mem : t ∈ σ.types) :
    σ.declared? t.name = some t := by
  obtain ⟨first, found⟩ := Isl.declared?_of_mem (d := σ.document) mem
  obtain ⟨there, named⟩ := declared?_eq_some found
  obtain rfl := List.inj_on_of_nodup_map (distinct_of_run h) there mem named
  exact found

end Compilation
end Isl

/-!
## How names come into scope

A name that a compiled schema has in scope was supplied by a header import, and then it stands for
exactly the declaration that this import brings. Or no header import supplies it: then a reference
in the document asked for it.

* `Compilation.Supplies`: the declaration that a header import brings under a name;
* `Compilation.Brings.has`: what is supplied is in scope;
* `Compilation.run_scope`: each name in scope was supplied, or asked for by a reference alone.
-/

namespace Isl.Compilation

variable {c : Compilation} {b b' : Bindings} {σ : Schema} {name : String} {target : ImportedType}

/-- What a header import brings under a name. Of several types with one name, an import of the
schema as a whole brings the first. -/
inductive Supplies (c : Compilation) : HeaderImport → String → ImportedType → Prop where
  | wildcard {id name : String} {t : NamedType}
      (declared : (c.world.declaredTypes id).find? (·.name == name) = some t) :
      Supplies c (.wildcard id) name ⟨id, t⟩
  | single {id typeName : String} {newName : Option String} {origin : Origin}
      (visible : c.exported id typeName = .ok origin) :
      Supplies c (.single id typeName newName) (newName.getD typeName) origin.target

theorem supplies_of_declared {id : String} {t : NamedType}
    (declared : t ∈ c.world.declaredTypes id) :
    ∃ first, c.Supplies (.wildcard id) t.name first := by
  cases first : (c.world.declaredTypes id).find? (·.name == t.name) with
  | none =>
    have differs := List.find?_eq_none.1 first t declared
    simp at differs
  | some t' => exact ⟨_, .wildcard first⟩

/-- What a header import supplies is in scope once it has been looked at. -/
theorem Brings.has {i : HeaderImport} (brings : c.Brings b i)
    (supplies : c.Supplies i name target) :
    b.Has name target.schemaId target.declaration.name := by
  cases supplies with
  | @wildcard id name t declared =>
    have named : t.name = name := by simpa using List.find?_some declared
    have has := brings.2 t (List.mem_of_find?_eq_some declared)
    rw [named] at has
    exact named.symm ▸ has
  | single visible =>
    obtain ⟨-, origin, same, has⟩ := brings
    rw [visible] at same
    cases same
    exact has

/-! ### Step by step -/

theorem bind_scope {bound : String} {value : ImportedType} (h : c.bind b bound value = .ok b')
    (found : b'.inScope.find? name = some target) :
    b.inScope.find? name = some target ∨
      b.inScope.find? name = none ∧ bound = name ∧ target = value := by
  obtain ⟨-, ⟨free, rfl⟩ | ⟨_, -, -, -, rfl⟩⟩ := bind_eq_ok_iff.1 h
  · simp only [Table.find?_insert] at found
    by_cases same : bound = name
    · subst same
      rw [if_pos rfl] at found
      exact .inr ⟨free, rfl, (Option.some.inj found).symm⟩
    · rw [if_neg same] at found
      exact .inl found
  · exact .inl found

theorem unbound_of_extends {later earlier : Bindings} (extends_ : later.Extends earlier)
    (free : later.inScope.find? name = none) : earlier.inScope.find? name = none := by
  cases found : earlier.inScope.find? name with
  | none => rfl
  | some x =>
    rw [extends_.inScope name x found] at free
    cases free

theorem bindAll_scope {id : String} {ts : List NamedType} (h : c.bindAll id b ts = .ok b')
    (found : b'.inScope.find? name = some target) :
    b.inScope.find? name = some target ∨ b.inScope.find? name = none ∧
      ∃ t, ts.find? (·.name == name) = some t ∧ target = ⟨id, t⟩ := by
  induction ts generalizing b with
  | nil =>
    cases h
    exact .inl found
  | cons t ts ih =>
    obtain ⟨bound, first, rest⟩ := bindAll_cons_eq_ok_iff.1 h
    rcases ih rest with earlier | ⟨free, u, listed, rfl⟩
    · obtain before | ⟨free, named, rfl⟩ := bind_scope first earlier
      · exact .inl before
      · exact .inr ⟨free, t, by simp [named], rfl⟩
    · -- The first type is bound now, so it has another name.
      have other : t.name ≠ name := by
        rintro rfl
        obtain ⟨x, there, -⟩ := bind_has first
        rw [free] at there
        cases there
      refine .inr ⟨unbound_of_extends (bind_extends first) free, u, ?_, rfl⟩
      rwa [List.find?_cons_of_neg (by simpa using other)]

theorem importOne_scope {i : HeaderImport} (h : c.importOne b i = .ok b')
    (found : b'.inScope.find? name = some target) :
    b.inScope.find? name = some target ∨ c.Supplies i name target := by
  cases i with
  | wildcard id =>
    obtain ⟨-, bound, all, rfl⟩ := importOne_wildcard_eq_ok_iff.1 h
    obtain before | ⟨-, t, declared, rfl⟩ := bindAll_scope all found
    · exact .inl before
    · exact .inr (.wildcard declared)
  | single id typeName newName =>
    obtain ⟨-, origin, visible, bound, one, rfl⟩ := importOne_single_eq_ok_iff.1 h
    obtain before | ⟨-, rfl, rfl⟩ := bind_scope one found
    · exact .inl before
    · exact .inr (.single visible)

theorem importAll_scope {is : List HeaderImport} (h : c.importAll b is = .ok b')
    (found : b'.inScope.find? name = some target) :
    b.inScope.find? name = some target ∨ ∃ i ∈ is, c.Supplies i name target := by
  induction is generalizing b with
  | nil =>
    cases h
    exact .inl found
  | cons i is ih =>
    obtain ⟨bound, first, rest⟩ := importAll_cons_eq_ok_iff.1 h
    rcases ih rest with earlier | ⟨j, mem, supplies⟩
    · obtain before | supplies := importOne_scope first earlier
      · exact .inl before
      · exact .inr ⟨i, List.mem_cons_self .., supplies⟩
    · exact .inr ⟨j, List.mem_cons_of_mem _ mem, supplies⟩

theorem checkMention_scope {m : Mention} {unresolved unresolved' : NameSet}
    (h : c.checkMention b unresolved m = .ok (b', unresolved'))
    (found : b'.inScope.find? name = some target) :
    b.inScope.find? name = some target ∨ b.inScope.find? name = none ∧ m = .name name ∧
      c.vocabulary.isBuiltinType name = false := by
  cases m with
  | name mentioned =>
    rcases checkMention_name_eq_ok_iff.1 h with
      ⟨-, rfl, -⟩ | ⟨-, -, rfl, -⟩ | ⟨unknown, id, origin, -, -, bound, -⟩
    · exact .inl found
    · exact .inl found
    · obtain before | ⟨free, rfl, rfl⟩ := bind_scope bound found
      · exact .inl before
      · simp only [isKnown, Bool.or_eq_false_iff] at unknown
        exact .inr ⟨free, rfl, unknown.1.1⟩
  | imported id typeName =>
    obtain ⟨-, -, rfl, -⟩ := checkMention_imported_eq_ok_iff.1 h
    exact .inl found

theorem checkMentions_scope {ms : List Mention} {unresolved unresolved' : NameSet}
    (h : c.checkMentions b unresolved ms = .ok (b', unresolved'))
    (found : b'.inScope.find? name = some target) :
    b.inScope.find? name = some target ∨ b.inScope.find? name = none ∧ .name name ∈ ms ∧
      c.vocabulary.isBuiltinType name = false := by
  induction ms generalizing b unresolved with
  | nil =>
    cases h
    exact .inl found
  | cons m ms ih =>
    obtain ⟨bound, left, first, rest⟩ := checkMentions_cons_eq_ok_iff.1 h
    rcases ih rest with earlier | ⟨free, mem, foreign⟩
    · obtain before | ⟨free, rfl, foreign⟩ := checkMention_scope first earlier
      · exact .inl before
      · exact .inr ⟨free, List.mem_cons_self .., foreign⟩
    · have before := unbound_of_extends (grows_checkMention first).extends free
      exact .inr ⟨before, List.mem_cons_of_mem _ mem, foreign⟩

/-- A name in scope stands for what a header import supplies, or only a reference asked for it. -/
theorem run_scope (h : c.run = .ok σ) (found : σ.inScope.find? name = some target) :
    (∃ i ∈ c.document.imports, c.Supplies i name target) ∨
      .name name ∈ c.document.mentions ∧ c.vocabulary.isBuiltinType name = false ∧
        ∀ i ∈ c.document.imports, ∀ other, ¬c.Supplies i name other := by
  obtain ⟨-, -, b₀, b, imported, checked, rfl⟩ := run_eq_ok_iff.1 h
  rcases checkMentions_scope checked found with header | ⟨free, mentioned, foreign⟩
  · obtain nothing | supplied := importAll_scope imported header
    · cases nothing
    · exact .inl supplied
  · refine .inr ⟨mentioned, foreign, ?_⟩
    intro i mem other supplies
    obtain ⟨x, there, -⟩ := (importAll_brings imported mem).has supplies
    rw [free] at there
    cases there

end Isl.Compilation
