import Isl.Proofs.Reader.Imports
import Isl.Proofs.System.Shadowing
/-!
# Header imports as a set

Header imports are looked at one after the other, and a name that several of them supply stands for
what the first supplies. With transitive imports disallowed they supply no more than what other
schemas declare, so all that matters is which imports there are: neither their order nor how often
one is repeated makes a difference.

* `Compilation.Compatible`, `importAll_ok_iff`: when no import is in the way of another;
* `Compilation.Register`, `Register.unique`: what is recorded of imports is told by which there are;
* `Compilation.importAll_of_mem_iff`: so is all that they come to;
* `Compilation.run_sameImports`: documents that list the same imports compile to schemas that have
  the same imports.
-/
namespace Isl

/-- Schemas of documents that list the same imports, which have recorded the same imports and have
the same names in scope for the same declarations. -/
structure Schema.SameImports (σ τ : Schema) : Prop where
  document : σ.document.SameImports τ.document
  imports : σ.imports = τ.imports
  inScope : σ.inScope = τ.inScope

/-! ## When imports are compatible -/

theorem ImportedType.Same.symm {x y : ImportedType} (same : x.Same y) : y.Same x :=
  ⟨same.1.symm, same.2.symm⟩

theorem ImportedType.Same.trans {x y z : ImportedType} (same : x.Same y) (same' : y.Same z) :
    x.Same z := ⟨same.1.trans same'.1, same.2.trans same'.2⟩

namespace Compilation

variable {c : Compilation} {b b' : Bindings} {is js : List HeaderImport} {i : HeaderImport}
  {id name : String} {x y : ImportedType} {σ : Schema}

/-- None of these imports is of the schema itself or of a type that cannot be imported, and none
supplies a name that means something else already. -/
structure Compatible (c : Compilation) (is : List HeaderImport) : Prop where
  foreign : ∀ i ∈ is, c.document.id ≠ some i.schemaId
  visible : ∀ id typeName newName, .single id typeName newName ∈ is →
    ∃ origin, c.exported id typeName = .ok origin
  free : ∀ i ∈ is, ∀ name x, c.Supplies i name x → c.declares name = false
  same : ∀ i ∈ is, ∀ j ∈ is, ∀ name x y, c.Supplies i name x → c.Supplies j name y → x.Same y

theorem Compatible.of_mem_iff (compatible : c.Compatible is) (same : ∀ i, i ∈ is ↔ i ∈ js) :
    c.Compatible js where
  foreign i mem := compatible.foreign i ((same i).2 mem)
  visible id typeName newName mem := compatible.visible id typeName newName ((same _).2 mem)
  free i mem := compatible.free i ((same i).2 mem)
  same i hi j hj := compatible.same i ((same i).2 hi) j ((same j).2 hj)

/-- One of these imports supplies such a type under the name. -/
def Means (c : Compilation) (is : List HeaderImport) (name : String) (x : ImportedType) : Prop :=
  ∃ i ∈ is, ∃ y, c.Supplies i name y ∧ y.Same x

/-- Whatever is in scope comes from one of these imports. -/
def Supplied (c : Compilation) (is : List HeaderImport) (b : Bindings) : Prop :=
  ∀ name x, b.inScope.find? name = some x → c.Means is name x

theorem Compatible.bind (compatible : c.Compatible is) (supplied : c.Supplied is b)
    (means : c.Means is name x) : ∃ b', c.bind b name x = .ok b' ∧ c.Supplied is b' := by
  obtain ⟨i, mem, y, supplies, same⟩ := means
  have free := compatible.free i mem name y supplies
  cases found : b.inScope.find? name with
  | none =>
    refine ⟨_, bind_eq_ok_iff.2 ⟨free, .inl ⟨found, rfl⟩⟩, ?_⟩
    intro n z there
    simp only [Table.find?_insert] at there
    by_cases at_name : name = n
    · rw [if_pos at_name] at there
      cases there
      exact at_name ▸ ⟨i, mem, y, supplies, same⟩
    · rw [if_neg at_name] at there
      exact supplied n z there
  | some first =>
    obtain ⟨j, mem', z, supplies', same'⟩ := supplied name first found
    have agree := compatible.same j mem' i mem name z y supplies' supplies
    obtain ⟨schemaId, declaration⟩ := same'.symm.trans (agree.trans same)
    exact ⟨b, bind_eq_ok_iff.2 ⟨free, .inr ⟨first, found, schemaId, declaration, rfl⟩⟩, supplied⟩

theorem Compatible.bindAll {ts : List NamedType} (compatible : c.Compatible is)
    (supplied : c.Supplied is b) (means : ∀ t ∈ ts, c.Means is t.name ⟨id, t⟩) :
    ∃ b', c.bindAll id b ts = .ok b' ∧ c.Supplied is b' := by
  induction ts generalizing b with
  | nil => exact ⟨b, rfl, supplied⟩
  | cons t ts ih =>
    obtain ⟨bound, first, supplied⟩ := compatible.bind supplied (means t (List.mem_cons_self ..))
    obtain ⟨b', rest, supplied⟩ := ih supplied fun u mem => means u (List.mem_cons_of_mem _ mem)
    exact ⟨b', bindAll_cons_eq_ok_iff.2 ⟨bound, first, rest⟩, supplied⟩

theorem means_of_declared (mem : .wildcard id ∈ is) {t : NamedType}
    (declared : t ∈ c.world.declaredTypes id) : c.Means is t.name ⟨id, t⟩ := by
  obtain ⟨first, supplies⟩ := supplies_of_declared declared
  refine ⟨_, mem, first, supplies, ?_⟩
  cases supplies with
  | wildcard found => exact ⟨rfl, by simpa using List.find?_some found⟩

theorem Compatible.importOne (compatible : c.Compatible is) (supplied : c.Supplied is b)
    (mem : i ∈ is) : ∃ b', c.importOne b i = .ok b' ∧ c.Supplied is b' := by
  have foreign := compatible.foreign i mem
  cases i with
  | wildcard id =>
    obtain ⟨bound, all, supplied⟩ :=
      compatible.bindAll supplied fun t declared => means_of_declared mem declared
    exact ⟨_, importOne_wildcard_eq_ok_iff.2 ⟨foreign, bound, all, rfl⟩, supplied⟩
  | single id typeName newName =>
    obtain ⟨origin, visible⟩ := compatible.visible id typeName newName mem
    obtain ⟨bound, one, supplied⟩ :=
      compatible.bind supplied ⟨_, mem, origin.target, .single visible, rfl, rfl⟩
    exact ⟨_, importOne_single_eq_ok_iff.2 ⟨foreign, origin, visible, bound, one, rfl⟩, supplied⟩

theorem Compatible.importAll (compatible : c.Compatible is) (supplied : c.Supplied is b)
    (within : ∀ j ∈ js, j ∈ is) : ∃ b', c.importAll b js = .ok b' := by
  induction js generalizing b with
  | nil => exact ⟨b, rfl⟩
  | cons j js ih =>
    obtain ⟨bound, first, supplied⟩ :=
      compatible.importOne supplied (within j (List.mem_cons_self ..))
    obtain ⟨b', rest⟩ := ih supplied fun k mem => within k (List.mem_cons_of_mem _ mem)
    exact ⟨b', importAll_cons_eq_ok_iff.2 ⟨bound, first, rest⟩⟩

theorem compatible_of_importAll (h : c.importAll .empty is = .ok b) : c.Compatible is where
  foreign i mem := by
    cases i with
    | wildcard id => exact (importAll_brings h mem).1
    | single id typeName newName => exact (importAll_brings h mem).1
  visible id typeName newName mem := by
    obtain ⟨-, origin, visible, -⟩ := importAll_brings h mem
    exact ⟨origin, visible⟩
  free i mem name x supplies := by
    obtain ⟨target, found, -⟩ := (importAll_brings h mem).has supplies
    exact c.kept_undeclared.along (grows_importAll h) c.kept_undeclared.empty name target found
  same i hi j hj name x y suppliesX suppliesY := by
    obtain ⟨target, found, sameX⟩ := (importAll_brings h hi).has suppliesX
    obtain ⟨target', found', sameY⟩ := (importAll_brings h hj).has suppliesY
    obtain rfl := Option.some.inj (found.symm.trans found')
    exact ImportedType.Same.trans (ImportedType.Same.symm sameX) sameY

/-- Imports succeed exactly if they are compatible. -/
theorem importAll_ok_iff : (∃ b, c.importAll .empty is = .ok b) ↔ c.Compatible is := by
  constructor
  · rintro ⟨b, imported⟩
    exact compatible_of_importAll imported
  · exact fun compatible => compatible.importAll (fun _ _ found => nomatch found) fun _ mem => mem

/-! ## What imports put into scope -/

/-- What a header import supplies is in scope, and nothing else is. -/
theorem importAll_inScope (strict : c.allowTransitive = false) (labelled : c.world.Labelled)
    (h : c.importAll .empty is = .ok b) :
    b.inScope.find? name = some x ↔ ∃ i ∈ is, c.Supplies i name x := by
  constructor
  · intro found
    exact (importAll_scope h found).resolve_left nofun
  · rintro ⟨i, mem, supplies⟩
    obtain ⟨target, found, same⟩ := (importAll_brings h mem).has supplies
    obtain ⟨j, -, supplied⟩ := (importAll_scope h found).resolve_left nofun
    have current := supplies.current strict labelled
    rw [found, (supplied.current strict labelled).ext current same]

/-- The names in scope and those of the imported schemas are in order. -/
structure Ordered (b : Bindings) : Prop where
  imports : Ascending b.imports.names
  inScope : Ascending b.inScope.names

theorem kept_ordered (c : Compilation) : c.Kept Ordered where
  empty := ⟨List.Pairwise.nil, List.Pairwise.nil⟩
  bind := by
    intro b b' name target before bound
    obtain ⟨-, ⟨-, rfl⟩ | ⟨_, -, -, -, rfl⟩⟩ := bind_eq_ok_iff.1 bound
    · exact ⟨before.imports, Table.ascending_insert name target before.inScope⟩
    · exact before
  record id f before := ⟨Table.ascending_insert id _ before.imports, before.inScope⟩

/-! ## What is recorded -/

/-- What is recorded of a schema: whether it is imported as a whole, and the single types that are
imported from it. -/
structure Recorded (is : List HeaderImport) (id : String) (r : SchemaImport) : Prop where
  wildcard : r.wildcard = true ↔ .wildcard id ∈ is
  ascending : Ascending r.types.names
  types : ∀ name typeName, r.types.find? name = some typeName ↔
    ∃ newName, .single id typeName newName ∈ is ∧ newName.getD typeName = name

/-- A table of what is recorded of the schemas that are imported. -/
structure Register (is : List HeaderImport) (t : Table SchemaImport) : Prop where
  listed : ∀ id, t.contains id = true ↔ ∃ i ∈ is, i.schemaId = id
  recorded : ∀ id, Recorded is id ((t.find? id).getD .none)

theorem Recorded.unique {r s : SchemaImport} (hr : Recorded is id r) (hs : Recorded js id s)
    (same : ∀ i, i ∈ is ↔ i ∈ js) : r = s := by
  have wildcard : r.wildcard = s.wildcard := by
    rw [Bool.eq_iff_iff, hr.wildcard, hs.wildcard, same]
  have types : r.types = s.types := by
    refine Table.eq_of_find? hr.ascending hs.ascending fun name => Option.ext fun typeName => ?_
    simp only [hr.types, hs.types, same]
  obtain ⟨_, _⟩ := r
  obtain ⟨_, _⟩ := s
  cases wildcard
  cases types
  rfl

/-- The table is told by which imports there are. -/
theorem Register.unique {t t' : Table SchemaImport} (ht : Register is t) (ht' : Register js t')
    (ascending : Ascending t.names) (ascending' : Ascending t'.names)
    (same : ∀ i, i ∈ is ↔ i ∈ js) : t = t' := by
  refine Table.eq_of_find? ascending ascending' fun id => ?_
  have entry := (ht.recorded id).unique (ht'.recorded id) same
  have listed : t.contains id = t'.contains id := by
    rw [Bool.eq_iff_iff, ht.listed, ht'.listed]
    simp only [same]
  cases found : t.find? id with
  | none =>
    cases found' : t'.find? id with
    | none => rfl
    | some s => simp [Table.contains, found, found'] at listed
  | some r =>
    cases found' : t'.find? id with
    | none => simp [Table.contains, found, found'] at listed
    | some s => simpa [found, found'] using entry

theorem register_empty : Register [] Bindings.empty.imports where
  listed id := by simp [Bindings.empty, Table.contains, Table.find?, Table.empty]
  recorded id := ⟨by simp [Bindings.empty, Table.find?, Table.empty, SchemaImport.none],
    List.Pairwise.nil, by
      simp [Bindings.empty, Table.find?, Table.empty, SchemaImport.none]⟩

/-- No two single imports from one schema bring two types under one name. -/
def Univocal (is : List HeaderImport) : Prop :=
  ∀ id typeName typeName' newName newName', .single id typeName newName ∈ is →
    .single id typeName' newName' ∈ is → newName.getD typeName = newName'.getD typeName' →
      typeName = typeName'

theorem Univocal.mono (univocal : Univocal js) (within : ∀ i ∈ is, i ∈ js) : Univocal is :=
  fun id typeName typeName' newName newName' mem mem' =>
    univocal id typeName typeName' newName newName' (within _ mem) (within _ mem')

theorem Compatible.univocal (compatible : c.Compatible is) (strict : c.allowTransitive = false)
    (labelled : c.world.Labelled) : Univocal is := by
  intro id typeName typeName' newName newName' mem mem' alike
  obtain ⟨origin, visible⟩ := compatible.visible _ _ _ mem
  obtain ⟨origin', visible'⟩ := compatible.visible _ _ _ mem'
  obtain ⟨t, first, rfl⟩ := exported_declared strict labelled visible
  obtain ⟨t', first', rfl⟩ := exported_declared strict labelled visible'
  have supplies' : c.Supplies (.single id typeName' newName')
      (newName.getD typeName) ⟨id, t'⟩ := alike ▸ .single visible'
  obtain ⟨-, same⟩ := compatible.same _ mem _ mem' _ _ _ (.single visible) supplies'
  have named : t.name = typeName := by simpa using List.find?_some first
  have named' : t'.name = typeName' := by simpa using List.find?_some first'
  exact named.symm.trans (same.trans named')

theorem Recorded.other {r : SchemaImport} (recorded : Recorded is id r) (other : i.schemaId ≠ id) :
    Recorded (is ++ [i]) id r := by
  have new : ∀ j : HeaderImport, j.schemaId = id → (j ∈ is ++ [i] ↔ j ∈ is) := by
    intro j mine
    simp only [List.mem_append, List.mem_singleton, or_iff_left_iff_imp]
    rintro rfl
    exact absurd mine other
  refine ⟨by rw [recorded.wildcard, new _ rfl], recorded.ascending, ?_⟩
  intro name typeName
  simp only [recorded.types, new (.single id typeName _) rfl]

theorem Recorded.addWildcard {r : SchemaImport} (recorded : Recorded is id r) :
    Recorded (is ++ [.wildcard id]) id { r with wildcard := true } :=
  ⟨by simp, recorded.ascending, fun name typeName => by simp [recorded.types]⟩

theorem Recorded.addSingle {r : SchemaImport} {typeName : String} {newName : Option String}
    (recorded : Recorded is id r) (univocal : Univocal (is ++ [.single id typeName newName])) :
    Recorded (is ++ [.single id typeName newName]) id
      { r with types := r.types.insert (newName.getD typeName) typeName } := by
  refine ⟨by simp [recorded.wildcard], Table.ascending_insert _ _ recorded.ascending, ?_⟩
  intro name other
  have own : .single id typeName newName ∈ is ++ [.single id typeName newName] := by simp
  by_cases mine : newName.getD typeName = name
  · rw [Table.find?_insert, if_pos mine, Option.some.injEq]
    constructor
    · rintro rfl
      exact ⟨newName, own, mine⟩
    · rintro ⟨newName', mem, named⟩
      exact univocal _ _ _ _ _ own mem (mine.trans named.symm)
  · rw [Table.find?_insert, if_neg mine, recorded.types]
    refine exists_congr fun newName' => and_congr_left fun named => ?_
    simp only [List.mem_append, List.mem_singleton, HeaderImport.single.injEq,
      iff_self_or]
    rintro ⟨-, rfl, rfl⟩
    exact absurd named mine

theorem Register.insert {t : Table SchemaImport} {r : SchemaImport} (register : Register is t)
    (recorded : Recorded (is ++ [i]) i.schemaId r) :
    Register (is ++ [i]) (t.insert i.schemaId r) where
  listed id := by
    simp only [Table.contains_insert, Bool.or_eq_true, beq_iff_eq, register.listed, List.mem_append,
      List.mem_singleton]
    grind
  recorded id := by
    by_cases mine : i.schemaId = id
    · subst mine
      simpa [Table.find?_insert] using recorded
    · simpa [Table.find?_insert, mine] using (register.recorded id).other mine

/-- One more import adds to what is recorded of its schema. -/
theorem Register.importOne (register : Register is b.imports) (univocal : Univocal (is ++ [i]))
    (h : c.importOne b i = .ok b') : Register (is ++ [i]) b'.imports := by
  cases i with
  | wildcard id =>
    obtain ⟨-, bound, all, rfl⟩ := importOne_wildcard_eq_ok_iff.1 h
    rw [← imports_bindAll all] at register
    exact register.insert (register.recorded id).addWildcard
  | single id typeName newName =>
    obtain ⟨-, origin, -, bound, one, rfl⟩ := importOne_single_eq_ok_iff.1 h
    rw [← imports_bind one] at register
    exact register.insert ((register.recorded id).addSingle univocal)

theorem Register.importAll (register : Register is b.imports) (univocal : Univocal (is ++ js))
    (h : c.importAll b js = .ok b') : Register (is ++ js) b'.imports := by
  induction js generalizing is b with
  | nil =>
    cases h
    simpa using register
  | cons j js ih =>
    obtain ⟨bound, first, rest⟩ := importAll_cons_eq_ok_iff.1 h
    have split : is ++ j :: js = is ++ [j] ++ js := by simp
    rw [split] at univocal ⊢
    exact ih (register.importOne (univocal.mono fun i mem => List.mem_append_left _ mem) first)
      univocal rest

/-- Imports come to the same if they are the same, in any order and any number of times. -/
theorem importAll_of_mem_iff (strict : c.allowTransitive = false) (labelled : c.world.Labelled)
    (same : ∀ i, i ∈ is ↔ i ∈ js) (h : c.importAll .empty is = .ok b) :
    c.importAll .empty js = .ok b := by
  have compatible := compatible_of_importAll h
  obtain ⟨b', h'⟩ := importAll_ok_iff.2 (compatible.of_mem_iff same)
  have ordered := c.kept_ordered.along (grows_importAll h) c.kept_ordered.empty
  have ordered' := c.kept_ordered.along (grows_importAll h') c.kept_ordered.empty
  have imports : b.imports = b'.imports :=
    (register_empty.importAll (compatible.univocal strict labelled) h).unique
      (register_empty.importAll ((compatible.of_mem_iff same).univocal strict labelled) h')
      ordered.imports ordered'.imports same
  have inScope : b.inScope = b'.inScope := by
    refine Table.eq_of_find? ordered.inScope ordered'.inScope fun name => Option.ext fun x => ?_
    simp only [importAll_inScope strict labelled h, importAll_inScope strict labelled h', same]
  obtain ⟨_, _⟩ := b
  obtain ⟨_, _⟩ := b'
  cases imports
  cases inScope
  exact h'

/-! ## Compiling another document -/

/-- The same compilation of another document. -/
def ofDocument (c : Compilation) (d : SchemaDocument) : Compilation := { c with document := d }

section

variable {d : SchemaDocument} (sameId : c.document.id = d.id) (types : c.document.types = d.types)

include types in
theorem declares_ofDocument (name : String) : (c.ofDocument d).declares name = c.declares name := by
  simp only [declares, SchemaDocument.declared?, ofDocument, types]

include types in
theorem bind_ofDocument (b : Bindings) (name : String) (x : ImportedType) :
    (c.ofDocument d).bind b name x = c.bind b name x := by
  simp only [bind, declares_ofDocument types]

include types in
theorem bindAll_ofDocument (schemaId : String) (b : Bindings) (ts : List NamedType) :
    (c.ofDocument d).bindAll schemaId b ts = c.bindAll schemaId b ts := by
  induction ts generalizing b with
  | nil => rfl
  | cons t ts ih => simp only [bindAll, bind_ofDocument types, ih]

include sameId in
theorem checkNotSelf_ofDocument (schemaId : String) :
    (c.ofDocument d).checkNotSelf schemaId = c.checkNotSelf schemaId := by
  have same : (c.ofDocument d).document.id = c.document.id := sameId.symm
  unfold checkNotSelf
  rw [same]

include sameId types in
theorem importOne_ofDocument (b : Bindings) (i : HeaderImport) :
    (c.ofDocument d).importOne b i = c.importOne b i := by
  simp only [importOne, checkNotSelf_ofDocument sameId, bindAll_ofDocument types,
    bind_ofDocument types]
  rfl

include sameId types in
theorem importAll_ofDocument (b : Bindings) (is : List HeaderImport) :
    (c.ofDocument d).importAll b is = c.importAll b is := by
  induction is generalizing b with
  | nil => rfl
  | cons i is ih => simp only [importAll, importOne_ofDocument sameId types, ih]

include sameId types in
theorem checkMention_ofDocument (b : Bindings) (unresolved : NameSet) (m : Mention) :
    (c.ofDocument d).checkMention b unresolved m = c.checkMention b unresolved m := by
  cases m with
  | name name =>
    simp only [checkMention, isKnown, declares_ofDocument types, bind_ofDocument types]
    rfl
  | imported schemaId typeName =>
    simp only [checkMention, checkNotSelf_ofDocument sameId]
    rfl

include sameId types in
theorem checkMentions_ofDocument (b : Bindings) (unresolved : NameSet) (ms : List Mention) :
    (c.ofDocument d).checkMentions b unresolved ms = c.checkMentions b unresolved ms := by
  induction ms generalizing b unresolved with
  | nil => rfl
  | cons m ms ih => simp only [checkMentions, checkMention_ofDocument sameId types, ih]

end

/-- A strict compilation depends on its header imports as a set: a document with the same ones
compiles to a schema with the same imports. -/
theorem run_sameImports {d : SchemaDocument} (strict : c.allowTransitive = false)
    (labelled : c.world.Labelled) (same : c.document.SameImports d) (h : c.run = .ok σ) :
    ∃ τ, (c.ofDocument d).run = .ok τ ∧ σ.SameImports τ := by
  obtain ⟨declarations, ends, b₀, b, imported, checked, rfl⟩ := run_eq_ok_iff.1 h
  refine ⟨⟨d, b.imports, b.inScope⟩, run_eq_ok_iff.2 ⟨?_, ?_, b₀, b, ?_, ?_, rfl⟩, same, rfl, rfl⟩
  · rw [← declarations]
    simp only [checkDeclarations, ofDocument, same.types]
  · rw [← ends]
    simp only [checkEnds, ofDocument, same.version, same.footer]
    obtain ⟨bare, bare'⟩ | ⟨h, k, found, found', -⟩ := same.header
    · rw [bare, bare']
    · rw [found, found']
      cases d.version <;> cases d.footer? <;> rfl
  · rw [importAll_ofDocument same.id same.types]
    exact importAll_of_mem_iff strict labelled same.imports imported
  · rw [checkMentions_ofDocument same.id same.types, ← checked]
    simp only [SchemaDocument.mentions, ofDocument, same.types]

end Compilation
end Isl
