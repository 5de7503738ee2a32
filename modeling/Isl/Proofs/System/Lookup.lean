import Isl.Proofs.System.Concord
import Isl.Proofs.System.Leads
/-!
# Two ways to look a name up

A schema of a load can be asked for a name before it is compiled, by a search along its imports, and
afterwards, when its imports have put the name into scope. Both give the same where the name was not
put into scope by a reference alone, and where the chains of imports that begin with it end in one
declaration. With transitive imports disallowed both conditions hold for every schema that compiles.

* `Compilation.origin?_eq`: when the search and the compiled schema agree on a name;
* `Compilation.covered_of_origin?_eq`: no reference needs to bring a name into scope then;
* `Compilation.eq_of_points`: when chains of imports end in one declaration;
* `Compilation.covered_of_strict`, `Compilation.definite_of_strict`: what disallowing brings.
-/
namespace Isl

/-- Declarations with the same name in schemas of the same id. -/
def ImportedType.Same (x y : ImportedType) : Prop :=
  x.schemaId = y.schemaId ∧ x.declaration.name = y.declaration.name

/-- They are the same, if there is only one of each name in a schema of each id. -/
theorem ImportedType.eq_of_same {f : String → String → Option NamedType} {x y : ImportedType}
    (hx : f x.schemaId x.declaration.name = some x.declaration)
    (hy : f y.schemaId y.declaration.name = some y.declaration) (same : x.Same y) : x = y := by
  obtain ⟨id, t⟩ := x
  obtain ⟨id', t'⟩ := y
  obtain ⟨rfl, named⟩ : id = id' ∧ t.name = t'.name := same
  simp only [named] at hx
  rw [Option.some.inj (hx.symm.trans hy)]

/-! ## A compiled schema -/

namespace Schema

variable {σ : Schema} {name : String}

theorem origin?_of_inScope {target : ImportedType} (other : σ.declared? name = none)
    (bound : σ.inScope.find? name = some target) :
    σ.origin? name = some ⟨target.schemaId, target.declaration, true⟩ := by
  simp [origin?, other, bound]

theorem origin?_of_unbound (other : σ.declared? name = none)
    (free : σ.inScope.find? name = none) : σ.origin? name = none := by
  simp [origin?, other, free]

end Schema

theorem SchemaDocument.holds_of_mentioned {d : SchemaDocument} {name : String}
    (mentioned : .name name ∈ d.mentions) : ∃ n, d.Holds (.reference name n) := by
  obtain ⟨a, holds, same⟩ := mem_mentions_iff.1 mentioned
  cases a with
  | reference other n =>
    cases same
    exact ⟨n, holds⟩
  | imported id typeName n => cases same
  | inline e n => cases same

namespace Compilation

variable {c : Compilation} {τ : Schema} {i : HeaderImport} {id name : String}
  {target : ImportedType}

/-- What a header import supplies is known without a look at the compiled schema. -/
theorem Supplies.knows (supplies : c.Supplies i name target)
    (read : c.world.Reads id c.document) (header : i ∈ c.document.imports) :
    c.world.Knows id name := by
  cases supplies with
  | wildcard declared =>
    have named := List.find?_some declared
    exact ⟨1, .wildcard read header ⟨_, List.mem_of_find?_eq_some declared, by simpa using named⟩⟩
  | single visible =>
    have found := (exported_eq_ok_iff.1 visible).1
    obtain ⟨k, there⟩ := Universe.origin?_isSome_iff.1 ⟨_, found⟩
    exact ⟨k + 1, .single read header there⟩

/-- It is at the end of a chain of imports. -/
theorem Supplies.points (supplies : c.Supplies i name target)
    (labelled : c.world.Labelled)
    (read : c.world.Reads id c.document) (free : c.document.declared? name = none)
    (header : i ∈ c.document.imports) : c.world.Points id name target := by
  cases supplies with
  | wildcard declared => exact .wildcard read free header declared
  | single visible =>
    have found := (exported_eq_ok_iff.1 visible).1
    exact .single read free header (Universe.points_of_origin? labelled found)

/-- A name that is known and not declared is supplied by some header import. -/
theorem supplies_of_knows (ran : c.run = .ok τ) (read : c.world.Reads id c.document)
    (other : c.document.declared? name = none) (knows : c.world.Knows id name) :
    ∃ i ∈ c.document.imports, ∃ target, c.Supplies i name target := by
  obtain ⟨t, own⟩ | ⟨source, header, t, declared, rfl⟩ |
      ⟨source, typeName, newName, header, rfl, -⟩ := knows.cases_read read
  · rw [other] at own
    cases own
  · obtain ⟨first, supplied⟩ := supplies_of_declared declared
    exact ⟨_, header, first, supplied⟩
  · obtain ⟨-, origin, visible, -⟩ := run_brings ran header
    exact ⟨_, header, _, .single visible⟩

/-- A name that is known stands in the compiled schema for what the search finds. -/
theorem origin?_eq_of_knows (ran : c.run = .ok τ) (read : c.world.Reads id c.document)
    (labelled : c.world.Labelled) (free : c.document.declared? name = none)
    (knows : c.world.Knows id name)
    (definite : ∀ x y, c.world.Points id name x → c.world.Points id name y → x = y) :
    c.world.origin? id name = τ.origin? name := by
  obtain ⟨o, found⟩ := Universe.origin?_isSome_iff.2 knows
  obtain ⟨i, header, target, supplies⟩ := supplies_of_knows ran read free knows
  obtain ⟨bound, inScope, -⟩ := (run_brings ran header).has supplies
  obtain ⟨j, header', supplied⟩ | ⟨-, -, alone⟩ := run_scope ran inScope
  · have one : o.target = bound :=
      definite _ _ (Universe.points_of_origin? labelled found)
        (supplied.points labelled read free header')
    have far := Universe.origin?_far read free found
    have free' : τ.declared? name = none := by rwa [Schema.declared?, document_of_run ran]
    rw [found, Schema.origin?_of_inScope free' inScope, ← one, ← far]
    rfl
  · exact absurd supplies (alone i header target)

/-- A name that is not known is in scope only if a reference asks for it. -/
theorem unbound_of_unknown (ran : c.run = .ok τ) (read : c.world.Reads id c.document)
    (covered : ∀ n, c.document.Holds (.reference name n) →
      c.vocabulary.isBuiltinType name = true ∨ c.world.Knows id name)
    (unknown : ¬c.world.Knows id name) : τ.inScope.find? name = none := by
  cases inScope : τ.inScope.find? name with
  | none => rfl
  | some bound =>
    obtain ⟨j, header, supplied⟩ | ⟨mentioned, foreign, -⟩ := run_scope ran inScope
    · exact absurd (supplied.knows read header) unknown
    · obtain ⟨n, holds⟩ := SchemaDocument.holds_of_mentioned mentioned
      rcases covered n holds with builtin | known
      · rw [foreign] at builtin
        cases builtin
      · exact absurd known unknown

/-- The search and the compiled schema agree on a name, if it is not only a reference that asks for
it, and if all chains of imports from it end in one declaration. -/
theorem origin?_eq (ran : c.run = .ok τ) (named : τ.id? = some id)
    (read : c.world.Reads id c.document) (labelled : c.world.Labelled)
    (covered : ∀ n, c.document.Holds (.reference name n) →
      c.vocabulary.isBuiltinType name = true ∨ c.world.Knows id name)
    (definite : ∀ x y, c.world.Points id name x → c.world.Points id name y → x = y) :
    c.world.origin? id name = τ.origin? name := by
  have same := document_of_run ran
  cases own : c.document.declared? name with
  | some t =>
    have own' : τ.declared? name = some t := by rwa [Schema.declared?, same]
    rw [Universe.origin?_declared read own, Schema.origin?_of_declared own', named,
      Option.getD_some]
  | none =>
    by_cases knows : c.world.Knows id name
    · exact origin?_eq_of_knows ran read labelled own knows definite
    · have own' : τ.declared? name = none := by rwa [Schema.declared?, same]
      rw [Universe.origin?_eq_none_iff.2 knows,
        Schema.origin?_of_unbound own' (unbound_of_unknown ran read covered knows)]

/-- References stay with built-in types and what is known, if the names in scope are known. -/
theorem covered_of_bound (ran : c.run = .ok τ) (read : c.world.Reads id c.document)
    (known : ∀ target, τ.inScope.find? name = some target → c.world.Knows id name)
    (n : Nullability) (holds : c.document.Holds (.reference name n)) :
    c.vocabulary.isBuiltinType name = true ∨ c.world.Knows id name := by
  have mentioned := SchemaDocument.mem_mentions_iff.2 ⟨_, holds, rfl⟩
  have settled : c.isKnown ⟨τ.imports, τ.inScope⟩ name = true := run_settled ran mentioned
  rcases isKnown_iff.1 settled with builtin | declared | bound
  · exact .inl builtin
  · obtain ⟨t, own⟩ := Option.isSome_iff_exists.1 declared
    exact .inr ⟨0, .declared read own⟩
  · obtain ⟨target, bound⟩ := Table.contains_iff.1 bound
    exact .inr (known target bound)

/-- Where the search agrees, no reference asks for a name that the schema would not know
otherwise. -/
theorem covered_of_origin?_eq (ran : c.run = .ok τ) (read : c.world.Reads id c.document)
    (agrees : ∀ name, c.world.origin? id name = τ.origin? name) (n : Nullability)
    (holds : c.document.Holds (.reference name n)) :
    c.vocabulary.isBuiltinType name = true ∨ c.world.Knows id name := by
  refine covered_of_bound ran read ?_ n holds
  intro target bound
  obtain ⟨origin, found⟩ := Schema.origin?_of_bound bound
  exact Universe.origin?_isSome_iff.1 ⟨origin, (agrees name).trans found⟩

/-! ## Without transitive imports -/

/-- No name is bound on demand. -/
theorem covered_of_strict (strict : c.allowTransitive = false) (ran : c.run = .ok τ)
    (read : c.world.Reads id c.document) (n : Nullability)
    (holds : c.document.Holds (.reference name n)) :
    c.vocabulary.isBuiltinType name = true ∨ c.world.Knows id name := by
  refine covered_of_bound ran read ?_ n holds
  intro target bound
  cases run_binds ran bound with
  | wildcard header declared => exact ⟨1, .wildcard read header ⟨_, declared, rfl⟩⟩
  | single header visible =>
    obtain ⟨k, there⟩ := Universe.origin?_isSome_iff.1 ⟨_, (exported_eq_ok_iff.1 visible).1⟩
    exact ⟨k + 1, .single read header there⟩
  | demanded header far visible =>
    obtain ⟨-, near⟩ := exported_strict strict visible
    rw [far] at near
    cases near

end Compilation

namespace Universe

variable {u : Universe} {id name : String} {x y : ImportedType}

/-- A declaration that the schema of its id has in this load, the first of its name there. -/
def Current (u : Universe) (x : ImportedType) : Prop :=
  (u.declaredTypes x.schemaId).find? (·.name == x.declaration.name) = some x.declaration

theorem Current.ext (hx : u.Current x) (hy : u.Current y) (same : x.Same y) : x = y :=
  ImportedType.eq_of_same (f := fun id name => (u.declaredTypes id).find? (·.name == name)) hx hy
    same

theorem current_of_find? {t : NamedType}
    (own : (u.declaredTypes id).find? (·.name == name) = some t) : u.Current ⟨id, t⟩ := by
  have named : t.name = name := by simpa using List.find?_some own
  unfold Current
  rwa [named]

/-- In a load from scratch, chains lead to declarations of the load. -/
theorem Points.current (bare : ∀ id, u.cached.find? id = none) (points : u.Points id name x) :
    u.Current x := by
  induction points with
  | cached held _ =>
    rw [bare] at held
    cases held
  | declared read own => exact current_of_find? (by rw [declaredTypes_read read]; exact own)
  | wildcard _ _ _ there => exact current_of_find? there
  | single _ _ _ _ ih => exact ih

end Universe

namespace Compilation

variable {c : Compilation} {τ : Schema} {id name : String} {x y : ImportedType}

/-- Each single import leads only to the declaration that is taken for it. -/
def Certain (c : Compilation) : Prop :=
  ∀ id typeName newName, .single id typeName newName ∈ c.document.imports →
    ∀ origin, c.exported id typeName = .ok origin →
      ∀ x, c.world.Points id typeName x → x = origin.target

/-- What a chain through the header leads to is in scope, if there is no doubt about the single
imports. -/
theorem has_of_points (ran : c.run = .ok τ) (read : c.world.Reads id c.document)
    (certain : c.Certain) (free : c.document.declared? name = none)
    (points : c.world.Points id name x) :
    Bindings.Has ⟨τ.imports, τ.inScope⟩ name x.schemaId x.declaration.name := by
  obtain ⟨t, own, -⟩ | ⟨other, t, header, there, rfl⟩ |
      ⟨other, typeName, newName, header, rfl, there⟩ := points.cases_read read
  · cases free.symm.trans own
  · exact (run_brings ran header).has (.wildcard there)
  · obtain ⟨-, origin, visible, has⟩ := run_brings ran header
    rw [certain _ _ _ header origin visible x there]
    exact has

theorem eq_of_points (ran : c.run = .ok τ) (read : c.world.Reads id c.document)
    (labelled : c.world.Labelled) (certain : c.Certain)
    (current : ∀ z, c.world.Points id name z → c.world.Current z)
    (hx : c.world.Points id name x) (hy : c.world.Points id name y) : x = y := by
  cases own : c.document.declared? name with
  | some t =>
    have there : (c.world.declaredTypes id).find? (·.name == name) = some t := by
      rw [Universe.declaredTypes_read read]
      exact own
    rw [Universe.points_declared labelled there hx, Universe.points_declared labelled there hy]
  | none =>
    obtain ⟨b, bound, schemaId, named⟩ := has_of_points ran read certain own hx
    obtain ⟨b', bound', schemaId', named'⟩ := has_of_points ran read certain own hy
    obtain rfl := Option.some.inj (bound.symm.trans bound')
    exact (current x hx).ext (current y hy)
      ⟨schemaId.symm.trans schemaId', named.symm.trans named'⟩

/-- A type can be imported only from the schema that declares it. -/
theorem exported_declared (strict : c.allowTransitive = false)
    (labelled : c.world.Labelled) {typeName : String}
    {origin : Origin} (visible : c.exported id typeName = .ok origin) :
    ∃ t, (c.world.declaredTypes id).find? (·.name == typeName) = some t ∧
      origin = ⟨id, t, false⟩ := by
  obtain ⟨found, near⟩ := exported_strict strict visible
  exact Universe.declared_of_near labelled found near

/-- So the names of a schema that compiles lead to one declaration each. -/
theorem definite_of_strict (strict : c.allowTransitive = false) (ran : c.run = .ok τ)
    (read : c.world.Reads id c.document)
    (labelled : c.world.Labelled)
    (hx : c.world.Points id name x) (hy : c.world.Points id name y) : x = y := by
  have certain : c.Certain := by
    intro other typeName newName _ origin visible z points
    obtain ⟨t, first, rfl⟩ := exported_declared strict labelled visible
    exact Universe.points_declared labelled first points
  refine eq_of_points ran read labelled certain ?_ hx hy
  intro z points
  obtain ⟨t, own, rfl⟩ | ⟨other, t, header, there, rfl⟩ |
      ⟨other, typeName, newName, header, rfl, there⟩ := points.cases_read read
  · exact Universe.current_of_find? (by rw [Universe.declaredTypes_read read]; exact own)
  · exact Universe.current_of_find? there
  · obtain ⟨-, origin, visible, -⟩ := run_brings ran header
    obtain ⟨t, first, rfl⟩ := exported_declared strict labelled visible
    rw [Universe.points_declared labelled first there]
    exact Universe.current_of_find? first

end Compilation

end Isl
