import Isl.Proofs.System.Concord
/-!
# Names that circles of imports do not hide

Among documents alone, without a cached schema, a name is looked up along chains of imports. The
search leaves out every question that it is just about to answer. This hides nothing: whatever some
chain leads to is found by a chain that asks no question twice, and what only leads back to itself
is at the end of no chain.

* `Universe.Chain`: the imports that lead from a name to a declaration, one after the other;
* `Universe.Circling`: names that lead to each other, and to no declaration;
* `Universe.origin?_chains`: the search finds exactly what such chains lead to.
-/
namespace Isl
namespace Universe

variable {u : Universe} {id name : String} {x : ImportedType} {is : List HeaderImport}

/-- A chain of imports leads from a name that a schema knows to a declaration. A schema that
declares the name itself ends the chain. An import of a single type goes on with the name of the
type in the other schema, and an import of a schema as a whole only to what that schema declares. -/
inductive Chain (u : Universe) : List HeaderImport → String → String → ImportedType → Prop where
  | declared {id name : String} {d : SchemaDocument} {t : NamedType}
      (read : u.pending.find? id = some d) (own : d.declared? name = some t) :
      Chain u [] id name ⟨id, t⟩
  | wildcard {id name other : String} {d : SchemaDocument} {x : ImportedType}
      (read : u.pending.find? id = some d) (free : d.declared? name = none)
      (header : .wildcard other ∈ d.imports) (there : Chain u [] other name x) :
      Chain u [.wildcard other] id name x
  | single {id other typeName : String} {newName : Option String} {d : SchemaDocument}
      {is : List HeaderImport} {x : ImportedType} (read : u.pending.find? id = some d)
      (free : d.declared? (newName.getD typeName) = none)
      (header : .single other typeName newName ∈ d.imports) (there : Chain u is other typeName x) :
      Chain u (.single other typeName newName :: is) id (newName.getD typeName) x

/-- No schema declares any of these names, and all of their imports lead to such names again. -/
structure Circling (u : Universe) (among : String → String → Prop) : Prop where
  free : ∀ id name d, among id name → u.pending.find? id = some d → d.declared? name = none
  wildcard : ∀ id name d other, among id name → u.pending.find? id = some d →
    .wildcard other ∈ d.imports → among other name
  single : ∀ id d other typeName newName, among id (newName.getD typeName) →
    u.pending.find? id = some d → .single other typeName newName ∈ d.imports → among other typeName

/-- No chain leads out of a circle. -/
theorem Circling.unchained {among : String → String → Prop} (circling : u.Circling among)
    (here : among id name) : ¬u.Chain is id name x := by
  intro chain
  induction chain with
  | declared read own =>
    rw [circling.free _ _ _ here read] at own
    cases own
  | wildcard read _ header _ ih => exact ih (circling.wildcard _ _ _ _ here read header)
  | single read _ header _ ih => exact ih (circling.single _ _ _ _ _ here read header)

/-! ## Chains among documents alone -/

section
variable (bare : ∀ id, u.cached.find? id = none)

include bare

theorem Points.chain (points : u.Points id name x) : ∃ is, u.Chain is id name x := by
  induction points with
  | cached held _ =>
    rw [bare] at held
    cases held
  | declared read own => exact ⟨[], .declared read.2 own⟩
  | wildcard read free header there =>
    obtain ⟨e, read', own⟩ := reads_of_declared bare there
    exact ⟨_, .wildcard read.2 free header (.declared read'.2 own)⟩
  | single read free header _ ih =>
    obtain ⟨is, there⟩ := ih
    exact ⟨_, .single read.2 free header there⟩

theorem Chain.knows (chain : u.Chain is id name x) : u.Knows id name := by
  induction chain with
  | declared read own => exact ⟨0, .declared ⟨bare _, read⟩ own⟩
  | @wildcard id name other d x read _ header there =>
    cases there with
    | declared read' own =>
      obtain ⟨listed, named⟩ := declared?_eq_some own
      have declares : u.Declares other name := by
        refine ⟨_, ?_, named⟩
        rwa [declaredTypes_read ⟨bare other, read'⟩]
      exact ⟨1, .wildcard ⟨bare id, read⟩ header declares⟩
  | single read _ header _ ih =>
    obtain ⟨k, there⟩ := ih
    exact ⟨k + 1, .single ⟨bare _, read⟩ header there⟩

theorem exists_chain_iff : (∃ o, u.origin? id name = some o) ↔ ∃ is x, u.Chain is id name x := by
  constructor
  · rintro ⟨o, found⟩
    obtain ⟨is, chain⟩ := (points_of_origin? (labelled_of_bare bare) found).chain bare
    exact ⟨is, o.target, chain⟩
  · rintro ⟨is, x, chain⟩
    exact origin?_isSome_iff.2 (chain.knows bare)

/-- What is found through imports is exactly what the schema does not declare itself. -/
theorem Chain.transitive_iff {o : Origin} (chain : u.Chain is id name x)
    (found : u.origin? id name = some o) : o.transitive = false ↔ is = [] := by
  have far {d : SchemaDocument} (read : u.pending.find? id = some d)
      (free : d.declared? name = none) : o.transitive = true :=
    origin?_far ⟨bare id, read⟩ free found
  cases chain with
  | declared read own =>
    rw [origin?_declared ⟨bare id, read⟩ own, Option.some.injEq] at found
    simp [← found]
  | wildcard read free _ _ => simp [far read free]
  | single read free _ _ => simp [far read free]

end

/-- **Look-ups are complete in spite of circles.** Among documents alone, the search finds something
exactly when a chain of imports leads from the name to a declaration; what it finds is the
declaration at the end of such a chain, and it counts as found through imports unless the chain is
empty; names that only lead back to themselves are never found. -/
theorem origin?_chains (u : Universe) (bare : ∀ id, u.cached.find? id = none) :
    (∀ id name, (∃ o, u.origin? id name = some o) ↔ ∃ is x, u.Chain is id name x) ∧
    (∀ id name o, u.origin? id name = some o →
      (∃ is, u.Chain is id name o.target) ∧
      ∀ is x, u.Chain is id name x → (o.transitive = false ↔ is = [])) ∧
    ∀ among, u.Circling among → ∀ id name, among id name → u.origin? id name = none := by
  refine ⟨fun id name => exists_chain_iff bare, ?_, ?_⟩
  · intro id name o found
    exact ⟨(points_of_origin? (labelled_of_bare bare) found).chain bare,
      fun is x chain => chain.transitive_iff bare found⟩
  · intro among circling id name here
    rw [Option.eq_none_iff_forall_ne_some]
    intro o found
    obtain ⟨is, x, chain⟩ := (exists_chain_iff bare).1 ⟨o, found⟩
    exact circling.unchained here chain

/-- Two schemas that import a name from each other which neither of them declares. -/
def loopWorld : Universe :=
  (ofRoot (circleDocument "a.isl" "b.isl" "z" "z" "z" "x")).addPending "b.isl" ["b.isl"]
    (circleDocument "b.isl" "a.isl" "z" "z" "z" "y")

theorem circling_loop : loopWorld.Circling fun id name =>
    (id = "a.isl" ∨ id = "b.isl") ∧ name = "z" where
  free := by
    rintro id name d ⟨rfl | rfl, rfl⟩ read
    · cases read
      decide
    · cases read
      decide
  wildcard := by
    rintro id name d other ⟨rfl | rfl, rfl⟩ read header
    · cases read
      simp [imports_circle] at header
    · cases read
      simp [imports_circle] at header
  single := by
    rintro id d other typeName newName ⟨rfl | rfl, -⟩ read header
    · cases read
      obtain ⟨rfl, rfl, -⟩ : other = "b.isl" ∧ typeName = "z" ∧ newName = some "z" := by
        simpa [imports_circle] using header
      exact ⟨.inr rfl, rfl⟩
    · cases read
      obtain ⟨rfl, rfl, -⟩ : other = "a.isl" ∧ typeName = "z" ∧ newName = some "z" := by
        simpa [imports_circle] using header
      exact ⟨.inl rfl, rfl⟩

/-- In a circle, the name `t` of one schema is found past the name `u` of the other one, which leads
back to it. In a loop, nothing is found. -/
theorem origin?_chains_circle :
    (∀ id, circleWorld.cached.find? id = none) ∧
      circleWorld.origin? "b.isl" "t" = some ⟨"b.isl", ⟨"x", ⟨[], []⟩⟩, true⟩ ∧
      (∃ is, circleWorld.Chain is "b.isl" "t" ⟨"b.isl", ⟨"x", ⟨[], []⟩⟩⟩) ∧
      (∀ id, loopWorld.cached.find? id = none) ∧ loopWorld.origin? "a.isl" "z" = none := by
  have readsB : circleWorld.Reads "b.isl" circleB := ⟨rfl, rfl⟩
  have readsC : circleWorld.Reads "c.isl" circleC := ⟨rfl, rfl⟩
  have found : circleWorld.origin? "b.isl" "t" = some ⟨"b.isl", ⟨"x", ⟨[], []⟩⟩, true⟩ :=
    origin_circle (by decide) (by decide) (by decide) readsB readsC
  obtain ⟨-, chains, -⟩ := origin?_chains circleWorld fun _ => rfl
  obtain ⟨-, -, loops⟩ := origin?_chains loopWorld fun _ => rfl
  exact ⟨fun _ => rfl, found, (chains "b.isl" "t" _ found).1, fun _ => rfl,
    loops _ circling_loop "a.isl" "z" ⟨.inl rfl, rfl⟩⟩

end Universe
end Isl
