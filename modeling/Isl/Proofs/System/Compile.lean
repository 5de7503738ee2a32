import Mathlib.Logic.Relation
import Isl.Proofs.Table
import Isl.System.Compile
/-!
# The steps of a compilation

For each step of a compilation, what it means that it succeeds. A step only adds names and imports
to those that are there, so what it has bound stays bound to the end.

* `run_eq_ok_iff`: the stages of a run that succeeds;
* `Adds`, `Grows`: the steps that bindings take from one stage to the next;
* `Grows.extends`: nothing is lost by them.
-/
namespace Isl

theorem SchemaError.bind_eq_ok_iff {α β : Type} {r : Except SchemaError α}
    {f : α → Except SchemaError β} {b : β} : (r >>= f) = .ok b ↔ ∃ a, r = .ok a ∧ f a = .ok b := by
  cases r with
  | error e => simp [bind, Except.bind]
  | ok a => simp [bind, Except.bind]

/-! ## Adding names and imports -/

namespace Bindings

/-- All that was bound and recorded earlier still is. -/
structure Extends (later earlier : Bindings) : Prop where
  inScope : ∀ name target, earlier.inScope.find? name = some target →
    later.inScope.find? name = some target
  imports : ∀ id, earlier.imports.contains id = true → later.imports.contains id = true

theorem Extends.refl (b : Bindings) : b.Extends b := ⟨fun _ _ h => h, fun _ h => h⟩

theorem Extends.trans {a b c : Bindings} (later : c.Extends b) (earlier : b.Extends a) :
    c.Extends a :=
  ⟨fun name target h => later.inScope name target (earlier.inScope name target h),
    fun id h => later.imports id (earlier.imports id h)⟩

theorem recordImport_extends (b : Bindings) (id : String) (f : SchemaImport → SchemaImport) :
    (b.recordImport id f).Extends b := by
  refine ⟨fun _ _ h => h, ?_⟩
  intro key h
  simp [recordImport, Table.contains_insert, h]

theorem recordImport_contains (b : Bindings) (id : String) (f : SchemaImport → SchemaImport) :
    (b.recordImport id f).imports.contains id = true := by
  simp [recordImport, Table.contains_insert]

end Bindings

namespace Compilation

variable {c : Compilation} {b b' : Bindings}

/-! ## The steps that succeed -/

theorem checkNotSelf_eq_ok_iff {id : String} {u : Unit} :
    c.checkNotSelf id = .ok u ↔ c.document.id ≠ some id := by
  unfold checkNotSelf
  by_cases self : c.document.id = some id
  · simp [self]
  · simp [self]

theorem exported_eq_ok_iff {id typeName : String} {origin : Origin} :
    c.exported id typeName = .ok origin ↔
      c.world.origin? id typeName = some origin ∧
        (origin.transitive = true → c.allowTransitive = true) := by
  unfold exported
  cases found : c.world.origin? id typeName with
  | none => simp
  | some o =>
    cases far : o.transitive with
    | false =>
      simp only [far, Bool.false_and, Bool.false_eq_true, if_false, Except.ok.injEq,
        Option.some.injEq]
      constructor
      · rintro rfl
        exact ⟨rfl, by simp [far]⟩
      · exact And.left
    | true =>
      cases allowed : c.allowTransitive with
      | false =>
        simp only [far, Bool.not_false, Bool.and_self, if_true, reduceCtorEq, Option.some.injEq,
          false_iff, not_and]
        rintro rfl
        simp [far]
      | true => simp [far]

/-- A name that is bound was free, or was bound to the same declaration before. -/
theorem bind_eq_ok_iff {name : String} {target : ImportedType} :
    c.bind b name target = .ok b' ↔
      c.declares name = false ∧
        (b.inScope.find? name = none ∧ b' = { b with inScope := b.inScope.insert name target } ∨
          ∃ first, b.inScope.find? name = some first ∧ first.schemaId = target.schemaId ∧
            first.declaration.name = target.declaration.name ∧ b' = b) := by
  unfold bind
  cases declared : c.declares name with
  | true => simp
  | false =>
    cases found : b.inScope.find? name with
    | none => simp [eq_comm]
    | some first =>
      by_cases same : first.schemaId = target.schemaId ∧
          first.declaration.name = target.declaration.name
      · simp [same, eq_comm]
      · simp only [Bool.false_eq_true, if_false, if_neg same, reduceCtorEq, Option.some.injEq,
          false_and, false_or, true_and, exists_eq_left', false_iff]
        rintro ⟨schemaId, declaration, -⟩
        exact same ⟨schemaId, declaration⟩

theorem importOne_wildcard_eq_ok_iff {id : String} :
    c.importOne b (.wildcard id) = .ok b' ↔
      c.document.id ≠ some id ∧ ∃ bound, c.bindAll id b (c.world.declaredTypes id) = .ok bound ∧
        bound.recordImport id (fun i => { i with wildcard := true }) = b' := by
  simp only [importOne, SchemaError.bind_eq_ok_iff, checkNotSelf_eq_ok_iff, HeaderImport.schemaId,
    pure, Except.pure, Except.ok.injEq, exists_const]

theorem importOne_single_eq_ok_iff {id typeName : String} {newName : Option String} :
    c.importOne b (.single id typeName newName) = .ok b' ↔
      c.document.id ≠ some id ∧ ∃ origin, c.exported id typeName = .ok origin ∧ ∃ bound,
        c.bind b (newName.getD typeName) ⟨origin.schemaId, origin.declaration⟩ = .ok bound ∧
        bound.recordImport id (fun i =>
          { i with types := i.types.insert (newName.getD typeName) typeName }) = b' := by
  simp only [importOne, SchemaError.bind_eq_ok_iff, checkNotSelf_eq_ok_iff, HeaderImport.schemaId,
    pure, Except.pure, Except.ok.injEq, exists_const]

theorem isKnown_iff {name : String} : c.isKnown b name = true ↔
    c.vocabulary.isBuiltinType name = true ∨ c.declares name = true ∨
      b.inScope.contains name = true := by
  simp only [isKnown, Bool.or_eq_true, or_assoc]

/-- A name is known, or noted as unresolved, or bound on demand. -/
theorem checkMention_name_eq_ok_iff {name : String} {unresolved unresolved' : NameSet} :
    c.checkMention b unresolved (.name name) = .ok (b', unresolved') ↔
      c.isKnown b name = true ∧ b' = b ∧ unresolved' = unresolved ∨
      c.isKnown b name = false ∧ c.transitiveSource? b name = none ∧ b' = b ∧
        unresolved' = unresolved.insert name ∨
      c.isKnown b name = false ∧ ∃ id origin, c.transitiveSource? b name = some id ∧
        c.exported id name = .ok origin ∧
        c.bind b name ⟨origin.schemaId, origin.declaration⟩ = .ok b' ∧
        unresolved' = unresolved := by
  simp only [checkMention]
  cases known : c.isKnown b name with
  | true => simp [pure, Except.pure, eq_comm]
  | false =>
    cases source : c.transitiveSource? b name with
    | none => simp [pure, Except.pure, eq_comm]
    | some id =>
      simp only [Bool.false_eq_true, if_false, SchemaError.bind_eq_ok_iff, pure, Except.pure,
        Except.ok.injEq, Prod.mk.injEq, false_and, reduceCtorEq, true_and, false_or,
        Option.some.injEq]
      constructor
      · rintro ⟨origin, visible, b₁, bound, rfl, rfl⟩
        exact ⟨id, origin, rfl, visible, bound, rfl⟩
      · rintro ⟨_, origin, rfl, visible, bound, rfl⟩
        exact ⟨origin, visible, b', bound, rfl, rfl⟩

theorem checkMention_imported_eq_ok_iff {id typeName : String} {unresolved unresolved' : NameSet} :
    c.checkMention b unresolved (.imported id typeName) = .ok (b', unresolved') ↔
      c.document.id ≠ some id ∧ (∃ origin, c.exported id typeName = .ok origin) ∧
        b.recordImport id (fun i => i) = b' ∧ unresolved = unresolved' := by
  simp only [checkMention, SchemaError.bind_eq_ok_iff, checkNotSelf_eq_ok_iff, pure, Except.pure,
    Except.ok.injEq, Prod.mk.injEq, exists_const, exists_and_right]
  rfl

theorem run_eq_ok_iff {σ : Schema} :
    c.run = .ok σ ↔ c.checkDeclarations = .ok () ∧ c.checkEnds = .ok () ∧
      ∃ b₀ b, c.importAll .empty c.document.imports = .ok b₀ ∧
        c.checkMentions b₀ [] c.document.mentions = .ok (b, []) ∧
        σ = ⟨c.document, b.imports, b.inScope⟩ := by
  simp only [run, SchemaError.bind_eq_ok_iff]
  constructor
  · rintro ⟨⟨⟩, declarations, ⟨⟩, ends, b₀, imported, ⟨b, unresolved⟩, checked, found⟩
    refine ⟨declarations, ends, b₀, b, imported, ?_⟩
    cases unresolved with
    | nil =>
      refine ⟨checked, ?_⟩
      simpa [pure, Except.pure, eq_comm] using found
    | cons name names => simp [throw, throwThe, MonadExceptOf.throw] at found
  · rintro ⟨declarations, ends, b₀, b, imported, checked, rfl⟩
    exact ⟨(), declarations, (), ends, b₀, imported, (b, []), checked, rfl⟩

theorem document_of_run {σ : Schema} (h : c.run = .ok σ) : σ.document = c.document := by
  obtain ⟨-, -, b₀, b, -, -, rfl⟩ := run_eq_ok_iff.1 h
  rfl

theorem bindAll_cons_eq_ok_iff {id : String} {t : NamedType} {ts : List NamedType} :
    c.bindAll id b (t :: ts) = .ok b' ↔
      ∃ bound, c.bind b t.name ⟨id, t⟩ = .ok bound ∧ c.bindAll id bound ts = .ok b' := by
  simp only [bindAll, SchemaError.bind_eq_ok_iff]

theorem importAll_cons_eq_ok_iff {i : HeaderImport} {is : List HeaderImport} :
    c.importAll b (i :: is) = .ok b' ↔
      ∃ bound, c.importOne b i = .ok bound ∧ c.importAll bound is = .ok b' := by
  simp only [importAll, SchemaError.bind_eq_ok_iff]

theorem checkMentions_cons_eq_ok_iff {m : Mention} {ms : List Mention}
    {unresolved unresolved' : NameSet} :
    c.checkMentions b unresolved (m :: ms) = .ok (b', unresolved') ↔
      ∃ bound left, c.checkMention b unresolved m = .ok (bound, left) ∧
        c.checkMentions bound left ms = .ok (b', unresolved') := by
  simp only [checkMentions, SchemaError.bind_eq_ok_iff, Prod.exists]

/-! ## Step by step -/

/-- All that happens to bindings: a name is bound, or an import is recorded. An import of a schema
as a whole never ceases to be one. -/
inductive Adds (c : Compilation) : Bindings → Bindings → Prop where
  | bind {b b' : Bindings} {name : String} {target : ImportedType}
      (bound : c.bind b name target = .ok b') : Adds c b b'
  | record (b : Bindings) (id : String) {f : SchemaImport → SchemaImport}
      (keeps : ∀ r, r.wildcard = true → (f r).wildcard = true) : Adds c b (b.recordImport id f)

/-- The later bindings come about from the earlier ones. -/
abbrev Grows (c : Compilation) : Bindings → Bindings → Prop := Relation.ReflTransGen c.Adds

theorem grows_bindAll {id : String} {ts : List NamedType} (h : c.bindAll id b ts = .ok b') :
    c.Grows b b' := by
  induction ts generalizing b with
  | nil =>
    cases h
    exact .refl
  | cons t ts ih =>
    obtain ⟨bound, first, rest⟩ := bindAll_cons_eq_ok_iff.1 h
    exact (ih rest).head (.bind first)

theorem grows_importOne {i : HeaderImport} (h : c.importOne b i = .ok b') : c.Grows b b' := by
  cases i with
  | wildcard id =>
    obtain ⟨-, bound, all, rfl⟩ := importOne_wildcard_eq_ok_iff.1 h
    exact (grows_bindAll all).tail (.record bound id fun _ _ => rfl)
  | single id typeName newName =>
    obtain ⟨-, origin, -, bound, one, rfl⟩ := importOne_single_eq_ok_iff.1 h
    exact (Relation.ReflTransGen.single (.bind one)).tail (.record bound id fun _ marked => marked)

theorem grows_importAll {is : List HeaderImport} (h : c.importAll b is = .ok b') :
    c.Grows b b' := by
  induction is generalizing b with
  | nil =>
    cases h
    exact .refl
  | cons i is ih =>
    obtain ⟨bound, first, rest⟩ := importAll_cons_eq_ok_iff.1 h
    exact (grows_importOne first).trans (ih rest)

theorem grows_checkMention {m : Mention} {unresolved unresolved' : NameSet}
    (h : c.checkMention b unresolved m = .ok (b', unresolved')) : c.Grows b b' := by
  cases m with
  | name name =>
    rcases checkMention_name_eq_ok_iff.1 h with
      ⟨-, rfl, -⟩ | ⟨-, -, rfl, -⟩ | ⟨-, id, origin, -, -, bound, -⟩
    · exact .refl
    · exact .refl
    · exact .single (.bind bound)
  | imported id typeName =>
    obtain ⟨-, -, rfl, -⟩ := checkMention_imported_eq_ok_iff.1 h
    exact .single (.record b id fun _ marked => marked)

theorem grows_checkMentions {ms : List Mention} {unresolved unresolved' : NameSet}
    (h : c.checkMentions b unresolved ms = .ok (b', unresolved')) : c.Grows b b' := by
  induction ms generalizing b unresolved with
  | nil =>
    cases h
    exact .refl
  | cons m ms ih =>
    obtain ⟨bound, left, first, rest⟩ := checkMentions_cons_eq_ok_iff.1 h
    exact (grows_checkMention first).trans (ih rest)

/-! ## Nothing is lost -/

theorem bind_extends {name : String} {target : ImportedType}
    (h : c.bind b name target = .ok b') : b'.Extends b := by
  obtain ⟨-, ⟨free, rfl⟩ | ⟨_, -, -, -, rfl⟩⟩ := bind_eq_ok_iff.1 h
  · refine ⟨?_, fun _ h => h⟩
    intro n x found
    have other : name ≠ n := by
      rintro rfl
      rw [free] at found
      cases found
    simp [Table.find?_insert, other, found]
  · exact Bindings.Extends.refl _

theorem Adds.extends (adds : c.Adds b b') : b'.Extends b := by
  cases adds with
  | bind bound => exact bind_extends bound
  | record id _ => exact b.recordImport_extends id _

theorem Grows.extends (grows : c.Grows b b') : b'.Extends b := by
  induction grows with
  | refl => exact Bindings.Extends.refl b
  | tail _ adds ih => exact adds.extends.trans ih

end Compilation
end Isl
