import Isl.Proofs.System.Compile
/-!
# What a compilation fails with

A compilation stops at its first error, and that is about the document itself: its names, its ends,
its imports or its references.

* `SchemaError.Only`: nothing goes wrong but in one of several ways;
* `Compilation.Refusal`, `Compilation.only_run`: the errors that a compilation can end with.
-/
namespace Isl

namespace SchemaError

theorem bind_eq_error_iff {α β : Type} {r : Except SchemaError α} {f : α → Except SchemaError β}
    {e : SchemaError} :
    (r >>= f) = .error e ↔ r = .error e ∨ ∃ a, r = .ok a ∧ f a = .error e := by
  cases r with
  | error e => simp [bind, Except.bind]
  | ok a => simp [bind, Except.bind]

theorem map_eq_error_iff {α β : Type} {r : Except SchemaError α} {f : α → β} {e : SchemaError} :
    r.map f = .error e ↔ r = .error e := by
  cases r with
  | error e => simp [Except.map]
  | ok a => simp [Except.map]

/-- If this is an error, it is one of these. -/
structure Only {α : Type} (kind : SchemaError → Prop) (r : Except SchemaError α) : Prop where
  error : ∀ e, r = .error e → kind e

variable {α β : Type} {kind : SchemaError → Prop}

theorem only_ok (a : α) : Only kind (.ok a : Except SchemaError α) := ⟨nofun⟩

theorem only_error {e : SchemaError} (h : kind e) : Only kind (.error e : Except SchemaError α) :=
  ⟨fun _ same => Except.error.inj same ▸ h⟩

theorem only_bind {r : Except SchemaError α} {f : α → Except SchemaError β} (first : Only kind r)
    (next : ∀ a, Only kind (f a)) : Only kind (r >>= f) := by
  refine ⟨fun e failed => ?_⟩
  obtain now | ⟨a, -, later⟩ := bind_eq_error_iff.1 failed
  · exact first.error e now
  · exact (next a).error e later

end SchemaError

namespace Compilation

open SchemaError

variable {c : Compilation}

/-- The errors that are about a document itself. -/
inductive Refusal : SchemaError → Prop where
  | invalidSchema (defect : Defect) : Refusal (.invalidSchema defect)
  | typeNotFound (schemaId typeName : String) : Refusal (.typeNotFound schemaId typeName)
  | transitiveImport (schemaId typeName : String) : Refusal (.transitiveImport schemaId typeName)
  | duplicateImport (name first second : String) : Refusal (.duplicateImport name first second)
  | duplicateType (name : String) : Refusal (.duplicateType name)
  | selfImport (id : String) : Refusal (.selfImport id)
  | unresolvedReferences (names : List String) : Refusal (.unresolvedReferences names)

theorem checkNotSelf_eq_error {id : String} {e : SchemaError} (h : c.checkNotSelf id = .error e) :
    e = .selfImport id := by
  unfold checkNotSelf at h
  split at h
  · exact (Except.error.inj h).symm
  · cases h

theorem exported_eq_error {id typeName : String} {e : SchemaError}
    (h : c.exported id typeName = .error e) :
    e = .typeNotFound id typeName ∨ e = .transitiveImport id typeName := by
  unfold exported at h
  cases found : c.world.origin? id typeName with
  | none =>
    simp only [found, Except.error.injEq] at h
    exact .inl h.symm
  | some o =>
    simp only [found] at h
    split at h
    · exact .inr (Except.error.inj h).symm
    · cases h

theorem only_checkNotSelf (id : String) : Only Refusal (c.checkNotSelf id) := by
  refine ⟨fun e failed => ?_⟩
  rw [checkNotSelf_eq_error failed]
  exact .selfImport id

theorem only_exported (id typeName : String) : Only Refusal (c.exported id typeName) := by
  refine ⟨fun e failed => ?_⟩
  obtain rfl | rfl := exported_eq_error failed
  · exact .typeNotFound id typeName
  · exact .transitiveImport id typeName

theorem only_bindName (b : Bindings) (name : String) (target : ImportedType) :
    Only Refusal (c.bind b name target) := by
  unfold Compilation.bind
  split
  · exact only_error (.duplicateType name)
  · split
    · exact only_ok _
    · split
      · exact only_ok _
      · exact only_error (.duplicateImport ..)

theorem only_bindAll (id : String) (b : Bindings) (ts : List NamedType) :
    Only Refusal (c.bindAll id b ts) := by
  induction ts generalizing b with
  | nil => exact only_ok b
  | cons t ts ih => exact only_bind (only_bindName ..) ih

theorem only_importOne (b : Bindings) (i : HeaderImport) : Only Refusal (c.importOne b i) := by
  refine only_bind (only_checkNotSelf _) fun _ => ?_
  cases i with
  | wildcard id => exact only_bind (only_bindAll ..) fun _ => only_ok _
  | single id typeName newName =>
    exact only_bind (only_exported ..) fun _ =>
      only_bind (only_bindName ..) fun _ => only_ok _

theorem only_importAll (b : Bindings) (is : List HeaderImport) :
    Only Refusal (c.importAll b is) := by
  induction is generalizing b with
  | nil => exact only_ok b
  | cons i is ih => exact only_bind (only_importOne b i) ih

theorem only_checkMention (b : Bindings) (unresolved : NameSet) (m : Mention) :
    Only Refusal (c.checkMention b unresolved m) := by
  cases m with
  | name name =>
    simp only [checkMention]
    split
    · exact only_ok _
    · split
      · exact only_ok _
      · exact only_bind (only_exported ..) fun _ =>
          only_bind (only_bindName ..) fun _ => only_ok _
  | imported id typeName =>
    exact only_bind (only_checkNotSelf _) fun _ =>
      only_bind (only_exported ..) fun _ => only_ok _

theorem only_checkMentions (b : Bindings) (unresolved : NameSet) (ms : List Mention) :
    Only Refusal (c.checkMentions b unresolved ms) := by
  induction ms generalizing b unresolved with
  | nil => exact only_ok _
  | cons m ms ih => exact only_bind (only_checkMention ..) fun left => ih left.1 left.2

theorem only_checkDeclarations : Only Refusal c.checkDeclarations := by
  unfold checkDeclarations
  split
  · exact only_error (.duplicateType _)
  · exact only_ok ()

theorem only_checkEnds : Only Refusal c.checkEnds := by
  unfold checkEnds
  split
  · exact only_error (.invalidSchema _)
  · exact only_error (.invalidSchema _)
  · exact only_ok ()

theorem only_run : Only Refusal c.run := by
  refine only_bind only_checkDeclarations fun _ =>
    only_bind only_checkEnds fun _ => only_bind (only_importAll ..) fun _ =>
      only_bind (only_checkMentions ..) fun left => ?_
  by_cases settled : left.2.isEmpty = true
  · simp only [settled, if_true]
    exact only_ok _
  · simp only [settled]
    exact only_error (.unresolvedReferences _)

end Compilation
end Isl
