import Isl.Proofs.Reader.Document
/-!
# Errors of whole reads

A document is read item by item, each at its position among the top-level values, and every item
keeps its own faults. So the path of an error of a document begins with the position of a value and
leads on below that value.

* `record_itemsFrom`: the errors of items point into the values that are read;
* `Settled`: a read that leaves no fault to whatever stands around it, as the items do;
* `SchemaReader.errors_follow`: what errors of documents and of single values point at.
-/
namespace Isl.Reader

/-! ## Items -/

/-- The errors of an item begin with its position. -/
theorem record_item {d : Dialect} {p : Progress} {e : Element} {i : Nat} {es : List Element}
    {error : ReadError} (h : error ∈ record (item d p (TreePath.root.index i) e [])) :
    FollowsFrom i (e :: es) error.path.steps := by
  rw [(local_item d p e).moves, record_placed, List.mem_map] at h
  obtain ⟨error, mem, rfl⟩ := h
  exact FollowsFrom.head ((local_item d p e).leads error mem)

theorem record_itemsFrom {d : Dialect} {i : Nat} {p : Progress} {es : List Element}
    {error : ReadError} (h : error ∈ record (itemsFrom d i p es [])) :
    FollowsFrom i es error.path.steps := by
  induction es generalizing i p with
  | nil => exact absurd h List.not_mem_nil
  | cons e es ih =>
    rw [itemsFrom] at h
    obtain here | ⟨q, later⟩ := record_bind (steady_others d i es) h
    · exact record_item here
    · split at later
      · exact absurd later List.not_mem_nil
      · exact (ih later).tail

/-! ## Reads that leave no fault behind -/

section
variable {α β : Type}

/-- A read that leaves no fault to whatever stands around it. -/
def Settled (r : Read α) : Prop := ∀ fault es, r [] ≠ .error (.invalid fault) es

theorem settled_pure (a : α) : Settled (pure a : Read α) := fun _ _ h => by cases h

theorem settled_report (ctx : Context) (path : TreePath) (fault : ReadFault) :
    Settled (report ctx path fault) := by
  intro other es h
  cases fast : ctx.failFast <;> simp [report, fast] at h

theorem settled_bind {r : Read α} {f : α → Read β} (hr : Settled r) (hf : ∀ a, Settled (f a))
    (steady : ∀ a, Steady (f a)) : Settled (r >>= f) := by
  intro fault es h
  rw [bind_apply] at h
  cases given : r [] with
  | ok a before =>
    rw [given] at h
    dsimp only at h
    rw [steady a before] at h
    cases later : f a [] with
    | ok b es => rw [later] at h; cases h
    | error halt es =>
      rw [later] at h
      cases h
      exact hf a fault es later
  | error halt before =>
    rw [given] at h
    cases h
    exact hr fault _ given

theorem settled_catching (ctx : Context) (path : TreePath) (r : Read α) :
    Settled (catching ctx path r) := by
  intro fault es h
  rw [catching_apply] at h
  cases given : r [] with
  | ok a before => rw [given] at h; cases h
  | error halt before =>
    rw [given] at h
    cases halt with
    | abort => cases h
    | invalid other =>
      cases fast : ctx.failFast <;>
        simp [bind_apply, report, fast, pure, EStateM.pure] at h

theorem settled_map {r : Read α} (h : Settled r) (f : α → β) :
    Settled (r >>= fun a => pure (f a)) :=
  settled_bind h (fun a => settled_pure (f a)) fun a => steady_pure (f a)

end

theorem settled_headerItem (p : Progress) (path : TreePath) (e : Element) :
    Settled (headerItem p path e) := by
  refine settled_bind (settled_catching _ _ _) (fun draft => ?_) fun draft => ?_
  · cases draft with
    | none => exact settled_pure _
    | some draft => exact settled_map (settled_catching _ _ _) _
  · cases draft with
    | none => exact steady_pure _
    | some draft => exact steady_bind (steady_catching _ _ (steady_lift _)) fun _ => steady_pure _

theorem settled_item (d : Dialect) (p : Progress) (path : TreePath) (e : Element) :
    Settled (item d p path e) := by
  unfold item markerItem bodyItem
  split
  · split
    · split
      · exact settled_pure _
      · exact settled_map (settled_report _ _ _) _
    · exact settled_map (settled_report _ _ _) _
  · split
    · exact settled_pure _
    · exact settled_map (settled_report _ _ _) _
    · split
      · split
        · exact settled_map (settled_headerItem p path e) _
        · exact settled_map (settled_report _ _ _) _
      · split
        · exact settled_map (settled_catching _ _ _) _
        · split
          · exact settled_map (settled_catching _ _ _) _
          · split
            · exact settled_map (settled_report _ _ _) _
            · exact settled_pure _

theorem settled_itemsFrom (d : Dialect) (i : Nat) (p : Progress) (es : List Element) :
    Settled (itemsFrom d i p es) := by
  induction es generalizing i p with
  | nil => exact settled_pure _
  | cons e es ih =>
    rw [itemsFrom]
    refine settled_bind (settled_item d p _ e) (fun q => ?_) (steady_others d i es)
    split
    · exact settled_pure _
    · exact ih (i + 1) q

/-! ## Whole reads -/

/-- The errors of a whole read were on record, or its last one is the fault it ended with. -/
theorem finish_error {α : Type} {path : TreePath} {r : Read α} {es : List ReadError}
    (h : finish path r = .error es) :
    es = record (r []) ∨
      ∃ fault before, r [] = .error (.invalid fault) before ∧ es = before ++ [⟨path, fault⟩] := by
  unfold finish at h
  cases given : r [] with
  | ok a before =>
    rw [given] at h
    dsimp only at h
    split at h
    · cases h
    · cases h
      exact .inl rfl
  | error halt before =>
    rw [given] at h
    cases halt with
    | abort => cases h; exact .inl rfl
    | invalid fault => cases h; exact .inr ⟨fault, before, rfl, rfl⟩

theorem follows_of_finish {α : Type} {v : Value} {r : TreePath → Read α} (h : Local v.Follows r)
    {es : List ReadError} (failed : finish .root (r .root) = .error es) {error : ReadError}
    (mem : error ∈ es) : v.Follows error.path.steps := by
  obtain rfl | ⟨fault, before, given, rfl⟩ := finish_error failed
  · exact h.leads error mem
  · rw [List.mem_append, List.mem_singleton] at mem
    obtain mem | rfl := mem
    · exact h.leads error (by rw [given]; exact mem)
    · exact .here v

theorem follows_of_document {d : Dialect} {values : List Element} {failFast : Bool}
    {es : List ReadError} (failed : document d values failFast = .error es) {error : ReadError}
    (mem : error ∈ es) : FollowsFrom 0 values error.path.steps := by
  unfold document at failed
  cases given : finish .root (itemsFrom d 0 (beginning d values failFast) values) with
  | ok p => rw [given] at failed; cases failed
  | error errors =>
    rw [given] at failed
    cases failed
    obtain rfl | ⟨fault, before, invalid, _⟩ := finish_error given
    · exact record_itemsFrom mem
    · exact absurd invalid (settled_itemsFrom d 0 _ values fault before)

end Isl.Reader

namespace Isl

/-- Whatever words are reserved, in either version, with every fault on record or only the first:
each error of a document has a path that begins with the position of a top-level value and leads on
to a part of that value, and each error of a type, a named type, a header or a footer that is read
alone has a path that leads to a part of it. -/
theorem SchemaReader.errors_follow (r : SchemaReader) (failFast : Bool) :
    (∀ values errors, r.readSchema values failFast = .error errors → ∀ error ∈ errors,
      ∃ i v steps, values[i]? = some v ∧ error.path.steps = .index i :: steps ∧
        v.value.Follows steps) ∧
    ∀ e errors, r.readType e failFast = .error errors ∨ r.readNamedType e failFast = .error errors ∨
      r.readHeader e failFast = .error errors ∨ r.readFooter e failFast = .error errors →
        ∀ error ∈ errors, e.value.Follows error.path.steps := by
  refine ⟨fun values errors failed error mem => ?_, fun e errors failed error mem => ?_⟩
  · obtain ⟨i, v, steps, found, follows, path⟩ := Reader.follows_of_document failed mem
    rw [Nat.zero_add] at path
    exact ⟨i, v, steps, found, path, follows⟩
  · obtain failed | failed | failed | failed := failed
    · exact Reader.follows_of_finish (Reader.local_anonymousType _ e) failed mem
    · exact Reader.follows_of_finish (Reader.local_namedType _ e) failed mem
    · exact Reader.follows_of_finish (Reader.local_header _ e) failed mem
    · exact Reader.follows_of_finish (Reader.local_lift _) failed mem

/-- `type::{ name: a, fields: { b: { type: 5 } } }` -/
def faultyType : Element :=
  ⟨["type"], .struct [⟨"name", .symbol "a"⟩,
    ⟨"fields", .struct [⟨"b", .struct [⟨"type", .int 5⟩]⟩]⟩]⟩

/-- The number is no type argument, whether its type is read in a document or alone. -/
theorem errors_follow_faulty :
    (∃ errors, SchemaReader.standard.readSchema [.symbol "$ion_schema_2_0", faultyType] false =
        .error errors ∧
      errors.map (·.path.steps) = [[.index 1, .field "fields", .field "b", .field "type"]] ∧
      ∀ error ∈ errors, ∃ i v steps,
        [Element.symbol "$ion_schema_2_0", faultyType][i]? = some v ∧
          error.path.steps = .index i :: steps ∧ v.value.Follows steps) ∧
    ∃ errors, SchemaReader.standard.readNamedType faultyType false = .error errors ∧
      errors.map (·.path.steps) = [[.field "fields", .field "b", .field "type"]] ∧
      ∀ error ∈ errors, faultyType.value.Follows error.path.steps := by
  have document : SchemaReader.standard.readSchema [.symbol "$ion_schema_2_0", faultyType] false =
      .error [⟨⟨[.index 1, .field "fields", .field "b", .field "type"]⟩, .notArgument (.int 5)⟩] :=
    rfl
  have alone : SchemaReader.standard.readNamedType faultyType false =
      .error [⟨⟨[.field "fields", .field "b", .field "type"]⟩, .notArgument (.int 5)⟩] := rfl
  have follow := SchemaReader.standard.errors_follow false
  exact ⟨⟨_, document, rfl, follow.1 _ _ document⟩,
    ⟨_, alone, rfl, follow.2 _ _ (.inr (.inl alone))⟩⟩

end Isl
