import Isl.Proofs.Reader.Accepted
import Isl.Proofs.Reader.Forms
/-!
# Where errors point

The path of an error is put together on the way down, a step at a time, by whatever reads the part
that is at fault. It can be followed from the values that were read.

* `Value.Follows`: the steps lead from a value to a part of it;
* `Local`: a read that moves with its path, and whose errors point below it;
* `local_typeArgument` to `local_item`: types, headers and the items of a document keep to it;
* `steady_typeArgument` to `steady_item`: so all of them only add to the record, and what they
  accept can be worked out step by step (`accepted?_bind`).
-/
namespace Isl

/-- The steps lead from a value to a part of it: an index to an item of a list, a name to a field
of a struct. -/
inductive Value.Follows : Value → List PathStep → Prop where
  | here (v : Value) : v.Follows []
  | item {items : List Element} {i : Nat} {e : Element} {steps : List PathStep}
      (found : items[i]? = some e) (rest : e.value.Follows steps) :
      (Value.list items).Follows (.index i :: steps)
  | field {fs : List Field} {f : Field} {steps : List PathStep} (mem : f ∈ fs)
      (rest : f.value.value.Follows steps) : (Value.struct fs).Follows (.field f.name :: steps)

/-- Steps into some of the fields are steps into all of them. -/
theorem Value.Follows.mono {fs gs : List Field} {steps : List PathStep}
    (h : (Value.struct fs).Follows steps) (sub : ∀ f ∈ fs, f ∈ gs) :
    (Value.struct gs).Follows steps := by
  cases h with
  | here => exact .here _
  | field mem rest => exact .field (sub _ mem) rest

/-- The steps lead into values that stand from this position on. -/
def FollowsFrom (i : Nat) (es : List Element) (steps : List PathStep) : Prop :=
  ∃ j e rest, es[j]? = some e ∧ e.value.Follows rest ∧ steps = .index (i + j) :: rest

theorem FollowsFrom.head {i : Nat} {e : Element} {es : List Element} {steps : List PathStep}
    (h : e.value.Follows steps) : FollowsFrom i (e :: es) (.index i :: steps) :=
  ⟨0, e, steps, rfl, h, rfl⟩

theorem FollowsFrom.tail {i : Nat} {e : Element} {es : List Element} {steps : List PathStep}
    (h : FollowsFrom (i + 1) es steps) : FollowsFrom i (e :: es) steps := by
  obtain ⟨j, f, rest, found, follows, rfl⟩ := h
  refine ⟨j + 1, f, rest, found, follows, ?_⟩
  rw [Nat.add_assoc, Nat.add_comm 1 j]

theorem FollowsFrom.list {items : List Element} {steps : List PathStep}
    (h : FollowsFrom 0 items steps) : (Value.list items).Follows steps := by
  obtain ⟨j, e, rest, found, follows, rfl⟩ := h
  rw [Nat.zero_add]
  exact .item found follows

/-- The error of a part, seen from the value that the part is found in at this path. -/
def ReadError.under (path : TreePath) (e : ReadError) : ReadError :=
  ⟨⟨path.steps ++ e.path.steps⟩, e.fault⟩

theorem ReadError.under_under (p q : TreePath) (e : ReadError) :
    (e.under p).under q = e.under ⟨q.steps ++ p.steps⟩ := by
  simp [ReadError.under]

namespace Reader

/-! ## Reads that move with their path -/

/-- What is on record at the end. -/
def record {α : Type} : EStateM.Result Halt (List ReadError) α → List ReadError
  | .ok _ es => es
  | .error _ es => es

/-- An outcome with the errors on record seen from further up. -/
def placed {α : Type} (path : TreePath) :
    EStateM.Result Halt (List ReadError) α → EStateM.Result Halt (List ReadError) α
  | .ok a es => .ok a (es.map (·.under path))
  | .error h es => .error h (es.map (·.under path))

section
variable {α β : Type} {P Q : List PathStep → Prop}

theorem placed_behind (path : TreePath) (es : List ReadError)
    (o : EStateM.Result Halt (List ReadError) α) :
    placed path (behind es o) = behind (es.map (·.under path)) (placed path o) := by
  cases o <;> simp [placed, behind]

theorem placed_placed (p q : TreePath) (o : EStateM.Result Halt (List ReadError) α) :
    placed q (placed p o) = placed ⟨q.steps ++ p.steps⟩ o := by
  cases o <;> simp [placed, Function.comp_def, ReadError.under_under]

theorem record_behind (es : List ReadError) (o : EStateM.Result Halt (List ReadError) α) :
    record (behind es o) = es ++ record o := by
  cases o <;> rfl

theorem record_placed (path : TreePath) (o : EStateM.Result Halt (List ReadError) α) :
    record (placed path o) = (record o).map (·.under path) := by
  cases o <;> rfl

/-- What a sequence puts on record was put there by one of its steps. -/
theorem record_bind {r : Read α} {f : α → Read β} (hf : ∀ a, Steady (f a)) {e : ReadError}
    (h : e ∈ record ((r >>= f) [])) : e ∈ record (r []) ∨ ∃ a, e ∈ record (f a []) := by
  rw [bind_apply] at h
  cases given : r [] with
  | ok a es =>
    rw [given] at h
    dsimp only at h
    rw [hf a es, record_behind, List.mem_append] at h
    exact h.imp id fun later => ⟨a, later⟩
  | error halt es =>
    rw [given] at h
    exact .inl h

/-- A read that moves with its path: it puts the same faults on record wherever it starts, and the
steps below its start are of this kind. -/
structure Local (Q : List PathStep → Prop) (r : TreePath → Read α) : Prop where
  steady : ∀ path, Steady (r path)
  moves : ∀ path, r path [] = placed path (r .root [])
  leads : ∀ e ∈ record (r .root []), Q e.path.steps

theorem Local.mono {r : TreePath → Read α} (h : Local P r) (sub : ∀ steps, P steps → Q steps) :
    Local Q r :=
  ⟨h.steady, h.moves, fun e mem => sub _ (h.leads e mem)⟩

theorem local_of_eq {r r' : TreePath → Read α} (same : ∀ path, r path = r' path)
    (h : Local Q r') : Local Q r := by
  rwa [funext same]

theorem local_pure (a : α) : Local Q fun _ => (pure a : Read α) :=
  ⟨fun _ => steady_pure a, fun _ => rfl, fun _ mem => absurd mem List.not_mem_nil⟩

theorem local_invalid (fault : ReadFault) : Local Q fun _ => (invalid fault : Read α) :=
  ⟨fun _ => steady_invalid fault, fun _ => rfl, fun _ mem => absurd mem List.not_mem_nil⟩

theorem local_lift (check : Check α) : Local Q fun _ => lift check := by
  cases check with
  | ok a => exact local_pure a
  | error fault => exact local_invalid fault

theorem local_bind {r : TreePath → Read α} {f : α → TreePath → Read β} (first : Local Q r)
    (rest : ∀ a, Local Q (f a)) : Local Q fun path => r path >>= fun a => f a path where
  steady path := steady_bind (first.steady path) fun a => (rest a).steady path
  moves path := by
    rw [bind_apply, bind_apply, first.moves path]
    cases r .root [] with
    | ok a es =>
      change f a path (es.map (·.under path)) = placed path (f a .root es)
      rw [(rest a).steady, (rest a).steady .root es, placed_behind, (rest a).moves]
    | error h es => rfl
  leads e mem := by
    obtain mem | ⟨a, mem⟩ := record_bind (fun a => (rest a).steady .root) mem
    · exact first.leads e mem
    · exact (rest a).leads e mem

theorem local_map {r : TreePath → Read α} (f : α → β) (h : Local Q r) :
    Local Q fun path => r path >>= fun a => pure (f a) :=
  local_bind h fun a => local_pure (f a)

/-- What follows a check only has to do with what it gave. -/
theorem local_check {check : Check α} {f : α → TreePath → Read β}
    (rest : ∀ a, check = .ok a → Local Q (f a)) :
    Local Q fun path => lift check >>= fun a => f a path := by
  cases given : check with
  | ok a => exact rest a given
  | error fault => exact local_invalid fault

theorem local_ite {c : Prop} [Decidable c] {r s : TreePath → Read α} (pos : Local Q r)
    (neg : Local Q s) : Local Q fun path => if c then r path else s path := by
  split
  · exact pos
  · exact neg

/-- A read that starts further down. -/
theorem local_down (below : List PathStep) {r : TreePath → Read α}
    (h : Local (fun steps => Q (below ++ steps)) r) :
    Local Q fun path => r ⟨path.steps ++ below⟩ where
  steady path := h.steady _
  moves path := by
    rw [h.moves, h.moves ⟨TreePath.root.steps ++ below⟩, placed_placed]
    rfl
  leads e mem := by
    rw [h.moves, record_placed, List.mem_map] at mem
    obtain ⟨e, mem, rfl⟩ := mem
    exact h.leads e mem

theorem local_report (ctx : Context) (fault : ReadFault) (here : Q []) :
    Local Q fun path => report ctx path fault where
  steady path := steady_report ctx path fault
  moves path := by
    cases h : ctx.failFast <;>
      simp [report, h, placed, ReadError.under, TreePath.root]
  leads e mem := by
    have only : record (report ctx .root fault []) = [⟨.root, fault⟩] := by
      cases h : ctx.failFast <;> simp [report, h, record]
    rw [only, List.mem_singleton] at mem
    rw [mem]
    exact here

theorem local_catching (ctx : Context) {r : TreePath → Read α} (h : Local Q r) (here : Q []) :
    Local Q fun path => catching ctx path (r path) where
  steady path := steady_catching ctx path (h.steady path)
  moves path := by
    rw [catching_apply, catching_apply, h.moves]
    cases r .root [] with
    | ok a es => rfl
    | error halt es =>
      cases halt with
      | abort => rfl
      | invalid fault =>
        cases fast : ctx.failFast <;>
          simp [placed, bind_apply, report, fast, pure, EStateM.pure, ReadError.under,
            TreePath.root]
  leads e mem := by
    have caught : e ∈ record (r .root []) ∨ ∃ fault, e = ⟨.root, fault⟩ := by
      rw [catching_apply] at mem
      cases given : r .root [] with
      | ok a es =>
        rw [given] at mem
        exact .inl mem
      | error halt es =>
        rw [given] at mem
        cases halt with
        | abort => exact .inl mem
        | invalid fault =>
          have both : e ∈ es ++ [⟨.root, fault⟩] := by
            cases fast : ctx.failFast <;>
              simpa [bind_apply, report, fast, pure, EStateM.pure, record] using mem
          rw [List.mem_append, List.mem_singleton] at both
          exact both.imp id fun last => ⟨fault, last⟩
    obtain mem | ⟨fault, rfl⟩ := caught
    · exact h.leads e mem
    · exact here

end

/-! ## Types -/

section
variable (ctx : Context)

/-- A part of a field that is a step of its own. -/
theorem local_field {α : Type} (name : String) {e : Element} {r : TreePath → Read α}
    (h : Local e.value.Follows r) :
    Local (Value.struct [⟨name, e⟩]).Follows fun path =>
      catching ctx (path.field name) (r (path.field name)) := by
  have here : (⟨name, e⟩ : Field) ∈ [⟨name, e⟩] := List.mem_singleton_self _
  exact local_down [.field name]
    (local_catching ctx (h.mono fun _ => .field here) (.field here (.here _)))

/-- An item that is a step of its own. -/
theorem local_entry {α : Type} (i : Nat) (e : Element) (es : List Element)
    {r : TreePath → Read α} (h : Local e.value.Follows r) :
    Local (FollowsFrom i (e :: es)) fun path =>
      catching ctx (path.index i) (r (path.index i)) :=
  local_down [.index i] (local_catching ctx (h.mono fun _ => FollowsFrom.head)
    (FollowsFrom.head (.here _)))

mutual

theorem local_typeArgument (names : List String) (v : Value) :
    Local v.Follows fun path => typeArgument ctx path names v := by
  cases v with
  | struct fs =>
    refine local_of_eq (fun path => typeArgument.eq_1 ctx path names fs) ?_
    refine local_bind (local_lift _) fun _ => local_ite (local_lift _) ?_
    refine local_bind (local_lift _) fun _ => local_bind (local_lift _) fun _ => ?_
    exact local_map _ (local_definitionParts fs)
  | _ =>
    refine local_of_eq (fun path => by rw [typeArgument]; simp) ?_
    refine local_bind (local_lift _) fun _ => ?_
    split
    · exact local_pure _
    · exact local_invalid _

theorem local_definitionParts (fs : List Field) :
    Local (Value.struct fs).Follows fun path => definitionParts ctx path fs := by
  cases fs with
  | nil =>
    refine local_of_eq (fun path => by rw [definitionParts]) ?_
    exact local_pure _
  | cons f fs =>
    refine local_of_eq (fun path => by rw [definitionParts]) ?_
    refine local_bind ((local_definitionField f).mono fun _ h => h.mono (by simp)) fun _ => ?_
    exact local_map _ ((local_definitionParts fs).mono fun _ h => h.mono (by simp +contextual))

theorem local_definitionField (f : Field) :
    Local (Value.struct [f]).Follows fun path => definitionField ctx path f := by
  cases f with
  | mk name e =>
    refine local_of_eq (fun path => by rw [definitionField]) ?_
    refine local_ite (local_pure _) (local_ite ?_ (local_ite ?_ (local_ite ?_ (local_pure _))))
    · exact local_map _ (local_field ctx name (local_lift _))
    · have constraint := local_field ctx name (local_constraintOf name e)
      exact local_map _ constraint
    · refine local_map _ (local_down [.field name] (local_report ctx _ ?_))
      exact .field (List.mem_singleton_self _) (.here _)

theorem local_constraintOf (name : String) (e : Element) :
    Local e.value.Follows fun path => constraintOf ctx path name e := by
  cases e with
  | mk names v =>
    cases constraintOf_form ctx name with
    | leaf read known reads => exact local_of_eq (reads · _) (local_lift _)
    | annotationList v1 reads => exact local_of_eq (reads · _) (local_lift _)
    | listed make same reads =>
      exact local_of_eq (reads · _) (local_map _ (local_listedArguments name names v))
    | single make same reads =>
      exact local_of_eq (reads · _) (local_map _ (local_typeArgument names v))
    | distinct make same reads =>
      refine local_of_eq (reads · _) (local_bind (local_lift _) fun _ => ?_)
      exact local_map _ (local_typeArgument _ v)
    | fields reads => exact local_of_eq (reads · _) (local_map _ (local_fieldArguments names v))
    | orderedElements reads =>
      exact local_of_eq (reads · _) (local_map _ (local_orderedElements names v))
    | annotations v2 reads =>
      refine local_of_eq (reads · _) ?_
      unfold annotationsOf
      split
      · exact local_lift _
      · exact local_map _ (local_typeArgument names v)
      · exact local_map _ (local_typeArgument names v)
      · exact local_lift _
    | unknown reads => exact local_of_eq (reads · _) (local_invalid _)

theorem local_listedArguments (name : String) (names : List String) (v : Value) :
    Local v.Follows fun path => listedArguments ctx path name names v := by
  cases v with
  | list items =>
    refine local_of_eq (fun path => by rw [listedArguments]) ?_
    refine local_bind (local_lift _) fun _ => ?_
    exact (local_argumentsFrom 0 items).mono fun _ => FollowsFrom.list
  | _ =>
    refine local_of_eq (fun path => by rw [listedArguments]; simp) ?_
    exact local_lift _

theorem local_argumentsFrom (i : Nat) (es : List Element) :
    Local (FollowsFrom i es) fun path => argumentsFrom ctx path i es := by
  cases es with
  | nil =>
    refine local_of_eq (fun path => by rw [argumentsFrom]) ?_
    exact local_pure _
  | cons e es =>
    cases e with
    | mk names v =>
      refine local_of_eq (fun path => by rw [argumentsFrom]) ?_
      have first := local_entry ctx i ⟨names, v⟩ es (local_typeArgument names v)
      refine local_bind first fun _ => ?_
      exact local_map _ ((local_argumentsFrom (i + 1) es).mono fun _ => FollowsFrom.tail)

theorem local_fieldArguments (names : List String) (v : Value) :
    Local v.Follows fun path => fieldArguments ctx path names v := by
  cases v with
  | struct fs =>
    refine local_of_eq (fun path => by rw [fieldArguments]) ?_
    exact local_bind (local_lift _) fun _ => local_fieldArgumentsFrom fs
  | _ =>
    refine local_of_eq (fun path => by rw [fieldArguments]; simp) ?_
    exact local_lift _

theorem local_fieldArgumentsFrom (fs : List Field) :
    Local (Value.struct fs).Follows fun path => fieldArgumentsFrom ctx path fs := by
  cases fs with
  | nil =>
    refine local_of_eq (fun path => by rw [fieldArgumentsFrom]) ?_
    exact local_pure _
  | cons f fs =>
    cases f with
    | mk name e =>
      refine local_of_eq (fun path => by rw [fieldArgumentsFrom]) ?_
      have first := local_field ctx name (local_occurringArgument .optional e)
      refine local_bind (first.mono fun _ h => h.mono (by simp)) fun _ => ?_
      exact local_map _
        ((local_fieldArgumentsFrom fs).mono fun _ h => h.mono (by simp +contextual))

theorem local_orderedElements (names : List String) (v : Value) :
    Local v.Follows fun path => orderedElements ctx path names v := by
  cases v with
  | list items =>
    refine local_of_eq (fun path => by rw [orderedElements]) ?_
    refine local_bind (local_lift _) fun _ => ?_
    exact (local_orderedElementsFrom 0 items).mono fun _ => FollowsFrom.list
  | _ =>
    refine local_of_eq (fun path => by rw [orderedElements]; simp) ?_
    exact local_lift _

theorem local_orderedElementsFrom (i : Nat) (es : List Element) :
    Local (FollowsFrom i es) fun path => orderedElementsFrom ctx path i es := by
  cases es with
  | nil =>
    refine local_of_eq (fun path => by rw [orderedElementsFrom]) ?_
    exact local_pure _
  | cons e es =>
    refine local_of_eq (fun path => by rw [orderedElementsFrom]) ?_
    refine local_bind (local_entry ctx i e es (local_occurringArgument .required e)) fun _ => ?_
    exact local_map _ ((local_orderedElementsFrom (i + 1) es).mono fun _ => FollowsFrom.tail)

theorem local_occurringArgument (byDefault : IntRange) (e : Element) :
    Local e.value.Follows fun path => occurringArgument ctx path byDefault e := by
  cases e with
  | mk names v =>
    refine local_of_eq (fun path => by rw [occurringArgument]) ?_
    refine local_ite (local_occurringDefinition names v) ?_
    exact local_map _ (local_typeArgument names v)

theorem local_occurringDefinition (names : List String) (v : Value) :
    Local v.Follows fun path => occurringDefinition ctx path names v := by
  cases v with
  | struct fs =>
    refine local_of_eq (fun path => by rw [occurringDefinition]) ?_
    exact local_bind (local_lift _) fun _ => local_map _ (local_definitionParts fs)
  | _ =>
    refine local_of_eq (fun path => by rw [occurringDefinition]; simp) ?_
    exact local_invalid _

end

theorem local_typeDefinition (fs : List Field) :
    Local (Value.struct fs).Follows fun path => typeDefinition ctx path fs :=
  local_map _ (local_definitionParts ctx fs)

theorem local_namedType (e : Element) :
    Local e.value.Follows fun path => namedType ctx path e := by
  obtain ⟨names, v⟩ := e
  unfold namedType
  cases v with
  | struct fs =>
    refine local_bind (local_lift _) fun _ => local_bind (local_lift _) fun _ => ?_
    exact local_bind (local_lift _) fun _ => local_map _ (local_typeDefinition ctx fs)
  | _ => exact local_invalid _

theorem local_anonymousType (e : Element) :
    Local e.value.Follows fun path => anonymousType ctx path e := by
  obtain ⟨names, v⟩ := e
  unfold anonymousType
  cases v with
  | struct fs =>
    refine local_bind (local_lift _) fun _ => local_bind (local_lift _) fun _ => ?_
    exact local_typeDefinition ctx fs
  | _ => exact local_invalid _

/-! ## Headers -/

theorem local_importsFrom (i : Nat) (es : List Element) :
    Local (FollowsFrom i es) fun path => importsFrom ctx path i es := by
  induction es generalizing i with
  | nil => exact local_pure _
  | cons e es ih =>
    have first := local_entry ctx i e es (local_lift (headerImport ctx.vocabulary e))
    exact local_bind first fun _ => local_map _ ((ih (i + 1)).mono fun _ => FollowsFrom.tail)

/-- A field that is read by its name is one of the fields. -/
theorem optionalField_mem {fs : List Field} {name : String} {shape : Shape} {e : Element}
    (h : optionalField fs name shape = .ok (some e)) :
    (⟨name, e⟩ : Field) ∈ fs ∧ shape.admits e = true := by
  unfold optionalField at h
  cases found : Field.getAll fs name with
  | nil => rw [found] at h; cases h
  | cons first others =>
    cases others with
    | cons => rw [found] at h; cases h
    | nil =>
      rw [found] at h
      dsimp only at h
      split at h
      · rename_i admits
        cases h
        have only : e ∈ Field.getAll fs name := found ▸ List.mem_singleton_self e
        obtain ⟨⟨own, _⟩, filtered, rfl⟩ := List.mem_map.1 only
        obtain ⟨mem, named⟩ := List.mem_filter.1 filtered
        obtain rfl : own = name := beq_iff_eq.1 named
        exact ⟨mem, admits⟩
      · cases h

theorem local_headerImports (fs : List Field) :
    Local (Value.struct fs).Follows fun path => headerImports ctx path fs := by
  unfold headerImports
  refine local_check fun list given => ?_
  cases list with
  | none => exact local_pure _
  | some e =>
    obtain ⟨mem, admits⟩ := optionalField_mem given
    obtain ⟨items, list⟩ := Option.isSome_iff_exists.1 admits
    have value : e.value = .list items := by
      obtain ⟨names, v⟩ := e
      cases v <;> cases list
      rfl
    refine local_bind (local_lift _) fun _ => ?_
    refine local_down [.field "imports"] ((local_importsFrom ctx 0 _).mono fun steps h => ?_)
    rw [list] at h
    exact .field mem (value ▸ h.list)

theorem local_headerDraft (e : Element) :
    Local e.value.Follows fun path => headerDraft ctx path e := by
  obtain ⟨names, v⟩ := e
  unfold headerDraft
  cases v with
  | struct fs =>
    refine local_bind (local_lift _) fun _ => local_bind (local_headerImports ctx fs) fun _ => ?_
    exact local_ite (local_map _ (local_lift _)) (local_pure _)
  | _ => exact local_invalid _

theorem local_header (e : Element) : Local e.value.Follows fun path => header ctx path e :=
  local_bind (local_headerDraft ctx e) fun _ => local_lift _

end

/-! ## Items -/

theorem local_markerItem (d : Dialect) (p : Progress) (marker : String) (v : Value) :
    Local v.Follows fun path => markerItem d p path marker := by
  unfold markerItem
  refine local_ite ?_ (local_map _ (local_report _ _ (.here v)))
  cases IslVersion.ofMarker? marker with
  | some version => exact local_pure _
  | none => exact local_map _ (local_report _ _ (.here v))

theorem local_headerItem (p : Progress) (e : Element) :
    Local e.value.Follows fun path => headerItem p path e := by
  unfold headerItem
  refine local_bind (local_catching _ (local_headerDraft _ e) (.here _)) fun draft => ?_
  cases draft with
  | none => exact local_pure _
  | some draft => exact local_map _ (local_catching _ (local_lift _) (.here _))

theorem local_bodyItem (p : Progress) (e : Element) :
    Local e.value.Follows fun path => bodyItem p path e := by
  unfold bodyItem
  refine local_ite (local_ite ?_ ?_) (local_ite ?_ (local_ite ?_ (local_ite ?_ (local_pure _))))
  · exact local_map _ (local_headerItem p e)
  · exact local_map _ (local_report _ _ (.here _))
  · exact local_map _ (local_catching _ (local_namedType _ e) (.here _))
  · exact local_map _ (local_catching _ (local_lift _) (.here _))
  · exact local_map _ (local_report _ _ (.here _))

theorem local_item (d : Dialect) (p : Progress) (e : Element) :
    Local e.value.Follows fun path => item d p path e := by
  unfold item
  refine local_ite (local_markerItem d p _ _) ?_
  cases p.place with
  | beforeMarker => exact local_pure _
  | afterFooter => exact local_map _ (local_report _ _ (.here _))
  | _ => exact local_bodyItem p e

/-! ## Every read is steady -/

section
variable (ctx : Context) (path : TreePath)

theorem steady_typeArgument (names : List String) (v : Value) :
    Steady (typeArgument ctx path names v) :=
  (local_typeArgument ctx names v).steady path

theorem steady_definitionParts (fs : List Field) : Steady (definitionParts ctx path fs) :=
  (local_definitionParts ctx fs).steady path

theorem steady_constraintOf (name : String) (e : Element) :
    Steady (constraintOf ctx path name e) :=
  (local_constraintOf ctx name e).steady path

theorem steady_argumentsFrom (i : Nat) (es : List Element) :
    Steady (argumentsFrom ctx path i es) :=
  (local_argumentsFrom ctx i es).steady path

theorem steady_fieldArgumentsFrom (fs : List Field) : Steady (fieldArgumentsFrom ctx path fs) :=
  (local_fieldArgumentsFrom ctx fs).steady path

theorem steady_orderedElementsFrom (i : Nat) (es : List Element) :
    Steady (orderedElementsFrom ctx path i es) :=
  (local_orderedElementsFrom ctx i es).steady path

theorem steady_typeDefinition (fs : List Field) : Steady (typeDefinition ctx path fs) :=
  (local_typeDefinition ctx fs).steady path

theorem steady_importsFrom (i : Nat) (es : List Element) : Steady (importsFrom ctx path i es) :=
  (local_importsFrom ctx i es).steady path

theorem steady_headerImports (fs : List Field) : Steady (headerImports ctx path fs) :=
  (local_headerImports ctx fs).steady path

end

theorem steady_item (d : Dialect) (p : Progress) (path : TreePath) (e : Element) :
    Steady (item d p path e) :=
  (local_item d p e).steady path

end Reader
end Isl
