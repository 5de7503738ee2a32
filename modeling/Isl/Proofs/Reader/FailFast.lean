import Isl.Proofs.Reader.Document
/-!
# Reads that fail fast

A read that fails fast goes the same way as one that puts every fault on record, as long as nothing
is on record. At the first error it ends, through all the steps around it, with that error alone.

* `Foreruns`: a step that fails fast beside the same step with every fault on record;
* `foreruns_bind`, `foreruns_catching`: sequences and steps of their own keep to it;
* `SchemaReader.failFast_first`: what the two settings give for whole documents and single values.
-/
namespace Isl.Reader

/-! ## Two runs of a step -/

section
variable {α β γ δ : Type} {R : α → β → Prop} {S : γ → δ → Prop}

/-- How a step ends that fails fast, and how it ends with every fault on record, if nothing was on
record before. -/
inductive Ends (R : α → β → Prop) :
    EStateM.Result Halt (List ReadError) α → EStateM.Result Halt (List ReadError) β → Prop where
  | value {a : α} {b : β} (alike : R a b) : Ends R (.ok a []) (.ok b [])
  | invalid (fault : ReadFault) : Ends R (.error (.invalid fault) []) (.error (.invalid fault) [])
  | stopped {a : α} {b : β} (alike : R a b) (first : ReadError) (later : List ReadError) :
      Ends R (.error .abort [first]) (.ok b (first :: later))
  | stoppedInvalid (fault : ReadFault) (first : ReadError) (later : List ReadError) :
      Ends R (.error .abort [first]) (.error (.invalid fault) (first :: later))

/-- What goes on behind a first error adds to the record and never aborts. -/
theorem Ends.behind {o : EStateM.Result Halt (List ReadError) α}
    {o' : EStateM.Result Halt (List ReadError) β} (h : Ends R o o') (first : ReadError)
    (later : List ReadError) :
    Ends R (.error .abort [first]) (Reader.behind (first :: later) o') := by
  cases h with
  | value alike | stopped alike _ _ => exact .stopped alike first _
  | invalid fault | stoppedInvalid fault _ _ => exact .stoppedInvalid fault first _

theorem Ends.reached {o : EStateM.Result Halt (List ReadError) α} {b : β} {es : List ReadError}
    (h : Ends R o (.ok b es)) : ∃ a, R a b := by
  cases h with
  | value alike | stopped alike _ _ => exact ⟨_, alike⟩

/-- A step that fails fast beside the same step with every fault on record. -/
structure Foreruns (R : α → β → Prop) (fast : Read α) (full : Read β) : Prop where
  steady : Steady full
  ends : Ends R (fast []) (full [])

theorem foreruns_pure {a : α} {b : β} (alike : R a b) : Foreruns R (pure a) (pure b) :=
  ⟨steady_pure b, .value alike⟩

theorem foreruns_invalid (fault : ReadFault) : Foreruns R (invalid fault) (invalid fault) :=
  ⟨steady_invalid fault, .invalid fault⟩

theorem foreruns_lift (check : Check α) : Foreruns Eq (lift check) (lift check) := by
  cases check with
  | ok a => exact foreruns_pure rfl
  | error fault => exact foreruns_invalid fault

/-- Only the values that a steady step can give have to go on steadily. -/
theorem steady_bind_reached {r : Read α} {f : α → Read β} (hr : Steady r)
    (hf : ∀ a es, r [] = .ok a es → Steady (f a)) : Steady (r >>= f) := by
  intro errors
  rw [bind_apply, bind_apply, hr errors]
  cases given : r [] with
  | ok a es =>
    have later := hf a es given
    change f a (errors ++ es) = behind errors (f a es)
    rw [later (errors ++ es), later es, behind_behind]
  | error h es => rfl

theorem foreruns_bind {fast : Read α} {full : Read β} {f : α → Read γ} {g : β → Read δ}
    (first : Foreruns R fast full) (rest : ∀ a b, R a b → Foreruns S (f a) (g b)) :
    Foreruns S (fast >>= f) (full >>= g) := by
  refine ⟨steady_bind_reached first.steady ?_, ?_⟩
  · intro b es given
    have ends := first.ends
    rw [given] at ends
    obtain ⟨a, alike⟩ := ends.reached
    exact (rest a b alike).steady
  · rw [bind_apply, bind_apply]
    have ends := first.ends
    generalize fast [] = o, full [] = o' at ends
    cases ends with
    | value alike => exact (rest _ _ alike).ends
    | invalid fault => exact .invalid fault
    | stopped alike error later =>
      dsimp only
      rw [(rest _ _ alike).steady]
      exact (rest _ _ alike).ends.behind error later
    | stoppedInvalid fault error later => exact .stoppedInvalid fault error later

theorem foreruns_ite {c : Prop} [Decidable c] {fast other : Read α} {full other' : Read β}
    (pos : Foreruns R fast full) (neg : Foreruns R other other') :
    Foreruns R (if c then fast else other) (if c then full else other') := by
  split
  · exact pos
  · exact neg

/-- Steps with values of their own go on alike. -/
theorem foreruns_then {fast full : Read α} {f : α → Read γ} {g : α → Read δ}
    (first : Foreruns Eq fast full) (rest : ∀ a, Foreruns S (f a) (g a)) :
    Foreruns S (fast >>= f) (full >>= g) :=
  foreruns_bind first fun a _ same => same ▸ rest a

theorem foreruns_map {fast full : Read α} (first : Foreruns Eq fast full) (f : α → γ) :
    Foreruns Eq (fast >>= fun a => pure (f a)) (full >>= fun a => pure (f a)) :=
  foreruns_then first fun _ => foreruns_pure rfl

end

/-! ## Steps that look at the setting -/

/-- The same context with a read that fails fast, or does not. -/
def Context.failing (ctx : Context) (failFast : Bool) : Context := { ctx with failFast := failFast }

section
variable (ctx : Context)

@[simp] theorem Context.version_failing (failFast : Bool) :
    (ctx.failing failFast).version = ctx.version := rfl

theorem foreruns_report (path : TreePath) (fault : ReadFault) :
    Foreruns Eq (report (ctx.failing true) path fault) (report (ctx.failing false) path fault) :=
  ⟨steady_report _ path fault, .stopped rfl ⟨path, fault⟩ []⟩

/-- A fault that is put on record at the boundary ends a read that fails fast; one that was put on
record before has ended it already. -/
theorem foreruns_catching {α : Type} (path : TreePath) {fast full : Read α}
    (step : Foreruns Eq fast full) :
    Foreruns Eq (catching (ctx.failing true) path fast)
      (catching (ctx.failing false) path full) := by
  refine ⟨steady_catching _ path step.steady, ?_⟩
  rw [catching_apply, catching_apply]
  have ends := step.ends
  generalize fast [] = o, full [] = o' at ends
  cases ends with
  | value alike => exact .value (congrArg some alike)
  | invalid fault => exact .stopped rfl ⟨path, fault⟩ []
  | stopped alike first later => exact .stopped (congrArg some alike) first later
  | stoppedInvalid fault first later => exact .stopped rfl first (later ++ [⟨path, fault⟩])

end

/-! ## Types -/

mutual

theorem foreruns_typeArgument (ctx : Context) (path : TreePath) (names : List String) (v : Value) :
    Foreruns Eq (typeArgument (ctx.failing true) path names v)
      (typeArgument (ctx.failing false) path names v) := by
  cases v with
  | struct fs =>
    rw [typeArgument, typeArgument]
    refine foreruns_then (foreruns_lift _) fun _ => foreruns_ite (foreruns_lift _) ?_
    refine foreruns_then (foreruns_lift _) fun _ => foreruns_then (foreruns_lift _) fun _ => ?_
    exact foreruns_map (foreruns_definitionParts ctx path fs) _
  | _ =>
    rw [typeArgument, typeArgument]
    · refine foreruns_then (foreruns_lift _) fun _ => ?_
      split
      · exact foreruns_pure rfl
      · exact foreruns_invalid _
    · simp
    · simp

theorem foreruns_definitionParts (ctx : Context) (path : TreePath) (fs : List Field) :
    Foreruns Eq (definitionParts (ctx.failing true) path fs)
      (definitionParts (ctx.failing false) path fs) := by
  cases fs with
  | nil =>
    rw [definitionParts, definitionParts]
    exact foreruns_pure rfl
  | cons f fs =>
    rw [definitionParts, definitionParts]
    refine foreruns_then (foreruns_definitionField ctx path f) fun _ => ?_
    exact foreruns_map (foreruns_definitionParts ctx path fs) _

theorem foreruns_definitionField (ctx : Context) (path : TreePath) (f : Field) :
    Foreruns Eq (definitionField (ctx.failing true) path f)
      (definitionField (ctx.failing false) path f) := by
  cases f with
  | mk name e =>
    rw [definitionField, definitionField]
    refine foreruns_ite (foreruns_pure rfl) (foreruns_ite ?_ (foreruns_ite ?_ (foreruns_ite ?_ ?_)))
    · exact foreruns_map (foreruns_catching ctx _ (foreruns_lift _)) _
    · exact foreruns_map (foreruns_catching ctx _ (foreruns_constraintOf ctx _ name e)) _
    · exact foreruns_map (foreruns_report ctx _ _) _
    · exact foreruns_pure rfl

theorem foreruns_constraintOf (ctx : Context) (path : TreePath) (name : String) (e : Element) :
    Foreruns Eq (constraintOf (ctx.failing true) path name e)
      (constraintOf (ctx.failing false) path name e) := by
  cases e with
  | mk names v =>
    rw [constraintOf.eq_def, constraintOf.eq_def]
    dsimp only [Context.version_failing]
    cases leaf? ctx.version name with
    | some read => exact foreruns_lift _
    | none =>
      dsimp only
      split
      · exact foreruns_map (foreruns_listedArguments ctx path _ names v) _
      · exact foreruns_map (foreruns_listedArguments ctx path _ names v) _
      · exact foreruns_map (foreruns_listedArguments ctx path _ names v) _
      · exact foreruns_map (foreruns_typeArgument ctx path names v) _
      · exact foreruns_map (foreruns_typeArgument ctx path names v) _
      · refine foreruns_then (foreruns_lift _) fun _ => ?_
        exact foreruns_map (foreruns_typeArgument ctx path _ v) _
      · refine foreruns_then (foreruns_lift _) fun _ => ?_
        exact foreruns_map (foreruns_typeArgument ctx path _ v) _
      · exact foreruns_map (foreruns_fieldArguments ctx path names v) _
      · exact foreruns_map (foreruns_orderedElements ctx path names v) _
      · split
        · exact foreruns_lift _
        · exact foreruns_lift _
        · exact foreruns_map (foreruns_typeArgument ctx path names v) _
        · exact foreruns_map (foreruns_typeArgument ctx path names v) _
        · exact foreruns_lift _
      · exact foreruns_invalid _

theorem foreruns_listedArguments (ctx : Context) (path : TreePath) (name : String)
    (names : List String) (v : Value) :
    Foreruns Eq (listedArguments (ctx.failing true) path name names v)
      (listedArguments (ctx.failing false) path name names v) := by
  cases v with
  | list items =>
    rw [listedArguments, listedArguments]
    exact foreruns_then (foreruns_lift _) fun _ => foreruns_argumentsFrom ctx path 0 items
  | _ =>
    rw [listedArguments, listedArguments]
    · exact foreruns_lift _
    · simp
    · simp

theorem foreruns_argumentsFrom (ctx : Context) (path : TreePath) (i : Nat) (es : List Element) :
    Foreruns Eq (argumentsFrom (ctx.failing true) path i es)
      (argumentsFrom (ctx.failing false) path i es) := by
  cases es with
  | nil =>
    rw [argumentsFrom, argumentsFrom]
    exact foreruns_pure rfl
  | cons e es =>
    cases e with
    | mk names v =>
      rw [argumentsFrom, argumentsFrom]
      have first := foreruns_typeArgument ctx (path.index i) names v
      refine foreruns_then (foreruns_catching ctx _ first) fun _ => ?_
      exact foreruns_map (foreruns_argumentsFrom ctx path (i + 1) es) _

theorem foreruns_fieldArguments (ctx : Context) (path : TreePath) (names : List String)
    (v : Value) :
    Foreruns Eq (fieldArguments (ctx.failing true) path names v)
      (fieldArguments (ctx.failing false) path names v) := by
  cases v with
  | struct fs =>
    rw [fieldArguments, fieldArguments]
    exact foreruns_then (foreruns_lift _) fun _ => foreruns_fieldArgumentsFrom ctx path fs
  | _ =>
    rw [fieldArguments, fieldArguments]
    · exact foreruns_lift _
    · simp
    · simp

theorem foreruns_fieldArgumentsFrom (ctx : Context) (path : TreePath) (fs : List Field) :
    Foreruns Eq (fieldArgumentsFrom (ctx.failing true) path fs)
      (fieldArgumentsFrom (ctx.failing false) path fs) := by
  cases fs with
  | nil =>
    rw [fieldArgumentsFrom, fieldArgumentsFrom]
    exact foreruns_pure rfl
  | cons f fs =>
    cases f with
    | mk name e =>
      rw [fieldArgumentsFrom, fieldArgumentsFrom]
      have first := foreruns_occurringArgument ctx (path.field name) .optional e
      refine foreruns_then (foreruns_catching ctx _ first) fun _ => ?_
      exact foreruns_map (foreruns_fieldArgumentsFrom ctx path fs) _

theorem foreruns_orderedElements (ctx : Context) (path : TreePath) (names : List String)
    (v : Value) :
    Foreruns Eq (orderedElements (ctx.failing true) path names v)
      (orderedElements (ctx.failing false) path names v) := by
  cases v with
  | list items =>
    rw [orderedElements, orderedElements]
    exact foreruns_then (foreruns_lift _) fun _ => foreruns_orderedElementsFrom ctx path 0 items
  | _ =>
    rw [orderedElements, orderedElements]
    · exact foreruns_lift _
    · simp
    · simp

theorem foreruns_orderedElementsFrom (ctx : Context) (path : TreePath) (i : Nat)
    (es : List Element) :
    Foreruns Eq (orderedElementsFrom (ctx.failing true) path i es)
      (orderedElementsFrom (ctx.failing false) path i es) := by
  cases es with
  | nil =>
    rw [orderedElementsFrom, orderedElementsFrom]
    exact foreruns_pure rfl
  | cons e es =>
    rw [orderedElementsFrom, orderedElementsFrom]
    have first := foreruns_occurringArgument ctx (path.index i) .required e
    refine foreruns_then (foreruns_catching ctx _ first) fun _ => ?_
    exact foreruns_map (foreruns_orderedElementsFrom ctx path (i + 1) es) _

theorem foreruns_occurringArgument (ctx : Context) (path : TreePath) (byDefault : IntRange)
    (e : Element) :
    Foreruns Eq (occurringArgument (ctx.failing true) path byDefault e)
      (occurringArgument (ctx.failing false) path byDefault e) := by
  cases e with
  | mk names v =>
    rw [occurringArgument, occurringArgument]
    refine foreruns_ite (foreruns_occurringDefinition ctx path names v) ?_
    exact foreruns_map (foreruns_typeArgument ctx path names v) _

theorem foreruns_occurringDefinition (ctx : Context) (path : TreePath) (names : List String)
    (v : Value) :
    Foreruns Eq (occurringDefinition (ctx.failing true) path names v)
      (occurringDefinition (ctx.failing false) path names v) := by
  cases v with
  | struct fs =>
    rw [occurringDefinition, occurringDefinition]
    refine foreruns_then (foreruns_lift _) fun _ => ?_
    exact foreruns_map (foreruns_definitionParts ctx path fs) _
  | _ =>
    rw [occurringDefinition, occurringDefinition]
    · exact foreruns_invalid _
    · simp
    · simp

end

theorem foreruns_typeDefinition (ctx : Context) (path : TreePath) (fs : List Field) :
    Foreruns Eq (typeDefinition (ctx.failing true) path fs)
      (typeDefinition (ctx.failing false) path fs) :=
  foreruns_map (foreruns_definitionParts ctx path fs) _

theorem foreruns_namedType (ctx : Context) (path : TreePath) (e : Element) :
    Foreruns Eq (namedType (ctx.failing true) path e) (namedType (ctx.failing false) path e) := by
  unfold namedType
  cases e.struct? with
  | none => exact foreruns_invalid _
  | some fs =>
    refine foreruns_then (foreruns_lift _) fun _ => foreruns_then (foreruns_lift _) fun _ => ?_
    refine foreruns_then (foreruns_lift _) fun _ => ?_
    exact foreruns_map (foreruns_typeDefinition ctx path fs) _

theorem foreruns_anonymousType (ctx : Context) (path : TreePath) (e : Element) :
    Foreruns Eq (anonymousType (ctx.failing true) path e)
      (anonymousType (ctx.failing false) path e) := by
  unfold anonymousType
  cases e.struct? with
  | none => exact foreruns_invalid _
  | some fs =>
    refine foreruns_then (foreruns_lift _) fun _ => foreruns_then (foreruns_lift _) fun _ => ?_
    exact foreruns_typeDefinition ctx path fs

/-! ## Headers -/

theorem foreruns_importsFrom (ctx : Context) (path : TreePath) (i : Nat) (es : List Element) :
    Foreruns Eq (importsFrom (ctx.failing true) path i es)
      (importsFrom (ctx.failing false) path i es) := by
  induction es generalizing i with
  | nil => exact foreruns_pure rfl
  | cons e es ih =>
    rw [importsFrom, importsFrom]
    refine foreruns_then (foreruns_catching ctx _ (foreruns_lift _)) fun _ => ?_
    exact foreruns_map (ih (i + 1)) _

theorem foreruns_headerImports (ctx : Context) (path : TreePath) (fs : List Field) :
    Foreruns Eq (headerImports (ctx.failing true) path fs)
      (headerImports (ctx.failing false) path fs) := by
  refine foreruns_then (foreruns_lift _) fun list => ?_
  cases list with
  | none => exact foreruns_pure rfl
  | some e => exact foreruns_then (foreruns_lift _) fun _ => foreruns_importsFrom ctx _ 0 _

theorem foreruns_headerDraft (ctx : Context) (path : TreePath) (e : Element) :
    Foreruns Eq (headerDraft (ctx.failing true) path e)
      (headerDraft (ctx.failing false) path e) := by
  cases struct : e.struct? with
  | none =>
    unfold headerDraft
    rw [struct]
    exact foreruns_invalid _
  | some fs =>
    rw [headerDraft_struct struct, headerDraft_struct struct]
    refine foreruns_then (foreruns_lift _) fun _ => ?_
    refine foreruns_then (foreruns_headerImports ctx path fs) fun _ => ?_
    exact foreruns_map (foreruns_lift _) _

theorem foreruns_header (ctx : Context) (path : TreePath) (e : Element) :
    Foreruns Eq (header (ctx.failing true) path e) (header (ctx.failing false) path e) :=
  foreruns_then (foreruns_headerDraft ctx path e) fun _ => foreruns_lift _

/-! ## Documents -/

/-- The same point of a document, in a read that fails fast or does not. -/
def Progress.failing (p : Progress) (failFast : Bool) : Progress :=
  { p with context := p.context.failing failFast }

/-- Two reads of a document have come to the same point. -/
def Progress.Alike (p q : Progress) : Prop :=
  ∃ v : Progress, p = v.failing true ∧ q = v.failing false

theorem Progress.alike (p : Progress) : Progress.Alike (p.failing true) (p.failing false) :=
  ⟨p, rfl, rfl⟩

theorem foreruns_markerItem (d : Dialect) (p : Progress) (path : TreePath) (marker : String) :
    Foreruns Progress.Alike (markerItem d (p.failing true) path marker)
      (markerItem d (p.failing false) path marker) := by
  unfold markerItem
  refine foreruns_ite ?_ ?_
  · cases IslVersion.ofMarker? marker with
    | some version =>
      let ctx := { p.context with vocabulary := d.vocabulary version }
      exact foreruns_pure (Progress.alike { p with context := ctx, place := .beforeHeader })
    | none =>
      refine foreruns_then (foreruns_report p.context path _) fun _ => ?_
      exact foreruns_pure (Progress.alike { p with stopped := true })
  · exact foreruns_then (foreruns_report p.context path _) fun _ => foreruns_pure p.alike

theorem foreruns_headerItem (p : Progress) (path : TreePath) (e : Element) :
    Foreruns Progress.Alike (headerItem (p.failing true) path e)
      (headerItem (p.failing false) path e) := by
  have draft := foreruns_headerDraft p.context path e
  refine foreruns_then (foreruns_catching p.context path draft) fun draft => ?_
  cases draft with
  | none => exact foreruns_pure p.alike
  | some draft =>
    let ctx : Context := { p.context with declared := draft.reserved }
    refine foreruns_then (foreruns_catching ctx path (foreruns_lift _)) fun header => ?_
    exact foreruns_pure
      (Progress.alike (Progress.add { p with context := ctx } (header.toList.map .header)))

theorem foreruns_bodyItem (p : Progress) (path : TreePath) (e : Element) :
    Foreruns Progress.Alike (bodyItem (p.failing true) path e)
      (bodyItem (p.failing false) path e) := by
  unfold bodyItem
  refine foreruns_ite (foreruns_ite ?_ ?_) (foreruns_ite ?_ (foreruns_ite ?_ (foreruns_ite ?_ ?_)))
  · refine foreruns_bind (foreruns_headerItem p path e) ?_
    rintro _ _ ⟨v, rfl, rfl⟩
    exact foreruns_pure (Progress.alike { v with place := .types })
  · refine foreruns_then (foreruns_report p.context path _) fun _ => ?_
    exact foreruns_pure (Progress.alike { p with place := .types })
  · have type := foreruns_namedType p.context path e
    refine foreruns_then (foreruns_catching p.context path type) fun type => ?_
    exact foreruns_pure (Progress.alike { p.add (type.toList.map .type) with place := .types })
  · refine foreruns_then (foreruns_catching p.context path (foreruns_lift _)) fun footer => ?_
    exact foreruns_pure
      (Progress.alike { p.add (footer.toList.map .footer) with place := .afterFooter })
  · exact foreruns_then (foreruns_report p.context path _) fun _ => foreruns_pure p.alike
  · exact foreruns_pure (p.add [.openContent e]).alike

theorem foreruns_item (d : Dialect) (p : Progress) (path : TreePath) (e : Element) :
    Foreruns Progress.Alike (item d (p.failing true) path e) (item d (p.failing false) path e) := by
  unfold item
  refine foreruns_ite (foreruns_markerItem d p path _) ?_
  have place (failFast : Bool) : (p.failing failFast).place = p.place := rfl
  rw [place, place]
  cases p.place with
  | beforeMarker => exact foreruns_pure p.alike
  | afterFooter =>
    exact foreruns_then (foreruns_report p.context path _) fun _ => foreruns_pure p.alike
  | _ => exact foreruns_bodyItem p path e

theorem foreruns_itemsFrom (d : Dialect) (i : Nat) (p : Progress) (es : List Element) :
    Foreruns Progress.Alike (itemsFrom d i (p.failing true) es)
      (itemsFrom d i (p.failing false) es) := by
  induction es generalizing i p with
  | nil => exact foreruns_pure p.alike
  | cons e es ih =>
    rw [itemsFrom, itemsFrom]
    refine foreruns_bind (foreruns_item d p _ e) ?_
    rintro _ _ ⟨v, rfl, rfl⟩
    exact foreruns_ite (foreruns_pure v.alike) (ih (i + 1) v)

/-! ## Whole reads -/

/-- What a read that fails fast gives, beside what the same read gives with every fault on record:
the same value, or the first error alone. -/
def FirstOnly {α : Type} (fast full : Except (List ReadError) α) : Prop :=
  (∃ a, fast = .ok a ∧ full = .ok a) ∨
    ∃ first later, fast = .error [first] ∧ full = .error (first :: later)

theorem FirstOnly.ok_iff {α : Type} {fast full : Except (List ReadError) α}
    (h : FirstOnly fast full) {a : α} : fast = .ok a ↔ full = .ok a := by
  obtain ⟨b, rfl, rfl⟩ | ⟨first, later, rfl, rfl⟩ := h
  · exact .rfl
  · exact ⟨nofun, nofun⟩

theorem finish_foreruns {α β : Type} {R : α → β → Prop} {fast : Read α} {full : Read β}
    (h : Foreruns R fast full) (path : TreePath) :
    (∃ a b, R a b ∧ finish path fast = .ok a ∧ finish path full = .ok b) ∨
      ∃ first later, finish path fast = .error [first] ∧
        finish path full = .error (first :: later) := by
  have ends := h.ends
  unfold finish
  generalize fast [] = o, full [] = o' at ends
  cases ends with
  | value alike => exact .inl ⟨_, _, alike, rfl, rfl⟩
  | invalid fault => exact .inr ⟨⟨path, fault⟩, [], rfl, rfl⟩
  | stopped alike first later => exact .inr ⟨first, later, rfl, rfl⟩
  | stoppedInvalid fault first later => exact .inr ⟨first, later ++ [⟨path, fault⟩], rfl, rfl⟩

theorem firstOnly_finish {α : Type} {fast full : Read α} (h : Foreruns Eq fast full)
    (path : TreePath) : FirstOnly (finish path fast) (finish path full) := by
  obtain ⟨a, _, rfl, given, given'⟩ | failed := finish_foreruns h path
  · exact .inl ⟨a, given, given'⟩
  · exact .inr failed

theorem beginning_alike (d : Dialect) (values : List Element) :
    Progress.Alike (beginning d values true) (beginning d values false) := by
  unfold beginning
  split
  · exact ⟨⟨d.context .v2 false, .beforeMarker, [], false⟩, rfl, rfl⟩
  · exact ⟨⟨d.context .v1 false, .beforeHeader, [], false⟩, rfl, rfl⟩

theorem firstOnly_document (d : Dialect) (values : List Element) :
    FirstOnly (document d values true) (document d values false) := by
  obtain ⟨p, fast, full⟩ := beginning_alike d values
  unfold document
  rw [fast, full]
  obtain ⟨_, _, ⟨v, rfl, rfl⟩, given, given'⟩ | ⟨first, later, failed, failed'⟩ :=
    finish_foreruns (foreruns_itemsFrom d 0 p values) .root
  · rw [given, given']
    exact .inl ⟨_, rfl, rfl⟩
  · rw [failed, failed']
    exact .inr ⟨first, later, rfl, rfl⟩

/-- A document that reads is read either way. -/
theorem document_again {d : Dialect} {values : List Element} {failFast : Bool}
    {doc : SchemaDocument} (h : document d values failFast = .ok doc) (again : Bool) :
    document d values again = .ok doc := by
  have either := (firstOnly_document d values).ok_iff (a := doc)
  cases failFast <;> cases again
  · exact h
  · exact either.2 h
  · exact either.1 h
  · exact h

end Isl.Reader

namespace Isl.SchemaReader

open Reader

/-- Whatever words are reserved, and in either version: a read that fails fast succeeds exactly when
the read that puts every fault on record does, with the same document, type, header or footer. When
it fails, it fails with one error, the first of those that the other read puts on record. -/
theorem failFast_first (r : SchemaReader) :
    (∀ values, FirstOnly (r.readSchema values true) (r.readSchema values false)) ∧
      ∀ e, FirstOnly (r.readType e true) (r.readType e false) ∧
        FirstOnly (r.readNamedType e true) (r.readNamedType e false) ∧
        FirstOnly (r.readHeader e true) (r.readHeader e false) ∧
        FirstOnly (r.readFooter e true) (r.readFooter e false) := by
  refine ⟨firstOnly_document r.dialect, fun e => ⟨?_, ?_, ?_, ?_⟩⟩
  · exact firstOnly_finish (foreruns_anonymousType (r.context false) .root e) .root
  · exact firstOnly_finish (foreruns_namedType (r.context false) .root e) .root
  · exact firstOnly_finish (foreruns_header (r.context false) .root e) .root
  · exact firstOnly_finish (foreruns_lift _) .root

end Isl.SchemaReader
