import Isl.Proofs.Reader.Agree
import Isl.Proofs.Reader.Forms
import Isl.Proofs.Reader.Type
/-!
# Types whatever the order of their fields

In version 2.0 equal values are read alike: a step accepts both, with equal results, or neither.
Fields in another order make the same constraints and open content in another order, which are
compared as bags, and the arguments of `fields` are sorted by distinct names.

* `Concur`: two reads that accept alike;
* `readsAlike`: equal values as type arguments, with or without `occurs`, and under constraints;
* `concur_definitionParts`: definitions with equal fields.
-/
namespace Isl.Reader

/-! ## Reads that accept alike -/

section
variable {α β γ δ : Type} {R : α → β → Prop} {S : γ → δ → Prop}

theorem Agree.toOption {c : Check α} {d : Check β} (h : Agree R c d) :
    Option.Rel R c.toOption d.toOption := by
  cases h with
  | ok alike => exact .some alike
  | error fault fault' => exact .none

theorem rel_self {R : α → α → Prop} (refl : ∀ a, R a a) (o : Option α) : Option.Rel R o o := by
  cases o with
  | some a => exact .some (refl a)
  | none => exact .none

theorem rel_bind {o : Option α} {o' : Option β} {f : α → Option γ} {g : β → Option δ}
    (first : Option.Rel R o o') (rest : ∀ a b, R a b → Option.Rel S (f a) (g b)) :
    Option.Rel S (o.bind f) (o'.bind g) := by
  cases first with
  | some alike => exact rest _ _ alike
  | none => exact .none

theorem rel_map {o : Option α} {o' : Option β} {f : α → γ} {g : β → δ} (h : Option.Rel R o o')
    (keeps : ∀ a b, R a b → S (f a) (g b)) : Option.Rel S (o.map f) (o'.map g) := by
  cases h with
  | some alike => exact .some (keeps _ _ alike)
  | none => exact .none

theorem rel_ite {b c : Bool} (same : b = c) {o : Option α} {o' : Option β}
    (h : Option.Rel R o o') :
    Option.Rel R (if b then o else none) (if c then o' else none) := by
  subst same
  cases b with
  | true => exact h
  | false => exact .none

theorem mapM_option_cons (f : α → Option β) (a : α) (as : List α) :
    (a :: as).mapM f = (f a).bind fun b => (as.mapM f).map (b :: ·) := by
  rw [List.mapM_cons]
  cases f a with
  | none => rfl
  | some b => cases as.mapM f <;> rfl

theorem mapM_perm {as bs : List α} (perm : as.Perm bs) (f : α → Option β) :
    Option.Rel List.Perm (as.mapM f) (bs.mapM f) := by
  induction perm with
  | nil => exact .some .nil
  | cons a _ ih =>
    rw [mapM_option_cons, mapM_option_cons]
    cases f a with
    | none => exact .none
    | some b => exact rel_map ih fun _ _ rest => rest.cons b
  | swap a b as =>
    simp only [mapM_option_cons]
    cases f a with
    | none => cases f b <;> exact .none
    | some c =>
      cases f b with
      | none => exact .none
      | some d =>
        cases as.mapM f with
        | none => exact .none
        | some cs => exact .some (.swap c d cs)
  | @trans as bs cs _ _ ih ih' =>
    generalize as.mapM f = o, bs.mapM f = o', cs.mapM f = o'' at ih ih'
    cases ih with
    | none => exact ih'
    | some perm => cases ih' with | some perm' => exact .some (perm.trans perm')

/-- Steps that accept alike, item by item, give the same results in another order. -/
theorem rel_mapM {as : List α} {bs : List β} {f : α → Option γ} {g : β → Option δ}
    (h : Rearranged R as bs) (step : ∀ a b, R a b → Option.Rel S (f a) (g b)) :
    Option.Rel (Rearranged S) (as.mapM f) (bs.mapM g) := by
  obtain ⟨cs, each, perm⟩ := h
  have itemwise : Option.Rel (List.Forall₂ S) (as.mapM f) (cs.mapM g) := by
    clear perm
    induction each with
    | nil => exact .some .nil
    | cons first _ ih =>
      rw [mapM_option_cons, mapM_option_cons]
      exact rel_bind (step _ _ first) fun _ _ head => rel_map ih fun _ _ tail => .cons head tail
  have moved := mapM_perm perm g
  generalize as.mapM f = o, cs.mapM g = o', bs.mapM g = o'' at itemwise moved
  cases itemwise with
  | none => cases moved; exact .none
  | some each => cases moved with | some perm => exact .some ⟨_, each, perm⟩

/-- Two reads that both accept, with results that go together, or both do not. -/
def Concur (R : α → β → Prop) (r : Read α) (s : Read β) : Prop :=
  Option.Rel R (accepted? r) (accepted? s)

theorem concur_pure {a : α} {b : β} (h : R a b) : Concur R (pure a) (pure b) := .some h

theorem concur_invalid (fault fault' : ReadFault) : Concur R (invalid fault) (invalid fault') :=
  .none

theorem concur_lift {c : Check α} {d : Check β} (h : Agree R c d) :
    Concur R (lift c) (lift d) := by
  rw [Concur, accepted?_lift, accepted?_lift]
  exact h.toOption

theorem concur_lift_bind {c : Check α} {d : Check β} {f : α → Read γ} {g : β → Read δ}
    (first : Agree R c d) (steady : ∀ a, Steady (f a)) (steady' : ∀ b, Steady (g b))
    (rest : ∀ a b, R a b → Concur S (f a) (g b)) : Concur S (lift c >>= f) (lift d >>= g) := by
  rw [Concur, accepted?_lift_bind steady, accepted?_lift_bind steady']
  exact rel_bind first.toOption rest

theorem concur_map {r : Read α} {s : Read β} {f : α → γ} {g : β → δ} (h : Concur R r s)
    (keeps : ∀ a b, R a b → S (f a) (g b)) :
    Concur S (r >>= fun a => pure (f a)) (s >>= fun b => pure (g b)) := by
  rw [Concur, accepted?_bind_pure, accepted?_bind_pure]
  exact rel_map h keeps

theorem concur_ite {b : Bool} {r r' : Read α} {s s' : Read β} (pos : Concur R r s)
    (neg : Concur R r' s') : Concur R (if b then r else r') (if b then s else s') := by
  cases b with
  | true => exact pos
  | false => exact neg

theorem concur_catching {r : Read α} {s : Read β} (h : Concur R r s) (ctx : Context)
    (path : TreePath) : Concur (Option.Rel R) (catching ctx path r) (catching ctx path s) := by
  rw [Concur, accepted?_catching, accepted?_catching]
  exact rel_map h fun _ _ alike => .some alike

theorem finish_eq_error {r : Read α} (none : accepted? r = none) (path : TreePath) :
    ∃ errors, finish path r = .error errors := by
  cases given : finish path r with
  | error errors => exact ⟨errors, rfl⟩
  | ok a =>
    rw [(finish_eq_ok_iff _ _ _).1 given] at none
    cases none

/-- Whole reads that accept alike give results that go together, or errors. -/
theorem concur_finish {r : Read α} {s : Read β} (h : Concur R r s) (path path' : TreePath) :
    (∃ a b, finish path r = .ok a ∧ finish path' s = .ok b ∧ R a b) ∨
      ∃ errors errors', finish path r = .error errors ∧ finish path' s = .error errors' := by
  unfold Concur at h
  match own : accepted? r, own' : accepted? s, h with
  | some a, some b, .some alike =>
    exact .inl ⟨a, b, (finish_eq_ok_iff _ _ _).2 own, (finish_eq_ok_iff _ _ _).2 own', alike⟩
  | none, none, .none =>
    obtain ⟨errors, failed⟩ := finish_eq_error own path
    obtain ⟨errors', failed'⟩ := finish_eq_error own' path'
    exact .inr ⟨errors, errors', failed, failed'⟩

end

/-! ## Definitions -/

/-- Parts with the same constraints and open content, in any order. -/
structure Parts.Alike (p q : Parts) : Prop where
  constraints : Rearranged (fun c d => c.same d = true) p.constraints q.constraints
  openContent : Rearranged (fun f g => f.same g = true) p.openContent q.openContent
  left : p.contentClosed = false
  right : q.contentClosed = false

theorem Parts.Alike.definition {p q : Parts} (h : p.Alike q) :
    p.definition.same q.definition = true := by
  rw [TypeDefinition.same_eq, Parts.definition, Parts.definition, h.left, h.right,
    Bool.and_eq_true]
  exact ⟨h.constraints.sameItems Constraint.same_self Constraint.isClass,
    h.openContent.sameItems Field.same_self Field.isClass⟩

/-- All parts together. -/
def Parts.all (ps : List Parts) : Parts :=
  ⟨ps.flatMap (·.constraints), ps.flatMap (·.openContent), ps.any (·.contentClosed)⟩

theorem Parts.alike_all {ps qs : List Parts} (h : Rearranged Parts.Alike ps qs) :
    (Parts.all ps).Alike (Parts.all qs) := by
  obtain ⟨left, right⟩ := h.forall_mem fun _ _ alike => ⟨alike.left, alike.right⟩
  refine ⟨h.flatMap fun _ _ => (·.constraints), h.flatMap fun _ _ => (·.openContent), ?_, ?_⟩
  · exact List.any_eq_false.2 fun p mem => by simp [left p mem]
  · exact List.any_eq_false.2 fun q mem => by simp [right q mem]

theorem accepted?_definitionParts (ctx : Context) (path : TreePath) (fs : List Field) :
    accepted? (definitionParts ctx path fs) =
      (fs.mapM fun f => accepted? (definitionField ctx path f)).map Parts.all := by
  induction fs with
  | nil => rw [accepted?_definitionParts_nil]; rfl
  | cons f fs ih =>
    rw [accepted?_definitionParts_cons, ih, mapM_option_cons]
    cases accepted? (definitionField ctx path f) with
    | none => rfl
    | some p => cases fs.mapM fun f => accepted? (definitionField ctx path f) <;> rfl

/-! ## Equal elements -/

/-- Elements that are read alike wherever a type may stand, and under every constraint. -/
structure ReadsAlike (ctx : Context) (e e' : Element) : Prop where
  argument : ∀ path names, Concur (fun a b => a.same b = true)
    (typeArgument ctx path names e.value) (typeArgument ctx path names e'.value)
  occurring : ∀ path byDefault, Concur (fun o p => o.same p = true)
    (occurringArgument ctx path byDefault e) (occurringArgument ctx path byDefault e')
  constraint : ∀ path name, Concur (fun c d => c.same d = true)
    (constraintOf ctx path name e) (constraintOf ctx path name e')

/-- Equal items, read alike one by one. -/
abbrev ItemsAlike (ctx : Context) : List Element → List Element → Prop :=
  List.Forall₂ fun a b => a.same b = true ∧ ReadsAlike ctx a b

/-- Equal fields in any order, their values read alike. -/
abbrev FieldsAlike (ctx : Context) : List Field → List Field → Prop :=
  Rearranged fun f g => f.same g = true ∧ ReadsAlike ctx f.value g.value

theorem FieldsAlike.same {ctx : Context} {fs gs : List Field} (h : FieldsAlike ctx fs gs) :
    Rearranged (fun f g => f.same g = true) fs gs := h.imp fun _ _ => And.left

section
variable {ctx : Context} (v2 : ctx.version = .v2)
include v2

theorem concur_definitionField {f g : Field} (same : f.same g = true)
    (alike : ReadsAlike ctx f.value g.value) (path : TreePath) :
    Concur Parts.Alike (definitionField ctx path f) (definitionField ctx path g) := by
  obtain ⟨name, e⟩ := f
  obtain ⟨name', e'⟩ := g
  obtain ⟨rfl, values⟩ : name = name' ∧ e.same e' = true := Field.same_iff.1 same
  -- only version 1.0 closes content, and there it matters which `fields` comes first
  have noContent : (name == "content" && ctx.version == .v1) = false := by rw [v2]; simp
  have nothing : Parts.empty.Alike Parts.empty :=
    ⟨⟨[], .nil, .refl _⟩, ⟨[], .nil, .refl _⟩, rfl, rfl⟩
  rw [definitionField, definitionField]
  simp only [noContent, Bool.false_eq_true, if_false]
  refine concur_ite (concur_pure nothing) (concur_ite ?_ (concur_ite ?_ (concur_pure ?_)))
  · refine concur_map (concur_catching (alike.constraint (path.field name) name) ctx _) ?_
    intro found found' both
    cases both with
    | none => exact nothing
    | some constraint =>
      exact ⟨⟨[_], .cons constraint .nil, .refl _⟩, nothing.openContent, rfl, rfl⟩
  · rw [Concur, accepted?_bind_pure, accepted?_report]
    exact .none
  · exact ⟨nothing.constraints, ⟨[_], .cons same .nil, .refl _⟩, rfl, rfl⟩

theorem concur_parts {fs gs : List Field} (fields : FieldsAlike ctx fs gs) (path : TreePath) :
    Concur Parts.Alike (definitionParts ctx path fs) (definitionParts ctx path gs) := by
  rw [Concur, accepted?_definitionParts, accepted?_definitionParts]
  refine rel_map (rel_mapM fields fun f g both => ?_) fun _ _ => Parts.alike_all
  exact concur_definitionField v2 both.1 both.2 path

variable {e e' : Element} (h : e.same e' = true)
include h

theorem concur_typeArgument
    (fields : Option.Rel (FieldsAlike ctx) e.struct? e'.struct?) (path : TreePath)
    (names : List String) :
    Concur (fun a b => a.same b = true) (typeArgument ctx path names e.value)
      (typeArgument ctx path names e'.value) := by
  have alike : Element.same ⟨names, e.value⟩ ⟨names, e'.value⟩ = true :=
    Element.same_iff.2 ⟨rfl, (Element.same_iff.1 h).2⟩
  match own : e.struct?, own' : e'.struct?, fields with
  | none, none, .none =>
    rw [Concur, accepted?_typeArgument_word (Element.struct?_eq_none_iff.1 own),
      accepted?_typeArgument_word (Element.struct?_eq_none_iff.1 own'), Element.symbol?_same alike,
      nullabilityOf_same alike, onlyAnnotated_same alike]
    exact rel_self TypeArgument.same_self _
  | some fs, some gs, .some fields =>
    rw [Element.struct?_eq_some_iff.1 own, Element.struct?_eq_some_iff.1 own'] at alike ⊢
    have equal := FieldsAlike.same fields
    rw [Concur, accepted?_typeArgument_struct, accepted?_typeArgument_struct,
      Field.has_same equal, Field.has_same equal, Field.has_same equal]
    refine rel_ite (onlyAnnotated_same alike _) ?_
    split
    · exact (agree_of_eq TypeArgument.same_self
        (agree_inlineImport equal alike ctx.version)).toOption
    · split
      · exact .none
      · refine rel_map (concur_parts v2 fields path) fun p q parts => ?_
        rw [TypeArgument.same, parts.definition, nullabilityOf_same alike]
        simp

theorem concur_occurringArgument
    (fields : Option.Rel (FieldsAlike ctx) e.struct? e'.struct?) (path : TreePath)
    (byDefault : IntRange) :
    Concur (fun o p => o.same p = true) (occurringArgument ctx path byDefault e)
      (occurringArgument ctx path byDefault e') := by
  have counts :
      Field.has (e.struct?.getD []) "occurs" = Field.has (e'.struct?.getD []) "occurs" := by
    generalize e.struct? = o, e'.struct? = o' at fields
    cases fields with
    | none => rfl
    | some fields => exact Field.has_same (FieldsAlike.same fields) _
  cases counted : Field.has (e.struct?.getD []) "occurs" with
  | false =>
    rw [Concur, accepted?_occurringArgument_plain ctx path byDefault counted,
      accepted?_occurringArgument_plain ctx path byDefault (counts ▸ counted),
      Element.annotations_same h]
    refine rel_map (concur_typeArgument v2 h fields path _) fun a b alike => ?_
    simp [OccurringArgument.same, alike]
  | true =>
    rw [counted] at counts
    obtain ⟨names, v⟩ := e
    obtain ⟨names', v'⟩ := e'
    match own : Element.struct? ⟨names, v⟩, own' : Element.struct? ⟨names', v'⟩, fields with
    | none, none, .none => rw [own] at counted; cases counted
    | some fs, some gs, .some each =>
      rw [own, Option.getD_some] at counted
      rw [own', Option.getD_some] at counts
      obtain rfl : v = .struct fs := Element.struct?_eq_some_iff.1 own
      obtain rfl : v' = .struct gs := Element.struct?_eq_some_iff.1 own'
      rw [Concur, accepted?_occurringArgument_struct ctx path byDefault counted,
        accepted?_occurringArgument_struct ctx path byDefault counts.symm]
      have occurs := agree_occursOf (FieldsAlike.same each) h
      refine rel_bind occurs.toOption fun n n' same => ?_
      refine rel_map (concur_parts v2 each path) fun p q parts => ?_
      simp [OccurringArgument.same, TypeArgument.same, parts.definition, same]

end

/-! ## Lists of arguments -/

section
variable {ctx : Context} {es es' : List Element}

theorem concur_argumentsFrom (each : ItemsAlike ctx es es') (path : TreePath) (i : Nat) :
    Concur (List.Forall₂ fun a b => a.same b = true) (argumentsFrom ctx path i es)
      (argumentsFrom ctx path i es') := by
  induction each generalizing i with
  | nil =>
    rw [Concur, accepted?_argumentsFrom_nil]
    exact .some .nil
  | cons first _ ih =>
    rw [Concur, accepted?_argumentsFrom_cons, accepted?_argumentsFrom_cons,
      Element.annotations_same first.1]
    refine rel_bind (first.2.argument _ _) fun _ _ head => ?_
    exact rel_map (ih (i + 1)) fun _ _ tail => .cons head tail

theorem concur_orderedElementsFrom (each : ItemsAlike ctx es es') (path : TreePath) (i : Nat) :
    Concur (List.Forall₂ fun o p => o.same p = true) (orderedElementsFrom ctx path i es)
      (orderedElementsFrom ctx path i es') := by
  induction each generalizing i with
  | nil =>
    rw [Concur, accepted?_orderedElementsFrom_nil]
    exact .some .nil
  | cons first _ ih =>
    rw [Concur, accepted?_orderedElementsFrom_cons, accepted?_orderedElementsFrom_cons]
    refine rel_bind (first.2.occurring _ _) fun _ _ head => ?_
    exact rel_map (ih (i + 1)) fun _ _ tail => .cons head tail

theorem accepted?_fieldArgumentsFrom (path : TreePath) (fs : List Field) :
    accepted? (fieldArgumentsFrom ctx path fs) =
      fs.mapM fun f =>
        (accepted? (occurringArgument ctx (path.field f.name) .optional f.value)).map
          (⟨f.name, ·⟩) := by
  induction fs with
  | nil => exact accepted?_fieldArgumentsFrom_nil ctx path
  | cons f fs ih =>
    rw [accepted?_fieldArgumentsFrom_cons, ih, mapM_option_cons, Option.bind_map]
    rfl

variable {fs gs : List Field}

theorem concur_fieldArgumentsFrom (fields : FieldsAlike ctx fs gs) (path : TreePath) :
    Concur (Rearranged fun f g => f.same g = true) (fieldArgumentsFrom ctx path fs)
      (fieldArgumentsFrom ctx path gs) := by
  rw [Concur, accepted?_fieldArgumentsFrom, accepted?_fieldArgumentsFrom]
  refine rel_mapM fields fun f g both => ?_
  have names : f.name = g.name := (Field.same_iff.1 both.1).1
  rw [names]
  refine rel_map (both.2.occurring _ _) fun o p alike => ?_
  simp [FieldArgument.same, alike]

end

/-- Equal arguments with distinct names are equal in order. -/
theorem sortFields_rearranged {as bs : List FieldArgument} (distinct : (as.map (·.name)).Nodup)
    (h : Rearranged (fun f g => f.same g = true) as bs) :
    FieldArgument.sameAll (sortFields as) (sortFields bs) = true := by
  have named (f g : FieldArgument) (same : f.same g = true) : f.name = g.name := by
    cases f
    cases g
    simp only [FieldArgument.same, Bool.and_eq_true, beq_iff_eq] at same
    exact same.1
  have names := h.perm_map named
  obtain ⟨cs, each, perm⟩ := h
  have distinct' : (cs.map (·.name)).Nodup := by
    rw [(perm.map (·.name)).nodup_iff, ← names.nodup_iff]
    exact distinct
  rw [FieldArgument.sameAll_eq, isEqv_iff, ← sortFields_eq_of_perm distinct' perm]
  exact forall₂_sortFields named each

theorem concur_sortFields {ctx : Context} {fs gs : List Field}
    (distinct : (fs.map (·.name)).Nodup) (fields : FieldsAlike ctx fs gs) (path : TreePath) :
    Concur (fun as bs => FieldArgument.sameAll (sortFields as) (sortFields bs) = true)
      (fieldArgumentsFrom ctx path fs) (fieldArgumentsFrom ctx path gs) := by
  have read := concur_fieldArgumentsFrom fields path
  unfold Concur at read ⊢
  generalize accepted? (fieldArgumentsFrom ctx path gs) = o at read ⊢
  cases own : accepted? (fieldArgumentsFrom ctx path fs) with
  | none => rw [own] at read; cases read; exact .none
  | some as =>
    rw [← names_of_fieldArgumentsFrom own] at distinct
    rw [own] at read
    cases read with | some alike => exact .some (sortFields_rearranged distinct alike)

section
variable {ctx : Context} {e e' : Element} (h : e.same e' = true)
  (items : Option.Rel (ItemsAlike ctx) e.list? e'.list?)
  (fields : Option.Rel (FieldsAlike ctx) e.struct? e'.struct?) (path : TreePath)
include h

include items in
theorem concur_listedArguments (name : String) :
    Concur (List.Forall₂ fun a b => a.same b = true)
      (listedArguments ctx path name e.annotations e.value)
      (listedArguments ctx path name e'.annotations e'.value) := by
  rw [Concur, accepted?_listedArguments, accepted?_listedArguments]
  exact rel_bind (agree_plainList h items name).toOption fun _ _ each =>
    concur_argumentsFrom each path 0

include items in
theorem concur_orderedElements :
    Concur (List.Forall₂ fun o p => o.same p = true)
      (orderedElements ctx path e.annotations e.value)
      (orderedElements ctx path e'.annotations e'.value) := by
  rw [Concur, accepted?_orderedElements, accepted?_orderedElements]
  exact rel_bind (agree_plainList h items _).toOption fun _ _ each =>
    concur_orderedElementsFrom each path 0

variable (v2 : ctx.version = .v2)
include v2

include fields in
theorem concur_fieldArguments :
    Concur (fun as bs => FieldArgument.sameAll (sortFields as) (sortFields bs) = true)
      (fieldArguments ctx path e.annotations e.value)
      (fieldArguments ctx path e'.annotations e'.value) := by
  rw [Concur, accepted?_fieldArguments, accepted?_fieldArguments, v2]
  refine rel_bind fields fun fs gs fields => ?_
  match given : fieldsShape .v2 e fs, fieldsShape .v2 e' gs,
    agree_fieldsShape (FieldsAlike.same fields) h with
  | .error _, .error _, .error _ _ => exact .none
  | .ok _, .ok _, .ok _ =>
    exact concur_sortFields ((fieldsShape_v2_iff e fs).1 given).2.2 fields path

include items fields in
theorem concur_constraintOf (name : String) :
    Concur (fun c d => c.same d = true) (constraintOf ctx path name e)
      (constraintOf ctx path name e') := by
  have argument (names : List String) := concur_typeArgument v2 h fields path names
  cases constraintOf_form ctx name with
  | leaf read known reads =>
    rw [reads, reads]
    exact concur_lift (agree_leaf h known)
  | annotationList v1 => rw [v2] at v1; cases v1
  | listed make same reads =>
    rw [reads, reads]
    refine concur_map (concur_listedArguments h items path name) fun as bs each => ?_
    rw [same, TypeArgument.sameAll_eq, isEqv_iff]
    exact each
  | single make same reads =>
    rw [reads, reads, Element.annotations_same h]
    refine concur_map (argument _) fun a b alike => ?_
    rw [same]
    exact alike
  | distinct make same reads =>
    rw [reads, reads, Element.annotations_same h]
    refine concur_lift_bind (agree_distinctShape h ctx.version name)
      (fun _ => steady_bind (steady_typeArgument _ _ _ _) fun _ => steady_pure _)
      (fun _ => steady_bind (steady_typeArgument _ _ _ _) fun _ => steady_pure _) fun _ _ _ => ?_
    refine concur_map (argument _) fun a b alike => ?_
    rw [same, alike]
    simp
  | fields reads =>
    rw [reads, reads, Element.isAnnotated_same h]
    refine concur_map (concur_fieldArguments h fields path v2) fun as bs alike => ?_
    rw [Constraint.same, alike]
    simp
  | orderedElements reads =>
    rw [reads, reads]
    refine concur_map (concur_orderedElements h items path) fun os ps each => ?_
    rw [Constraint.same, OccurringArgument.sameAll_eq, isEqv_iff]
    exact each
  | annotations _ reads =>
    have typed : Concur (fun c d : Constraint => c.same d = true)
        (typeArgument ctx path e.annotations e.value >>= fun a => pure (.annotationType a))
        (typeArgument ctx path e'.annotations e'.value >>= fun a => pure (.annotationType a)) := by
      rw [Element.annotations_same h]
      refine concur_map (argument _) fun a b alike => ?_
      rw [Constraint.same]
      exact alike
    rw [reads, reads]
    unfold annotationsOf
    rw [Element.type_same h]
    split
    · exact concur_lift (agree_of_eq Constraint.same_self (agree_annotationSet h))
    · exact typed
    · exact typed
    · exact concur_lift (.error _ _)
  | unknown reads =>
    rw [reads, reads]
    exact concur_invalid _ _

end

/-- Equal elements are read alike. -/
theorem readsAlike {ctx : Context} (v2 : ctx.version = .v2) {e e' : Element}
    (h : e.same e' = true) : ReadsAlike ctx e e' :=
  Element.same_induction (fun _ _ same items fields =>
    { argument := concur_typeArgument v2 same fields
      occurring := concur_occurringArgument v2 same fields
      constraint := fun path => concur_constraintOf same items fields path v2 }) h

/-- Definitions with equal fields, in any order, are read alike. -/
theorem concur_definitionParts {ctx : Context} (v2 : ctx.version = .v2) {fs gs : List Field}
    (fields : Rearranged (fun f g => f.same g = true) fs gs) (path : TreePath) :
    Concur Parts.Alike (definitionParts ctx path fs) (definitionParts ctx path gs) :=
  concur_parts v2
    (fields.imp fun _ _ same => ⟨same, readsAlike v2 (Field.same_iff.1 same).2⟩) path

end Isl.Reader
