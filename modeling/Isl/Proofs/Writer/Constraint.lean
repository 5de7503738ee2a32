import Isl.Proofs.Writer.Type
/-!
# Constraints are written to be read

Each form of constraint returns when its arguments do. A form is written as one field; only what
version 1.0 writes for closed content is not, and that is dealt with where definitions are put
together.
-/
namespace Isl.Writer
open Reader

/-! ## How constraints are read -/

theorem name_of_leaf {version : IslVersion} {name : String} {read : Element → Check Constraint}
    (known : leaf? version name = some read) {e : Element} {c : Constraint}
    (given : read e = .ok c) : c.name = name := by
  unfold leaf? at known
  split at known
  · rename_i m found
    injection known with known
    subst known
    obtain ⟨r, rfl, rfl, _⟩ := measureRange_ok given
    rw [Measure.ofName?] at found
    have same := List.find?_some found
    exact beq_iff_eq.1 same
  · split at known
    · injection known with known
      subst known
      obtain ⟨_, _, rfl⟩ := check_map_eq_ok_iff.1 given
      rfl
    · injection known with known
      subst known
      obtain ⟨_, rfl, _⟩ := regexArgument_ok given
      rfl
    · injection known with known
      subst known
      obtain ⟨_, rfl, _⟩ := validValues_ok given
      rfl
    · injection known with known
      subst known
      obtain ⟨_, _, rfl⟩ := check_map_eq_ok_iff.1 given
      rfl
    · injection known with known
      subst known
      obtain ⟨_, rfl, _⟩ := offsets_ok given
      rfl
    · injection known with known
      subst known
      obtain ⟨_, rfl⟩ := floatFormat_ok given
      rfl
    · cases known

/-- The forms in which a constraint is read under a name. -/
inductive ReadAs (ctx : Context) (path : TreePath) (e : Element) : String → Constraint → Prop where
  | leaf {name : String} {c : Constraint} (named : c.name = name) (leaf : LeafOf ctx.version e c) :
      ReadAs ctx path e name c
  | allOf {as : List TypeArgument}
      (read : accepted? (listedArguments ctx path "all_of" e.annotations e.value) = some as) :
      ReadAs ctx path e "all_of" (.allOf as)
  | anyOf {as : List TypeArgument}
      (read : accepted? (listedArguments ctx path "any_of" e.annotations e.value) = some as) :
      ReadAs ctx path e "any_of" (.anyOf as)
  | oneOf {as : List TypeArgument}
      (read : accepted? (listedArguments ctx path "one_of" e.annotations e.value) = some as) :
      ReadAs ctx path e "one_of" (.oneOf as)
  | type {a : TypeArgument}
      (read : accepted? (typeArgument ctx path e.annotations e.value) = some a) :
      ReadAs ctx path e "type" (.type a)
  | not {a : TypeArgument}
      (read : accepted? (typeArgument ctx path e.annotations e.value) = some a) :
      ReadAs ctx path e "not" (.not a)
  | element {a : TypeArgument}
      (read : accepted?
        (typeArgument ctx path (withoutDistinct ctx.version e.annotations) e.value) = some a) :
      ReadAs ctx path e "element" (.element a (isDistinct ctx.version e.annotations))
  | fieldNames {a : TypeArgument}
      (read : accepted?
        (typeArgument ctx path (withoutDistinct ctx.version e.annotations) e.value) = some a) :
      ReadAs ctx path e "field_names" (.fieldNames a (isDistinct ctx.version e.annotations))
  | fields {fs : List FieldArgument}
      (read : accepted? (fieldArguments ctx path e.annotations e.value) = some fs) :
      ReadAs ctx path e "fields" (.fields (sortFields fs) (e.isAnnotated "closed"))
  | orderedElements {os : List OccurringArgument}
      (read : accepted? (orderedElements ctx path e.annotations e.value) = some os) :
      ReadAs ctx path e "ordered_elements" (.orderedElements os)
  | annotationType {a : TypeArgument} (v2 : ctx.version = .v2)
      (read : accepted? (typeArgument ctx path e.annotations e.value) = some a) :
      ReadAs ctx path e "annotations" (.annotationType a)

theorem ReadAs.name_eq {ctx : Context} {path : TreePath} {e : Element} {name : String}
    {c : Constraint} (h : ReadAs ctx path e name c) : c.name = name := by
  cases h with
  | leaf named _ => exact named
  | _ => rfl

theorem readAs_of_annotations {ctx : Context} {path : TreePath} {e : Element} {c : Constraint}
    (h : accepted? (constraintOf ctx path "annotations" e) = some c) :
    ReadAs ctx path e "annotations" c := by
  cases version : ctx.version with
  | v1 =>
    rw [accepted?_annotationList version] at h
    have given := toOption_eq_some_iff.1 h
    obtain ⟨_, _, _, rfl⟩ := annotationList_ok given
    exact .leaf rfl (.annotationList version given)
  | v2 =>
    by_cases list : e.type = .list
    · rw [accepted?_annotationSet version list] at h
      have given := toOption_eq_some_iff.1 h
      obtain ⟨_, _, rfl, _⟩ := annotationSet_ok given
      exact .leaf rfl (.annotationSet version list given)
    · by_cases typed : e.type = .struct ∨ e.type = .symbol
      · rw [accepted?_annotationType _ _ _ version typed] at h
        obtain ⟨a, read, rfl⟩ := Option.map_eq_some_iff.1 h
        exact .annotationType version read
      · rw [accepted?_noAnnotations version list typed] at h
        cases h

/-- Whatever is accepted under a name is read in one of the forms. -/
theorem readAs_of_constraintOf {ctx : Context} {path : TreePath} {name : String} {e : Element}
    {c : Constraint} (h : accepted? (constraintOf ctx path name e) = some c) :
    ReadAs ctx path e name c := by
  cases known : leaf? ctx.version name with
  | some read =>
    rw [accepted?_constraintOf_leaf known] at h
    have given := toOption_eq_some_iff.1 h
    obtain rfl := name_of_leaf known given
    exact .leaf rfl (.named known given)
  | none =>
    by_cases annotations : name = "annotations"
    · subst annotations
      exact readAs_of_annotations h
    · cases e with
      | mk names v =>
        rw [constraintOf.eq_def] at h
        dsimp only at h
        rw [known] at h
        dsimp only at h
        split at h
        · obtain ⟨as, read, rfl⟩ := accepted?_bind_pure_eq_some_iff.1 h
          exact .allOf read
        · obtain ⟨as, read, rfl⟩ := accepted?_bind_pure_eq_some_iff.1 h
          exact .anyOf read
        · obtain ⟨as, read, rfl⟩ := accepted?_bind_pure_eq_some_iff.1 h
          exact .oneOf read
        · obtain ⟨a, read, rfl⟩ := accepted?_bind_pure_eq_some_iff.1 h
          exact .type read
        · obtain ⟨a, read, rfl⟩ := accepted?_bind_pure_eq_some_iff.1 h
          exact .not read
        · rw [accepted?_lift_bind fun _ =>
            steady_bind (steady_typeArgument ctx path _ v) fun _ => steady_pure _] at h
          obtain ⟨_, _, h⟩ := Option.bind_eq_some_iff.1 h
          obtain ⟨a, read, rfl⟩ := accepted?_bind_pure_eq_some_iff.1 h
          exact .element read
        · rw [accepted?_lift_bind fun _ =>
            steady_bind (steady_typeArgument ctx path _ v) fun _ => steady_pure _] at h
          obtain ⟨_, _, h⟩ := Option.bind_eq_some_iff.1 h
          obtain ⟨a, read, rfl⟩ := accepted?_bind_pure_eq_some_iff.1 h
          exact .fieldNames read
        · obtain ⟨fs, read, rfl⟩ := accepted?_bind_pure_eq_some_iff.1 h
          exact .fields read
        · obtain ⟨os, read, rfl⟩ := accepted?_bind_pure_eq_some_iff.1 h
          exact .orderedElements read
        · exact absurd rfl annotations
        · cases h

section
variable {ctx : Context}

theorem leaf_same {version : IslVersion} {e : Element} {c : Constraint}
    (leaf : LeafOf version e c) : c.lasts version = true ∧ c.same c = true := by
  cases leaf with
  | annotationList v1 given =>
    obtain ⟨_, _, _, rfl⟩ := annotationList_ok given
    simp [Constraint.lasts, Constraint.same]
  | annotationSet v2 list given =>
    obtain ⟨_, _, rfl, _⟩ := annotationSet_ok given
    simp [Constraint.lasts, Constraint.same]
  | named known given =>
    cases c with
    | contains es =>
      exact ⟨by simp [Constraint.lasts], by
        rw [Constraint.same]; exact Bag.sameItems_self fun e _ => e.same_self⟩
    | validValues vs =>
      exact ⟨by simp [Constraint.lasts], by
        rw [Constraint.same]; exact Bag.sameItems_self fun v _ => v.same_self⟩
    | regex p => exact ⟨by simp [Constraint.lasts], by rw [Constraint.same]; exact p.beq_self⟩
    | timestampPrecision r => simp [Constraint.lasts, Constraint.same]
    | timestampOffset os => simp [Constraint.lasts, Constraint.same]
    | ieee754Float f => simp [Constraint.lasts, Constraint.same]
    | measure r => simp [Constraint.lasts, Constraint.same]
    | _ => cases known

/-! ## Arguments without types -/

theorem constraint_leaf {e : Element} {c : Constraint} (states : ctx.states c.name = true)
    (leaf : LeafOf ctx.version e c) : ConstraintReturns ctx c := by
  obtain ⟨e', written, again⟩ := written_leaf leaf
  refine ⟨states, e', written, fun path => ?_⟩
  rw [again ctx path rfl]
  obtain ⟨lasts, same⟩ := leaf_same leaf
  exact Gauge.Reread.self lasts same

/-! ## Lists of arguments -/

theorem arguments_return {as : List TypeArgument} (h : ∀ a ∈ as, ArgumentReturns ctx a)
    (path : TreePath) (i : Nat) :
    (argumentGauge ctx.version).list.Reread as
      (accepted? (argumentsFrom ctx path i (argumentElements ctx.version as))) := by
  induction as generalizing i with
  | nil =>
    rw [argumentElements, accepted?_argumentsFrom_nil]
    exact Gauge.Reread.nil _
  | cons a as ih =>
    rw [argumentElements, accepted?_argumentsFrom_cons]
    have first := (h a (List.mem_cons_self ..)).again (path.index i)
    exact first.cons (ih (fun b hb => h b (List.mem_cons_of_mem _ hb)) (i + 1))

theorem plainList_list (name : String) (es : List Element) :
    plainList name (.list es) = .ok es := rfl

private theorem listed_returns {make : List TypeArgument → Constraint} {as : List TypeArgument}
    (h : ∀ a ∈ as, ArgumentReturns ctx a)
    (lasts : (make as).lasts ctx.version = TypeArgument.allLast ctx.version as)
    (same : ∀ bs, (make as).same (make bs) = TypeArgument.sameAll as bs)
    (weight : ∀ bs, (make bs).weight = TypeArgument.weights bs + 1) (name : String)
    (path : TreePath) :
    (constraintGauge ctx.version).Reread (make as) ((accepted? (listedArguments ctx path name
      (Element.list (argumentElements ctx.version as)).annotations
      (Element.list (argumentElements ctx.version as)).value)).map make) := by
  rw [accepted?_listedArguments, plainList_list]
  refine (arguments_return h path 0).map make 1 ?_ (fun bs => ?_) fun bs => ?_
  · rw [TypeArgument.list_gauge]
    exact lasts
  · rw [TypeArgument.list_gauge]
    exact same bs
  · rw [TypeArgument.list_gauge]
    exact weight bs

theorem constraint_allOf {as : List TypeArgument} (states : ctx.states "all_of" = true)
    (h : ∀ a ∈ as, ArgumentReturns ctx a) : ConstraintReturns ctx (.allOf as) := by
  refine ⟨states, _, rfl, fun path => ?_⟩
  rw [Constraint.name, accepted?_allOf]
  exact listed_returns h rfl (fun _ => Constraint.same.eq_def ..) (fun _ => rfl) _ path

theorem constraint_anyOf {as : List TypeArgument} (states : ctx.states "any_of" = true)
    (h : ∀ a ∈ as, ArgumentReturns ctx a) : ConstraintReturns ctx (.anyOf as) := by
  refine ⟨states, _, rfl, fun path => ?_⟩
  rw [Constraint.name, accepted?_anyOf]
  exact listed_returns h rfl (fun _ => Constraint.same.eq_def ..) (fun _ => rfl) _ path

theorem constraint_oneOf {as : List TypeArgument} (states : ctx.states "one_of" = true)
    (h : ∀ a ∈ as, ArgumentReturns ctx a) : ConstraintReturns ctx (.oneOf as) := by
  refine ⟨states, _, rfl, fun path => ?_⟩
  rw [Constraint.name, accepted?_oneOf]
  exact listed_returns h rfl (fun _ => Constraint.same.eq_def ..) (fun _ => rfl) _ path

/-! ## One argument -/

private theorem single_returns {make : TypeArgument → Constraint} {a : TypeArgument}
    (returns : ArgumentReturns ctx a)
    (lasts : (make a).lasts ctx.version = a.lasts ctx.version)
    (same : ∀ b, (make a).same (make b) = a.same b)
    (weight : ∀ b, (make b).weight = b.weight + 1) (path : TreePath) :
    (constraintGauge ctx.version).Reread (make a) ((accepted? (typeArgument ctx path
      (argumentElement ctx.version a).annotations
      (argumentElement ctx.version a).value)).map make) :=
  (returns.again path).map make 1 lasts same weight

theorem constraint_type {a : TypeArgument} (states : ctx.states "type" = true)
    (returns : ArgumentReturns ctx a) : ConstraintReturns ctx (.type a) := by
  refine ⟨states, _, rfl, fun path => ?_⟩
  rw [Constraint.name, accepted?_type]
  exact single_returns returns rfl (fun _ => Constraint.same.eq_def ..) (fun _ => rfl) path

theorem constraint_not {a : TypeArgument} (states : ctx.states "not" = true)
    (returns : ArgumentReturns ctx a) : ConstraintReturns ctx (.not a) := by
  refine ⟨states, _, rfl, fun path => ?_⟩
  rw [Constraint.name, accepted?_not]
  exact single_returns returns rfl (fun _ => Constraint.same.eq_def ..) (fun _ => rfl) path

theorem type_argumentElement (version : IslVersion) (a : TypeArgument) :
    (argumentElement version a).type = .struct ∨ (argumentElement version a).type = .symbol := by
  cases a with
  | reference name n =>
    rw [argumentElement]
    cases n <;> exact .inr rfl
  | imported id typeName n =>
    rw [argumentElement]
    cases n <;> exact .inl rfl
  | inline d n =>
    rw [argumentElement]
    cases n <;> exact .inl rfl

theorem constraint_annotationType {a : TypeArgument} (states : ctx.states "annotations" = true)
    (v2 : ctx.version = .v2) (returns : ArgumentReturns ctx a) :
    ConstraintReturns ctx (.annotationType a) := by
  refine ⟨states, _, rfl, fun path => ?_⟩
  rw [Constraint.name, accepted?_annotationType _ _ _ v2 (type_argumentElement ctx.version a)]
  exact single_returns returns rfl (fun _ => Constraint.same.eq_def ..) (fun _ => rfl) path

/-! ## Distinct arguments -/

section
variable {version : IslVersion} {n : Nullability} {distinct : Bool}

theorem value_withDistinct (distinct : Bool) (e : Element) :
    (withDistinct distinct e).value = e.value := by
  cases distinct <;> rfl

theorem annotations_withDistinct (version : IslVersion) (distinct : Bool) (a : TypeArgument) :
    (withDistinct distinct (argumentElement version a)).annotations =
      (if distinct then ["distinct"] else []) ++ a.nullability.marker?.toList := by
  rw [← annotations_argumentElement version a]
  cases distinct <;> rfl

variable (fits : Fits version n) (v2 : distinct = true → version = .v2)
include fits v2

theorem withoutDistinct_marker :
    withoutDistinct version ((if distinct then ["distinct"] else []) ++ n.marker?.toList) =
      n.marker?.toList := by
  cases distinct with
  | false =>
    rcases fits with rfl | rfl
    · cases version <;> rfl
    · cases version <;> rfl
  | true =>
    obtain rfl := v2 rfl
    rcases fits with rfl | rfl <;> rfl

theorem isDistinct_marker :
    isDistinct version ((if distinct then ["distinct"] else []) ++ n.marker?.toList) =
      distinct := by
  cases distinct with
  | false =>
    rcases fits with rfl | rfl
    · cases version <;> rfl
    · cases version <;> rfl
  | true =>
    obtain rfl := v2 rfl
    rcases fits with rfl | rfl <;> rfl

theorem distinctShape_marker (name : String) {e : Element}
    (marked : e.annotations = (if distinct then ["distinct"] else []) ++ n.marker?.toList) :
    distinctShape version name e = .ok () := by
  cases version with
  | v1 => rfl
  | v2 =>
    have only : onlyAnnotated e ["distinct", "$null_or"] = true := by
      rw [onlyAnnotated, marked]
      rcases fits with rfl | rfl <;> cases distinct <;> rfl
    rw [distinctShape, if_pos only]

end

private theorem distinct_returns {make : TypeArgument → Bool → Constraint} {a : TypeArgument}
    {distinct : Bool} (v2 : distinct = true → ctx.version = .v2) (returns : ArgumentReturns ctx a)
    (lasts : (make a distinct).lasts ctx.version = a.lasts ctx.version)
    (same : ∀ b, (make a distinct).same (make b distinct) = a.same b)
    (weight : ∀ b, (make b distinct).weight = b.weight + 1) (name : String) (path : TreePath) :
    (constraintGauge ctx.version).Reread (make a distinct)
      (if (distinctShape ctx.version name
          (withDistinct distinct (argumentElement ctx.version a))).toOption.isSome then
        (accepted? (typeArgument ctx path (withoutDistinct ctx.version
          (withDistinct distinct (argumentElement ctx.version a)).annotations)
          (withDistinct distinct (argumentElement ctx.version a)).value)).map
          (make · (isDistinct ctx.version
            (withDistinct distinct (argumentElement ctx.version a)).annotations))
      else none) := by
  have marked := annotations_withDistinct ctx.version distinct a
  rw [distinctShape_marker returns.fits v2 _ marked, if_pos (by rfl), marked,
    withoutDistinct_marker returns.fits v2, isDistinct_marker returns.fits v2, value_withDistinct,
    ← annotations_argumentElement]
  exact (returns.again path).map (make · distinct) 1 lasts same weight

theorem constraint_element {a : TypeArgument} {distinct : Bool}
    (states : ctx.states "element" = true) (v2 : distinct = true → ctx.version = .v2)
    (returns : ArgumentReturns ctx a) : ConstraintReturns ctx (.element a distinct) := by
  refine ⟨states, _, rfl, fun path => ?_⟩
  rw [Constraint.name, accepted?_element]
  exact distinct_returns v2 returns rfl (fun b => by simp [Constraint.same])
    (fun b => by rw [Constraint.weight]) _ path

theorem constraint_fieldNames {a : TypeArgument} {distinct : Bool}
    (states : ctx.states "field_names" = true) (v2 : distinct = true → ctx.version = .v2)
    (returns : ArgumentReturns ctx a) : ConstraintReturns ctx (.fieldNames a distinct) := by
  refine ⟨states, _, rfl, fun path => ?_⟩
  rw [Constraint.name, accepted?_fieldNames]
  exact distinct_returns v2 returns rfl (fun b => by simp [Constraint.same])
    (fun b => by rw [Constraint.weight]) _ path

/-! ## Ordered elements -/

theorem occurring_return {os : List OccurringArgument}
    (h : ∀ o ∈ os, OccurringReturns ctx .required o) (path : TreePath) (i : Nat) :
    (occurringGauge ctx.version .required).list.Reread os
      (accepted? (orderedElementsFrom ctx path i (occurringElements ctx.version os))) := by
  induction os generalizing i with
  | nil =>
    rw [occurringElements, accepted?_orderedElementsFrom_nil]
    exact Gauge.Reread.nil _
  | cons o os ih =>
    rw [occurringElements, accepted?_orderedElementsFrom_cons]
    have first := h o (List.mem_cons_self ..) (path.index i)
    exact first.cons (ih (fun p hp => h p (List.mem_cons_of_mem _ hp)) (i + 1))

theorem constraint_orderedElements {os : List OccurringArgument}
    (states : ctx.states "ordered_elements" = true)
    (h : ∀ o ∈ os, OccurringReturns ctx .required o) :
    ConstraintReturns ctx (.orderedElements os) := by
  refine ⟨states, _, rfl, fun path => ?_⟩
  rw [Constraint.name, accepted?_orderedElements_constraint, accepted?_orderedElements,
    plainList_list]
  refine (occurring_return h path 0).map Constraint.orderedElements 1 ?_ (fun ps => ?_) fun ps => ?_
  · rw [OccurringArgument.list_gauge]
    simp [constraintGauge, Constraint.lasts]
  · rw [OccurringArgument.list_gauge]
    simp [constraintGauge, Constraint.same]
  · rw [OccurringArgument.list_gauge]
    simp [constraintGauge, Constraint.weight]

/-! ## Fields -/

theorem fields_return {fs : List FieldArgument}
    (h : ∀ f ∈ fs, OccurringReturns ctx .optional f.argument) (path : TreePath) :
    (fieldGauge ctx.version).list.Reread fs
      (accepted? (fieldArgumentsFrom ctx path (memberFields ctx.version fs))) := by
  induction fs with
  | nil =>
    rw [memberFields, accepted?_fieldArgumentsFrom_nil]
    exact Gauge.Reread.nil _
  | cons f fs ih =>
    cases f with
    | mk name o =>
      rw [memberFields, accepted?_fieldArgumentsFrom_cons]
      have field : (fieldGauge ctx.version).Reread ⟨name, o⟩
          ((accepted? (occurringArgument ctx (path.field name) .optional
            (occurringElement ctx.version .optional o))).map (FieldArgument.mk name)) := by
        refine (h ⟨name, o⟩ (List.mem_cons_self ..) (path.field name)).map (FieldArgument.mk name) 0
          ?_ (fun p => ?_) fun p => ?_
        · simp [fieldGauge, occurringGauge, FieldArgument.lasts]
        · simp [fieldGauge, occurringGauge, FieldArgument.same]
        · simp [fieldGauge, occurringGauge, FieldArgument.weight]
      have all := field.cons (ih fun g hg => h g (List.mem_cons_of_mem _ hg))
      rw [Option.bind_map] at all
      exact all

theorem names_memberFields (version : IslVersion) (fs : List FieldArgument) :
    (memberFields version fs).map (·.name) = fs.map (·.name) := by
  induction fs with
  | nil => rw [memberFields]; rfl
  | cons f fs ih =>
    cases f with
    | mk name o => rw [memberFields, List.map_cons, List.map_cons, ih]

/-- How the argument of a `fields` constraint is marked as closed. -/
def closedMark (closed : Bool) : List String := if closed then ["closed"] else []

theorem fieldsShape_members {version : IslVersion} {fs : List FieldArgument} {closed : Bool}
    (ascending : Ascending (fs.map (·.name))) (some : version = .v2 → fs ≠ [])
    (v2 : closed = true → version = .v2) :
    fieldsShape version ⟨closedMark closed, .struct (memberFields version fs)⟩
      (memberFields version fs) = .ok () := by
  have distinct : duplicates ((memberFields version fs).map (·.name)) = [] := by
    rw [names_memberFields]
    exact (duplicates_eq_nil_iff _).2 ascending.nodup
  cases version with
  | v1 =>
    have opened : closed = false := by
      cases closed with
      | false => rfl
      | true => exact absurd (v2 rfl) (by decide)
    subst opened
    simp [fieldsShape, closedMark, distinct, pure, Except.pure]
  | v2 =>
    have members : memberFields .v2 fs ≠ [] := by
      intro empty
      have names := names_memberFields .v2 fs
      rw [empty] at names
      exact some rfl (List.map_eq_nil_iff.1 names.symm)
    have only : onlyAnnotated ⟨closedMark closed, .struct (memberFields .v2 fs)⟩ ["closed"] =
        true := by
      cases closed <;> rfl
    simp [fieldsShape, only, members, distinct, pure, Except.pure]

/-- Fields in order, under the mark of version 2.0 if the content is closed. -/
theorem constraint_fields {fs : List FieldArgument} {closed : Bool}
    (states : ctx.states "fields" = true) (ascending : Ascending (fs.map (·.name)))
    (some : ctx.version = .v2 → fs ≠ []) (v2 : closed = true → ctx.version = .v2)
    (h : ∀ f ∈ fs, OccurringReturns ctx .optional f.argument) :
    ConstraintReturns ctx (.fields fs closed) := by
  have written : constraintFields ctx.version (.fields fs closed) =
      [⟨"fields", ⟨closedMark closed, .struct (memberFields ctx.version fs)⟩⟩] := by
    rw [constraintFields, fieldsEntries.eq_def]
    cases closed with
    | false => cases ctx.version <;> rfl
    | true =>
      rw [v2 rfl]
      rfl
  have marked : (Element.mk (closedMark closed)
      (.struct (memberFields ctx.version fs))).isAnnotated "closed" = closed := by
    cases closed <;> rfl
  refine ⟨states, _, written, fun path => ?_⟩
  have items := fields_return h path
  have sorted : (accepted? (fieldArgumentsFrom ctx path (memberFields ctx.version fs))).map
      (fun gs => Constraint.fields (sortFields gs) closed) =
      (accepted? (fieldArgumentsFrom ctx path (memberFields ctx.version fs))).map
        (Constraint.fields · closed) := by
    cases read : accepted? (fieldArgumentsFrom ctx path (memberFields ctx.version fs)) with
    | none => rfl
    | some gs =>
      have names := (names_of_fieldArgumentsFrom read).trans (names_memberFields _ fs)
      rw [Option.map_some, sortFields_ascending (names ▸ ascending)]
      rfl
  rw [Constraint.name, accepted?_fields, accepted?_fieldArguments, Element.struct?,
    Option.bind_some, fieldsShape_members ascending some v2, if_pos (by rfl), marked, sorted]
  refine items.map (Constraint.fields · closed) 1 ?_ (fun gs => ?_) fun gs => ?_
  · rw [FieldArgument.list_gauge]
    simp [constraintGauge, Constraint.lasts]
  · rw [FieldArgument.list_gauge]
    simp [constraintGauge, Constraint.same]
  · rw [FieldArgument.list_gauge]
    simp [constraintGauge, Constraint.weight]

end
end Isl.Writer
