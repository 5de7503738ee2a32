import Isl.Proofs.Reader.Fields
import Isl.Proofs.Writer.Constraint
/-!
# Definitions are written to be read

A definition returns when its constraints do. Version 1.0 takes the mark of closed content off the
first `fields` constraint and states it beside the constraints, so there the list that was read is
followed to the one that is closed (`closed_return`).
-/
namespace Isl.Writer
open Reader

/-! ## Names -/

theorem isFields_eq (c : Constraint) : c.isFields = (c.name == "fields") := by
  cases c with
  | measure r =>
    cases h : r.measure <;> simp [Constraint.isFields, Constraint.name, h, Measure.name]
  | _ => rfl

theorem name_of_constraintFields {version : IslVersion} {c : Constraint} {f : Field}
    (h : f ∈ constraintFields version c) : f.name = c.name ∨ f.name = "content" := by
  cases c with
  | fields fs closed =>
    rw [constraintFields, fieldsEntries.eq_def] at h
    split at h
    · rcases List.mem_cons.1 h with rfl | h
      · exact .inr rfl
      · split at h
        · cases h
        · rw [List.mem_singleton] at h
          exact .inl (h ▸ rfl)
    · rw [List.mem_singleton] at h
      exact .inl (h ▸ rfl)
    · rw [List.mem_singleton] at h
      exact .inl (h ▸ rfl)
  | _ =>
    rw [constraintFields, List.mem_singleton] at h
    exact .inl (h ▸ rfl)

theorem has_constraintsFields {version : IslVersion} {cs : List Constraint} {name : String}
    (content : name ≠ "content") (h : ∀ c ∈ cs, c.name ≠ name) :
    Field.has (constraintsFields version cs) name = false := by
  induction cs with
  | nil => rw [constraintsFields]; rfl
  | cons c cs ih =>
    rw [constraintsFields, Field.has, List.any_append, ← Field.has, ← Field.has,
      ih fun d hd => h d (List.mem_cons_of_mem _ hd), Bool.or_false, Field.has, List.any_eq_false]
    intro f hf same
    have named : f.name = name := by simpa using same
    rcases name_of_constraintFields hf with own | own
    · exact h c (List.mem_cons_self ..) (own.symm.trans named)
    · exact content (named.symm.trans own)

theorem name_of_closeFields {cs : List Constraint} {c : Constraint}
    (h : c ∈ Parts.closeFields cs) : c.name = "fields" ∨ ∃ d ∈ cs, d.name = c.name := by
  induction cs with
  | nil =>
    rw [Parts.closeFields, List.mem_singleton] at h
    exact .inl (h ▸ rfl)
  | cons d ds ih =>
    by_cases fields : ∃ fs closed, d = .fields fs closed
    · obtain ⟨fs, closed, rfl⟩ := fields
      rw [Parts.closeFields] at h
      rcases List.mem_cons.1 h with rfl | h
      · exact .inl rfl
      · exact .inr ⟨c, List.mem_cons_of_mem _ h, rfl⟩
    · rw [Parts.closeFields.eq_3 d ds fun fs closed same => fields ⟨fs, closed, same⟩] at h
      rcases List.mem_cons.1 h with rfl | h
      · exact .inr ⟨c, List.mem_cons_self .., rfl⟩
      · refine (ih h).imp_right ?_
        rintro ⟨k, hk, same⟩
        exact ⟨k, List.mem_cons_of_mem _ hk, same⟩

/-! ## Bags of constraints -/

/-- The constraints of a definition, without an order. -/
def bagGauge (version : IslVersion) : Gauge (List Constraint) :=
  ⟨fun cs => Constraint.allLast version cs && !(version == .v1 && Constraint.losesFields cs),
    fun cs ds => cs.length == ds.length && Constraint.takesAll cs ds, Constraint.weights⟩

theorem definition_of_bag {version : IslVersion} {cs : List Constraint}
    {again : Option (List Constraint)} (content : List Field)
    (bag : (bagGauge version).Reread cs again) :
    (definitionGauge version).Reread ⟨cs, content⟩ (again.map (TypeDefinition.mk · content)) := by
  refine bag.map (TypeDefinition.mk · content) 0 ?_ (fun ds => ?_) fun ds => ?_
  · simp [definitionGauge, bagGauge, TypeDefinition.lasts]
  · simp [definitionGauge, bagGauge, TypeDefinition.same, Field.sameItems_self]
  · simp [definitionGauge, bagGauge, TypeDefinition.weight]

theorem bag_of_list {version : IslVersion} {cs : List Constraint}
    {again : Option (List Constraint)} (kept : version = .v1 → Constraint.losesFields cs = false)
    (items : (constraintGauge version).list.Reread cs again) :
    (bagGauge version).Reread cs again := by
  have kept' : (version == .v1 && Constraint.losesFields cs) = false := by
    cases version with
    | v1 => simp [kept rfl]
    | v2 => rfl
  have lasts : (bagGauge version).lasts cs = (constraintGauge version).list.lasts cs := by
    rw [Constraint.lasts_list]
    simp only [bagGauge, kept', Bool.not_false, Bool.and_true]
  constructor
  · intro last
    obtain ⟨ds, rfl, same, weight⟩ := items.equal (lasts ▸ last)
    refine ⟨ds, rfl, ?_, ?_⟩
    · simp [bagGauge, Gauge.length_of_sameEach same, Constraint.takesAll_of_sameEach same]
    · rw [Constraint.weight_list, Constraint.weight_list] at weight
      exact weight
  · intro gone ds read
    have less := items.lighter (lasts ▸ gone) ds read
    rw [Constraint.weight_list, Constraint.weight_list] at less
    exact less

theorem bag_cons {version : IslVersion} {c : Constraint} {cs : List Constraint}
    {again : Option Constraint} {rest : Option (List Constraint)} (other : c.isFields = false)
    (first : (constraintGauge version).Reread c again)
    (others : (bagGauge version).Reread cs rest) :
    (bagGauge version).Reread (c :: cs) (again.bind fun d => rest.map (d :: ·)) := by
  have loses : Constraint.losesFields (c :: cs) = Constraint.losesFields cs := by
    cases c <;> first | rfl | cases other
  have lasts : (bagGauge version).lasts (c :: cs) =
      (c.lasts version && (bagGauge version).lasts cs) := by
    simp [bagGauge, Constraint.allLast, loses, Bool.and_assoc]
  constructor
  · intro last
    rw [lasts, Bool.and_eq_true] at last
    obtain ⟨d, rfl, same, weight⟩ := first.equal last.1
    obtain ⟨ds, rfl, sames, weights⟩ := others.equal last.2
    refine ⟨d :: ds, rfl, ?_, ?_⟩
    · simp only [bagGauge, Bool.and_eq_true, beq_iff_eq] at sames
      have same : c.same d = true := same
      simp [bagGauge, Constraint.takesAll, removeFirst?, same, sames]
    · simp only [bagGauge, constraintGauge, Constraint.weights] at weight weights ⊢
      omega
  · intro gone found read
    obtain ⟨d, rfl, more⟩ := Option.bind_eq_some_iff.1 read
    obtain ⟨ds, rfl, rfl⟩ := Option.map_eq_some_iff.1 more
    have item := first.weight_le
    have items := others.weight_le
    rw [lasts] at gone
    cases last : c.lasts version with
    | false =>
      have less := first.lighter last d rfl
      simp only [bagGauge, constraintGauge, Constraint.weights] at items less ⊢
      omega
    | true =>
      have less := others.lighter (by simpa [last] using gone) ds rfl
      simp only [bagGauge, constraintGauge, Constraint.weights] at item less ⊢
      omega

/-! ## Constraints in a row -/

section
variable {ctx : Context}

/-- Constraints that are each written as one field are read one by one. -/
theorem constraints_return {cs : List Constraint} (h : ∀ c ∈ cs, ConstraintReturns ctx c)
    (path : TreePath) :
    ∃ again : Option (List Constraint),
      accepted? (definitionParts ctx path (constraintsFields ctx.version cs)) =
        again.map (⟨·, [], false⟩) ∧
      (constraintGauge ctx.version).list.Reread cs again ∧
      ∀ ds, again = some ds → ds.map Constraint.name = cs.map Constraint.name := by
  induction cs with
  | nil =>
    refine ⟨some [], ?_, Gauge.Reread.nil _, ?_⟩
    · rw [constraintsFields, accepted?_definitionParts_nil]
      rfl
    · rintro ds ⟨⟩
      rfl
  | cons c cs ih =>
    obtain ⟨states, e, written, returns⟩ := h c (List.mem_cons_self ..)
    obtain ⟨rest, read, items, names⟩ := ih fun d hd => h d (List.mem_cons_of_mem _ hd)
    refine ⟨(accepted? (constraintOf ctx (path.field c.name) c.name e)).bind
      fun d => rest.map (d :: ·), ?_, (returns _).cons items, ?_⟩
    · rw [constraintsFields, written, List.cons_append, List.nil_append,
        accepted?_definitionParts_cons, accepted?_definitionField_constraint states, read]
      cases accepted? (constraintOf ctx (path.field c.name) c.name e) with
      | none => rfl
      | some d => cases rest <;> rfl
    · intro ds found
      obtain ⟨d, first, more⟩ := Option.bind_eq_some_iff.1 found
      obtain ⟨others, rfl, rfl⟩ := Option.map_eq_some_iff.1 more
      rw [List.map_cons, List.map_cons, names others rfl, (readAs_of_constraintOf first).name_eq]

theorem open_return {content : List Field} (h : ∀ f ∈ content, ctx.isOpen f.name = true)
    (path : TreePath) :
    accepted? (definitionParts ctx path content) = some ⟨[], content, false⟩ := by
  induction content with
  | nil => exact accepted?_definitionParts_nil ctx path
  | cons f fs ih =>
    cases f with
    | mk name e =>
      rw [accepted?_definitionParts_cons,
        accepted?_definitionField_open (h ⟨name, e⟩ (List.mem_cons_self ..)),
        ih fun g hg => h g (List.mem_cons_of_mem _ hg)]
      rfl

/-! ## Closed content of version 1.0 -/

/-- In version 1.0 a constraint that is written as one field is not closed. -/
theorem opened_of_returns (v1 : ctx.version = .v1) {fs : List FieldArgument} {closed : Bool}
    (returns : ConstraintReturns ctx (.fields fs closed)) : closed = false := by
  obtain ⟨e, written, _⟩ := returns.again
  cases closed with
  | false => rfl
  | true =>
    rw [v1, constraintFields] at written
    injection written with first _
    injection first with name _
    exact absurd (show "content" = "fields" from name) (by decide)

theorem losesFields_of_returns (v1 : ctx.version = .v1) {cs : List Constraint}
    (h : ∀ c ∈ cs, ConstraintReturns ctx c) : Constraint.losesFields cs = false := by
  induction cs with
  | nil => rfl
  | cons c cs ih =>
    have rest := ih fun d hd => h d (List.mem_cons_of_mem _ hd)
    cases c with
    | fields fs closed =>
      obtain rfl := opened_of_returns v1 (h _ (List.mem_cons_self ..))
      cases fs <;> exact rest
    | _ => exact rest

theorem any_isFields (cs : List Constraint) :
    cs.any Constraint.isFields = (cs.map Constraint.name).contains "fields" := by
  induction cs with
  | nil => rfl
  | cons c cs ih =>
    rw [List.any_cons, ih, isFields_eq, List.map_cons, List.contains_cons, BEq.comm]

theorem closeFields_none {cs : List Constraint} (none : cs.any Constraint.isFields = false) :
    Parts.closeFields cs = cs ++ [.fields [] true] := by
  induction cs with
  | nil => rfl
  | cons c cs ih =>
    rw [List.any_cons, Bool.or_eq_false_iff] at none
    rw [closeFields_cons none.1, ih none.2, List.cons_append]

theorem weights_closeFields {cs : List Constraint} (some : cs.any Constraint.isFields = true) :
    Constraint.weights (Parts.closeFields cs) = Constraint.weights cs := by
  induction cs with
  | nil => cases some
  | cons c cs ih =>
    cases fields : c.isFields with
    | true =>
      cases c with
      | fields fs closed => simp [Parts.closeFields, Constraint.weights, Constraint.weight]
      | _ => cases fields
    | false =>
      rw [List.any_cons, fields, Bool.false_or] at some
      rw [closeFields_cons fields, Constraint.weights, Constraint.weights, ih some]

/-- A closed constraint without fields is found behind constraints that are not of its kind. -/
theorem removeFirst?_closed {ds : List Constraint} (none : ds.any Constraint.isFields = false) :
    removeFirst? (fun d => (Constraint.fields [] true).same d) (ds ++ [.fields [] true]) =
      some ds := by
  induction ds with
  | nil => simp [removeFirst?, Constraint.same, FieldArgument.sameAll]
  | cons d ds ih =>
    rw [List.any_cons, Bool.or_eq_false_iff] at none
    have other : (Constraint.fields [] true).same d = false := by
      cases d with
      | fields fs closed => cases none.1
      | _ => simp [Constraint.same]
    simp [removeFirst?, other, ih none.2]

theorem allLast_cons (version : IslVersion) (c : Constraint) (cs : List Constraint) :
    Constraint.allLast version (c :: cs) = (c.lasts version && Constraint.allLast version cs) := by
  rw [Constraint.allLast]

/-- A closed constraint that has fields is closed again. -/
theorem closed_fields {version : IslVersion} {fs : List FieldArgument} {cs : List Constraint}
    {again : Option (List Constraint)} (some : fs ≠ [])
    (kept : Constraint.losesFields cs = false)
    (items : (constraintGauge version).list.Reread (.fields fs false :: cs) again)
    (names : ∀ ds, again = Option.some ds →
      ds.map Constraint.name = "fields" :: cs.map Constraint.name) :
    (bagGauge version).Reread (.fields fs true :: cs) (again.map Parts.closeFields) := by
  have loses : Constraint.losesFields (.fields fs true :: cs) = false := by
    cases fs with
    | nil => exact absurd rfl some
    | cons f fs => exact kept
  have lasts : (bagGauge version).lasts (.fields fs true :: cs) =
      (constraintGauge version).list.lasts (.fields fs false :: cs) := by
    rw [Constraint.lasts_list]
    simp [bagGauge, loses, Constraint.allLast, Constraint.lasts]
  have closing {ds : List Constraint} (found : again = Option.some ds) :
      ∃ gs closed es, ds = .fields gs closed :: es := by
    have named := names ds found
    cases ds with
    | nil => cases named
    | cons d es =>
      rw [List.map_cons, List.cons.injEq] at named
      have fields : d.isFields = true := by rw [isFields_eq, named.1]; rfl
      cases d with
      | fields gs closed => exact ⟨gs, closed, es, rfl⟩
      | _ => cases fields
  constructor
  · intro last
    obtain ⟨ds, found, same, weight⟩ := items.equal (lasts ▸ last)
    obtain ⟨gs, closed, es, rfl⟩ := closing found
    refine ⟨.fields gs true :: es, by rw [found]; rfl, ?_, ?_⟩
    · have length := Gauge.length_of_sameEach same
      simp only [Gauge.list, Gauge.sameEach, constraintGauge, Constraint.same,
        Bool.and_eq_true] at same
      have rest := Constraint.takesAll_of_sameEach same.2
      have first : (Constraint.fields fs true).same (.fields gs true) = true := by
        simp [Constraint.same, same.1.1]
      simp only [List.length_cons] at length
      simp [bagGauge, Constraint.takesAll, removeFirst?, first, rest, length]
    · rw [Constraint.weight_list, Constraint.weight_list] at weight
      simpa [bagGauge, Constraint.weights, Constraint.weight] using weight
  · intro gone ds read
    obtain ⟨raw, found, rfl⟩ := Option.map_eq_some_iff.1 read
    have less := items.lighter (lasts ▸ gone) raw found
    obtain ⟨gs, closed, es, rfl⟩ := closing found
    rw [Constraint.weight_list, Constraint.weight_list] at less
    simpa [bagGauge, Parts.closeFields, Constraint.weights, Constraint.weight] using less

/-- A closed constraint without fields is left out, and made up for by closing what was read: an
empty one behind the others, or else the first of its kind, which there was before. -/
theorem closed_empty {version : IslVersion} {cs : List Constraint}
    {again : Option (List Constraint)} (v1 : version = .v1)
    (items : (constraintGauge version).list.Reread cs again)
    (names : ∀ ds, again = some ds → ds.map Constraint.name = cs.map Constraint.name) :
    (bagGauge version).Reread (.fields [] true :: cs) (again.map Parts.closeFields) := by
  subst v1
  have own : (Constraint.fields [] true).lasts .v1 = true := by
    simp [Constraint.lasts, FieldArgument.allLast]
  have lasts : (bagGauge .v1).lasts (.fields [] true :: cs) =
      ((constraintGauge .v1).list.lasts cs && !cs.any Constraint.isFields) := by
    rw [Constraint.lasts_list]
    simp [bagGauge, allLast_cons, own, Constraint.losesFields]
  have alike {ds : List Constraint} (found : again = some ds) :
      ds.any Constraint.isFields = cs.any Constraint.isFields := by
    rw [any_isFields, any_isFields, names ds found]
  constructor
  · intro last
    rw [lasts, Bool.and_eq_true, Bool.not_eq_true'] at last
    obtain ⟨ds, found, same, weight⟩ := items.equal last.1
    have none := (alike found).trans last.2
    have length := Gauge.length_of_sameEach same
    have rest := Constraint.takesAll_of_sameEach same
    refine ⟨ds ++ [.fields [] true], ?_, ?_, ?_⟩
    · rw [found, Option.map_some, closeFields_none none]
    · simp [bagGauge, Constraint.takesAll, removeFirst?_closed none, rest, length]
    · rw [Constraint.weight_list, Constraint.weight_list] at weight
      simp only [bagGauge, Constraint.weights_append, Constraint.weights, weight]
      omega
  · intro gone ds read
    obtain ⟨raw, found, rfl⟩ := Option.map_eq_some_iff.1 read
    subst found
    have items' := items.weight_le
    rw [Constraint.weight_list, Constraint.weight_list] at items'
    rw [lasts] at gone
    cases more : cs.any Constraint.isFields with
    | true =>
      have closed := weights_closeFields ((alike rfl).trans more)
      have own := Constraint.weight_pos (.fields [] true)
      simp only [bagGauge, Constraint.weights, closed]
      omega
    | false =>
      have less := items.lighter (by simpa [more] using gone) raw rfl
      rw [Constraint.weight_list, Constraint.weight_list] at less
      rw [closeFields_none ((alike rfl).trans more)]
      simp only [bagGauge, Constraint.weights_append, Constraint.weights]
      omega

/-- Constraints, one of them closed, that version 1.0 writes beside a mark of closed content: they
are read without being closed, and closed again because of the mark. -/
def ReturnsClosed (ctx : Context) (path : TreePath) (cs : List Constraint) : Prop :=
  ∃ again : Option (List Constraint),
    accepted? (definitionParts ctx path (constraintsFields ctx.version cs)) =
      again.map (⟨·, [], true⟩) ∧
    (bagGauge ctx.version).Reread cs (again.map Parts.closeFields)

theorem accepted?_closed (v1 : ctx.version = .v1) {path : TreePath} {fs : List Field}
    {again : Option (List Constraint)}
    (read : accepted? (definitionParts ctx path fs) = again.map (⟨·, [], false⟩)) :
    accepted? (definitionParts ctx path (⟨"content", .symbol "closed"⟩ :: fs)) =
      again.map (⟨·, [], true⟩) := by
  have content : accepted? (definitionField ctx path ⟨"content", .symbol "closed"⟩) =
      some ⟨[], [], true⟩ := by
    rw [accepted?_definitionField_content v1]
    rfl
  rw [accepted?_definitionParts_cons, content, read]
  cases again <;> rfl

theorem returnsClosed_nil (v1 : ctx.version = .v1) (path : TreePath) :
    ReturnsClosed ctx path (Parts.closeFields []) := by
  refine ⟨some [], ?_, ?_⟩
  · rw [v1, Parts.closeFields, constraintsFields, constraintFields, memberFields, constraintsFields]
    simp only [fieldsEntries, List.isEmpty_nil, if_true, List.append_nil]
    refine accepted?_closed v1 ?_
    rw [accepted?_definitionParts_nil]
    rfl
  · exact closed_empty v1 (Gauge.Reread.nil _) (by rintro ds ⟨⟩; rfl)

/-- The mark is not about a constraint of another form. -/
theorem returnsClosed_other {c : Constraint} {cs : List Constraint} {path : TreePath}
    (other : c.isFields = false) (first : ConstraintReturns ctx c)
    (others : ReturnsClosed ctx path (Parts.closeFields cs)) :
    ReturnsClosed ctx path (Parts.closeFields (c :: cs)) := by
  obtain ⟨states, e, written, returns⟩ := first
  obtain ⟨rest, read, bag⟩ := others
  refine ⟨(accepted? (constraintOf ctx (path.field c.name) c.name e)).bind
    fun d => rest.map (d :: ·), ?_, ?_⟩
  · rw [closeFields_cons other, constraintsFields, written, List.cons_append, List.nil_append,
      accepted?_definitionParts_cons, accepted?_definitionField_constraint states, read]
    cases accepted? (constraintOf ctx (path.field c.name) c.name e) with
    | none => rfl
    | some d => cases rest <;> rfl
  · rw [closeFields_cons other]
    have all := bag_cons other (returns (path.field c.name)) bag
    cases first : accepted? (constraintOf ctx (path.field c.name) c.name e) with
    | none =>
      rw [first] at all
      exact all
    | some d =>
      have kept : d.isFields = false := by
        rw [isFields_eq, (readAs_of_constraintOf first).name_eq, ← isFields_eq, other]
      rw [first] at all
      cases rest with
      | none => exact all
      | some ds =>
        simp only [Option.bind_some, Option.map_some, closeFields_cons kept] at all ⊢
        exact all

theorem returnsClosed_empty (v1 : ctx.version = .v1) {cs : List Constraint}
    (h : ∀ c ∈ cs, ConstraintReturns ctx c) (path : TreePath) :
    ReturnsClosed ctx path (.fields [] true :: cs) := by
  obtain ⟨again, read, items, names⟩ := constraints_return h path
  refine ⟨again, ?_, closed_empty v1 items names⟩
  rw [v1] at read ⊢
  rw [constraintsFields, constraintFields, memberFields]
  simp only [fieldsEntries, List.isEmpty_nil, if_true, List.cons_append, List.nil_append]
  exact accepted?_closed v1 read

theorem returnsClosed_fields (v1 : ctx.version = .v1) {fs : List FieldArgument}
    {cs : List Constraint} (some : fs ≠ [])
    (h : ∀ c ∈ Constraint.fields fs false :: cs, ConstraintReturns ctx c) (path : TreePath) :
    ReturnsClosed ctx path (.fields fs true :: cs) := by
  obtain ⟨again, read, items, names⟩ := constraints_return h path
  have kept := losesFields_of_returns v1 fun c hc => h c (List.mem_cons_of_mem _ hc)
  refine ⟨again, ?_, closed_fields some kept items names⟩
  have members : (memberFields .v1 fs).isEmpty = false := by
    cases fs with
    | nil => exact absurd rfl some
    | cons f fs =>
      cases f
      rw [memberFields]
      rfl
  rw [v1] at read ⊢
  rw [constraintsFields, constraintFields] at read ⊢
  simp only [fieldsEntries, members, Bool.false_eq_true, if_false, List.cons_append,
    List.nil_append] at read ⊢
  exact accepted?_closed v1 read

/-- What comes of a list that was closed when it was read. -/
theorem closed_return (v1 : ctx.version = .v1) {cs : List Constraint}
    (h : ∀ c ∈ cs, ConstraintReturns ctx c) (path : TreePath) :
    ReturnsClosed ctx path (Parts.closeFields cs) := by
  induction cs with
  | nil => exact returnsClosed_nil v1 path
  | cons c cs ih =>
    have others : ∀ d ∈ cs, ConstraintReturns ctx d := fun d hd => h d (List.mem_cons_of_mem _ hd)
    cases fields : c.isFields with
    | false => exact returnsClosed_other fields (h c (List.mem_cons_self ..)) (ih others)
    | true =>
      cases c with
      | fields fs closed =>
        obtain rfl := opened_of_returns v1 (h _ (List.mem_cons_self ..))
        rw [Parts.closeFields]
        by_cases empty : fs = []
        · subst empty
          exact returnsClosed_empty v1 others path
        · exact returnsClosed_fields v1 empty h path
      | _ => cases fields

/-! ## Definitions -/

theorem has_isOpen {content : List Field} (isOpen : ∀ f ∈ content, ctx.isOpen f.name = true)
    {name : String} (none : ctx.isOpen name = false) : Field.has content name = false := by
  rw [Field.has, List.any_eq_false]
  intro f hf same
  have given := isOpen f hf
  rw [beq_iff_eq.1 same, none] at given
  cases given

theorem has_states {cs : List Constraint} (h : ∀ c ∈ cs, ConstraintReturns ctx c)
    (content : List Field) (closed : Bool) {name : String} (mark : name ≠ "content")
    (fields : name ≠ "fields") (none : ctx.states name = false) :
    Field.has (constraintsFields ctx.version (Parts.definition ⟨cs, content, closed⟩).constraints)
      name = false := by
  have own : ∀ d ∈ cs, d.name ≠ name := by
    intro d hd same
    have states := (h d hd).states
    rw [same, none] at states
    cases states
  refine has_constraintsFields mark fun c hc same => ?_
  cases closed with
  | false => exact own c hc same
  | true =>
    rcases name_of_closeFields hc with closing | ⟨d, hd, equal⟩
    · exact fields (same.symm.trans closing)
    · exact own d hd (equal.trans same)

theorem has_definitionFields (version : IslVersion) (d : TypeDefinition) (name : String) :
    Field.has (definitionFields version d) name =
      (Field.has (constraintsFields version d.constraints) name ||
        Field.has d.openContent name) := by
  cases d with
  | mk cs content =>
    rw [definitionFields, Field.has, List.any_append]
    rfl

theorem states_id (ctx : Context) : ctx.states "id" = false := by
  cases version : ctx.version <;>
    simp [Context.states, Vocabulary.isConstraint, Context.version] at version ⊢ <;>
    simp [version, IslVersion.constraints]

/-- A definition returns when it was put together from constraints that return. -/
theorem definition_returns {cs : List Constraint} {content : List Field} {closed : Bool}
    (h : ∀ c ∈ cs, ConstraintReturns ctx c) (isOpen : ∀ f ∈ content, ctx.isOpen f.name = true)
    (v1 : closed = true → ctx.version = .v1) :
    DefinitionReturns ctx (Parts.definition ⟨cs, content, closed⟩) := by
  have has := has_definitionFields ctx.version (Parts.definition ⟨cs, content, closed⟩)
  refine ⟨?_, ?_, ?_, fun path => ?_⟩
  · rw [has, has_states h _ _ (by decide) (by decide) rfl, Bool.false_or]
    exact has_isOpen isOpen rfl
  · rw [has, has_states h _ _ (by decide) (by decide) rfl, Bool.false_or]
    exact has_isOpen isOpen rfl
  · rw [has, has_states h _ _ (by decide) (by decide) (states_id ctx), Bool.false_or]
  · cases closed with
    | false =>
      obtain ⟨again, read, items, _⟩ := constraints_return h path
      have bag := bag_of_list (fun v1 => losesFields_of_returns v1 h) items
      have whole := definition_of_bag content bag
      rw [Parts.definition, definitionFields, accepted?_definitionParts_append]
      simp only [Bool.false_eq_true, if_false]
      rw [read, open_return isOpen path]
      cases again with
      | none => exact whole
      | some ds => simpa [Parts.append, Parts.definition] using whole
    | true =>
      obtain ⟨again, read, bag⟩ := closed_return (v1 rfl) h path
      have whole := definition_of_bag content bag
      rw [Parts.definition, definitionFields, accepted?_definitionParts_append]
      simp only [if_true]
      rw [read, open_return isOpen path]
      cases again with
      | none => exact whole
      | some ds => simpa [Parts.append, Parts.definition] using whole

end
end Isl.Writer
