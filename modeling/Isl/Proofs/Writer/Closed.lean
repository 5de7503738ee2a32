import Isl.Proofs.Equivalence
import Isl.Proofs.Writer.Read
/-!
# Closed content of version 1.0 is written to be read

What a definition says about the fields of structs can be followed by itself: it is written as the
fields `fields` and `content`, and read again from those, whatever stands beside them. So it comes
back exactly if it lasts.

* `accepted?_onClosing`: reading these fields alone gives the `fields` constraints alone;
* `constraintsFields_onClosing`: the `fields` constraints alone are written as these fields;
* `fieldsOnly_reread`: what comes of them when a definition is written and read again;
* `typeDefinition_fields_written_iff`: exactly when they come back equal, closed flags included.
-/
namespace Isl

/-- What a definition says about the fields of structs. -/
def TypeDefinition.fieldsOnly (d : TypeDefinition) : TypeDefinition :=
  ⟨d.constraints.filter Constraint.isFields, []⟩

theorem Constraint.losesFields_filter (cs : List Constraint) :
    losesFields (cs.filter isFields) = losesFields cs := by
  induction cs with
  | nil => rfl
  | cons c cs ih =>
    cases fields : c.isFields with
    | false =>
      rw [List.filter_cons_of_neg (by simp [fields]), ih]
      cases c <;> first | rfl | cases fields
    | true =>
      rw [List.filter_cons_of_pos fields]
      have alike : (cs.filter isFields).any isFields = cs.any isFields := by
        simp [List.any_filter]
      cases c with
      | fields fs closed =>
        cases fs with
        | nil =>
          cases closed with
          | true => exact alike
          | false => exact ih
        | cons f fs => exact ih
      | _ => cases fields

theorem Gauge.Reread.same_iff {α : Type} {g : Gauge α} {a b : α} (r : g.Reread a (some b))
    (weighs : g.same a b = true → g.weight b = g.weight a) :
    g.same a b = true ↔ g.lasts a = true := by
  constructor
  · intro same
    by_contra gone
    have less := r.lighter (Bool.not_eq_true _ ▸ gone) b rfl
    exact absurd (weighs same) (Nat.ne_of_lt less)
  · intro lasts
    obtain ⟨c, found, same, -⟩ := r.equal lasts
    injection found with found
    exact found ▸ same

namespace Writer
open Reader

/-- The fields that closed content is stated by. -/
def onClosing (f : Field) : Bool := f.name == "fields" || f.name == "content"

theorem name_ne_content (c : Constraint) : c.name ≠ "content" := by
  cases c with
  | measure r => cases h : r.measure <;> simp [Constraint.name, h, Measure.name]
  | _ => simp [Constraint.name]

theorem closeFields_filter (cs : List Constraint) :
    (Parts.closeFields cs).filter Constraint.isFields =
      Parts.closeFields (cs.filter Constraint.isFields) := by
  induction cs with
  | nil => rfl
  | cons c cs ih =>
    cases fields : c.isFields with
    | true =>
      cases c with
      | fields fs closed => rfl
      | _ => cases fields
    | false =>
      rw [closeFields_cons fields, List.filter_cons_of_neg (by simp [fields]), ih,
        List.filter_cons_of_neg (by simp [fields])]

theorem fieldsOnly_definition (p : Parts) :
    p.definition.fieldsOnly =
      (Parts.mk (p.constraints.filter Constraint.isFields) [] p.contentClosed).definition := by
  obtain ⟨cs, content, closed⟩ := p
  cases closed with
  | false => rfl
  | true =>
    simp only [Parts.definition, TypeDefinition.fieldsOnly, if_true, closeFields_filter]

/-! ## What is written -/

theorem constraintFields_onClosing (c : Constraint) :
    (constraintFields .v1 c).filter onClosing =
      if c.isFields then constraintFields .v1 c else [] := by
  cases c with
  | fields fs closed =>
    rw [constraintFields, fieldsEntries.eq_def]
    cases closed with
    | false => rfl
    | true => cases (memberFields .v1 fs).isEmpty <;> rfl
  | measure r =>
    rw [constraintFields]
    cases h : r.measure <;> rfl
  | _ =>
    rw [constraintFields]
    rfl

theorem constraintsFields_onClosing (cs : List Constraint) :
    (constraintsFields .v1 cs).filter onClosing =
      constraintsFields .v1 (cs.filter Constraint.isFields) := by
  induction cs with
  | nil => rw [constraintsFields, List.filter_nil, List.filter_nil, constraintsFields]
  | cons c cs ih =>
    rw [constraintsFields, List.filter_append, constraintFields_onClosing, ih]
    cases fields : c.isFields with
    | true => rw [if_pos rfl, List.filter_cons_of_pos fields, constraintsFields]
    | false =>
      rw [if_neg (by decide), List.filter_cons_of_neg (by simp [fields])]
      rfl

/-! ## What is read -/

section
variable {ctx : Context} {path : TreePath} {fs : List Field}

/-- Neither of these fields is open content. -/
theorem remains_onClosing (v1 : ctx.version = .v1) {f : Field} (closing : onClosing f = true) :
    ctx.remains f.name = false := by
  have version : ctx.vocabulary.version = .v1 := v1
  rw [onClosing, Bool.or_eq_true, beq_iff_eq, beq_iff_eq] at closing
  rcases closing with named | named
  · simp [named, Context.remains, Vocabulary.isConstraint, version, IslVersion.constraints]
  · simp [named, Context.remains, Context.leavesOut, v1]

theorem accepted?_onClosing (v1 : ctx.version = .v1) {p : Parts}
    (h : accepted? (definitionParts ctx path fs) = some p) :
    accepted? (definitionParts ctx path (fs.filter onClosing)) =
      some ⟨p.constraints.filter Constraint.isFields, [], p.contentClosed⟩ := by
  obtain ⟨admits, constraints, openContent, contentClosed⟩ := accepted?_definitionParts_iff.1 h
  refine accepted?_definitionParts_iff.2 ⟨fun f mem => admits f (List.mem_of_mem_filter mem), ?_⟩
  have named (f : Field) (c : Constraint)
      (read : accepted? (constraintOf ctx (path.field f.name) f.name f.value) = some c) :
      onClosing f = true ↔ c.isFields = true := by
    have name := (readAs_of_constraintOf read).name_eq
    simp [onClosing, isFields_eq, ← name, name_ne_content c]
  refine ⟨?_, ?_, ?_⟩
  · rw [List.filter_comm]
    exact List.rel_filter named constraints
  · refine (List.filter_eq_nil_iff.2 fun f mem => ?_).symm
    simp [remains_onClosing v1 (List.of_mem_filter mem)]
  · rw [contentClosed]
    have found : Field.has (fs.filter onClosing) "content" = Field.has fs "content" := by
      rw [Field.has, List.any_filter]
      congr 1
      funext f
      cases named : f.name == "content" <;> simp [onClosing, named]
    rw [Context.closesContent, Context.closesContent, found]

/-! ## Written and read again -/

theorem definitionFields_onClosing (v1 : ctx.version = .v1) {d : TypeDefinition}
    (isOpen : ∀ f ∈ d.openContent, ctx.isOpen f.name = true) :
    (definitionFields .v1 d).filter onClosing = definitionFields .v1 d.fieldsOnly := by
  obtain ⟨cs, content⟩ := d
  have none : content.filter onClosing = [] := by
    refine List.filter_eq_nil_iff.2 fun f mem closing => ?_
    have here := isOpen f mem
    rw [ctx.isOpen_eq, remains_onClosing v1 closing] at here
    cases here
  rw [definitionFields, List.filter_append, constraintsFields_onClosing, none]
  rw [TypeDefinition.fieldsOnly, definitionFields]

/-- What a definition says about the fields of structs, after it is written and read again. -/
theorem fieldsOnly_reread (v1 : ctx.version = .v1) {failFast : Bool} {path' : TreePath}
    {p q : Parts}
    (read : accepted? (definitionParts { ctx with failFast } path fs) = some p)
    (again : accepted? (definitionParts ctx path' (definitionFields .v1 p.definition)) = some q) :
    (definitionGauge .v1).Reread p.definition.fieldsOnly (some q.definition.fieldsOnly) := by
  have parts := returns_definitionParts path fs read
  have alone := accepted?_onClosing v1 again
  rw [definitionFields_onClosing v1 parts.isOpen] at alone
  have returns : DefinitionReturns ctx p.definition.fieldsOnly := by
    rw [fieldsOnly_definition]
    exact definition_returns (fun c mem => parts.constraints c (List.mem_of_mem_filter mem)) nofun
      parts.closed
  have reread := returns.again path'
  rw [v1, alone, Option.map_some, ← fieldsOnly_definition] at reread
  exact reread

end

theorem fieldsOnly_lasts_iff (d : TypeDefinition) :
    d.fieldsOnly.lasts .v1 = true ↔
      (∀ c ∈ d.constraints.filter Constraint.isFields, c.lasts .v1 = true) ∧
        Constraint.losesFields d.constraints = false := by
  rw [TypeDefinition.fieldsOnly, TypeDefinition.lasts, Constraint.losesFields_filter,
    ← Constraint.lasts_list, Bool.and_eq_true, Gauge.list, List.all_eq_true]
  simp [constraintGauge]

theorem fieldsOnly_same_iff (d e : TypeDefinition) :
    d.fieldsOnly.same e.fieldsOnly = true ↔
      ∃ cs, List.Forall₂ (fun c c' => c.same c' = true)
          (d.constraints.filter Constraint.isFields) cs ∧
        cs.Perm (e.constraints.filter Constraint.isFields) := by
  have content : Bag.sameItems Field.same [] [] = true := rfl
  rw [TypeDefinition.same_eq]
  simp only [TypeDefinition.fieldsOnly, content, Bool.and_true]
  constructor
  · exact Bag.exists_perm
  · rintro ⟨cs, each, perm⟩
    exact Bag.sameItems_of_perm Constraint.same_self (fun c _ => Constraint.isClass c) each perm

/-- A definition of version 1.0 that reads, whatever `content` and `fields` stand in it and in
which order, and what its `fields` constraints are when it is written and read again. They come back
equal, with the same closed flags, exactly if each of them lasts and none that is closed and empty
stands in front of another one. -/
theorem typeDefinition_fields_written_iff {ctx : Context} (v1 : ctx.version = .v1)
    {path : TreePath} {fs : List Field} {d : TypeDefinition}
    (read : finish path (typeDefinition ctx path fs) = .ok d) (failFast : Bool)
    (path' : TreePath) :
    (d.lasts .v1 = true → ∃ e, finish path'
        (typeDefinition { ctx with failFast } path' (definitionFields .v1 d)) = .ok e) ∧
      ∀ e, finish path'
          (typeDefinition { ctx with failFast } path' (definitionFields .v1 d)) = .ok e →
        ((∃ cs, List.Forall₂ (fun c c' => c.same c' = true)
              (d.constraints.filter Constraint.isFields) cs ∧
            cs.Perm (e.constraints.filter Constraint.isFields)) ↔
          (∀ c ∈ d.constraints.filter Constraint.isFields, c.lasts .v1 = true) ∧
            Constraint.losesFields d.constraints = false) := by
  rw [finish_eq_ok_iff, typeDefinition] at read
  obtain ⟨p, parts, rfl⟩ := accepted?_bind_pure_eq_some_iff.1 read
  simp only [finish_eq_ok_iff, typeDefinition, accepted?_bind_pure]
  have version : ({ ctx with failFast } : Context).version = .v1 := v1
  refine ⟨fun lasts => ?_, fun e again => ?_⟩
  · have returns : PartsReturn { ctx with failFast } fs p := returns_definitionParts path fs parts
    have reread := returns.definition.again path'
    rw [version] at reread
    obtain ⟨e, again, -⟩ := reread.equal lasts
    exact ⟨e, again⟩
  · obtain ⟨q, reparts, rfl⟩ := Option.map_eq_some_iff.1 again
    have reread := fieldsOnly_reread version parts reparts
    rw [← fieldsOnly_same_iff, ← fieldsOnly_lasts_iff]
    exact reread.same_iff TypeDefinition.weight_of_same

/-- The reading of a type of version 1.0 by itself. -/
def unmarkedContext : Context := Dialect.standard.context .v1 true

/-- `{ fields: { x: int }, content: closed, fields: {} }` -/
def emptyFieldsLast : List Field :=
  [⟨"fields", .struct [⟨"x", .symbol "int"⟩]⟩, ⟨"content", .symbol "closed"⟩,
    ⟨"fields", .struct []⟩]

/-- `{ fields: {}, fields: { x: int }, content: closed }` -/
def emptyFieldsFirst : List Field :=
  [⟨"fields", .struct []⟩, ⟨"fields", .struct [⟨"x", .symbol "int"⟩]⟩,
    ⟨"content", .symbol "closed"⟩]

def closedMember (closed : Bool) : Constraint :=
  .fields [⟨"x", ⟨.optional, .reference "int" .unmarked⟩⟩] closed

/-- An empty constraint comes back behind the one that is closed. In front of it, it is closed and
left out, and the other one is closed in its place. -/
theorem typeDefinition_fields_written_cases :
    (∃ d e, finish .root (typeDefinition unmarkedContext .root emptyFieldsLast) = .ok d ∧
      finish .root (typeDefinition unmarkedContext .root (definitionFields .v1 d)) = .ok e ∧
      ∃ cs, List.Forall₂ (fun c c' => c.same c' = true)
          (d.constraints.filter Constraint.isFields) cs ∧
        cs.Perm (e.constraints.filter Constraint.isFields)) ∧
    ∃ d e, finish .root (typeDefinition unmarkedContext .root emptyFieldsFirst) = .ok d ∧
      finish .root (typeDefinition unmarkedContext .root (definitionFields .v1 d)) = .ok e ∧
      ¬∃ cs, List.Forall₂ (fun c c' => c.same c' = true)
          (d.constraints.filter Constraint.isFields) cs ∧
        cs.Perm (e.constraints.filter Constraint.isFields) := by
  have last : finish .root (typeDefinition unmarkedContext .root emptyFieldsLast) =
      .ok ⟨[closedMember true, .fields [] false], []⟩ := rfl
  have lastAgain : finish .root (typeDefinition unmarkedContext .root
      (definitionFields .v1 ⟨[closedMember true, .fields [] false], []⟩)) =
      .ok ⟨[closedMember true, .fields [] false], []⟩ := rfl
  have first : finish .root (typeDefinition unmarkedContext .root emptyFieldsFirst) =
      .ok ⟨[.fields [] true, closedMember false], []⟩ := rfl
  have firstAgain : finish .root (typeDefinition unmarkedContext .root
      (definitionFields .v1 ⟨[.fields [] true, closedMember false], []⟩)) =
      .ok ⟨[closedMember true], []⟩ := rfl
  refine ⟨⟨_, _, last, lastAgain, ?_⟩, ⟨_, _, first, firstAgain, ?_⟩⟩
  · exact ((typeDefinition_fields_written_iff rfl last true .root).2 _ lastAgain).2
      (by decide +kernel)
  · intro same
    exact absurd (((typeDefinition_fields_written_iff rfl first true .root).2 _ firstAgain).1 same)
      (by decide +kernel)

end Writer
end Isl
