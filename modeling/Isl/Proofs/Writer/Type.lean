import Isl.Proofs.Reader.Sorting
import Isl.Proofs.Reader.Type
import Isl.Proofs.Writer.Lasts
import Isl.Proofs.Writer.Leaf
/-!
# Types are written to be read

What it means that a model returns: it is written in a form from which the reader gets an equal
model if the model lasts, and at most a lighter one if not. Models made of parts that return do
return (`argument_inline`, `constraint_fields`, `definition_returns` and so on), one lemma for each
form.
-/
namespace Isl.Writer
open Reader

/-! ## Marks -/

/-- A nullability that arguments can be marked with. -/
def Fits (version : IslVersion) (n : Nullability) : Prop :=
  n = .unmarked ∨ n = (nullMarker version).2

theorem fits_nullabilityOf (version : IslVersion) (e : Element) :
    Fits version (nullabilityOf version e) := by
  unfold nullabilityOf
  split
  · exact .inr rfl
  · exact .inl rfl

theorem withMarker_eq (n : Nullability) (v : Value) :
    withMarker n (.ofValue v) = ⟨n.marker?.toList, v⟩ := by
  cases n <;> rfl

theorem annotations_argumentElement (version : IslVersion) (a : TypeArgument) :
    (argumentElement version a).annotations = a.nullability.marker?.toList := by
  cases a <;> rw [argumentElement] <;> exact congrArg Element.annotations (withMarker_eq _ _)

theorem onlyAnnotated_marker {version : IslVersion} {n : Nullability} (fits : Fits version n)
    (v : Value) : onlyAnnotated ⟨n.marker?.toList, v⟩ [(nullMarker version).1] = true := by
  rcases fits with rfl | rfl
  · rfl
  · cases version <;> rfl

theorem nullabilityOf_marker {version : IslVersion} {n : Nullability} (fits : Fits version n)
    (v : Value) : nullabilityOf version ⟨n.marker?.toList, v⟩ = n := by
  rcases fits with rfl | rfl
  · cases version <;> rfl
  · cases version <;> rfl

/-! ## Models that return -/

section
variable (ctx : Context)

structure ArgumentReturns (a : TypeArgument) : Prop where
  fits : Fits ctx.version a.nullability
  uncounted : Field.has ((argumentElement ctx.version a).struct?.getD []) "occurs" = false
  native : a.looksImported = false
  again : ∀ path, (argumentGauge ctx.version).Reread a
    (accepted? (typeArgument ctx path (argumentElement ctx.version a).annotations
      (argumentElement ctx.version a).value))

structure DefinitionReturns (d : TypeDefinition) : Prop where
  unnamed : Field.has (definitionFields ctx.version d) "name" = false
  uncounted : Field.has (definitionFields ctx.version d) "occurs" = false
  marked : Field.has (definitionFields ctx.version d) "id" = Field.has d.openContent "id"
  again : ∀ path, (definitionGauge ctx.version).Reread d
    ((accepted? (definitionParts ctx path (definitionFields ctx.version d))).map Parts.definition)

/-- A constraint that is written as one field. -/
structure ConstraintReturns (c : Constraint) : Prop where
  states : ctx.states c.name = true
  again : ∃ e, constraintFields ctx.version c = [⟨c.name, e⟩] ∧
    ∀ path, (constraintGauge ctx.version).Reread c (accepted? (constraintOf ctx path c.name e))

def OccurringReturns (byDefault : IntRange) (o : OccurringArgument) : Prop :=
  ∀ path, (occurringGauge ctx.version byDefault).Reread o
    (accepted? (occurringArgument ctx path byDefault (occurringElement ctx.version byDefault o)))

end

/-! ## Arguments -/

section
variable {ctx : Context}

theorem argument_reference {n : Nullability} (name : String) (fits : Fits ctx.version n) :
    ArgumentReturns ctx (.reference name n) := by
  have written : argumentElement ctx.version (.reference name n) =
      ⟨n.marker?.toList, .symbol name⟩ := by
    rw [argumentElement]
    exact withMarker_eq n _
  refine ⟨fits, ?_, rfl, fun path => ?_⟩
  · rw [written]
    rfl
  · rw [written, accepted?_typeArgument_word (by simp), if_pos (onlyAnnotated_marker fits _)]
    simp only [Element.symbol?, Option.map_some, nullabilityOf_marker fits]
    refine Gauge.Reread.self ?_ ?_
    · simp [argumentGauge, TypeArgument.lasts]
    · simp [argumentGauge, TypeArgument.same]

theorem argument_imported {n : Nullability} (id typeName : String) (fits : Fits ctx.version n) :
    ArgumentReturns ctx (.imported id typeName n) := by
  have written : argumentElement ctx.version (.imported id typeName n) =
      ⟨n.marker?.toList, .struct [⟨"id", .string id⟩, ⟨"type", .symbol typeName⟩]⟩ := by
    rw [argumentElement]
    exact withMarker_eq n _
  have read : inlineImport ctx.version
      ⟨n.marker?.toList, .struct [⟨"id", .string id⟩, ⟨"type", .symbol typeName⟩]⟩
      [⟨"id", .string id⟩, ⟨"type", .symbol typeName⟩] = .ok (.imported id typeName n) := by
    simp [inlineImport, require, requiredField, optionalField, Field.getAll, Shape.admits,
      Element.string, Element.symbol, Element.ofValue, textOf, Element.text?, Element.symbol?,
      nullabilityOf_marker fits, bind, Except.bind]
  refine ⟨fits, ?_, rfl, fun path => ?_⟩
  · rw [written]
    rfl
  · rw [written, accepted?_typeArgument_struct, if_pos (onlyAnnotated_marker fits _),
      if_pos (by rfl), read]
    refine Gauge.Reread.self ?_ ?_
    · simp [argumentGauge, TypeArgument.lasts]
    · simp [argumentGauge, TypeArgument.same]

theorem argument_inline {d : TypeDefinition} {n : Nullability} (returns : DefinitionReturns ctx d)
    (native : Field.has d.openContent "id" = false) (fits : Fits ctx.version n) :
    ArgumentReturns ctx (.inline d n) := by
  have written : argumentElement ctx.version (.inline d n) =
      ⟨n.marker?.toList, .struct (definitionFields ctx.version d)⟩ := by
    rw [argumentElement]
    exact withMarker_eq n _
  refine ⟨fits, ?_, native, fun path => ?_⟩
  · rw [written]
    exact returns.uncounted
  · rw [written, accepted?_typeArgument_struct, if_pos (onlyAnnotated_marker fits _),
      if_neg (by simp [returns.marked, native]),
      if_neg (by simp [returns.unnamed, returns.uncounted]), nullabilityOf_marker fits]
    have around := (returns.again path).map (h := argumentGauge ctx.version) (.inline · n) 1
      (by simp [argumentGauge, definitionGauge, TypeArgument.lasts])
      (fun b => by simp [argumentGauge, definitionGauge, TypeArgument.same])
      (fun b => by simp [argumentGauge, definitionGauge, TypeArgument.weight])
    rw [Option.map_map] at around
    exact around


/-! ## Occurrences -/

/-- An argument that occurs as it does by default is written alone. -/
theorem occurring_plain {a : TypeArgument} (byDefault : IntRange)
    (returns : ArgumentReturns ctx a) :
    OccurringReturns ctx byDefault ⟨byDefault, a⟩ := by
  intro path
  have written : occurringElement ctx.version byDefault ⟨byDefault, a⟩ =
      argumentElement ctx.version a := by
    cases a with
    | inline d n =>
      cases n with
      | unmarked => rw [occurringElement, if_pos rfl, argumentElement]; rfl
      | _ =>
        rw [occurringElement, if_pos rfl]
        simp
    | _ =>
      rw [occurringElement, if_pos rfl]
      simp
  rw [written, accepted?_occurringArgument_plain ctx path byDefault returns.uncounted]
  refine (returns.again path).map (OccurringArgument.mk byDefault) 0 ?_ (fun b => ?_) fun b => ?_
  · simp [occurringGauge, argumentGauge, OccurringArgument.lasts, returns.native]
  · simp [occurringGauge, argumentGauge, OccurringArgument.same]
  · simp [occurringGauge, argumentGauge, OccurringArgument.weight]

theorem has_cons (name : String) (e : Element) (fs : List Field) (other : String) :
    Field.has (⟨name, e⟩ :: fs) other = (name == other || Field.has fs other) := rfl

theorem getAll_of_not_has {fs : List Field} {name : String} (h : Field.has fs name = false) :
    Field.getAll fs name = [] := by
  rw [Field.getAll, List.map_eq_nil_iff, List.filter_eq_nil_iff]
  intro f hf same
  rw [Field.has, List.any_eq_false] at h
  exact h f hf same

/-- A type in place that says how often it occurs. -/
theorem occurring_counted {d : TypeDefinition} {byDefault occurs : IntRange}
    (returns : DefinitionReturns ctx d) (counts : Counts occurs) (other : occurs ≠ byDefault) :
    OccurringReturns ctx byDefault ⟨occurs, .inline d .unmarked⟩ := by
  intro path
  have written : occurringElement ctx.version byDefault ⟨occurs, .inline d .unmarked⟩ =
      ⟨[], .struct (⟨"occurs", occursElement occurs⟩ :: definitionFields ctx.version d)⟩ := by
    rw [occurringElement, if_neg other]
    rfl
  have read : occursOf
      ⟨[], .struct (⟨"occurs", occursElement occurs⟩ :: definitionFields ctx.version d)⟩
      (⟨"occurs", occursElement occurs⟩ :: definitionFields ctx.version d) = .ok occurs := by
    have single : Field.getAll (⟨"occurs", occursElement occurs⟩ ::
        definitionFields ctx.version d) "occurs" = [occursElement occurs] := by
      have none := getAll_of_not_has returns.uncounted
      simpa [Field.getAll] using none
    have unnamed : Field.has (⟨"occurs", occursElement occurs⟩ ::
        definitionFields ctx.version d) "name" = false := by
      rw [has_cons, returns.unnamed]
      rfl
    simp [occursOf, require, single, unnamed, occursRange_occursElement counts, bind, Except.bind]
  have lasts : (occurs == byDefault) = false := by simpa using other
  rw [written, accepted?_occurringArgument_struct _ _ _ (by rw [has_cons]; rfl), read,
    accepted?_definitionParts_cons, accepted?_definitionField_skipped (.inr rfl)]
  have around := (returns.again path).map (h := occurringGauge ctx.version byDefault)
    (fun e => ⟨occurs, .inline e .unmarked⟩) 1
    (by simp [occurringGauge, definitionGauge, OccurringArgument.lasts, TypeArgument.lasts, lasts])
    (fun b => by
      simp [occurringGauge, definitionGauge, OccurringArgument.same, TypeArgument.same])
    (fun b => by
      simp [occurringGauge, definitionGauge, OccurringArgument.weight, TypeArgument.weight])
  rw [Option.map_map] at around
  have skipped : Parts.append .empty = id := funext Parts.empty_append
  simp only [Except.toOption, Option.bind_some, skipped, Option.map_id, id]
  exact around

/-- Without its `occurs`, a type in place with an open field `id` is taken for an import. -/
theorem occurring_taken {d : TypeDefinition} (byDefault : IntRange)
    (returns : DefinitionReturns ctx d) (marked : Field.has d.openContent "id" = true) :
    OccurringReturns ctx byDefault ⟨byDefault, .inline d .unmarked⟩ := by
  intro path
  have written : occurringElement ctx.version byDefault ⟨byDefault, .inline d .unmarked⟩ =
      ⟨[], .struct (definitionFields ctx.version d)⟩ := by
    rw [occurringElement, if_pos rfl]
    rfl
  have gone : (occurringGauge ctx.version byDefault).lasts ⟨byDefault, .inline d .unmarked⟩ =
      false := by
    simp [occurringGauge, OccurringArgument.lasts, TypeArgument.looksImported, marked]
  rw [written, accepted?_occurringArgument_plain ctx path byDefault (by exact returns.uncounted),
    accepted?_typeArgument_struct, if_pos (by rfl), if_pos (returns.marked.trans marked)]
  refine ⟨fun lasts => by simp [gone] at lasts, fun _ o read => ?_⟩
  obtain ⟨a, imported, rfl⟩ := Option.map_eq_some_iff.1 read
  obtain ⟨id, typeName, rfl⟩ := inlineImport_ok (toOption_eq_some_iff.1 imported)
  simp [occurringGauge, OccurringArgument.weight, TypeArgument.weight]

theorem occurring_definition {d : TypeDefinition} {byDefault occurs : IntRange}
    (returns : DefinitionReturns ctx d) (counts : Counts occurs) :
    OccurringReturns ctx byDefault ⟨occurs, .inline d .unmarked⟩ := by
  by_cases same : occurs = byDefault
  · subst same
    cases marked : Field.has d.openContent "id" with
    | true => exact occurring_taken occurs returns marked
    | false => exact occurring_plain occurs (argument_inline returns marked (.inl rfl))
  · exact occurring_counted returns counts same

end
end Isl.Writer
