import Isl.Model.Mention
/-!
# What a type holds at any depth

A type takes types under several constraints, and types in place take more. What is mentioned is
exactly what is held at some depth, and every schema that is imported there is among the imports.

* `Constraint.Takes`, `TypeDefinition.Holds`: the type arguments of a constraint, and those of a
  definition at any depth;
* `TypeDefinition.mem_mentions_iff`: mentions are the names and imports that are held;
* `TypeDefinition.mem_importIds`: an import that is held is among the ids of imported schemas;
* `SchemaDocument.mem_importIds_iff`: these are the ids in the header and in types, and no others.
-/
namespace Isl

/-- A constraint takes a type argument. -/
inductive Constraint.Takes : Constraint → TypeArgument → Prop where
  | allOf {as : List TypeArgument} {a : TypeArgument} (mem : a ∈ as) : Takes (.allOf as) a
  | anyOf {as : List TypeArgument} {a : TypeArgument} (mem : a ∈ as) : Takes (.anyOf as) a
  | oneOf {as : List TypeArgument} {a : TypeArgument} (mem : a ∈ as) : Takes (.oneOf as) a
  | type (a : TypeArgument) : Takes (.type a) a
  | not (a : TypeArgument) : Takes (.not a) a
  | element (a : TypeArgument) (distinct : Bool) : Takes (.element a distinct) a
  | fieldNames (a : TypeArgument) (distinct : Bool) : Takes (.fieldNames a distinct) a
  | fields {fs : List FieldArgument} {closed : Bool} {f : FieldArgument} (mem : f ∈ fs) :
      Takes (.fields fs closed) f.argument.argument
  | orderedElements {os : List OccurringArgument} {o : OccurringArgument} (mem : o ∈ os) :
      Takes (.orderedElements os) o.argument
  | annotationType (a : TypeArgument) : Takes (.annotationType a) a

/-- A definition holds a type argument at some depth. -/
inductive TypeDefinition.Holds : TypeDefinition → TypeArgument → Prop where
  | direct {d : TypeDefinition} {c : Constraint} {a : TypeArgument} (mem : c ∈ d.constraints)
      (takes : c.Takes a) : Holds d a
  | nested {d e : TypeDefinition} {c : Constraint} {n : Nullability} {a : TypeArgument}
      (mem : c ∈ d.constraints) (takes : c.Takes (.inline e n)) (deep : Holds e a) : Holds d a

/-- A document holds a type argument, at some depth of a type that it declares. -/
def SchemaDocument.Holds (d : SchemaDocument) (a : TypeArgument) : Prop :=
  ∃ t ∈ d.types, t.definition.Holds a

/-- What an argument mentions itself. -/
def TypeArgument.mention? : TypeArgument → Option Mention
  | .reference name _ => some (.name name)
  | .imported schemaId typeName _ => some (.imported schemaId typeName)
  | .inline _ _ => none

/-! ## Lists of arguments -/

theorem TypeArgument.mentionsAll_eq (as : List TypeArgument) :
    mentionsAll as = as.flatMap mentions := by
  induction as with
  | nil => rfl
  | cons a as ih => simp [mentionsAll, ih]

theorem OccurringArgument.mentionsAll_eq (os : List OccurringArgument) :
    mentionsAll os = os.flatMap (·.argument.mentions) := by
  induction os with
  | nil => rfl
  | cons o os ih =>
    obtain ⟨occurs, a⟩ := o
    simp [mentionsAll, mentions, ih]

theorem FieldArgument.mentionsAll_eq (fs : List FieldArgument) :
    mentionsAll fs = fs.flatMap (·.argument.argument.mentions) := by
  induction fs with
  | nil => rfl
  | cons f fs ih =>
    obtain ⟨name, occurs, a⟩ := f
    simp [mentionsAll, mentions, OccurringArgument.mentions, ih]

theorem Constraint.mentionsAll_eq (cs : List Constraint) :
    mentionsAll cs = cs.flatMap mentions := by
  induction cs with
  | nil => rfl
  | cons c cs ih => simp [mentionsAll, ih]

theorem TypeArgument.mem_deepImportIdsAll {as : List TypeArgument} {i : String} :
    i ∈ deepImportIdsAll as ↔ ∃ a ∈ as, i ∈ a.deepImportIds := by
  induction as with
  | nil => simp [deepImportIdsAll]
  | cons a as ih => simp [deepImportIdsAll, ih, or_comm]

theorem OccurringArgument.mem_deepImportIdsAll {os : List OccurringArgument} {i : String} :
    i ∈ deepImportIdsAll os ↔ ∃ o ∈ os, i ∈ o.argument.deepImportIds := by
  induction os with
  | nil => simp [deepImportIdsAll]
  | cons o os ih =>
    obtain ⟨occurs, a⟩ := o
    simp [deepImportIdsAll, deepImportIds, ih, or_comm]

theorem FieldArgument.mem_deepImportIdsAll {fs : List FieldArgument} {i : String} :
    i ∈ deepImportIdsAll fs ↔ ∃ f ∈ fs, i ∈ f.argument.argument.deepImportIds := by
  induction fs with
  | nil => simp [deepImportIdsAll]
  | cons f fs ih =>
    obtain ⟨name, occurs, a⟩ := f
    simp [deepImportIdsAll, deepImportIds, OccurringArgument.deepImportIds, ih, or_comm]

theorem Constraint.mem_deepImportIdsAll {cs : List Constraint} {i : String} :
    i ∈ deepImportIdsAll cs ↔ ∃ c ∈ cs, i ∈ c.deepImportIds := by
  induction cs with
  | nil => simp [deepImportIdsAll]
  | cons c cs ih => simp [deepImportIdsAll, ih, or_comm]

/-! ## The arguments of a constraint -/

namespace Constraint

theorem takes_iff {c : Constraint} {a : TypeArgument} : c.Takes a ↔ a ∈ c.arguments := by
  constructor
  · intro takes
    cases takes with
    | allOf mem => exact mem
    | anyOf mem => exact mem
    | oneOf mem => exact mem
    | type => exact List.mem_singleton.2 rfl
    | not => exact List.mem_singleton.2 rfl
    | element => exact List.mem_singleton.2 rfl
    | fieldNames => exact List.mem_singleton.2 rfl
    | fields mem => exact List.mem_map_of_mem (f := fun f => f.argument.argument) mem
    | orderedElements mem => exact List.mem_map_of_mem (f := fun o => o.argument) mem
    | annotationType => exact List.mem_singleton.2 rfl
  · intro mem
    cases c with
    | allOf as => exact .allOf mem
    | anyOf as => exact .anyOf mem
    | oneOf as => exact .oneOf mem
    | type b => exact List.mem_singleton.1 mem ▸ .type b
    | not b => exact List.mem_singleton.1 mem ▸ .not b
    | element b distinct => exact List.mem_singleton.1 mem ▸ .element b distinct
    | fieldNames b distinct => exact List.mem_singleton.1 mem ▸ .fieldNames b distinct
    | fields fs closed =>
      obtain ⟨f, listed, rfl⟩ := List.mem_map.1 mem
      exact .fields listed
    | orderedElements os =>
      obtain ⟨o, listed, rfl⟩ := List.mem_map.1 mem
      exact .orderedElements listed
    | annotationType b => exact List.mem_singleton.1 mem ▸ .annotationType b
    | annotationList | annotationSet | contains | regex | validValues | timestampPrecision
    | timestampOffset | ieee754Float | measure => cases mem

theorem mentions_eq (c : Constraint) : c.mentions = c.arguments.flatMap TypeArgument.mentions := by
  cases c <;>
    simp [mentions, arguments, TypeArgument.mentionsAll_eq, FieldArgument.mentionsAll_eq,
      OccurringArgument.mentionsAll_eq, List.flatMap_map]

theorem mem_deepImportIds {c : Constraint} {i : String} :
    i ∈ c.deepImportIds ↔ ∃ a ∈ c.arguments, i ∈ a.deepImportIds := by
  have through : ∀ {α : Type} (f : α → TypeArgument) (xs : List α),
      (∃ x ∈ xs, i ∈ (f x).deepImportIds) ↔ ∃ a ∈ xs.map f, i ∈ a.deepImportIds := by
    intro α f xs
    constructor
    · rintro ⟨x, mem, deep⟩
      exact ⟨f x, List.mem_map_of_mem mem, deep⟩
    · rintro ⟨a, mem, deep⟩
      obtain ⟨x, listed, rfl⟩ := List.mem_map.1 mem
      exact ⟨x, listed, deep⟩
  cases c with
  | fields fs closed =>
    rw [deepImportIds, FieldArgument.mem_deepImportIdsAll]
    exact through (fun f => f.argument.argument) fs
  | orderedElements os =>
    rw [deepImportIds, OccurringArgument.mem_deepImportIdsAll]
    exact through (fun o => o.argument) os
  | _ => simp [deepImportIds, arguments, TypeArgument.mem_deepImportIdsAll]

theorem Takes.sizeOf_lt {c : Constraint} {a : TypeArgument} (takes : c.Takes a) :
    sizeOf a < sizeOf c := by
  cases takes with
  | allOf mem | anyOf mem | oneOf mem =>
    have smaller := List.sizeOf_lt_of_mem mem
    simp only [allOf.sizeOf_spec, anyOf.sizeOf_spec, oneOf.sizeOf_spec]
    omega
  | type | not | annotationType => simp
  | element | fieldNames =>
    simp only [element.sizeOf_spec, fieldNames.sizeOf_spec]
    omega
  | @fields fs closed f mem =>
    have smaller := List.sizeOf_lt_of_mem mem
    obtain ⟨name, occurs, a⟩ := f
    simp at smaller ⊢
    omega
  | @orderedElements os o mem =>
    have smaller := List.sizeOf_lt_of_mem mem
    obtain ⟨occurs, a⟩ := o
    simp at smaller ⊢
    omega

end Constraint

/-! ## Definitions -/

namespace TypeDefinition

/-- What passes from the types in place within a definition to the definition holds of all. -/
theorem nested_induction {P : TypeDefinition → Prop}
    (step : ∀ d : TypeDefinition,
      (∀ c ∈ d.constraints, ∀ e n, c.Takes (.inline e n) → P e) → P d) (d : TypeDefinition) :
    P d := by
  refine step d ?_
  intro c mem e n takes
  exact nested_induction step e
termination_by sizeOf d
decreasing_by
  have inner := takes.sizeOf_lt
  have outer := List.sizeOf_lt_of_mem mem
  obtain ⟨constraints, content⟩ := d
  simp at inner outer ⊢
  omega

theorem mem_mentions {d : TypeDefinition} {m : Mention} :
    m ∈ d.mentions ↔ ∃ c ∈ d.constraints, ∃ a, c.Takes a ∧ m ∈ a.mentions := by
  obtain ⟨constraints, content⟩ := d
  simp [mentions, Constraint.mentionsAll_eq, Constraint.mentions_eq, Constraint.takes_iff]

/-- Names and imports are mentioned wherever they are held. -/
theorem mem_mentions_iff {d : TypeDefinition} {m : Mention} :
    m ∈ d.mentions ↔ ∃ a, d.Holds a ∧ a.mention? = some m := by
  constructor
  · induction d using nested_induction with
    | step d ih =>
      intro mem
      obtain ⟨c, listed, a, takes, mem⟩ := mem_mentions.1 mem
      cases a with
      | reference name n =>
        have same : m = .name name := by simpa [TypeArgument.mentions] using mem
        exact ⟨_, .direct listed takes, congrArg some same.symm⟩
      | imported schemaId typeName n =>
        have same : m = .imported schemaId typeName := by simpa [TypeArgument.mentions] using mem
        exact ⟨_, .direct listed takes, congrArg some same.symm⟩
      | inline e n =>
        rw [TypeArgument.mentions] at mem
        obtain ⟨a, holds, same⟩ := ih c listed e n takes mem
        exact ⟨a, .nested listed takes holds, same⟩
  · rintro ⟨a, holds, same⟩
    induction holds with
    | @direct d c a listed takes =>
      refine mem_mentions.2 ⟨c, listed, a, takes, ?_⟩
      cases a with
      | reference name n =>
        cases same
        simp [TypeArgument.mentions]
      | imported schemaId typeName n =>
        cases same
        simp [TypeArgument.mentions]
      | inline e n => cases same
    | @nested d e c n a listed takes deep ih =>
      refine mem_mentions.2 ⟨c, listed, _, takes, ?_⟩
      rw [TypeArgument.mentions]
      exact ih same

theorem mem_importIds {d : TypeDefinition} {i typeName : String} {n : Nullability}
    (holds : d.Holds (.imported i typeName n)) : i ∈ d.importIds := by
  generalize same : TypeArgument.imported i typeName n = a at holds
  induction holds with
  | @direct d c a listed takes =>
    subst same
    obtain ⟨constraints, content⟩ := d
    rw [importIds]
    refine List.mem_append_left _ (List.mem_flatMap.2 ⟨c, listed, ?_⟩)
    exact List.mem_filterMap.2 ⟨_, Constraint.takes_iff.1 takes, rfl⟩
  | @nested d e c n a listed takes deep ih =>
    obtain ⟨constraints, content⟩ := d
    rw [importIds]
    refine List.mem_append_right _ (Constraint.mem_deepImportIdsAll.2 ⟨c, listed, ?_⟩)
    refine Constraint.mem_deepImportIds.2 ⟨_, Constraint.takes_iff.1 takes, ?_⟩
    rw [TypeArgument.deepImportIds]
    exact ih same

theorem holds_of_mem_importIds {d : TypeDefinition} {i : String} (mem : i ∈ d.importIds) :
    ∃ typeName n, d.Holds (.imported i typeName n) := by
  induction d using nested_induction with
  | step d ih =>
    obtain ⟨constraints, content⟩ := d
    rw [importIds, List.mem_append] at mem
    rcases mem with own | deep
    · obtain ⟨c, listed, there⟩ := List.mem_flatMap.1 own
      obtain ⟨a, taken, imports⟩ := List.mem_filterMap.1 there
      have takes := Constraint.takes_iff.2 taken
      cases a with
      | imported id typeName n =>
        cases imports
        exact ⟨typeName, n, .direct listed takes⟩
      | reference name n => cases imports
      | inline e n => cases imports
    · obtain ⟨c, listed, there⟩ := Constraint.mem_deepImportIdsAll.1 deep
      obtain ⟨a, taken, inside⟩ := Constraint.mem_deepImportIds.1 there
      have takes := Constraint.takes_iff.2 taken
      cases a with
      | inline e n =>
        rw [TypeArgument.deepImportIds] at inside
        obtain ⟨typeName, m, holds⟩ := ih c listed e n takes inside
        exact ⟨typeName, m, .nested listed takes holds⟩
      | reference name n => cases inside
      | imported id typeName n => cases inside

end TypeDefinition

namespace SchemaDocument

theorem mem_mentions_iff {d : SchemaDocument} {m : Mention} :
    m ∈ d.mentions ↔ ∃ a, d.Holds a ∧ a.mention? = some m := by
  simp only [mentions, List.mem_flatMap, TypeDefinition.mem_mentions_iff, Holds]
  constructor
  · rintro ⟨t, declared, a, holds, same⟩
    exact ⟨a, ⟨t, declared, holds⟩, same⟩
  · rintro ⟨a, ⟨t, declared, holds⟩, same⟩
    exact ⟨t, declared, a, holds, same⟩

/-- The schema of a header import is among the ids of imported schemas. -/
theorem schemaId_mem_importIds {d : SchemaDocument} {i : HeaderImport} (mem : i ∈ d.imports) :
    i.schemaId ∈ d.importIds :=
  List.mem_append_left _ (List.mem_map_of_mem mem)

/-- So is the schema of an import in place. -/
theorem mem_importIds {d : SchemaDocument} {i typeName : String} {n : Nullability}
    (holds : d.Holds (.imported i typeName n)) : i ∈ d.importIds := by
  obtain ⟨t, declared, held⟩ := holds
  refine List.mem_append_right _ (List.mem_flatMap.2 ⟨t, List.mem_reverse.2 declared, ?_⟩)
  exact TypeDefinition.mem_importIds held

/-- A document needs a schema that its header imports from, or an import in place at any depth of a
type that it declares. -/
inductive Needs (d : SchemaDocument) : String → Prop where
  | header {i : HeaderImport} (mem : i ∈ d.imports) : Needs d i.schemaId
  | inPlace {id typeName : String} {n : Nullability} (holds : d.Holds (.imported id typeName n)) :
      Needs d id

theorem mem_importIds_iff {d : SchemaDocument} {i : String} : i ∈ d.importIds ↔ d.Needs i := by
  constructor
  · intro mem
    rcases List.mem_append.1 mem with header | inType
    · obtain ⟨j, listed, rfl⟩ := List.mem_map.1 header
      exact .header listed
    · obtain ⟨t, declared, there⟩ := List.mem_flatMap.1 inType
      obtain ⟨typeName, n, held⟩ := TypeDefinition.holds_of_mem_importIds there
      exact .inPlace ⟨t, List.mem_reverse.1 declared, held⟩
  · intro needs
    cases needs with
    | header mem => exact schemaId_mem_importIds mem
    | inPlace holds => exact mem_importIds holds

end SchemaDocument
end Isl
