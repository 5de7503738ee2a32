import Isl.Reader.Type
/-!
# The forms of constraints

A name settles how the argument under it is read: at once, as a list of arguments, as one argument,
and so on. `constraintOf_form` says it once for all names, with what makes two constraints of a form
equal.
-/
namespace Isl.Reader

/-- What version 2.0 reads under `annotations`. -/
def annotationsOf (ctx : Context) (path : TreePath) (name : String) (e : Element) :
    Read Constraint :=
  match e.type with
  | .list => lift (annotationSet e)
  | .struct | .symbol => do return .annotationType (← typeArgument ctx path e.annotations e.value)
  | _ => lift (badArgument name .notAnnotations e)

/-- How the argument under a name is read. -/
inductive ConstraintForm (ctx : Context) (name : String) : Prop where
  | leaf (read : Element → Check Constraint) (known : leaf? ctx.version name = some read)
      (reads : ∀ path e, constraintOf ctx path name e = lift (read e))
  | annotationList (v1 : ctx.version = .v1)
      (reads : ∀ path e, constraintOf ctx path name e = lift (annotationList e))
  | listed (make : List TypeArgument → Constraint)
      (same : ∀ as bs, (make as).same (make bs) = TypeArgument.sameAll as bs)
      (reads : ∀ path e, constraintOf ctx path name e =
        listedArguments ctx path name e.annotations e.value >>= fun as => pure (make as))
  | single (make : TypeArgument → Constraint) (same : ∀ a b, (make a).same (make b) = a.same b)
      (reads : ∀ path e, constraintOf ctx path name e =
        typeArgument ctx path e.annotations e.value >>= fun a => pure (make a))
  | distinct (make : TypeArgument → Bool → Constraint)
      (same : ∀ a b d e, (make a d).same (make b e) = (a.same b && d == e))
      (reads : ∀ path e, constraintOf ctx path name e =
        lift (distinctShape ctx.version name e) >>= fun _ =>
          typeArgument ctx path (withoutDistinct ctx.version e.annotations) e.value >>= fun a =>
            pure (make a (isDistinct ctx.version e.annotations)))
  | fields (reads : ∀ path e, constraintOf ctx path name e =
      fieldArguments ctx path e.annotations e.value >>= fun fs =>
        pure (.fields (sortFields fs) (e.isAnnotated "closed")))
  | orderedElements (reads : ∀ path e, constraintOf ctx path name e =
      orderedElements ctx path e.annotations e.value >>= fun os => pure (.orderedElements os))
  | annotations (v2 : ctx.version = .v2)
      (reads : ∀ path e, constraintOf ctx path name e = annotationsOf ctx path name e)
  | unknown (reads : ∀ path e, constraintOf ctx path name e = invalid (.unknownConstraint name))

section
variable {ctx : Context} {name : String}

theorem constraintOf_leaf {read : Element → Check Constraint}
    (known : leaf? ctx.version name = some read) (path : TreePath) (e : Element) :
    constraintOf ctx path name e = lift (read e) := by
  obtain ⟨names, v⟩ := e
  rw [constraintOf.eq_def]
  dsimp only
  rw [known]

theorem leaf?_annotations (version : IslVersion) : leaf? version "annotations" = none := rfl

theorem form_annotations (known : leaf? ctx.version "annotations" = none) :
    ConstraintForm ctx "annotations" := by
  cases version : ctx.version with
  | v1 =>
    refine .annotationList version ?_
    rintro path ⟨names, v⟩
    rw [constraintOf.eq_def]
    dsimp only
    rw [known, version]
    rfl
  | v2 =>
    refine .annotations version ?_
    rintro path ⟨names, v⟩
    have type : Element.type ⟨names, v⟩ = v.type := rfl
    rw [constraintOf.eq_def, annotationsOf, type]
    dsimp only
    rw [known, version]
    cases v.type <;> rfl

/-- Under a name that is none of these no constraint is known. -/
theorem form_unknown (known : leaf? ctx.version name = none)
    (other : name ∉ ["all_of", "any_of", "one_of", "type", "not", "element", "field_names",
      "fields", "ordered_elements", "annotations"]) : ConstraintForm ctx name := by
  refine .unknown ?_
  rintro path ⟨names, v⟩
  rw [constraintOf.eq_def]
  dsimp only
  rw [known]
  dsimp only
  split
  case h_11 => rfl
  all_goals simp at other

end

/-- Every name has its form. -/
theorem constraintOf_form (ctx : Context) (name : String) : ConstraintForm ctx name := by
  cases known : leaf? ctx.version name with
  | some read => exact .leaf read known (constraintOf_leaf known)
  | none =>
    by_cases other : name ∈ ["all_of", "any_of", "one_of", "type", "not", "element",
        "field_names", "fields", "ordered_elements", "annotations"]
    · simp only [List.mem_cons, List.not_mem_nil, or_false] at other
      obtain rfl | rfl | rfl | rfl | rfl | rfl | rfl | rfl | rfl | rfl := other
      · exact .listed .allOf (fun _ _ => by rw [Constraint.same]) fun path ⟨names, v⟩ => by
          simp only [constraintOf.eq_def, known]
      · exact .listed .anyOf (fun _ _ => by rw [Constraint.same]) fun path ⟨names, v⟩ => by
          simp only [constraintOf.eq_def, known]
      · exact .listed .oneOf (fun _ _ => by rw [Constraint.same]) fun path ⟨names, v⟩ => by
          simp only [constraintOf.eq_def, known]
      · exact .single .type (fun _ _ => by rw [Constraint.same]) fun path ⟨names, v⟩ => by
          simp only [constraintOf.eq_def, known]
      · exact .single .not (fun _ _ => by rw [Constraint.same]) fun path ⟨names, v⟩ => by
          simp only [constraintOf.eq_def, known]
      · exact .distinct .element (fun _ _ _ _ => by rw [Constraint.same]) fun path ⟨names, v⟩ => by
          simp only [constraintOf.eq_def, known]
      · exact .distinct .fieldNames (fun _ _ _ _ => by rw [Constraint.same])
          fun path ⟨names, v⟩ => by simp only [constraintOf.eq_def, known]
      · exact .fields fun path ⟨names, v⟩ => by simp only [constraintOf.eq_def, known]
      · exact .orderedElements fun path ⟨names, v⟩ => by simp only [constraintOf.eq_def, known]
      · exact form_annotations known
    · exact form_unknown known other

end Isl.Reader
