import Isl.Model.Document
import Isl.Proofs.Equality
import Isl.Proofs.Range
/-!
# Equality sorts into classes

Equality of values, of types and of what they are made of is reflexive, and what equals a thing
equals whatever that thing equals. So bags of them are compared class by class, whichever of several
equal items meet first.
-/
namespace Isl

universe u v

/-! ## Values -/

theorem Element.sameAll_eq (as bs : List Element) :
    Element.sameAll as bs = as.isEqv bs Element.same := by
  refine eq_isEqv ?_ (fun a as => ?_) (fun a b as bs => ?_) as bs
  · rw [Element.sameAll]
  · simp [Element.sameAll]
  · rw [Element.sameAll]

theorem Value.same_struct (fs gs : List Field) :
    (Value.struct fs).same (.struct gs) = Bag.sameItems Field.same fs gs := by
  rw [Value.same, Field.takesAll_eq]
  rfl

mutual

theorem Value.isClass (v : Value) : IsClass Value.same v := by
  intro w h
  funext u
  rw [Value.same.eq_def] at h
  rw [Value.same.eq_def, Value.same.eq_def w]
  -- only a value of the same form is left, first of the equal ones, then of all
  cases v with
  | list es | sexp es =>
    cases w <;> first | cases h | skip
    have rows := isClass_of_isEqv Element.sameAll_eq (Element.isClass_each es) _ h
    cases u <;> first | rfl | exact congrFun rows _
  | struct fs =>
    cases w <;> first | cases h | skip
    have bag (fs gs : List Field) : (fs.length == gs.length && Field.takesAll fs gs) =
        Bag.sameItems Field.same fs gs := by
      rw [Field.takesAll_eq]
      rfl
    have rows :=
      Bag.isClass_sameItems Field.same_self (Field.isClass_each fs) _ ((bag _ _).symm.trans h)
    cases u <;> first | rfl | exact (bag _ _).trans ((congrFun rows _).trans (bag _ _).symm)
  | _ =>
    cases w <;> first | cases h | skip
    all_goals rw [beq_iff_eq] at h; rw [h]

theorem Element.isClass (e : Element) : IsClass Element.same e := by
  cases e with
  | mk names v =>
    intro e' h
    cases e' with
    | mk names' v' =>
      simp only [Element.same, Bool.and_eq_true, beq_iff_eq] at h
      funext u
      rw [Element.same, Element.same, h.1, Value.isClass v v' h.2]

theorem Element.isClass_each (es : List Element) : ∀ e ∈ es, IsClass Element.same e := by
  cases es with
  | nil => exact List.forall_mem_nil _
  | cons e es => exact List.forall_mem_cons.2 ⟨Element.isClass e, Element.isClass_each es⟩

theorem Field.isClass (f : Field) : IsClass Field.same f := by
  cases f with
  | mk name e =>
    intro f' h
    cases f' with
    | mk name' e' =>
      simp only [Field.same, Bool.and_eq_true, beq_iff_eq] at h
      funext u
      rw [Field.same, Field.same, h.1, Element.isClass e e' h.2]

theorem Field.isClass_each (fs : List Field) : ∀ f ∈ fs, IsClass Field.same f := by
  cases fs with
  | nil => exact List.forall_mem_nil _
  | cons f fs => exact List.forall_mem_cons.2 ⟨Field.isClass f, Field.isClass_each fs⟩

end

/-! ## Listed values and patterns -/

section
variable {α : Type u} {κ : Type v} [Comparable α] {key : α → κ}

theorem Limit.isClass (h : ∀ a b : α, Comparable.compare? a b = some .eq ↔ key a = key b)
    (l : Limit α) : IsClass Limit.same l := by
  have row {a b : α} (equal : key a = key b) (c : α) :
      (Comparable.compare? a c == some .eq) = (Comparable.compare? b c == some .eq) := by
    rw [Bool.eq_iff_iff, beq_iff_eq, beq_iff_eq, h, h, equal]
  intro l' given
  funext u
  cases l <;> cases l' <;> simp only [Limit.same, Bool.false_eq_true, beq_iff_eq] at given
  · rfl
  · cases u <;> simp only [Limit.same]
    exact row ((h _ _).1 given) _
  · cases u <;> simp only [Limit.same]
    exact row ((h _ _).1 given) _

theorem Range.isClass (h : ∀ a b : α, Comparable.compare? a b = some .eq ↔ key a = key b)
    (r : Range α) : IsClass Range.same r := by
  intro r' given
  rw [Range.same, Bool.and_eq_true] at given
  funext u
  rw [Range.same, Range.same, Limit.isClass h _ _ given.1, Limit.isClass h _ _ given.2]

end

theorem ValidValue.isClass (v : ValidValue) : IsClass ValidValue.same v := by
  intro w h
  funext u
  cases v <;> cases w <;> simp only [ValidValue.same, Bool.false_eq_true] at h
  · cases u <;> simp only [ValidValue.same]
    exact congrFun (Element.isClass _ _ h) _
  · cases u <;> simp only [ValidValue.same]
    exact congrFun (Range.isClass orderedBy_decimal.eq_iff _ _ h) _
  · cases u <;> simp only [ValidValue.same]
    exact congrFun (Range.isClass orderedBy_timestamp.eq_iff _ _ h) _

theorem Pattern.isClass (p : Pattern) : IsClass (· == ·) p := by
  have parts (p q : Pattern) : (p == q) =
    (p.source == q.source && p.ignoreCase == q.ignoreCase && p.multiline == q.multiline) := rfl
  intro q h
  funext u
  simp only [parts, Bool.and_eq_true, beq_iff_eq] at h ⊢
  rw [h.1.1, h.1.2, h.2]

/-! ## Types -/

theorem TypeArgument.sameAll_eq (as bs : List TypeArgument) :
    TypeArgument.sameAll as bs = as.isEqv bs TypeArgument.same := by
  refine eq_isEqv ?_ (fun a as => ?_) (fun a b as bs => ?_) as bs
  · rw [TypeArgument.sameAll]
  · simp [TypeArgument.sameAll]
  · rw [TypeArgument.sameAll]

theorem OccurringArgument.sameAll_eq (as bs : List OccurringArgument) :
    OccurringArgument.sameAll as bs = as.isEqv bs OccurringArgument.same := by
  refine eq_isEqv ?_ (fun a as => ?_) (fun a b as bs => ?_) as bs
  · rw [OccurringArgument.sameAll]
  · simp [OccurringArgument.sameAll]
  · rw [OccurringArgument.sameAll]

theorem FieldArgument.sameAll_eq (as bs : List FieldArgument) :
    FieldArgument.sameAll as bs = as.isEqv bs FieldArgument.same := by
  refine eq_isEqv ?_ (fun a as => ?_) (fun a b as bs => ?_) as bs
  · rw [FieldArgument.sameAll]
  · simp [FieldArgument.sameAll]
  · rw [FieldArgument.sameAll]

theorem SchemaItem.sameAll_eq (as bs : List SchemaItem) :
    SchemaItem.sameAll as bs = as.isEqv bs SchemaItem.same := by
  refine eq_isEqv ?_ (fun a as => ?_) (fun a b as bs => ?_) as bs
  · rw [SchemaItem.sameAll]
  · simp [SchemaItem.sameAll]
  · rw [SchemaItem.sameAll]

theorem Constraint.takesAll_eq (cs ds : List Constraint) :
    Constraint.takesAll cs ds = Bag.takesAll Constraint.same cs ds := by
  induction cs generalizing ds with
  | nil => rw [Constraint.takesAll, Bag.takesAll]
  | cons c cs ih =>
    rw [Constraint.takesAll, Bag.takesAll]
    cases removeFirst? c.same ds <;> simp [ih]

theorem TypeDefinition.same_eq (d e : TypeDefinition) :
    d.same e = (Bag.sameItems Constraint.same d.constraints e.constraints &&
      Bag.sameItems Field.same d.openContent e.openContent) := by
  cases d
  rw [TypeDefinition.same, Constraint.takesAll_eq]
  rfl

mutual

theorem TypeArgument.same_self (a : TypeArgument) : a.same a = true := by
  cases a with
  | inline d n => simp [TypeArgument.same, TypeDefinition.same_self d]
  | _ => simp [TypeArgument.same]

theorem TypeArgument.same_each (as : List TypeArgument) : ∀ a ∈ as, a.same a = true := by
  cases as with
  | nil => exact List.forall_mem_nil _
  | cons a as =>
    exact List.forall_mem_cons.2 ⟨TypeArgument.same_self a, TypeArgument.same_each as⟩

theorem TypeDefinition.same_self (d : TypeDefinition) : d.same d = true := by
  cases d with
  | mk cs content =>
    rw [TypeDefinition.same_eq, Bag.sameItems_self (Constraint.same_each cs)]
    exact Field.sameItems_self content

theorem Constraint.same_self (c : Constraint) : c.same c = true := by
  cases c with
  | allOf as | anyOf as | oneOf as =>
    rw [Constraint.same, TypeArgument.sameAll_eq]
    exact isEqv_self (TypeArgument.same_each as)
  | type a | not a | annotationType a =>
    rw [Constraint.same]
    exact TypeArgument.same_self a
  | element a d | fieldNames a d => simp [Constraint.same, TypeArgument.same_self a]
  | fields fs closed =>
    rw [Constraint.same, FieldArgument.sameAll_eq, isEqv_self (FieldArgument.same_each fs)]
    simp
  | orderedElements os =>
    rw [Constraint.same, OccurringArgument.sameAll_eq]
    exact isEqv_self (OccurringArgument.same_each os)
  | contains es => rw [Constraint.same]; exact Bag.sameItems_self fun e _ => e.same_self
  | validValues vs => rw [Constraint.same]; exact Bag.sameItems_self fun v _ => v.same_self
  | regex p => rw [Constraint.same]; exact p.beq_self
  | _ => simp [Constraint.same]

theorem Constraint.same_each (cs : List Constraint) : ∀ c ∈ cs, c.same c = true := by
  cases cs with
  | nil => exact List.forall_mem_nil _
  | cons c cs => exact List.forall_mem_cons.2 ⟨Constraint.same_self c, Constraint.same_each cs⟩

theorem OccurringArgument.same_self (o : OccurringArgument) : o.same o = true := by
  cases o with
  | mk occurs a => simp [OccurringArgument.same, TypeArgument.same_self a]

theorem OccurringArgument.same_each (os : List OccurringArgument) : ∀ o ∈ os, o.same o = true := by
  cases os with
  | nil => exact List.forall_mem_nil _
  | cons o os =>
    exact List.forall_mem_cons.2 ⟨OccurringArgument.same_self o, OccurringArgument.same_each os⟩

theorem FieldArgument.same_self (f : FieldArgument) : f.same f = true := by
  cases f with
  | mk name o => simp [FieldArgument.same, OccurringArgument.same_self o]

theorem FieldArgument.same_each (fs : List FieldArgument) : ∀ f ∈ fs, f.same f = true := by
  cases fs with
  | nil => exact List.forall_mem_nil _
  | cons f fs =>
    exact List.forall_mem_cons.2 ⟨FieldArgument.same_self f, FieldArgument.same_each fs⟩

end

mutual

theorem TypeArgument.isClass (a : TypeArgument) : IsClass TypeArgument.same a := by
  intro b h
  funext u
  cases a with
  | inline d m =>
    cases b <;> simp only [TypeArgument.same, Bool.false_eq_true, Bool.and_eq_true, beq_iff_eq] at h
    cases u <;> simp only [TypeArgument.same]
    rw [TypeDefinition.isClass d _ h.1, h.2]
  | _ =>
    cases b <;> simp only [TypeArgument.same, Bool.false_eq_true, Bool.and_eq_true, beq_iff_eq] at h
    simp only [h]

theorem TypeArgument.isClass_each (as : List TypeArgument) :
    ∀ a ∈ as, IsClass TypeArgument.same a := by
  cases as with
  | nil => exact List.forall_mem_nil _
  | cons a as => exact List.forall_mem_cons.2 ⟨TypeArgument.isClass a, TypeArgument.isClass_each as⟩

theorem TypeDefinition.isClass (d : TypeDefinition) : IsClass TypeDefinition.same d := by
  cases d with
  | mk cs content =>
    intro e h
    rw [TypeDefinition.same_eq, Bool.and_eq_true] at h
    have constraints :=
      Bag.isClass_sameItems Constraint.same_self (Constraint.isClass_each cs) _ h.1
    have fields :=
      Bag.isClass_sameItems Field.same_self (Field.isClass_each content) _ h.2
    funext u
    rw [TypeDefinition.same_eq, TypeDefinition.same_eq, constraints, fields]

theorem Constraint.isClass (c : Constraint) : IsClass Constraint.same c := by
  intro d h
  funext u
  rw [Constraint.same.eq_def] at h
  rw [Constraint.same.eq_def, Constraint.same.eq_def d]
  -- only a constraint of the same form is left, first of the equal ones, then of all
  cases c with
  | allOf as | anyOf as | oneOf as =>
    cases d <;> first | cases h | skip
    have rows := isClass_of_isEqv TypeArgument.sameAll_eq (TypeArgument.isClass_each as) _ h
    cases u <;> first | rfl | exact congrFun rows _
  | type a | not a | annotationType a =>
    cases d <;> first | cases h | skip
    cases u <;> first | rfl | exact congrFun (TypeArgument.isClass a _ h) _
  | element a b | fieldNames a b =>
    cases d <;> first | cases h | rw [Bool.and_eq_true, beq_iff_eq] at h
    cases u <;> first | rfl | simp only [TypeArgument.isClass a _ h.1, h.2]
  | fields fs closed =>
    cases d <;> first | cases h | rw [Bool.and_eq_true, beq_iff_eq] at h
    have rows := isClass_of_isEqv FieldArgument.sameAll_eq (FieldArgument.isClass_each fs) _ h.1
    cases u <;> first | rfl | simp only [rows, h.2]
  | orderedElements os =>
    cases d <;> first | cases h | skip
    have rows :=
      isClass_of_isEqv OccurringArgument.sameAll_eq (OccurringArgument.isClass_each os) _ h
    cases u <;> first | rfl | exact congrFun rows _
  | contains es =>
    cases d <;> first | cases h | skip
    have rows := Bag.isClass_sameItems Element.same_self (fun e _ => e.isClass) _ h
    cases u <;> first | rfl | exact congrFun rows _
  | validValues vs =>
    cases d <;> first | cases h | skip
    have rows := Bag.isClass_sameItems ValidValue.same_self (fun v _ => v.isClass) _ h
    cases u <;> first | rfl | exact congrFun rows _
  | regex p =>
    cases d <;> first | cases h | skip
    cases u <;> first | rfl | exact congrFun (p.isClass _ h) _
  | _ =>
    cases d <;> first | cases h | simp only [Bool.and_eq_true, beq_iff_eq] at h
    simp only [h]

theorem Constraint.isClass_each (cs : List Constraint) : ∀ c ∈ cs, IsClass Constraint.same c := by
  cases cs with
  | nil => exact List.forall_mem_nil _
  | cons c cs => exact List.forall_mem_cons.2 ⟨Constraint.isClass c, Constraint.isClass_each cs⟩

theorem OccurringArgument.isClass (o : OccurringArgument) : IsClass OccurringArgument.same o := by
  cases o with
  | mk occurs a =>
    intro p h
    cases p with
    | mk occurs' b =>
      simp only [OccurringArgument.same, Bool.and_eq_true, beq_iff_eq] at h
      funext u
      rw [OccurringArgument.same, OccurringArgument.same, h.1, TypeArgument.isClass a b h.2]

theorem OccurringArgument.isClass_each (os : List OccurringArgument) :
    ∀ o ∈ os, IsClass OccurringArgument.same o := by
  cases os with
  | nil => exact List.forall_mem_nil _
  | cons o os =>
    exact List.forall_mem_cons.2 ⟨OccurringArgument.isClass o, OccurringArgument.isClass_each os⟩

theorem FieldArgument.isClass (f : FieldArgument) : IsClass FieldArgument.same f := by
  cases f with
  | mk name o =>
    intro g h
    cases g with
    | mk name' p =>
      simp only [FieldArgument.same, Bool.and_eq_true, beq_iff_eq] at h
      funext u
      rw [FieldArgument.same, FieldArgument.same, h.1, OccurringArgument.isClass o p h.2]

theorem FieldArgument.isClass_each (fs : List FieldArgument) :
    ∀ f ∈ fs, IsClass FieldArgument.same f := by
  cases fs with
  | nil => exact List.forall_mem_nil _
  | cons f fs =>
    exact List.forall_mem_cons.2 ⟨FieldArgument.isClass f, FieldArgument.isClass_each fs⟩

end
end Isl
