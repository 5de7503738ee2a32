import Isl.Proofs.Equivalence
import Isl.Version
/-!
# What lasts

A model that is written and read again comes back equal, or it comes back lighter: fewer
constraints and fewer types in place. The second happens in two places only (`lasts`). A type in
place that occurs as it does by default is written without `occurs`, and if it has an open field
`id` it is then taken for an import. And version 1.0 leaves out a closed `fields` constraint
without fields, so that `content: closed` is taken to close the next one.

* `Gauge`: how models of one kind are compared, weighed, and whether they last;
* `Gauge.Reread`: what comes of a model that is written and read again;
* `Gauge.Reread.cons`, `Gauge.Reread.map`: models are put together from parts.
-/
namespace Isl

/-! ## Definitions that last -/

/-- A type in place that an import would be written like. -/
def TypeArgument.looksImported : TypeArgument → Bool
  | .inline d _ => Field.has d.openContent "id"
  | _ => false

def Constraint.isFields : Constraint → Bool
  | .fields .. => true
  | _ => false

/-- A closed constraint without fields stands in front of another `fields` constraint. -/
def Constraint.losesFields : List Constraint → Bool
  | [] => false
  | .fields [] true :: cs => cs.any isFields
  | _ :: cs => losesFields cs

mutual

def TypeArgument.lasts (version : IslVersion) : TypeArgument → Bool
  | .inline d _ => d.lasts version
  | _ => true

def TypeArgument.allLast (version : IslVersion) : List TypeArgument → Bool
  | [] => true
  | a :: as => a.lasts version && TypeArgument.allLast version as

def TypeDefinition.lasts (version : IslVersion) : TypeDefinition → Bool
  | ⟨cs, _⟩ =>
    Constraint.allLast version cs && !(version == .v1 && Constraint.losesFields cs)

def Constraint.lasts (version : IslVersion) : Constraint → Bool
  | .allOf as | .anyOf as | .oneOf as => TypeArgument.allLast version as
  | .type a | .not a | .element a _ | .fieldNames a _ | .annotationType a => a.lasts version
  | .fields fs _ => FieldArgument.allLast version fs
  | .orderedElements os => OccurringArgument.allLast version os
  | _ => true

def Constraint.allLast (version : IslVersion) : List Constraint → Bool
  | [] => true
  | c :: cs => c.lasts version && Constraint.allLast version cs

def OccurringArgument.lasts (version : IslVersion) (byDefault : IntRange) :
    OccurringArgument → Bool
  | ⟨occurs, a⟩ => a.lasts version && !(occurs == byDefault && a.looksImported)

def OccurringArgument.allLast (version : IslVersion) : List OccurringArgument → Bool
  | [] => true
  | o :: os => o.lasts version .required && OccurringArgument.allLast version os

def FieldArgument.lasts (version : IslVersion) : FieldArgument → Bool
  | ⟨_, o⟩ => o.lasts version .optional

def FieldArgument.allLast (version : IslVersion) : List FieldArgument → Bool
  | [] => true
  | f :: fs => f.lasts version && FieldArgument.allLast version fs

end

/-! ## Weight -/

mutual

/-- Types in place, and the constraints in them. -/
def TypeArgument.weight : TypeArgument → Nat
  | .inline d _ => d.weight + 1
  | _ => 0

def TypeArgument.weights : List TypeArgument → Nat
  | [] => 0
  | a :: as => a.weight + TypeArgument.weights as

def TypeDefinition.weight : TypeDefinition → Nat
  | ⟨cs, _⟩ => Constraint.weights cs

def Constraint.weight : Constraint → Nat
  | .allOf as | .anyOf as | .oneOf as => TypeArgument.weights as + 1
  | .type a | .not a | .element a _ | .fieldNames a _ | .annotationType a => a.weight + 1
  | .fields fs _ => FieldArgument.weights fs + 1
  | .orderedElements os => OccurringArgument.weights os + 1
  | _ => 1

def Constraint.weights : List Constraint → Nat
  | [] => 0
  | c :: cs => c.weight + Constraint.weights cs

def OccurringArgument.weight : OccurringArgument → Nat
  | ⟨_, a⟩ => a.weight

def OccurringArgument.weights : List OccurringArgument → Nat
  | [] => 0
  | o :: os => o.weight + OccurringArgument.weights os

def FieldArgument.weight : FieldArgument → Nat
  | ⟨_, o⟩ => o.weight

def FieldArgument.weights : List FieldArgument → Nat
  | [] => 0
  | f :: fs => f.weight + FieldArgument.weights fs

end

/-! ## Equal models are of one weight -/

theorem Constraint.weights_append (cs ds : List Constraint) :
    weights (cs ++ ds) = weights cs + weights ds := by
  induction cs with
  | nil => simp [weights]
  | cons c cs ih => simp [weights, ih, Nat.add_assoc]

theorem Constraint.weight_pos (c : Constraint) : 0 < c.weight := by
  cases c <;> simp [weight]

mutual

theorem TypeArgument.weight_of_same {a b : TypeArgument} (h : a.same b = true) :
    b.weight = a.weight := by
  cases a <;> cases b <;> simp only [TypeArgument.same, Bool.and_eq_true, reduceCtorEq] at h
  case inline.inline => simp [TypeArgument.weight, TypeDefinition.weight_of_same h.1]
  all_goals simp [TypeArgument.weight]

theorem TypeArgument.weights_of_same {as bs : List TypeArgument}
    (h : TypeArgument.sameAll as bs = true) :
    TypeArgument.weights bs = TypeArgument.weights as := by
  cases as <;> cases bs <;> simp only [TypeArgument.sameAll, Bool.and_eq_true, reduceCtorEq] at h
  case cons.cons =>
    simp [TypeArgument.weights, TypeArgument.weight_of_same h.1, TypeArgument.weights_of_same h.2]
  · rfl

theorem TypeDefinition.weight_of_same {d e : TypeDefinition} (h : d.same e = true) :
    e.weight = d.weight := by
  cases d with
  | mk cs content =>
    cases e with
    | mk ds rest =>
      simp only [TypeDefinition.same, Bool.and_eq_true, beq_iff_eq] at h
      exact Constraint.weights_of_takesAll h.1.1 h.1.2

theorem Constraint.weight_of_same {c d : Constraint} (h : c.same d = true) :
    d.weight = c.weight := by
  unfold Constraint.same at h
  -- The cases of the equality: those of constraints that take types come first.
  split at h
  case h_1 | h_2 | h_3 => simp [Constraint.weight, TypeArgument.weights_of_same h]
  case h_4 | h_5 | h_6 => simp [Constraint.weight, TypeArgument.weight_of_same h]
  case h_7 | h_8 =>
    rw [Bool.and_eq_true] at h
    simp [Constraint.weight, TypeArgument.weight_of_same h.1]
  case h_9 =>
    rw [Bool.and_eq_true] at h
    simp [Constraint.weight, FieldArgument.weights_of_same h.1]
  case h_10 => simp [Constraint.weight, OccurringArgument.weights_of_same h]
  case h_20 => cases h
  all_goals simp [Constraint.weight]

theorem Constraint.weights_of_takesAll {cs ds : List Constraint} (length : cs.length = ds.length)
    (h : Constraint.takesAll cs ds = true) : Constraint.weights ds = Constraint.weights cs := by
  cases cs with
  | nil => rw [List.length_eq_zero_iff.1 length.symm]
  | cons c cs =>
    rw [Constraint.takesAll] at h
    split at h
    · rename_i rest taken
      obtain ⟨l, d, r, rfl, rfl, same⟩ := exists_of_removeFirst? taken
      have others := Constraint.weights_of_takesAll (by simp at length ⊢; omega) h
      have first := Constraint.weight_of_same same
      simp only [Constraint.weights_append, Constraint.weights] at others ⊢
      omega
    · cases h

theorem OccurringArgument.weight_of_same {o p : OccurringArgument} (h : o.same p = true) :
    p.weight = o.weight := by
  cases o with
  | mk occurs a =>
    cases p with
    | mk occurs' b =>
      simp only [OccurringArgument.same, Bool.and_eq_true] at h
      exact TypeArgument.weight_of_same h.2

theorem OccurringArgument.weights_of_same {os ps : List OccurringArgument}
    (h : OccurringArgument.sameAll os ps = true) :
    OccurringArgument.weights ps = OccurringArgument.weights os := by
  cases os <;> cases ps <;>
    simp only [OccurringArgument.sameAll, Bool.and_eq_true, reduceCtorEq] at h
  case cons.cons =>
    simp [OccurringArgument.weights, OccurringArgument.weight_of_same h.1,
      OccurringArgument.weights_of_same h.2]
  · rfl

theorem FieldArgument.weight_of_same {f g : FieldArgument} (h : f.same g = true) :
    g.weight = f.weight := by
  cases f with
  | mk name o =>
    cases g with
    | mk name' p =>
      simp only [FieldArgument.same, Bool.and_eq_true] at h
      exact OccurringArgument.weight_of_same h.2

theorem FieldArgument.weights_of_same {fs gs : List FieldArgument}
    (h : FieldArgument.sameAll fs gs = true) :
    FieldArgument.weights gs = FieldArgument.weights fs := by
  cases fs <;> cases gs <;>
    simp only [FieldArgument.sameAll, Bool.and_eq_true, reduceCtorEq] at h
  case cons.cons =>
    simp [FieldArgument.weights, FieldArgument.weight_of_same h.1,
      FieldArgument.weights_of_same h.2]
  · rfl

end

/-! ## Written and read again -/

/-- How the models of one kind are told apart. -/
structure Gauge (α : Type) where
  lasts : α → Bool
  same : α → α → Bool
  weight : α → Nat

namespace Gauge
variable {α β : Type}

/-- What comes of a model that is read again: an equal one if it lasts, else a lighter one if
any. -/
structure Reread (g : Gauge α) (a : α) (again : Option α) : Prop where
  equal : g.lasts a = true → ∃ b, again = some b ∧ g.same a b = true ∧ g.weight b = g.weight a
  lighter : g.lasts a = false → ∀ b, again = some b → g.weight b < g.weight a

namespace Reread
variable {g : Gauge α} {h : Gauge β}

theorem self {a : α} (lasts : g.lasts a = true) (same : g.same a a = true) :
    g.Reread a (some a) :=
  ⟨fun _ => ⟨a, rfl, same, rfl⟩, fun gone => by simp [lasts] at gone⟩

theorem weight_le {a b : α} (r : g.Reread a (some b)) : g.weight b ≤ g.weight a := by
  cases lasts : g.lasts a with
  | true =>
    obtain ⟨c, found, _, weight⟩ := r.equal lasts
    injection found with found
    subst found
    exact Nat.le_of_eq weight
  | false => exact Nat.le_of_lt (r.lighter lasts b rfl)

/-- A model around one part lasts if the part does. -/
theorem map {a : α} {again : Option α} (r : g.Reread a again) (around : α → β) (extra : Nat)
    (lasts : h.lasts (around a) = g.lasts a)
    (same : ∀ b, h.same (around a) (around b) = g.same a b)
    (weight : ∀ b, h.weight (around b) = g.weight b + extra) :
    h.Reread (around a) (again.map around) := by
  constructor
  · intro last
    obtain ⟨b, rfl, equal, weighs⟩ := r.equal (lasts ▸ last)
    exact ⟨around b, rfl, (same b).trans equal, by rw [weight, weight, weighs]⟩
  · intro gone c found
    obtain ⟨b, read, rfl⟩ := Option.map_eq_some_iff.1 found
    have less := r.lighter (lasts ▸ gone) b read
    rw [weight, weight]
    omega

end Reread

/-- Items one by one. -/
def sameEach (same : α → α → Bool) : List α → List α → Bool
  | [], [] => true
  | a :: as, b :: bs => same a b && sameEach same as bs
  | _, _ => false

/-- The weights of all items. -/
def weightEach (weight : α → Nat) : List α → Nat
  | [] => 0
  | a :: as => weight a + weightEach weight as

/-- Lists of models, item by item. -/
def list (g : Gauge α) : Gauge (List α) :=
  ⟨fun as => as.all g.lasts, sameEach g.same, weightEach g.weight⟩

theorem Reread.nil (g : Gauge α) : g.list.Reread [] (some []) := Reread.self rfl rfl

theorem Reread.cons {g : Gauge α} {a : α} {as : List α} {again : Option α}
    {rest : Option (List α)} (first : g.Reread a again) (others : g.list.Reread as rest) :
    g.list.Reread (a :: as) (again.bind fun b => rest.map (b :: ·)) := by
  constructor
  · intro lasts
    simp only [list, List.all_cons, Bool.and_eq_true] at lasts
    obtain ⟨b, rfl, same, weight⟩ := first.equal lasts.1
    obtain ⟨bs, rfl, sames, weights⟩ := others.equal lasts.2
    refine ⟨b :: bs, rfl, ?_, ?_⟩
    · simp only [list, sameEach, same, Bool.true_and] at sames ⊢
      exact sames
    · simp only [list, weightEach] at weights ⊢
      omega
  · intro gone found read
    obtain ⟨b, rfl, more⟩ := Option.bind_eq_some_iff.1 read
    obtain ⟨bs, rfl, rfl⟩ := Option.map_eq_some_iff.1 more
    have item := first.weight_le
    have items := others.weight_le
    simp only [list, weightEach] at items ⊢
    cases lasts : g.lasts a with
    | false =>
      have less := first.lighter lasts b rfl
      omega
    | true =>
      have less := others.lighter (by simpa [list, lasts] using gone) bs rfl
      simp only [list] at less
      omega

theorem sameEach_eq (same : α → α → Bool) (as bs : List α) :
    sameEach same as bs = as.isEqv bs same :=
  eq_isEqv rfl (fun _ _ => ⟨rfl, rfl⟩) (fun _ _ _ _ => rfl) as bs

theorem length_of_sameEach {same : α → α → Bool} {as bs : List α}
    (h : sameEach same as bs = true) : as.length = bs.length := by
  rw [sameEach_eq, isEqv_iff] at h
  exact h.length_eq

/-- Functions on lists that work item by item make up the gauge of lists. -/
theorem list_eq {g : Gauge α} {all : List α → Bool} {sames : List α → List α → Bool}
    {weights : List α → Nat} (empty : all [] = true ∧ weights [] = 0)
    (lasts : ∀ a as, all (a :: as) = (g.lasts a && all as))
    (same : ∀ as bs, sames as bs = as.isEqv bs g.same)
    (weight : ∀ a as, weights (a :: as) = g.weight a + weights as) :
    g.list = ⟨all, sames, weights⟩ := by
  have allLast (as : List α) : as.all g.lasts = all as := by
    induction as with
    | nil => exact empty.1.symm
    | cons a as ih => rw [lasts, List.all_cons, ih]
  have allSame (as bs : List α) : sameEach g.same as bs = sames as bs :=
    (sameEach_eq g.same as bs).trans (same as bs).symm
  have allWeights (as : List α) : weightEach g.weight as = weights as := by
    induction as with
    | nil => exact empty.2.symm
    | cons a as ih => rw [weight, weightEach, ih]
  simp only [list, mk.injEq]
  exact ⟨funext allLast, funext fun as => funext (allSame as), funext allWeights⟩

end Gauge

/-! ## The gauges of a version -/

section
variable (version : IslVersion)

def argumentGauge : Gauge TypeArgument :=
  ⟨TypeArgument.lasts version, TypeArgument.same, TypeArgument.weight⟩

def definitionGauge : Gauge TypeDefinition :=
  ⟨TypeDefinition.lasts version, TypeDefinition.same, TypeDefinition.weight⟩

def constraintGauge : Gauge Constraint :=
  ⟨Constraint.lasts version, Constraint.same, Constraint.weight⟩

def occurringGauge (byDefault : IntRange) : Gauge OccurringArgument :=
  ⟨OccurringArgument.lasts version byDefault, OccurringArgument.same, OccurringArgument.weight⟩

def fieldGauge : Gauge FieldArgument :=
  ⟨FieldArgument.lasts version, FieldArgument.same, FieldArgument.weight⟩

theorem TypeArgument.list_gauge : (argumentGauge version).list =
    ⟨TypeArgument.allLast version, TypeArgument.sameAll, TypeArgument.weights⟩ := by
  refine Gauge.list_eq ?_ (fun a as => ?_) TypeArgument.sameAll_eq fun a as => ?_
  · simp [TypeArgument.allLast, TypeArgument.weights]
  · rw [TypeArgument.allLast, argumentGauge]
  · rw [TypeArgument.weights, argumentGauge]

theorem OccurringArgument.list_gauge : (occurringGauge version .required).list =
    ⟨OccurringArgument.allLast version, OccurringArgument.sameAll, OccurringArgument.weights⟩ := by
  refine Gauge.list_eq ?_ (fun o os => ?_) OccurringArgument.sameAll_eq fun o os => ?_
  · simp [OccurringArgument.allLast, OccurringArgument.weights]
  · rw [OccurringArgument.allLast, occurringGauge]
  · rw [OccurringArgument.weights, occurringGauge]

theorem FieldArgument.list_gauge : (fieldGauge version).list =
    ⟨FieldArgument.allLast version, FieldArgument.sameAll, FieldArgument.weights⟩ := by
  refine Gauge.list_eq ?_ (fun f fs => ?_) FieldArgument.sameAll_eq fun f fs => ?_
  · simp [FieldArgument.allLast, FieldArgument.weights]
  · rw [FieldArgument.allLast, fieldGauge]
  · rw [FieldArgument.weights, fieldGauge]

theorem Constraint.lasts_list (cs : List Constraint) :
    (constraintGauge version).list.lasts cs = Constraint.allLast version cs := by
  induction cs with
  | nil => rw [Constraint.allLast]; rfl
  | cons c cs ih =>
    rw [Constraint.allLast, ← ih]
    rfl

theorem Constraint.weight_list (cs : List Constraint) :
    (constraintGauge version).list.weight cs = Constraint.weights cs := by
  induction cs with
  | nil => rw [Constraint.weights]; rfl
  | cons c cs ih =>
    rw [Constraint.weights, ← ih]
    rfl

end

/-- Constraints that agree one by one agree as a bag. -/
theorem Constraint.takesAll_of_sameEach {cs ds : List Constraint}
    (h : Gauge.sameEach Constraint.same cs ds = true) : Constraint.takesAll cs ds = true := by
  induction cs generalizing ds with
  | nil => rw [Constraint.takesAll]
  | cons c cs ih =>
    cases ds with
    | nil => simp [Gauge.sameEach] at h
    | cons d ds =>
      simp only [Gauge.sameEach, Bool.and_eq_true] at h
      simp [Constraint.takesAll, removeFirst?, h.1, ih h.2]

end Isl
