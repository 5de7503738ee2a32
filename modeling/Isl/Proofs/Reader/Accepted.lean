import Isl.Reader.Document
/-!
# What a read accepts

A read with a clean record is a partial function: `accepted?` forgets paths, faults and the setting
that ends a read early, and keeps the value that is given when nothing goes on record.

* `Steady`: a read only adds to the record and does not look at it;
* `accepted?_bind`, `accepted?_catching`, `accepted?_lift`: the accepted value step by step;
* `finish_eq_ok_iff`: a whole read succeeds exactly with the accepted value.
-/
namespace Isl.Reader

/-- The value of a read that puts nothing on record. -/
def accepted? {α : Type} (r : Read α) : Option α :=
  match r [] with
  | .ok a [] => some a
  | _ => none

/-- An outcome with errors put in front of its record. -/
def behind {α : Type} (errors : List ReadError) :
    EStateM.Result Halt (List ReadError) α → EStateM.Result Halt (List ReadError) α
  | .ok a es => .ok a (errors ++ es)
  | .error h es => .error h (errors ++ es)

/-- A read that does not look at the errors on record, and only adds to them. -/
def Steady {α : Type} (r : Read α) : Prop := ∀ errors, r errors = behind errors (r [])

section
variable {α β : Type}

theorem behind_behind (es fs : List ReadError) (o : EStateM.Result Halt (List ReadError) α) :
    behind es (behind fs o) = behind (es ++ fs) o := by
  cases o <;> simp [behind]

theorem bind_apply (r : Read α) (f : α → Read β) (errors : List ReadError) :
    (r >>= f) errors = match r errors with
      | .ok a es => f a es
      | .error h es => .error h es := by
  change EStateM.bind r f errors = _
  unfold EStateM.bind
  cases r errors <;> rfl

theorem steady_pure (a : α) : Steady (pure a : Read α) := by
  intro errors
  simp [pure, EStateM.pure, behind]

theorem steady_bind {r : Read α} {f : α → Read β} (hr : Steady r) (hf : ∀ a, Steady (f a)) :
    Steady (r >>= f) := by
  intro errors
  rw [bind_apply, bind_apply, hr errors]
  cases r [] with
  | ok a es =>
    change f a (errors ++ es) = behind errors (f a es)
    rw [hf a (errors ++ es), hf a es, behind_behind]
  | error h es => rfl

theorem steady_invalid (fault : ReadFault) : Steady (invalid fault : Read α) := by
  intro errors
  have thrown (es : List ReadError) :
      (invalid fault : Read α) es = .error (.invalid fault) es := rfl
  rw [thrown, thrown, behind, List.append_nil]

theorem steady_lift (check : Check α) : Steady (lift check) := by
  cases check with
  | ok a => exact steady_pure a
  | error fault => exact steady_invalid fault

theorem steady_report (ctx : Context) (path : TreePath) (fault : ReadFault) :
    Steady (report ctx path fault) := by
  intro errors
  cases h : ctx.failFast <;> simp [report, behind, h]

theorem catching_apply (ctx : Context) (path : TreePath) (r : Read α) (errors : List ReadError) :
    catching ctx path r errors = match r errors with
      | .ok a es => .ok (some a) es
      | .error (.invalid fault) es => (report ctx path fault >>= fun _ => pure none) es
      | .error .abort es => .error .abort es := by
  unfold catching
  cases r errors with
  | ok a es => rfl
  | error h es => cases h <;> rfl

theorem steady_catching (ctx : Context) (path : TreePath) {r : Read α} (hr : Steady r) :
    Steady (catching ctx path r) := by
  intro errors
  rw [catching_apply, catching_apply, hr errors]
  cases r [] with
  | ok a es => rfl
  | error h es =>
    cases h with
    | abort => rfl
    | invalid fault =>
      have steady : Steady (report ctx path fault >>= fun _ => (pure none : Read (Option α))) :=
        steady_bind (steady_report ctx path fault) fun _ => steady_pure none
      change (report ctx path fault >>= fun _ => pure none) (errors ++ es) =
        behind errors ((report ctx path fault >>= fun _ => pure none) es)
      rw [steady (errors ++ es), steady es, behind_behind]

/-! ## The accepted value, step by step -/

@[simp]
theorem accepted?_pure (a : α) : accepted? (pure a) = some a := rfl

@[simp]
theorem accepted?_invalid (fault : ReadFault) : accepted? (invalid fault : Read α) = none := rfl

@[simp]
theorem accepted?_lift (check : Check α) : accepted? (lift check) = check.toOption := by
  cases check <;> rfl

@[simp]
theorem accepted?_report (ctx : Context) (path : TreePath) (fault : ReadFault) :
    accepted? (report ctx path fault) = none := by
  cases h : ctx.failFast <;> simp [accepted?, report, h]

theorem accepted?_bind {r : Read α} {f : α → Read β} (hf : ∀ a, Steady (f a)) :
    accepted? (r >>= f) = (accepted? r).bind fun a => accepted? (f a) := by
  unfold accepted?
  rw [bind_apply]
  cases r [] with
  | error h es => rfl
  | ok a es =>
    cases es with
    | nil => rfl
    | cons e es =>
      simp only [Option.bind_none]
      rw [hf a (e :: es)]
      cases f a [] <;> rfl

/-- A step of its own is accepted exactly when the step is. -/
theorem accepted?_catching (ctx : Context) (path : TreePath) (r : Read α) :
    accepted? (catching ctx path r) = (accepted? r).map some := by
  have recorded (fault : ReadFault) (es : List ReadError) :
      ∀ a, (report ctx path fault >>= fun _ => (pure none : Read (Option α))) es ≠ .ok a [] := by
    intro a
    cases h : ctx.failFast <;> simp [bind_apply, report, h, pure, EStateM.pure]
  unfold accepted?
  rw [catching_apply]
  cases r [] with
  | ok a es => cases es <;> rfl
  | error h es =>
    cases h with
    | abort => rfl
    | invalid fault =>
      simp only [Option.map_none]
      split
      · rename_i a same
        exact absurd same (recorded fault es a)
      · rfl

theorem lift_eq_ok_iff {check : Check α} {errors after : List ReadError} {a : α} :
    lift check errors = .ok a after ↔ after = errors ∧ check = .ok a := by
  cases check with
  | ok b =>
    change EStateM.Result.ok b errors = .ok a after ↔ _
    simp [eq_comm, and_comm]
  | error fault =>
    change EStateM.Result.error (Halt.invalid fault) errors = .ok a after ↔ _
    simp

theorem finish_eq_ok_iff (path : TreePath) (r : Read α) (a : α) :
    finish path r = .ok a ↔ accepted? r = some a := by
  unfold finish accepted?
  cases r [] with
  | ok b es => cases es <;> simp
  | error h es => cases h <;> simp

/-! ## Checks that succeed -/

theorem check_bind_eq_ok_iff {check : Check α} {f : α → Check β} {b : β} :
    (check >>= f) = .ok b ↔ ∃ a, check = .ok a ∧ f a = .ok b := by
  cases check <;> simp [bind, Except.bind]

theorem check_map_eq_ok_iff {check : Check α} {f : α → β} {b : β} :
    check.map f = .ok b ↔ ∃ a, check = .ok a ∧ f a = b := by
  cases check <;> simp [Except.map]

theorem toOption_eq_some_iff {check : Check α} {a : α} :
    check.toOption = some a ↔ check = .ok a := by
  cases check <;> simp [Except.toOption]

theorem require_eq_ok_iff {condition : Bool} {fault : ReadFault} {u : Unit} :
    require condition fault = .ok u ↔ condition = true := by
  cases condition <;> simp [require]

@[simp] theorem ofRange_ok (a : α) : ofRange (.ok a) = .ok a := rfl

@[simp] theorem ofRange_error (fault : RangeFault) :
    ofRange (.error fault) = (.error (.defect (.range fault)) : Check α) := rfl

theorem ofRange_eq_ok_iff {result : Except RangeFault α} {a : α} :
    ofRange result = .ok a ↔ result = .ok a := by
  cases result <;> simp

@[simp] theorem ofDefect_ok (a : α) : ofDefect (.ok a) = .ok a := rfl

@[simp] theorem ofDefect_error (defect : Defect) :
    ofDefect (.error defect) = (.error (.defect defect) : Check α) := rfl

theorem ofDefect_eq_ok_iff {result : Except Defect α} {a : α} :
    ofDefect result = .ok a ↔ result = .ok a := by
  cases result <;> simp

end
end Isl.Reader
