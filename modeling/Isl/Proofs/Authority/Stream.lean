import Isl.Authority.Stream
/-!
# Streams hand out each value once

A stream is used by calls in any order. To see when its source is asked, the calls are made in a
monad in which asking may do anything; without effects they are the calls of the stream itself
(`runIn_pure`).

* `Call`, `Answer`, `run`: a stream in use;
* `runIn_pending`: in any monad a run asks the source once or not at all, and that answer decides
  the rest;
* `asks_snoc`: the call that asks it;
* `delivered_eq`, `failures_eq`: what a run hands out;
* `isClosed_after_iff`, `spent_of_isClosed`: when a stream is closed, and what it answers then;
* `hands_out_once`: all of it together.
-/
namespace Isl.ElementStream

inductive Call where
  | next
  | close
  | isClosed
deriving DecidableEq

inductive Answer where
  | item (found : Option (Except SchemaError Element))
  | done
  | told (isClosed : Bool)

/-! ## Calls -/

def call (s : ElementStream) : Call → Answer × ElementStream
  | .next => (.item s.next.1, s.next.2)
  | .close => (.done, s.close)
  | .isClosed => (.told s.isClosed, s)

/-- The answers to calls one after the other, and the stream behind them. -/
def run (s : ElementStream) : List Call → List Answer × ElementStream
  | [] => ([], s)
  | c :: calls =>
    let (answer, s) := s.call c
    let (answers, s) := s.run calls
    (answer :: answers, s)

def answers (s : ElementStream) (calls : List Call) : List Answer := (s.run calls).1

def after (s : ElementStream) (calls : List Call) : ElementStream := (s.run calls).2

/-- The values among some answers. -/
def Answer.value? : Answer → Option Element
  | item (some (.ok e)) => some e
  | _ => none

def Answer.failure? : Answer → Option SchemaError
  | item (some (.error e)) => some e
  | _ => none

/-- The values that calls hand out. -/
def delivered (s : ElementStream) (calls : List Call) : List Element :=
  (s.answers calls).filterMap Answer.value?

/-- The failures that calls report. -/
def failures (s : ElementStream) (calls : List Call) : List SchemaError :=
  (s.answers calls).filterMap Answer.failure?

/-- The calls in front of the first `close`. -/
def opening (calls : List Call) : List Call := calls.takeWhile (· ≠ .close)

section
variable (s : ElementStream) (c : Call) (calls : List Call)

@[simp] theorem answers_nil : s.answers [] = [] := rfl

@[simp] theorem answers_cons :
    s.answers (c :: calls) = (s.call c).1 :: (s.call c).2.answers calls := rfl

@[simp] theorem after_nil : s.after [] = s := rfl

@[simp] theorem after_cons : s.after (c :: calls) = (s.call c).2.after calls := rfl

@[simp] theorem delivered_nil : s.delivered [] = [] := rfl

@[simp] theorem delivered_cons :
    s.delivered (c :: calls) = (s.call c).1.value?.toList ++ (s.call c).2.delivered calls := by
  rw [delivered, answers_cons, List.filterMap_cons]
  cases (s.call c).1.value? <;> rfl

@[simp] theorem failures_nil : s.failures [] = [] := rfl

@[simp] theorem failures_cons :
    s.failures (c :: calls) = (s.call c).1.failure?.toList ++ (s.call c).2.failures calls := by
  rw [failures, answers_cons, List.filterMap_cons]
  cases (s.call c).1.failure? <;> rfl

@[simp] theorem opening_nil : opening [] = [] := rfl

@[simp] theorem opening_next : opening (.next :: calls) = .next :: opening calls := rfl

@[simp] theorem opening_close : opening (.close :: calls) = [] := rfl

@[simp] theorem opening_isClosed : opening (.isClosed :: calls) = .isClosed :: opening calls := rfl

end

/-! ## What is left decides what is handed out -/

/-- `next` sees of a stream only the values that are left, or the failure. -/
theorem next_eq (s : ElementStream) :
    s.next = match s.toList with
      | .ok values => nextOf values
      | .error e => (some (.error e), closed) := by
  cases s with
  | pending source => cases h : source () <;> simp [next, nextIn, toList, h]
  | opened | closed => rfl

/-- What is left is handed out in order, one value for each `next` in front of the first `close`. -/
theorem delivered_eq {s : ElementStream} {values : List Element} (left : s.toList = .ok values)
    (calls : List Call) :
    s.delivered calls = values.take ((opening calls).count .next) ∧ s.failures calls = [] := by
  induction calls generalizing s values with
  | nil => simp
  | cons c calls ih =>
    cases c with
    | next =>
      rw [delivered_cons, failures_cons, call, next_eq, left]
      cases values with
      | nil => simpa [nextOf, Answer.value?, Answer.failure?] using ih (s := closed) rfl
      | cons v vs => simpa [nextOf, Answer.value?, Answer.failure?] using ih (s := opened vs) rfl
    | close => simpa [call, close, Answer.value?, Answer.failure?] using ih (s := closed) rfl
    | isClosed => simpa [call, Answer.value?, Answer.failure?] using ih left

/-- A failure is reported by the first `next`, unless `close` comes before it. -/
theorem failures_eq {s : ElementStream} {e : SchemaError} (fails : s.toList = .error e)
    (calls : List Call) :
    s.delivered calls = [] ∧ s.failures calls = if .next ∈ opening calls then [e] else [] := by
  have behind (calls : List Call) : closed.delivered calls = [] ∧ closed.failures calls = [] := by
    simpa using delivered_eq (s := closed) rfl calls
  induction calls with
  | nil => simp
  | cons c calls ih =>
    cases c with
    | next =>
      rw [delivered_cons, failures_cons, call, next_eq, fails]
      simpa [Answer.value?, Answer.failure?] using behind calls
    | close => simpa [call, close, Answer.value?, Answer.failure?] using behind calls
    | isClosed => simpa [call, Answer.value?, Answer.failure?] using ih

/-! ## Closed for good -/

/-- Nothing comes behind this answer: the end, a failure, or that the stream was closed. -/
def Answer.Ends : Answer → Prop
  | item none | item (some (.error _)) | done => True
  | item (some (.ok _)) | told _ => False

/-- An answer of a closed stream. -/
def Answer.IsSpent : Answer → Prop
  | item none | done | told true => True
  | item (some _) | told false => False

theorem isClosed_call_iff (s : ElementStream) (c : Call) :
    (s.call c).2.isClosed = true ↔ s.isClosed = true ∨ (s.call c).1.Ends := by
  cases c with
  | next =>
    rw [call, next_eq]
    cases s with
    | pending source => cases h : source () with
      | error e => simp [toList, h, isClosed, Answer.Ends]
      | ok values => cases values <;> simp [toList, h, nextOf, isClosed, Answer.Ends]
    | opened rest => cases rest <;> simp [toList, nextOf, isClosed, Answer.Ends]
    | closed => simp [toList, nextOf, isClosed]
  | close => simp [call, close, isClosed, Answer.Ends]
  | isClosed => simp [call, Answer.Ends]

/-- A stream is closed exactly from the first such answer on, if it was not closed before. -/
theorem isClosed_after_iff (s : ElementStream) (calls : List Call) :
    (s.after calls).isClosed = true ↔
      s.isClosed = true ∨ ∃ answer ∈ s.answers calls, answer.Ends := by
  induction calls generalizing s with
  | nil => simp
  | cons c calls ih =>
    rw [after_cons, ih, isClosed_call_iff, or_assoc]
    simp only [answers_cons, List.mem_cons, exists_eq_or_imp]

theorem spent_of_isClosed {s : ElementStream} (h : s.isClosed = true) (calls : List Call) :
    ∀ answer ∈ s.answers calls, answer.IsSpent := by
  cases s with
  | pending | opened => cases h
  | closed =>
    induction calls with
    | nil => simp
    | cons c calls ih =>
      cases c <;> simpa [call, next_eq, toList, nextOf, close, isClosed, Answer.IsSpent] using ih

/-! ## Asking the source -/

section
variable {m : Type → Type} [Monad m] (ask : ElementSource → m (Except SchemaError (List Element)))

def callIn (s : ElementStream) : Call → m (Answer × ElementStream)
  | .next => do
    let (found, s) ← s.nextIn ask
    pure (.item found, s)
  | .close => pure (.done, s.close)
  | .isClosed => pure (.told s.isClosed, s)

def runIn (s : ElementStream) : List Call → m (List Answer × ElementStream)
  | [] => pure ([], s)
  | c :: calls => do
    let (answer, s) ← s.callIn ask c
    let (answers, s) ← s.runIn calls
    pure (answer :: answers, s)

def isPending : ElementStream → Bool
  | pending _ => true
  | _ => false

variable [LawfulMonad m]

/-- Nobody is asked once a stream has been opened or closed. -/
theorem runIn_settled {s : ElementStream} (settled : s.isPending = false) (calls : List Call) :
    s.runIn ask calls = pure (s.run calls) := by
  induction calls generalizing s with
  | nil => rfl
  | cons c calls ih =>
    have step : s.callIn ask c = pure (s.call c) ∧ (s.call c).2.isPending = false := by
      cases s with
      | pending source => cases settled
      | opened rest =>
        cases c with
        | next => cases rest <;> simp [callIn, nextIn, call, next_eq, toList, nextOf, isPending]
        | close => simp [callIn, call, close, isPending]
        | isClosed => simp [callIn, call, isPending]
      | closed => cases c <;> simp [callIn, nextIn, call, next_eq, toList, nextOf, close, isPending]
    rw [runIn, step.1, pure_bind, run]
    simp only [ih step.2, pure_bind]

/-- **A run asks the source once or not at all.** Whatever asking does, it happens exactly if there
is a `next` in front of the first `close`, and what the source says then decides the rest. -/
theorem runIn_pending (source : ElementSource) (calls : List Call) :
    (pending source).runIn ask calls =
      if .next ∈ opening calls then
        (fun said => (pending fun _ => said).run calls) <$> ask source
      else pure ((pending source).run calls) := by
  induction calls with
  | nil => simp [runIn, run]
  | cons c calls ih =>
    cases c with
    | next =>
      simp only [opening_next, List.mem_cons_self, if_true, runIn, callIn, nextIn, bind_assoc,
        map_eq_pure_bind]
      refine bind_congr fun said => ?_
      cases said with
      | error e =>
        simp [runIn_settled ask (s := closed) rfl, run, call, next_eq, toList]
      | ok values =>
        have settled : (nextOf values).2.isPending = false := by cases values <;> rfl
        simp [runIn_settled ask settled, run, call, next_eq, toList]
    | close =>
      simp [runIn, callIn, runIn_settled ask (s := closed) rfl, run, call, close]
    | isClosed =>
      simp only [runIn, callIn, pure_bind, ih, opening_isClosed, List.mem_cons, reduceCtorEq,
        false_or]
      split
      · simp [run, call, isClosed]
      · simp [run, call, isClosed]

end

/-- Where asking has no effect, the calls are those of the stream. -/
theorem runIn_pure (s : ElementStream) (calls : List Call) :
    s.runIn (m := Id) (fun source => source ()) calls = s.run calls := by
  cases s with
  | pending source =>
    rw [runIn_pending]
    split
    · rfl
    · rfl
  | opened rest => exact runIn_settled _ rfl calls
  | closed => exact runIn_settled _ rfl calls

/-- Asks a source and counts it. -/
def counted (source : ElementSource) : StateM Nat (Except SchemaError (List Element)) := do
  modify (· + 1)
  pure (source ())

/-- How often calls ask the source. -/
def asks (s : ElementStream) (calls : List Call) : Nat := ((s.runIn counted calls).run 0).2

theorem runIn_counted (s : ElementStream) (calls : List Call) :
    (s.runIn counted calls).run 0 =
      (s.run calls, if s.isPending = true ∧ .next ∈ opening calls then 1 else 0) := by
  cases s with
  | pending source =>
    rw [runIn_pending]
    by_cases early : .next ∈ opening calls
    · rw [if_pos early, if_pos ⟨rfl, early⟩]
      rfl
    · rw [if_neg early, if_neg fun h => early h.2]
      rfl
  | opened rest => rw [runIn_settled _ rfl]; rfl
  | closed => rw [runIn_settled _ rfl]; rfl

theorem asks_eq (s : ElementStream) (calls : List Call) :
    s.asks calls = if s.isPending = true ∧ .next ∈ opening calls then 1 else 0 :=
  congrArg Prod.snd (runIn_counted s calls)

theorem next_mem_opening_snoc (before : List Call) (c : Call) :
    .next ∈ opening (before ++ [c]) ↔
      .next ∈ opening before ∨ c = .next ∧ .close ∉ before := by
  induction before with
  | nil => cases c <;> simp
  | cons d before ih => cases d <;> simp [ih]

theorem opening_of_not_mem {before : List Call} (unclosed : .close ∉ before) :
    opening before = before := by
  induction before with
  | nil => rfl
  | cons c before ih => cases c <;> simp_all

/-- The call that asks the source is the first `next`, if no `close` comes before it. -/
theorem asks_snoc (s : ElementStream) (before : List Call) (c : Call) :
    s.asks (before ++ [c]) = s.asks before +
      if s.isPending = true ∧ c = .next ∧ .next ∉ before ∧ .close ∉ before then 1 else 0 := by
  simp only [asks_eq, next_mem_opening_snoc]
  by_cases shut : .close ∈ before
  · simp [shut]
  · simp only [opening_of_not_mem shut]
    by_cases asked : .next ∈ before
    · simp [asked]
    · simp [asked, shut]

/-- **A stream hands out each value once and lets go of its source.** The source is asked by the
first `next` if no `close` comes before it, and by no other call. What it supplies is handed out
from the front, one value for each `next` up to the first `close`; a failure of it is reported by
one `next`. From the end, a failure or `close` on, and not before, the stream is closed, and then
has no more to say. -/
theorem hands_out_once (s : ElementStream) :
    (∀ calls, (s.runIn counted calls).run 0 = (s.run calls, s.asks calls) ∧ s.asks calls ≤ 1) ∧
    (∀ before c, s.asks (before ++ [c]) = s.asks before +
      if s.isPending = true ∧ c = .next ∧ .next ∉ before ∧ .close ∉ before then 1 else 0) ∧
    (∀ values, s.toList = .ok values → ∀ calls,
      s.delivered calls = values.take ((opening calls).count .next) ∧ s.failures calls = []) ∧
    (∀ e, s.toList = .error e → ∀ calls, s.delivered calls = [] ∧
      s.failures calls = if .next ∈ opening calls then [e] else []) ∧
    (∀ before, (s.after before).isClosed = true ↔
      s.isClosed = true ∨ ∃ answer ∈ s.answers before, answer.Ends) ∧
    (∀ before, (s.after before).isClosed = true →
      ∀ later, ∀ answer ∈ (s.after before).answers later, answer.IsSpent) := by
  refine ⟨fun calls => ⟨?_, ?_⟩, asks_snoc s, fun _ => delivered_eq, fun _ => failures_eq,
    isClosed_after_iff s, fun _ => spent_of_isClosed⟩
  · rw [asks_eq, runIn_counted]
  · rw [asks_eq]
    split <;> decide

/-- Two values and then the end, two values and an early `close`, and a source that fails. -/
theorem hands_out_once_two :
    let one := Element.ofValue (.int 1)
    let two := Element.ofValue (.int 2)
    let s := deferred fun _ => .ok [one, two]
    let failing := deferred fun _ => .error (.fileNotFound "a.isl")
    s.delivered [.isClosed, .next, .next, .next, .next] = [one, two] ∧
      s.delivered [.next, .close, .next] = [one] ∧
      (∀ answer ∈ (s.after [.next, .close]).answers [.next, .isClosed], answer.IsSpent) ∧
      failing.failures [.next, .next] = [.fileNotFound "a.isl"] := by
  intro one two s failing
  obtain ⟨-, -, values, -, -, spent⟩ := hands_out_once s
  obtain ⟨-, -, -, fails, -, -⟩ := hands_out_once failing
  exact ⟨(values [one, two] rfl _).1, (values [one, two] rfl _).1, spent [.next, .close] rfl _,
    (fails (.fileNotFound "a.isl") rfl [.next, .next]).2⟩

end Isl.ElementStream
