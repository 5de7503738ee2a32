import Isl.Proofs.Cache.Makers
import Isl.Proofs.System.Load
/-!
# Calls on a system side by side

Any number of calls use one system at the same time. A load enters the cache and builds there; what
it reads and compiles along the way it offers to the cache afterwards, one schema after the other,
each through a caller of its own. Between any two of these turns, other calls take theirs, keys are
invalidated, and authorities come to hold other documents.

* `Task`: the work on a root, one look at the cache or one fetch at a time;
* `Errand`: where a call is, from its start to its last offer;
* `Step`, `Run`: what each turn does, and the turns since nothing was loaded, in order;
* `Run.cached`: whatever calls do, their moments at the cache are a run of its callers.
-/
namespace Isl

/-- The cache has answered this caller. -/
def Cache.Stage.Answered {β : Type} : Cache.Stage β → Prop
  | hit .. | served .. | builds _ _ (.ended ..) => True
  | _ => False

/-- The moments that come on their own, with nothing more to say about them. -/
def Cache.Moment.Plain {β : Type} : Cache.Moment β → Prop
  | enter .. | resolve .. => False
  | settle _ | announce _ | wake _ | invalidate _ => True

/-- How far the work on a root is. -/
inductive Task where
  /-- The root itself has to be fetched. -/
  | reads (id : String)
  | walks (root : SchemaDocument) (world : Universe) (todo : List Quest)
  /-- The cache had nothing for this quest. -/
  | asks (root : SchemaDocument) (world : Universe) (quest : Quest) (todo : List Quest)
  | ended (outcome : Except SchemaError (Schema × List Schema))

namespace Task

def ofRoot (root : SchemaDocument) : Task := walks root (.ofRoot root) (Universe.questsOf [] root)

/-- The id that authorities have to be asked for next. -/
def wants? : Task → Option String
  | reads id => some id
  | asks _ _ quest _ => some quest.id
  | _ => none

/-- Goes on with what authorities had for the id that it wanted. -/
def given (found : Except SchemaError SchemaDocument) : Task → Task
  | reads _ =>
    match found with
    | .error e => ended (.error e)
    | .ok root => ofRoot root
  | asks root world quest todo =>
    match found with
    | .error e => ended (.error (Settings.importFailed quest.chain e))
    | .ok d =>
      walks root (world.addPending quest.id quest.chain d)
        (Universe.questsOf quest.chain d ++ todo)
  | task => task

/-- Goes on with what it has and a look at the cache. -/
def onward (settings : Settings) (cached : String → Option Schema) : Task → Task
  | walks root world [] => ended (settings.compile world root)
  | walks root world (quest :: todo) =>
    if world.contains quest.id then walks root world todo
    else
      match cached quest.id with
      | some σ => walks root (world.addCached quest.id σ) todo
      | none => asks root world quest todo
  | task => task

end Task

/-- Where a call is. -/
inductive Errand where
  | outside
  /-- At work on a root, as the resolver of a caller of the cache if the root has an id. -/
  | works (caller : Option Nat) (task : Task)
  /-- As the resolver of a caller of the cache, it has this schema at hand. -/
  | offers (caller : Nat) (schema : Schema) (left : List Schema)
  /-- It goes on with what is left to offer once the cache has answered its last caller. -/
  | pauses (last : Option Nat) (left : List Schema)

/-- A caller that has to build goes to work; one that has not leaves the work alone. -/
def Errand.met (caller : Nat) (work : Errand) (left : List Schema) : CacheEntry Schema → Errand
  | .start _ => work
  | _ => .pauses (some caller) left

/-- A system at which calls are under way, told apart by number. -/
structure Traffic where
  authorities : List Authority
  callers : Cache.Callers Schema
  errand : Nat → Errand

namespace Traffic

def start (authorities : List Authority) : Traffic := ⟨authorities, .start, fun _ => .outside⟩

/-- One call goes on, and leaves these callers of the cache behind. -/
def move (s : Traffic) (call : Nat) (errand : Errand) (callers : Cache.Callers Schema) : Traffic :=
  ⟨s.authorities, callers, fun n => if n = call then errand else s.errand n⟩

def Answered (s : Traffic) (last : Option Nat) : Prop :=
  ∀ c, last = some c → (s.callers.stage c).Answered

section

variable {s : Traffic} {call n : Nat} {errand : Errand} {callers : Cache.Callers Schema}

@[simp] theorem authorities_move : (s.move call errand callers).authorities = s.authorities := rfl

@[simp] theorem callers_move : (s.move call errand callers).callers = callers := rfl

@[simp] theorem errand_move_self : (s.move call errand callers).errand call = errand := if_pos rfl

theorem answered_none : s.Answered none := nofun

theorem errand_move_of_ne (other : n ≠ call) :
    (s.move call errand callers).errand n = s.errand n := if_neg other

end

inductive Event where
  /-- Authorities change what they hold. -/
  | supply (authorities : List Authority)
  | load (call caller : Nat) (id : String)
  | compile (call : Nat) (values : List Element)
  | fetch (call : Nat) (id : String) (found : Except SchemaError SchemaDocument)
  | work (call : Nat)
  | offer (call caller : Nat) (id : String) (schema : Schema)
  | touch (moment : Cache.Moment Schema)

/-- What an event is to the cache. -/
def Event.moment? : Event → Option (Cache.Moment Schema)
  | load _ caller id | offer _ caller id _ => some (.enter caller id)
  | touch moment => some moment
  | _ => none

inductive Step (settings : Settings) (s : Traffic) : Event → Traffic → Prop where
  | supply (authorities : List Authority) :
      Step settings s (.supply authorities) { s with authorities := authorities }
  | load {n c : Nat} {id : String} {callers : Cache.Callers Schema} (out : s.errand n = .outside)
      (enters : Cache.Step s.callers (.enter c id) callers) :
      Step settings s (.load n c id)
        (s.move n (.met c (.works (some c) (.reads id)) [] (s.callers.cache.enter id).2) callers)
  | compile {n : Nat} {values : List Element} {root : SchemaDocument}
      (out : s.errand n = .outside) (read : settings.read values = .ok root) :
      Step settings s (.compile n values) (s.move n (.works none (.ofRoot root)) s.callers)
  | fetch {n : Nat} {id : String} {caller : Option Nat} {task : Task}
      (at_work : s.errand n = .works caller task) (wants : task.wants? = some id) :
      Step settings s (.fetch n id (settings.fetch s.authorities id))
        { s.move n (.works caller (task.given (settings.fetch s.authorities id))) s.callers with
          authorities := Authority.afterFetch id s.authorities }
  | work {n : Nat} {caller : Option Nat} {task : Task} (at_work : s.errand n = .works caller task) :
      Step settings s (.work n)
        (s.move n (.works caller (task.onward settings s.callers.cache.get?)) s.callers)
  /-- The resolver of a load ends. -/
  | deliver {n c : Nat} {outcome : Except SchemaError (Schema × List Schema)}
      {callers : Cache.Callers Schema} (done : s.errand n = .works (some c) (.ended outcome))
      (resolves : Cache.Step s.callers (.resolve c (Attempt.mk outcome []).result) callers) :
      Step settings s (.touch (.resolve c (Attempt.mk outcome []).result))
        (s.move n (.pauses (some c) (Attempt.mk outcome []).members) callers)
  /-- The resolver of a load ends without an answer, wherever it is. -/
  | abandon {n c : Nat} {task : Task} {callers : Cache.Callers Schema}
      (at_work : s.errand n = .works (some c) task)
      (resolves : Cache.Step s.callers (.resolve c .abandoned) callers) :
      Step settings s (.touch (.resolve c .abandoned)) (s.move n (.pauses (some c) []) callers)
  | finish {n : Nat} {outcome : Except SchemaError (Schema × List Schema)}
      (done : s.errand n = .works none (.ended outcome)) :
      Step settings s (.work n) (s.move n (.pauses none (Attempt.mk outcome []).members) s.callers)
  | offer {n c : Nat} {id : String} {σ : Schema} {left : List Schema} {last : Option Nat}
      {callers : Cache.Callers Schema} (next : s.errand n = .pauses last (σ :: left))
      (told : s.Answered last) (named : σ.id? = some id)
      (enters : Cache.Step s.callers (.enter c id) callers) :
      Step settings s (.offer n c id σ)
        (s.move n (.met c (.offers c σ left) left (s.callers.cache.enter id).2) callers)
  | skip {n : Nat} {σ : Schema} {left : List Schema} {last : Option Nat}
      (next : s.errand n = .pauses last (σ :: left)) (anonymous : σ.id? = none) :
      Step settings s (.work n) (s.move n (.pauses last left) s.callers)
  /-- The resolver of an offer ends. -/
  | bring {n c : Nat} {σ : Schema} {left : List Schema} {callers : Cache.Callers Schema}
      (at_hand : s.errand n = .offers c σ left)
      (resolves : Cache.Step s.callers (.resolve c (.built σ)) callers) :
      Step settings s (.touch (.resolve c (.built σ))) (s.move n (.pauses (some c) left) callers)
  | touch {moment : Cache.Moment Schema} {callers : Cache.Callers Schema} (plain : moment.Plain)
      (step : Cache.Step s.callers moment callers) :
      Step settings s (.touch moment) { s with callers := callers }

/-- What calls can do to a system that has loaded nothing: the events in order, and what they lead
to. -/
inductive Run (settings : Settings) : List Event → Traffic → Prop where
  | start (authorities : List Authority) : Run settings [] (.start authorities)
  | next {events : List Event} {event : Event} {s s' : Traffic} (run : Run settings events s)
      (step : Step settings s event s') : Run settings (events ++ [event]) s'

variable {settings : Settings} {s s' : Traffic} {events : List Event} {event : Event}

/-- An event is a moment of the cache, or it leaves the cache alone. -/
theorem Step.cached (step : Step settings s event s') :
    (∃ moment, event.moment? = some moment ∧ Cache.Step s.callers moment s'.callers) ∨
      (event.moment? = none ∧ s'.callers = s.callers) := by
  cases step with
  | supply _ => exact .inr ⟨rfl, rfl⟩
  | load _ enters => exact .inl ⟨_, rfl, enters⟩
  | compile _ _ => exact .inr ⟨rfl, rfl⟩
  | fetch _ _ => exact .inr ⟨rfl, rfl⟩
  | work _ => exact .inr ⟨rfl, rfl⟩
  | deliver _ resolves => exact .inl ⟨_, rfl, resolves⟩
  | abandon _ resolves => exact .inl ⟨_, rfl, resolves⟩
  | finish _ => exact .inr ⟨rfl, rfl⟩
  | offer _ _ _ enters => exact .inl ⟨_, rfl, enters⟩
  | skip _ _ => exact .inr ⟨rfl, rfl⟩
  | bring _ resolves => exact .inl ⟨_, rfl, resolves⟩
  | touch _ step => exact .inl ⟨_, rfl, step⟩

theorem Run.cached (run : Run settings events s) :
    Cache.Run (events.filterMap Event.moment?) s.callers := by
  induction run with
  | start _ => exact .start
  | @next events event _ _ _ step ih =>
    rw [List.filterMap_append]
    obtain ⟨moment, is, touched⟩ | ⟨none, kept⟩ := step.cached
    · rw [show [event].filterMap Event.moment? = [moment] by simp [is]]
      exact ih.next touched
    · rw [show [event].filterMap Event.moment? = [] by simp [none], List.append_nil, kept]
      exact ih

/-! ## Turns of one call -/

variable {n c : Nat} {id : String} {caller : Option Nat} {task : Task}

theorem Run.work_to (run : Run settings events s) (at_work : s.errand n = .works caller task)
    (task' : Task) (next : task.onward settings s.callers.cache.get? = task') :
    Run settings (events ++ [.work n]) (s.move n (.works caller task') s.callers) :=
  next ▸ run.next (.work at_work)

theorem Run.fetch_to (run : Run settings events s) (at_work : s.errand n = .works caller task)
    (wants : task.wants? = some id) (found : Except SchemaError SchemaDocument)
    (gives : settings.fetch s.authorities id = found) :
    Run settings (events ++ [.fetch n id found])
      { s.move n (.works caller (task.given found)) s.callers with
        authorities := Authority.afterFetch id s.authorities } :=
  gives ▸ run.next (.fetch at_work wants)

/-- A build that has come to something ends in two turns. -/
theorem Run.published {key : String} {b : Nat} {result : BuildResult Schema}
    (run : Run settings events s)
    (resolved : s.callers.stage c = .builds key b (.resolved result)) :
    ∃ s', Run settings (events ++ [.touch (.settle c), .touch (.announce c)]) s' ∧
      s'.authorities = s.authorities ∧ s'.errand = s.errand ∧
      s'.callers.cache = (s.callers.cache.settle key b result).announce key b result ∧
      s'.callers.stage c = .builds key b
        (.ended result ((s.callers.cache.settle key b result).builderReply key b result)) ∧
      ∀ m, m ≠ c → s'.callers.stage m = s.callers.stage m := by
  have settled := run.next (.touch (by trivial) (.settle resolved))
  have announced := settled.next
    (.touch (by trivial) (.announce Cache.Callers.stage_move_self))
  rw [List.append_assoc] at announced
  refine ⟨_, announced, rfl, rfl, rfl, Cache.Callers.stage_move_self, ?_⟩
  intro m other
  exact (Cache.Callers.stage_move_of_ne other).trans (Cache.Callers.stage_move_of_ne other)

end Traffic
end Isl
