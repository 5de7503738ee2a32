import Isl.Proofs.Cache.Builds
/-!
# Callers of the cache side by side

Any number of callers use one cache, each for one call: a caller that comes back is another
caller. The moments at which they touch the cache follow one another in any order, and what the
work of a builder comes to is left open.

* `Step`, `Run`: what each moment does, and the moments since the cache was empty, in order;
* `Step.turn`: all that a moment can do to a caller;
* `Step.builds_before`, `Step.builds_after`: a builder keeps its build, and its work goes on;
* `Step.find?_after`: only the announcement of a build does more to it than register waiters;
* `Step.slot_before`, `Step.slot_after`: a slot is taken by entering, and given up by settling
  or lost to an invalidation.
-/
namespace Isl.Cache

variable {β : Type}

/-- How far the work on a build is. -/
inductive Work (β : Type) where
  | resolving
  | resolved (result : BuildResult β)
  | settled (result : BuildResult β)
  | ended (result : BuildResult β) (reply : Option (Except SchemaError β))

namespace Work

/-- The build has not been at its slot again since it began. -/
def Unsettled : Work β → Prop
  | resolving | resolved _ => True
  | settled _ | ended .. => False

/-- The build has told its waiters nothing yet. -/
def Unannounced : Work β → Prop
  | resolving | resolved _ | settled _ => True
  | ended .. => False

theorem Unsettled.unannounced {work : Work β} (unsettled : work.Unsettled) :
    work.Unannounced := by
  cases work with
  | resolving => trivial
  | resolved _ => trivial
  | settled _ => cases unsettled
  | ended _ _ => cases unsettled

theorem unannounced_or_ended (work : Work β) :
    work.Unannounced ∨ ∃ result reply, work = .ended result reply := by
  cases work with
  | resolving => exact .inl trivial
  | resolved _ => exact .inl trivial
  | settled _ => exact .inl trivial
  | ended result reply => exact .inr ⟨result, reply, rfl⟩

end Work

/-- Where a caller is in its call. -/
inductive Stage (β : Type) where
  | outside
  | hit (key : String) (build : Nat) (value : β)
  | builds (key : String) (build : Nat) (work : Work β)
  | waits (key : String) (build : Nat)
  | served (key : String) (build : Nat) (answer : Except SchemaError β)

/-- A caller goes on with what it met. -/
def Stage.entered (key : String) : CacheEntry β → Stage β
  | .hit build value => .hit key build value
  | .join build => .waits key build
  | .start build => .builds key build .resolving

/-- A cache and its callers, told apart by number. -/
structure Callers (β : Type) where
  cache : Cache β
  stage : Nat → Stage β

namespace Callers

def start : Callers β := ⟨.empty, fun _ => .outside⟩

/-- One caller goes on, and leaves this cache behind. -/
def move (s : Callers β) (caller : Nat) (stage : Stage β) (cache : Cache β) : Callers β :=
  ⟨cache, fun n => if n = caller then stage else s.stage n⟩

variable {s : Callers β} {caller n : Nat} {stage : Stage β} {cache : Cache β}

@[simp] theorem cache_move : (s.move caller stage cache).cache = cache := rfl

@[simp] theorem stage_move_self : (s.move caller stage cache).stage caller = stage := if_pos rfl

theorem stage_move_of_ne (other : n ≠ caller) :
    (s.move caller stage cache).stage n = s.stage n := if_neg other

theorem stage_of_move {stage' : Stage β} (h : (s.move caller stage cache).stage n = stage') :
    n = caller ∧ stage = stage' ∨ s.stage n = stage' := by
  by_cases own : n = caller
  · subst own
    exact .inl ⟨rfl, stage_move_self.symm.trans h⟩
  · exact .inr ((stage_move_of_ne own).symm.trans h)

end Callers

/-- The moments at which a cache is touched. -/
inductive Moment (β : Type) where
  | enter (caller : Nat) (key : String)
  | resolve (caller : Nat) (result : BuildResult β)
  | settle (caller : Nat)
  | announce (caller : Nat)
  | wake (caller : Nat)
  | invalidate (key : String)

inductive Step (s : Callers β) : Moment β → Callers β → Prop where
  | enter {n : Nat} (key : String) (out : s.stage n = .outside) :
      Step s (.enter n key)
        (s.move n (.entered key (s.cache.enter key).2) (s.cache.enter key).1)
  | resolve {n build : Nat} {key : String} (at_work : s.stage n = .builds key build .resolving)
      (result : BuildResult β) :
      Step s (.resolve n result) (s.move n (.builds key build (.resolved result)) s.cache)
  | settle {n build : Nat} {key : String} {result : BuildResult β}
      (at_work : s.stage n = .builds key build (.resolved result)) :
      Step s (.settle n)
        (s.move n (.builds key build (.settled result)) (s.cache.settle key build result))
  | announce {n build : Nat} {key : String} {result : BuildResult β}
      (at_work : s.stage n = .builds key build (.settled result)) :
      Step s (.announce n)
        (s.move n (.builds key build (.ended result (s.cache.builderReply key build result)))
          (s.cache.announce key build result))
  | wake {n build : Nat} {key : String} {answer : Except SchemaError β}
      (asleep : s.stage n = .waits key build) (told : s.cache.waiterReply? build = some answer) :
      Step s (.wake n) (s.move n (.served key build answer) s.cache)
  | invalidate (key : String) :
      Step s (.invalidate key) ⟨s.cache.invalidate key, s.stage⟩

/-- What callers can do to a cache that was empty: the moments in order, and what they lead to. -/
inductive Run : List (Moment β) → Callers β → Prop where
  | start : Run [] .start
  | next {moments : List (Moment β)} {moment : Moment β} {s s' : Callers β}
      (run : Run moments s) (step : Step s moment s') : Run (moments ++ [moment]) s'

/-! ## The callers after a moment -/

/-- What a moment does to the work on a build. -/
inductive Onward (s s' : Callers β) (key : String) (build : Nat) : Work β → Work β → Prop where
  | stay (work : Work β) : Onward s s' key build work work
  | resolve (result : BuildResult β) : Onward s s' key build .resolving (.resolved result)
  | settle {result : BuildResult β} (left : s'.cache = s.cache.settle key build result) :
      Onward s s' key build (.resolved result) (.settled result)
  | announce {result : BuildResult β} (left : s'.cache = s.cache.announce key build result) :
      Onward s s' key build (.settled result)
        (.ended result (s.cache.builderReply key build result))

/-- What a moment does to a caller. -/
inductive Turn (s s' : Callers β) (moment : Moment β) (n : Nat) : Prop where
  | none (kept : s'.stage n = s.stage n)
  | enters (key : String) (entered : moment = .enter n key) (out : s.stage n = .outside)
      (left : s' = s.move n (.entered key (s.cache.enter key).2) (s.cache.enter key).1)
  | works {key : String} {b : Nat} {work work' : Work β} (before : s.stage n = .builds key b work)
      (after : s'.stage n = .builds key b work') (onward : Onward s s' key b work work')
  | wakes {key : String} {b : Nat} {answer : Except SchemaError β}
      (asleep : s.stage n = .waits key b) (up : s'.stage n = .served key b answer)
      (told : s.cache.waiterReply? b = some answer)

variable {s s' : Callers β} {moment : Moment β} {key : String} {b n : Nat} {work work' : Work β}

theorem Onward.unsettled (onward : Onward s s' key b work work') (after : work'.Unsettled) :
    work.Unsettled := by
  cases onward with
  | stay => exact after
  | resolve _ => trivial
  | settle _ => cases after
  | announce _ => cases after

/-- A moment does not take a build past both its slot and its waiters. -/
theorem Onward.unannounced_of_unsettled (onward : Onward s s' key b work work')
    (before : work.Unsettled) : work'.Unannounced := by
  cases onward with
  | stay => exact before.unannounced
  | resolve _ => trivial
  | settle _ => trivial
  | announce _ => cases before

theorem Onward.unannounced (onward : Onward s s' key b work work')
    (after : work'.Unannounced) : work.Unannounced := by
  cases onward with
  | stay => exact after
  | resolve _ => trivial
  | settle _ => trivial
  | announce _ => cases after

theorem Step.turn (step : Step s moment s') (n : Nat) : Turn s s' moment n := by
  cases step with
  | @enter m key out =>
    by_cases own : n = m
    · subst own
      exact .enters key rfl out rfl
    · exact .none (Callers.stage_move_of_ne own)
  | @resolve m _ _ before result =>
    by_cases own : n = m
    · subst own
      exact .works before Callers.stage_move_self (.resolve result)
    · exact .none (Callers.stage_move_of_ne own)
  | @settle m _ _ _ before =>
    by_cases own : n = m
    · subst own
      exact .works before Callers.stage_move_self (.settle rfl)
    · exact .none (Callers.stage_move_of_ne own)
  | @announce m _ _ _ before =>
    by_cases own : n = m
    · subst own
      exact .works before Callers.stage_move_self (.announce rfl)
    · exact .none (Callers.stage_move_of_ne own)
  | @wake m _ _ _ asleep told =>
    by_cases own : n = m
    · subst own
      exact .wakes asleep Callers.stage_move_self told
    · exact .none (Callers.stage_move_of_ne own)
  | invalidate _ => exact .none rfl

/-- A builder keeps its build. -/
theorem Step.builds_after (step : Step s moment s') (at_work : s.stage n = .builds key b work) :
    ∃ work', s'.stage n = .builds key b work' ∧ Onward s s' key b work work' := by
  cases step.turn n with
  | none kept => exact ⟨work, kept.trans at_work, .stay work⟩
  | enters _ _ out _ => cases out.symm.trans at_work
  | works before after onward =>
    cases before.symm.trans at_work
    exact ⟨_, after, onward⟩
  | wakes asleep _ _ => cases asleep.symm.trans at_work

/-- Who builds has built before, or found nothing for its key just now. -/
theorem Step.builds_before (step : Step s moment s')
    (at_work : s'.stage n = .builds key b work') :
    (∃ work, s.stage n = .builds key b work ∧ Onward s s' key b work work') ∨
      (moment = .enter n key ∧ s.cache.slots.find? key = none ∧ b = s.cache.begun ∧
        work' = .resolving) := by
  cases step.turn n with
  | none kept => exact .inl ⟨work', kept.symm.trans at_work, .stay work'⟩
  | enters k entered _ left =>
    subst left
    rw [Callers.stage_move_self] at at_work
    obtain ⟨_, _, _, met⟩ | ⟨_, _, met⟩ | ⟨absent, met⟩ := enter_cases s.cache k
    · simp [met, Stage.entered] at at_work
    · simp [met, Stage.entered] at at_work
    · simp only [met, Stage.entered, Stage.builds.injEq] at at_work
      obtain ⟨rfl, rfl, rfl⟩ := at_work
      exact .inr ⟨entered, absent, rfl, rfl⟩
  | works before after onward =>
    cases after.symm.trans at_work
    exact .inl ⟨_, before, onward⟩
  | wakes _ up _ => cases up.symm.trans at_work

/-- Who waits has waited before, or has joined a build just now. -/
theorem Step.waits_before (step : Step s moment s') (asleep : s'.stage n = .waits key b) :
    s.stage n = .waits key b ∨
      (s.cache.slots.find? key = some (.building b) ∧
        s'.cache = s.cache.updateBuild b fun x => { x with waiters := x.waiters + 1 }) := by
  cases step.turn n with
  | none kept => exact .inl (kept.symm.trans asleep)
  | enters k _ _ left =>
    subst left
    rw [Callers.stage_move_self] at asleep
    obtain ⟨_, _, _, met⟩ | ⟨_, held, met⟩ | ⟨_, met⟩ := enter_cases s.cache k
    · simp [met, Stage.entered] at asleep
    · simp only [met, Stage.entered, Stage.waits.injEq] at asleep
      obtain ⟨rfl, rfl⟩ := asleep
      exact .inr ⟨held, by simp [met]⟩
    · simp [met, Stage.entered] at asleep
  | works _ after _ => cases after.symm.trans asleep
  | wakes _ up _ => cases up.symm.trans asleep

/-- Who has been served was served before, or has heard of the outcome just now. -/
theorem Step.served_before (step : Step s moment s') {answer : Except SchemaError β}
    (up : s'.stage n = .served key b answer) :
    s.stage n = .served key b answer ∨
      (s.stage n = .waits key b ∧ s.cache.waiterReply? b = some answer) := by
  cases step.turn n with
  | none kept => exact .inl (kept.symm.trans up)
  | enters k _ _ left =>
    subst left
    rw [Callers.stage_move_self] at up
    cases met : (s.cache.enter k).2 with
    | hit _ _ => simp [met, Stage.entered] at up
    | join _ => simp [met, Stage.entered] at up
    | start _ => simp [met, Stage.entered] at up
  | works _ after _ => cases after.symm.trans up
  | wakes asleep up' told =>
    cases up'.symm.trans up
    exact .inr ⟨asleep, told⟩

/-! ## The cache after a moment -/

theorem Step.begun_le (step : Step s moment s') : s.cache.begun ≤ s'.cache.begun := by
  cases step with
  | enter key _ => exact begun_enter s.cache key
  | resolve _ _ => exact Nat.le_refl _
  | settle _ => exact Nat.le_of_eq (begun_settle ..).symm
  | announce _ => exact Nat.le_of_eq (begun_announce ..).symm
  | wake _ _ => exact Nat.le_refl _
  | invalidate _ => exact Nat.le_refl _

/-- Until a build is announced, all that happens to it is that waiters register. -/
theorem Step.find?_after (step : Step s moment s') (old : b < s.cache.begun) {x : Build β}
    (found : s.cache.find? b = some x) :
    (∃ waiters, x.waiters ≤ waiters ∧
      s'.cache.find? b = some { x with waiters := waiters }) ∨
    ∃ m key result reply, s.stage m = .builds key b (.settled result) ∧
      s'.stage m = .builds key b (.ended result reply) := by
  have same : s'.cache.find? b = s.cache.find? b →
      ∃ waiters, x.waiters ≤ waiters ∧ s'.cache.find? b = some { x with waiters := waiters } :=
    fun kept => ⟨x.waiters, Nat.le_refl _, kept.trans found⟩
  cases step with
  | enter key _ => exact .inl (find?_enter old found)
  | resolve _ _ => exact .inl (same rfl)
  | settle _ => exact .inl (same (find?_settle ..))
  | @announce m build key result at_work =>
    by_cases own : b = build
    · subst own
      exact .inr ⟨m, key, result, _, at_work, Callers.stage_move_self⟩
    · exact .inl (same (find?_announce_of_ne result own))
  | wake _ _ => exact .inl (same rfl)
  | invalidate _ => exact .inl (same rfl)

/-- A build takes its slot when it begins. -/
theorem Step.slot_before (step : Step s moment s')
    (held : s'.cache.slots.find? key = some (.building b)) :
    s.cache.slots.find? key = some (.building b) ∨
      ∃ m, moment = .enter m key ∧ s'.stage m = .builds key b .resolving := by
  cases step with
  | @enter m k _ =>
    obtain ⟨_, _, _, met⟩ | ⟨_, _, met⟩ | ⟨_, met⟩ := enter_cases s.cache k
    · rw [Callers.cache_move, met] at held
      exact .inl held
    · rw [Callers.cache_move, met] at held
      exact .inl held
    · simp only [Callers.cache_move, met, Table.find?_insert] at held
      split at held
      · rename_i same
        subst same
        cases held
        exact .inr ⟨m, rfl, by simp [met, Stage.entered]⟩
      · exact .inl held
  | resolve _ _ => exact .inl held
  | settle _ => exact .inl (building_of_settle held)
  | announce _ =>
    rw [Callers.cache_move, slots_announce] at held
    exact .inl held
  | wake _ _ => exact .inl held
  | invalidate _ => exact .inl (building_of_invalidate held)

/-- A build gives up its slot by settling, or loses it when its key is invalidated. -/
theorem Step.slot_after (step : Step s moment s')
    (held : s.cache.slots.find? key = some (.building b)) :
    s'.cache.slots.find? key = some (.building b) ∨ moment = .invalidate key ∨
      ∃ m result, s.stage m = .builds key b (.resolved result) ∧
        s'.stage m = .builds key b (.settled result) := by
  cases step with
  | enter k _ =>
    obtain ⟨_, _, _, met⟩ | ⟨_, _, met⟩ | ⟨absent, met⟩ := enter_cases s.cache k
    · rw [Callers.cache_move, met]
      exact .inl held
    · rw [Callers.cache_move, met]
      exact .inl held
    · have other : k ≠ key := by
        rintro rfl
        simp [absent] at held
      exact .inl (by simpa [met, Table.find?_insert, other] using held)
  | resolve _ _ => exact .inl held
  | @settle m build k result at_work =>
    by_cases own : k = key ∧ build = b
    · obtain ⟨rfl, rfl⟩ := own
      exact .inr (.inr ⟨m, result, at_work, Callers.stage_move_self⟩)
    · exact .inl (building_kept held own)
  | announce _ =>
    rw [Callers.cache_move, slots_announce]
    exact .inl held
  | wake _ _ => exact .inl held
  | invalidate k =>
    by_cases same : k = key
    · exact .inr (.inl (congrArg _ same))
    · exact .inl (by simpa [Cache.invalidate, Table.find?_erase, same] using held)

end Isl.Cache

/-!
## A call as a run

A call that is made from start to end takes the moments of its caller in order: it enters, and if
it has to build, its work is followed by settling and announcing the build.

* `getOrBuild_join`, `getOrBuild_started`: what a call comes to that has to wait or to build;
* `Run.getOrBuild`: the call is a run.
-/

namespace Isl.Cache

variable {β : Type} {key : String}

/-- What the call of a builder comes to. -/
def replied (build : Nat) : Option (Except SchemaError β) → CallResult β
  | some answer => .answered build answer
  | none => .abandoned

/-- What a call has come to. -/
def Stage.result? : Stage β → Option (CallResult β)
  | hit _ build value => some (.answered build (.ok value))
  | builds _ build (.ended _ reply) => some (replied build reply)
  | waits _ build => some (.waiting build)
  | served _ build answer => some (.answered build answer)
  | _ => none

/-- What a builder does once its work has ended, and what its call comes to. -/
def published (key : String) (build : Nat) (result : BuildResult β) (c : Cache β) :
    CallResult β × Cache β :=
  let settled := c.settle key build result
  (replied build (settled.builderReply key build result), settled.announce key build result)

section

variable {m : Type → Type} [Monad m] [LawfulMonad m] {c left : Cache β} {build : Nat}

theorem getOrBuild_join (met : c.enter key = (left, .join build))
    (work : StateT (Cache β) m (BuildResult β)) :
    getOrBuild key work c = pure (.waiting build, left) := by
  simp [getOrBuild, met, modifyGet, MonadStateOf.modifyGet, StateT.modifyGet, bind, StateT.bind,
    pure_apply]

theorem getOrBuild_started (met : c.enter key = (left, .start build))
    (work : StateT (Cache β) m (BuildResult β)) :
    getOrBuild key work c = (fun ended => published key build ended.1 ended.2) <$> work left := by
  simp only [getOrBuild, modifyGet, MonadStateOf.modifyGet, StateT.modifyGet, bind, StateT.bind,
    pure_bind, met, map_eq_pure_bind, modify_apply]
  congr 1
  funext ended
  simp only [published]
  cases (ended.2.settle key build ended.1).builderReply key build ended.1 with
  | none => rfl
  | some answer => rfl

end

variable {moments : List (Moment β)} {s : Callers β} {n : Nat}

/-- What a single call does is a run, if what its work does to the cache is one. -/
theorem Run.getOrBuild (run : Run moments s) (out : s.stage n = .outside)
    {work : StateT (Cache β) Id (BuildResult β)}
    (works : ∀ {moments s build}, Run moments s → s.stage n = .builds key build .resolving →
      ∃ more s', Run (moments ++ more) s' ∧ s'.cache = (work s.cache).2 ∧
        s'.stage n = .builds key build .resolving) :
    ∃ more s', Run (moments ++ more) s' ∧ s'.cache = (getOrBuild key work s.cache).2 ∧
      (s'.stage n).result? = some (getOrBuild key work s.cache).1 := by
  have entered := run.next (.enter key out)
  obtain ⟨build, value, found, met⟩ | ⟨build, _, met⟩ | ⟨_, begins⟩ := enter_cases s.cache key
  · rw [getOrBuild_hit found]
    exact ⟨_, _, entered, by rw [met]; rfl, by rw [met, Callers.stage_move_self]; rfl⟩
  · rw [getOrBuild_join met]
    exact ⟨_, _, entered, by rw [met]; rfl, by rw [met, Callers.stage_move_self]; rfl⟩
  · obtain ⟨left, met⟩ : ∃ left, s.cache.enter key = (left, .start s.cache.begun) :=
      ⟨_, begins⟩
    rw [getOrBuild_started met]
    rw [met] at entered
    obtain ⟨more, s', worked, after, at_work⟩ := works entered Callers.stage_move_self
    have ended := ((worked.next (.resolve at_work (work left).1)).next
      (.settle Callers.stage_move_self)).next (.announce Callers.stage_move_self)
    refine ⟨.enter n key :: more ++ [.resolve n (work left).1, .settle n, .announce n], _,
      by simpa using ended, ?_, ?_⟩
    · simp only [Callers.cache_move, after]
      rfl
    · simp only [Callers.cache_move, after, Callers.stage_move_self]
      rfl

end Isl.Cache
