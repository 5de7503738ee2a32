import Isl.Proofs.Cache.Callers
/-!
# Nobody waits in vain

Whoever joins a build registers while the slot is taken, so the builder that frees the slot and
then looks for waiters sees everyone who can wait for it. What a build comes to is left out only
if nobody waits.

* `Sound`: what holds of a cache and its callers at every moment, `Sound.step` and `Run.sound`;
* `Run.waiters_served`: a slot is held by a build at work, who waits is told what the build came
  to, and those who shared a build agree on it;
* `Run.canEnd`, `Run.waiter_wakes`: a build can come to its end, and who waits for it is served.
-/
namespace Isl.Cache

variable {β : Type} {s s' : Callers β} {moment : Moment β} {key : String} {b n m : Nat}
  {work work' : Work β}

/-- What those can rely on who wait for a build, with its work at this point. -/
def Work.Serves (c : Cache β) (key : String) (build : Nat) : Work β → Prop
  | ended result reply =>
    c.waiterReply? build = some (sharedOutcome key result) ∧
      ∀ own, reply = some own → own = sharedOutcome key result
  | _ => c.waitersOf build ≠ 0

theorem Work.serves_iff {c : Cache β} (unannounced : work.Unannounced) :
    work.Serves c key b ↔ c.waitersOf b ≠ 0 := by
  cases work with
  | resolving => exact Iff.rfl
  | resolved _ => exact Iff.rfl
  | settled _ => exact Iff.rfl
  | ended _ _ => cases unannounced

structure Sound (s : Callers β) : Prop where
  begun : ∀ {n key b work}, s.stage n = .builds key b work → b < s.cache.begun
  alone : ∀ {m n key key' b work work'}, s.stage m = .builds key b work →
    s.stage n = .builds key' b work' → m = n
  open_builds : ∀ {n key b work}, s.stage n = .builds key b work → work.Unannounced →
    ∃ waiters, s.cache.find? b = some ⟨key, waiters, none⟩
  slots : ∀ {key b}, s.cache.slots.find? key = some (.building b) →
    ∃ n work, s.stage n = .builds key b work ∧ work.Unsettled
  waiting : ∀ {n key b}, s.stage n = .waits key b →
    ∃ m work, s.stage m = .builds key b work ∧ work.Serves s.cache key b
  served : ∀ {n key b answer}, s.stage n = .served key b answer →
    ∃ m result reply, s.stage m = .builds key b (.ended result reply) ∧
      answer = sharedOutcome key result ∧ ∀ own, reply = some own → own = answer

namespace Sound

theorem start : Sound (.start : Callers β) where
  begun at_work := by cases at_work
  alone at_work := by cases at_work
  open_builds at_work := by cases at_work
  slots held := by cases held
  waiting asleep := by cases asleep
  served up := by cases up

/-- An announced build has left nobody else at its work. -/
theorem found_after (sound : Sound s) (step : Step s moment s')
    (at_work : s.stage n = .builds key b work) (after : s'.stage n = .builds key b work')
    (kept : ∀ result, work = .settled result → work'.Unannounced) {x : Build β}
    (found : s.cache.find? b = some x) :
    ∃ waiters, x.waiters ≤ waiters ∧
      s'.cache.find? b = some { x with waiters := waiters } := by
  obtain same | ⟨m, _, result, reply, before, ended⟩ :=
    step.find?_after (sound.begun at_work) found
  · exact same
  · obtain rfl := sound.alone at_work before
    cases at_work.symm.trans before
    cases after.symm.trans ended
    exact (kept result rfl).elim

theorem begun_step (sound : Sound s) (step : Step s moment s')
    (at_work : s'.stage n = .builds key b work') : b < s'.cache.begun := by
  obtain ⟨work, before, _⟩ | ⟨rfl, absent, rfl, _⟩ := step.builds_before at_work
  · exact Nat.lt_of_lt_of_le (sound.begun before) step.begun_le
  · cases step with
    | enter key _ => simp [enter, absent]

theorem alone_step (sound : Sound s) (step : Step s moment s') {key' : String}
    (one : s'.stage m = .builds key b work) (other : s'.stage n = .builds key' b work') :
    m = n := by
  obtain ⟨_, before, _⟩ | ⟨rfl, _, rfl, _⟩ := step.builds_before one
  · obtain ⟨_, before', _⟩ | ⟨_, _, rfl, _⟩ := step.builds_before other
    · exact sound.alone before before'
    · exact absurd (sound.begun before) (Nat.lt_irrefl _)
  · obtain ⟨_, before', _⟩ | ⟨same, _⟩ := step.builds_before other
    · exact absurd (sound.begun before') (Nat.lt_irrefl _)
    · cases same
      rfl

theorem open_step (sound : Sound s) (step : Step s moment s')
    (at_work : s'.stage n = .builds key b work') (unannounced : work'.Unannounced) :
    ∃ waiters, s'.cache.find? b = some ⟨key, waiters, none⟩ := by
  obtain ⟨work, before, onward⟩ | ⟨rfl, absent, rfl, _⟩ := step.builds_before at_work
  · obtain ⟨waiters, found⟩ := sound.open_builds before (onward.unannounced unannounced)
    obtain ⟨more, _, found'⟩ :=
      sound.found_after step before at_work (fun _ _ => unannounced) found
    exact ⟨more, found'⟩
  · cases step with
    | enter key _ => exact ⟨0, by simp [enter, absent, find?]⟩

theorem slots_step (sound : Sound s) (step : Step s moment s')
    (held : s'.cache.slots.find? key = some (.building b)) :
    ∃ n work, s'.stage n = .builds key b work ∧ work.Unsettled := by
  obtain before | ⟨m, -, at_work⟩ := step.slot_before held
  · obtain ⟨n, work, at_work, unsettled⟩ := sound.slots before
    obtain ⟨work', after, onward⟩ := step.builds_after at_work
    refine ⟨n, work', after, ?_⟩
    cases onward with
    | stay => exact unsettled
    | resolve _ => trivial
    | settle left =>
      rw [left] at held
      exact absurd held (settle_releases _ _ _ _)
    | announce _ => cases unsettled
  · exact ⟨m, .resolving, at_work, trivial⟩

theorem waited_after (sound : Sound s) (step : Step s moment s')
    (at_work : s.stage n = .builds key b work) (after : s'.stage n = .builds key b work')
    (unannounced : work'.Unannounced) (waited : s.cache.waitersOf b ≠ 0) :
    s'.cache.waitersOf b ≠ 0 := by
  cases found : s.cache.find? b with
  | none => simp [waitersOf, found] at waited
  | some x =>
    obtain ⟨more, le, found'⟩ := sound.found_after step at_work after (fun _ _ => unannounced) found
    simp only [waitersOf, found, Option.map_some, Option.getD_some] at waited
    simp only [waitersOf, found', Option.map_some, Option.getD_some]
    omega

theorem serves_after (sound : Sound s) (step : Step s moment s')
    (at_work : s.stage n = .builds key b work) (serves : work.Serves s.cache key b)
    (after : s'.stage n = .builds key b work') (onward : Onward s s' key b work work') :
    work'.Serves s'.cache key b := by
  cases onward with
  | stay =>
    obtain unannounced | ⟨result, reply, rfl⟩ := work.unannounced_or_ended
    · have waited := (Work.serves_iff unannounced).1 serves
      exact (Work.serves_iff unannounced).2
        (sound.waited_after step at_work after unannounced waited)
    · obtain ⟨told, agrees⟩ := serves
      obtain ⟨x, found, outcome⟩ := Option.bind_eq_some_iff.1 told
      obtain ⟨more, _, found'⟩ := sound.found_after step at_work after (by simp) found
      exact ⟨by simp [waiterReply?, found', outcome], agrees⟩
  | resolve _ => exact sound.waited_after step at_work after trivial serves
  | settle _ => exact sound.waited_after step at_work after trivial serves
  | announce left =>
    rw [left]
    exact ⟨waiterReply?_announce serves _, fun own => builderReply_waited serves⟩

theorem waiting_step (sound : Sound s) (step : Step s moment s')
    (asleep : s'.stage n = .waits key b) :
    ∃ m work, s'.stage m = .builds key b work ∧ work.Serves s'.cache key b := by
  obtain before | ⟨held, joined⟩ := step.waits_before asleep
  · obtain ⟨m, work, at_work, serves⟩ := sound.waiting before
    obtain ⟨work', after, onward⟩ := step.builds_after at_work
    exact ⟨m, work', after, sound.serves_after step at_work serves after onward⟩
  · -- The slot is still taken, so the build has not looked for waiters yet.
    obtain ⟨m, work, at_work, unsettled⟩ := sound.slots held
    obtain ⟨waiters, found⟩ := sound.open_builds at_work unsettled.unannounced
    have waited : s'.cache.waitersOf b ≠ 0 := by
      simp [joined, waitersOf, find?_updateBuild, found]
    obtain ⟨work', after, onward⟩ := step.builds_after at_work
    exact ⟨m, work', after,
      (Work.serves_iff (onward.unannounced_of_unsettled unsettled)).2 waited⟩

theorem served_step (sound : Sound s) (step : Step s moment s') {answer : Except SchemaError β}
    (up : s'.stage n = .served key b answer) :
    ∃ m result reply, s'.stage m = .builds key b (.ended result reply) ∧
      answer = sharedOutcome key result ∧ ∀ own, reply = some own → own = answer := by
  have ended_after : ∀ {m result reply}, s.stage m = .builds key b (.ended result reply) →
      s'.stage m = .builds key b (.ended result reply) := by
    intro m result reply before
    obtain ⟨_, after, onward⟩ := step.builds_after before
    cases onward
    exact after
  obtain before | ⟨asleep, told⟩ := step.served_before up
  · obtain ⟨m, result, reply, ended, agrees⟩ := sound.served before
    exact ⟨m, result, reply, ended_after ended, agrees⟩
  · obtain ⟨m, work, at_work, serves⟩ := sound.waiting asleep
    obtain unannounced | ⟨result, reply, rfl⟩ := work.unannounced_or_ended
    · obtain ⟨waiters, found⟩ := sound.open_builds at_work unannounced
      simp [waiterReply?, found] at told
    · obtain ⟨outcome, agrees⟩ := serves
      cases told.symm.trans outcome
      exact ⟨m, result, reply, ended_after at_work, rfl, agrees⟩

theorem step (sound : Sound s) (step : Step s moment s') : Sound s' where
  begun := sound.begun_step step
  alone := sound.alone_step step
  open_builds := sound.open_step step
  slots := sound.slots_step step
  waiting := sound.waiting_step step
  served := sound.served_step step

end Sound

theorem Run.sound {moments : List (Moment β)} (run : Run moments s) : Sound s := by
  induction run with
  | start => exact .start
  | next _ step ih => exact ih.step step

/-- No caller is left behind. A slot that is taken belongs to a build that has not been back at
its slot. Whoever waits has a builder that is still at work or has left an outcome; once the
build has ended, this is the outcome of its work. Whoever has been served got that outcome, and
so did the builder if it got any. -/
theorem Run.waiters_served {moments : List (Moment β)} (run : Run moments s) :
    (∀ key b, s.cache.slots.find? key = some (.building b) →
      ∃ n work, s.stage n = .builds key b work ∧ work.Unsettled) ∧
    (∀ n key b, s.stage n = .waits key b →
      ∃ m work, s.stage m = .builds key b work ∧
        (work.Unannounced ∨ ∃ answer, s.cache.waiterReply? b = some answer)) ∧
    (∀ m n key key' b result reply, s.stage m = .builds key b (.ended result reply) →
      s.stage n = .waits key' b →
      key' = key ∧ s.cache.waiterReply? b = some (sharedOutcome key result)) ∧
    (∀ n key b answer, s.stage n = .served key b answer →
      ∃ m result reply, s.stage m = .builds key b (.ended result reply) ∧
        answer = sharedOutcome key result ∧ ∀ own, reply = some own → own = answer) := by
  have sound := run.sound
  refine ⟨fun _ _ => sound.slots, ?_, ?_, fun _ _ _ _ => sound.served⟩
  · intro n key b asleep
    obtain ⟨m, work, at_work, serves⟩ := sound.waiting asleep
    obtain unannounced | ⟨result, reply, rfl⟩ := work.unannounced_or_ended
    · exact ⟨m, work, at_work, .inl unannounced⟩
    · exact ⟨m, _, at_work, .inr ⟨_, serves.1⟩⟩
  · intro m n key key' b result reply ended asleep
    obtain ⟨builder, work, at_work, serves⟩ := sound.waiting asleep
    obtain rfl := sound.alone ended at_work
    cases ended.symm.trans at_work
    exact ⟨rfl, serves.1⟩

/-- Waiters hear of the end of a build that has lost its slot, too. -/
theorem Run.waiters_served_detached :
    ∃ joined ended woken : Callers Nat,
      (Run [.enter 0 "a", .enter 1 "a"] joined ∧
        joined.cache.slots.find? "a" = some (.building 0) ∧ joined.stage 1 = .waits "a" 0 ∧
        (∃ n work, joined.stage n = .builds "a" 0 work ∧ work.Unsettled) ∧
        ∃ m work, joined.stage m = .builds "a" 0 work ∧
          (work.Unannounced ∨ ∃ answer, joined.cache.waiterReply? 0 = some answer)) ∧
      (Run [.enter 0 "a", .enter 1 "a", .invalidate "a", .resolve 0 .abandoned, .settle 0,
          .announce 0] ended ∧
        ended.stage 1 = .waits "a" 0 ∧
        ended.cache.waiterReply? 0 = some (sharedOutcome "a" .abandoned)) ∧
      Run [.enter 0 "a", .enter 1 "a", .invalidate "a", .resolve 0 .abandoned, .settle 0,
          .announce 0, .wake 1] woken ∧
        woken.stage 1 = .served "a" 0 (sharedOutcome "a" .abandoned) ∧
        ∃ m result reply, woken.stage m = .builds "a" 0 (.ended result reply) ∧
          sharedOutcome "a" .abandoned = sharedOutcome "a" result ∧
            ∀ own, reply = some own → own = sharedOutcome "a" .abandoned := by
  have started : Run ([] ++ [.enter 0 "a"]) ((.start : Callers Nat).move 0 _ _) :=
    Run.start.next (.enter "a" rfl)
  have joined := started.next (.enter (n := 1) "a" rfl)
  have resolved := (joined.next (.invalidate "a")).next (.resolve (n := 0) rfl .abandoned)
  have ended := (resolved.next (.settle (n := 0) rfl)).next (.announce (n := 0) rfl)
  obtain ⟨-, told⟩ := ended.waiters_served.2.2.1 0 1 _ _ _ _ _ rfl rfl
  have woken := ended.next (.wake (n := 1) rfl told)
  refine ⟨_, _, _, ⟨joined, rfl, rfl, ?_, ?_⟩, ⟨ended, rfl, told⟩, woken, rfl, ?_⟩
  · exact joined.waiters_served.1 "a" 0 rfl
  · exact joined.waiters_served.2.1 1 "a" 0 rfl
  · exact woken.waiters_served.2.2.2 1 "a" 0 _ rfl

/-! ## Nothing is stuck -/

variable {moments : List (Moment β)}

/-- The build can come to its end, with all other callers where they are. -/
def CanEnd (moments : List (Moment β)) (s : Callers β) (caller : Nat) (key : String)
    (build : Nat) : Prop :=
  ∃ more s' result reply, Run (moments ++ more) s' ∧
    s'.stage caller = .builds key build (.ended result reply) ∧
    ∀ n, n ≠ caller → s'.stage n = s.stage n

/-- A moment of the builder alone, before the build can end. -/
theorem CanEnd.after {stage : Stage β} {cache : Cache β}
    (later : CanEnd (moments ++ [moment]) (s.move m stage cache) m key b) :
    CanEnd moments s m key b := by
  obtain ⟨more, s', result, reply, run, ended, others⟩ := later
  refine ⟨moment :: more, s', result, reply, by simpa using run, ended, fun n other => ?_⟩
  exact (others n other).trans (Callers.stage_move_of_ne other)

theorem Run.canEnd_settled {result : BuildResult β} (run : Run moments s)
    (at_work : s.stage m = .builds key b (.settled result)) : CanEnd moments s m key b :=
  ⟨_, _, result, _, run.next (.announce at_work), Callers.stage_move_self,
    fun _ other => Callers.stage_move_of_ne other⟩

theorem Run.canEnd_resolved {result : BuildResult β} (run : Run moments s)
    (at_work : s.stage m = .builds key b (.resolved result)) : CanEnd moments s m key b :=
  ((run.next (.settle at_work)).canEnd_settled Callers.stage_move_self).after

/-- No build waits for anybody: once its resolver has come to something, it goes on to its end. -/
theorem Run.canEnd (run : Run moments s) (at_work : s.stage m = .builds key b work)
    (result : BuildResult β) : CanEnd moments s m key b := by
  cases work with
  | resolving =>
    exact ((run.next (.resolve at_work result)).canEnd_resolved Callers.stage_move_self).after
  | resolved _ => exact run.canEnd_resolved at_work
  | settled _ => exact run.canEnd_settled at_work
  | ended result reply => exact ⟨[], s, result, reply, by simpa using run, at_work, fun _ _ => rfl⟩

/-- Whoever waits can be served. -/
theorem Run.waiter_wakes (run : Run moments s) (asleep : s.stage n = .waits key b) :
    ∃ more s' answer, Run (moments ++ more) s' ∧ s'.stage n = .served key b answer := by
  obtain ⟨m, work, at_work, _⟩ := run.sound.waiting asleep
  obtain ⟨more, s', result, reply, run', ended, others⟩ := run.canEnd at_work .abandoned
  have asleep' : s'.stage n = .waits key b := by
    rw [others n, asleep]
    rintro rfl
    cases asleep.symm.trans at_work
  obtain ⟨m', work', at_work', serves⟩ := run'.sound.waiting asleep'
  obtain rfl := run'.sound.alone ended at_work'
  cases ended.symm.trans at_work'
  have woken := run'.next (.wake asleep' serves.1)
  exact ⟨more ++ [.wake n], _, _, by simpa using woken, Callers.stage_move_self⟩

end Isl.Cache

/-!
## One resolver for each key

A key has a second resolver at work only when it was invalidated after the first one began and
before the second one did. Unless that happens, a build keeps its slot for as long as its
resolver runs, and whoever asks for the key in the meantime joins it.

* `Run.held_or_detached`: a build that is not settled holds its slot or has lost it to an
  invalidation;
* `Run.resolvers_alone`: when two resolvers of one key run at once.
-/

namespace Isl.Cache

variable {β : Type} {s s' : Callers β} {moments : List (Moment β)} {moment : Moment β}
  {key : String} {b b' n m : Nat} {work work' : Work β}

/-- The key has been invalidated since this caller entered. -/
def Detached (moments : List (Moment β)) (caller : Nat) (key : String) : Prop :=
  ∃ before after, moments = before ++ .enter caller key :: after ∧ .invalidate key ∈ after

/-- The key has been invalidated between the entries of two callers. -/
def Overtaken (moments : List (Moment β)) (first second : Nat) (key : String) : Prop :=
  ∃ before between after,
    moments = before ++ .enter first key :: between ++ .enter second key :: after ∧
      .invalidate key ∈ between

theorem Detached.snoc (detached : Detached moments n key) (moment : Moment β) :
    Detached (moments ++ [moment]) n key := by
  obtain ⟨before, after, rfl, invalidated⟩ := detached
  exact ⟨before, after ++ [moment], by simp, List.mem_append_left _ invalidated⟩

theorem Detached.overtaken (detached : Detached moments m key) (n : Nat) :
    Overtaken (moments ++ [.enter n key]) m n key := by
  obtain ⟨before, after, rfl, invalidated⟩ := detached
  exact ⟨before, after, [], rfl, invalidated⟩

theorem Overtaken.snoc (overtaken : Overtaken moments m n key) (moment : Moment β) :
    Overtaken (moments ++ [moment]) m n key := by
  obtain ⟨before, between, after, rfl, invalidated⟩ := overtaken
  exact ⟨before, between, after ++ [moment], by simp, invalidated⟩

/-- Who builds a key has entered for it. -/
theorem Run.entered (run : Run moments s) (at_work : s.stage n = .builds key b work) :
    .enter n key ∈ moments := by
  induction run generalizing work with
  | start => cases at_work
  | next _ step ih =>
    obtain ⟨_, before, _⟩ | ⟨rfl, _⟩ := step.builds_before at_work
    · exact List.mem_append_left _ (ih before)
    · exact List.mem_append_right _ (List.mem_singleton_self _)

theorem Run.held_or_detached (run : Run moments s) (at_work : s.stage n = .builds key b work)
    (unsettled : work.Unsettled) :
    s.cache.slots.find? key = some (.building b) ∨ Detached moments n key := by
  induction run generalizing work with
  | start => cases at_work
  | next run step ih =>
    obtain ⟨work₀, before, onward⟩ | ⟨rfl, absent, rfl, _⟩ := step.builds_before at_work
    · obtain held | detached := ih before (onward.unsettled unsettled)
      · obtain kept | rfl | ⟨m, result, resolved, settled⟩ := step.slot_after held
        · exact .inl kept
        · obtain ⟨past, later, rfl⟩ := List.append_of_mem (run.entered before)
          exact .inr ⟨past, later ++ [.invalidate key], by simp, by simp⟩
        · obtain rfl := run.sound.alone before resolved
          cases at_work.symm.trans settled
          cases unsettled
      · exact .inr (detached.snoc _)
    · cases step with
      | enter _ _ => exact .inl (by simp [enter, absent, Table.find?_insert])

/-- A caller that begins to build a key has overtaken whoever still builds it. -/
theorem Run.overtaken (run : Run moments s) (absent : s.cache.slots.find? key = none)
    (at_work : s.stage m = .builds key b work) (unsettled : work.Unsettled) (n : Nat) :
    Overtaken (moments ++ [.enter n key]) m n key := by
  obtain held | detached := run.held_or_detached at_work unsettled
  · simp [absent] at held
  · exact detached.overtaken n

theorem Run.unsettled_alone (run : Run moments s) (one : s.stage m = .builds key b work)
    (other : s.stage n = .builds key b' work') (unsettled : work.Unsettled)
    (unsettled' : work'.Unsettled) :
    m = n ∨ Overtaken moments m n key ∨ Overtaken moments n m key := by
  induction run generalizing work work' with
  | start => cases one
  | next run step ih =>
    obtain ⟨_, before, onward⟩ | ⟨rfl, absent, _⟩ := step.builds_before one
    · obtain ⟨_, before', onward'⟩ | ⟨rfl, absent, _⟩ := step.builds_before other
      · obtain same | overtaken | overtaken :=
          ih before before' (onward.unsettled unsettled) (onward'.unsettled unsettled')
        · exact .inl same
        · exact .inr (.inl (overtaken.snoc _))
        · exact .inr (.inr (overtaken.snoc _))
      · exact .inr (.inl (run.overtaken absent before (onward.unsettled unsettled) n))
    · obtain ⟨_, before', onward'⟩ | ⟨same, _⟩ := step.builds_before other
      · exact .inr (.inr (run.overtaken absent before' (onward'.unsettled unsettled') m))
      · cases same
        exact .inl rfl

/-- Two callers resolve one key at once only if it was invalidated after one of them entered and
before the other did. -/
theorem Run.resolvers_alone (run : Run moments s)
    (one : s.stage m = .builds key b .resolving) (other : s.stage n = .builds key b' .resolving) :
    m = n ∨ Overtaken moments m n key ∨ Overtaken moments n m key :=
  run.unsettled_alone one other trivial trivial

/-- While a resolver runs, an invalidation of its key lets the next caller run a second one. -/
theorem Run.overlap (run : Run moments s) (one : s.stage m = .builds key b .resolving)
    (out : s.stage n = .outside) :
    ∃ s', Run (moments ++ [.invalidate key] ++ [.enter n key]) s' ∧
      s'.stage m = .builds key b .resolving ∧
      s'.stage n = .builds key s.cache.begun .resolving := by
  have absent : (s.cache.invalidate key).slots.find? key = none := by
    simp [Cache.invalidate, Table.find?_erase]
  have begins : ((s.cache.invalidate key).enter key).2 = .start s.cache.begun := by
    simp only [Cache.enter, absent]
    rfl
  have other : m ≠ n := by
    rintro rfl
    cases out.symm.trans one
  refine ⟨_, (run.next (.invalidate key)).next (.enter key out), ?_, ?_⟩
  · exact (Callers.stage_move_of_ne other).trans one
  · exact Callers.stage_move_self.trans (congrArg (Stage.entered key) begins)

theorem Run.resolvers_alone_invalidated :
    ∃ (moments : List (Moment Nat)) (s : Callers Nat),
      moments = [.enter 0 "a", .invalidate "a", .enter 1 "a"] ∧ Run moments s ∧
        s.stage 0 = .builds "a" 0 .resolving ∧ s.stage 1 = .builds "a" 1 .resolving ∧
        (0 = 1 ∨ Overtaken moments 0 1 "a" ∨ Overtaken moments 1 0 "a") := by
  have first : Run ([] ++ [.enter 0 "a"]) ((.start : Callers Nat).move 0 _ _) :=
    Run.start.next (.enter "a" rfl)
  obtain ⟨s, run, one, other⟩ := first.overlap (n := 1) (m := 0) rfl rfl
  exact ⟨_, s, rfl, run, one, other, run.resolvers_alone one other⟩

end Isl.Cache
