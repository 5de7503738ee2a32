import Isl.Proofs.System.Traffic
/-!
# A call that is left alone

A call that nobody interrupts takes its turns in order, and comes to what the system answers to it
as a whole.

* `Run.worked`: the work on a root comes to what an attempt comes to;
* `Run.offered`: the offers that follow leave the cache that a system keeps;
* `Run.load_alone`, `Run.compile_alone`: any load, and any compilation of values, is a run.
-/
namespace Isl

namespace Cache

variable {β : Type} {s s' : Callers β} {moments : List (Moment β)} {moment : Moment β} {n : Nat}

theorem Step.outside_after (step : Step s moment s') (out : s.stage n = .outside)
    (other : ∀ key, moment ≠ .enter n key) : s'.stage n = .outside := by
  cases step.turn n with
  | none kept => rwa [kept]
  | enters key entered _ _ => exact absurd entered (other key)
  | works before _ _ => cases out.symm.trans before
  | wakes asleep _ _ => cases out.symm.trans asleep

/-- There are always callers that have not entered yet. -/
theorem Run.unused (run : Run moments s) : ∃ bound, ∀ n, bound ≤ n → s.stage n = .outside := by
  induction run with
  | start => exact ⟨0, fun _ _ => rfl⟩
  | @next _ moment _ _ _ step ih =>
    obtain ⟨bound, out⟩ := ih
    cases moment with
    | enter m _ =>
      refine ⟨max bound (m + 1), fun n far => step.outside_after (out n (by omega)) ?_⟩
      intro key same
      cases same
      omega
    | _ => exact ⟨bound, fun n far => step.outside_after (out n far) fun _ => nofun⟩

end Cache

namespace Traffic

variable {settings : Settings} {s : Traffic} {events : List Event} {n c : Nat} {id : String}
  {σ : Schema} {left : List Schema} {caller last : Option Nat}

theorem Run.unused (run : Run settings events s) : ∃ c, s.callers.stage c = .outside := by
  obtain ⟨bound, out⟩ := run.cached.unused
  exact ⟨bound, out bound (Nat.le_refl _)⟩

/-! ## The work on a root -/

/-- What the walk along the imports of a root comes to. -/
def walked (settings : Settings) (root : SchemaDocument) :
    Except GatherFault Universe → Except SchemaError (Schema × List Schema)
  | .error fault => .error (Settings.importFailed fault.quest.chain fault.error)
  | .ok world => settings.compile world root

theorem outcome_attempt (system : System) (cache : Cache Schema) (root : SchemaDocument) :
    (system.attempt cache root).outcome =
      walked system.settings root (Universe.gather system.library cache.get? root) := by
  unfold System.attempt walked
  cases Universe.gather system.library cache.get? root with
  | error _ => rfl
  | ok _ => rfl

/-- The work of a call has come to an outcome, and authorities answer as before. -/
def Worked (settings : Settings) (events : List Event) (s : Traffic) (n : Nat)
    (caller : Option Nat) (outcome : Except SchemaError (Schema × List Schema)) : Prop :=
  ∃ more s', Run settings (events ++ more) s' ∧ s'.errand n = .works caller (.ended outcome) ∧
    s'.callers = s.callers ∧ Authority.fetch s'.authorities = Authority.fetch s.authorities

section

variable {task task' : Task} {outcome : Except SchemaError (Schema × List Schema)}
  {found : Except SchemaError SchemaDocument}

theorem Run.worked_done (run : Run settings events s)
    (done : s.errand n = .works caller (.ended outcome)) :
    Worked settings events s n caller outcome :=
  ⟨[], s, by rwa [List.append_nil], done, rfl, rfl⟩

theorem Worked.after {event : Event} {s' : Traffic}
    (worked : Worked settings (events ++ [event]) s' n caller outcome)
    (callers : s'.callers = s.callers)
    (answers : Authority.fetch s'.authorities = Authority.fetch s.authorities) :
    Worked settings events s n caller outcome := by
  obtain ⟨more, t, run, ended, kept, same⟩ := worked
  exact ⟨event :: more, t, by simpa using run, ended, kept.trans callers, same.trans answers⟩

theorem Run.worked_onward (run : Run settings events s)
    (at_work : s.errand n = .works caller task)
    (next : task.onward settings s.callers.cache.get? = task')
    (later : ∀ {events s'}, Run settings events s' → s'.errand n = .works caller task' →
      s'.callers = s.callers → s'.authorities = s.authorities →
        Worked settings events s' n caller outcome) :
    Worked settings events s n caller outcome :=
  (later (run.work_to at_work _ next) errand_move_self rfl rfl).after rfl rfl

theorem Run.worked_fetch (run : Run settings events s)
    (at_work : s.errand n = .works caller task) (wants : task.wants? = some id)
    (gives : settings.fetch s.authorities id = found)
    (later : ∀ {events s'}, Run settings events s' →
      s'.errand n = .works caller (task.given found) → s'.callers = s.callers →
        Authority.fetch s'.authorities = Authority.fetch s.authorities →
          Worked settings events s' n caller outcome) :
    Worked settings events s n caller outcome :=
  have same := Authority.fetch_afterFetch s.authorities id
  (later (run.fetch_to at_work wants _ gives) (if_pos rfl) rfl same).after rfl same

end

theorem fetch_congr {authorities authorities' : List Authority}
    (same : Authority.fetch authorities = Authority.fetch authorities') :
    settings.fetch authorities = settings.fetch authorities' := by
  funext id
  simp only [Settings.fetch, same]

theorem Run.worked_walk {lib : Library} {cached : String → Option Schema} {root : SchemaDocument}
    {u : Universe} {todo : List Quest} {r : Except GatherFault Universe}
    (run : Run settings events s) (at_work : s.errand n = .works caller (.walks root u todo))
    (library : settings.fetch s.authorities = lib.document)
    (holds : s.callers.cache.get? = cached) (gathers : Universe.Gathers lib cached u todo r) :
    Worked settings events s n caller (walked settings root r) := by
  induction gathers generalizing events s with
  | done u => exact run.worked_onward at_work rfl fun run done _ _ => run.worked_done done
  | @seen u q rest _ old _ ih =>
    have next : Task.onward settings s.callers.cache.get? (.walks root u (q :: rest)) =
        .walks root u rest := by
      simp only [Task.onward, if_pos old]
    refine run.worked_onward at_work next fun run at_work kept same => ?_
    exact ih run at_work (same ▸ library) (kept ▸ holds)
  | @held u q rest _ τ new found _ ih =>
    have next : Task.onward settings s.callers.cache.get? (.walks root u (q :: rest)) =
        .walks root (u.addCached q.id τ) rest := by
      simp only [Task.onward, new, holds, found, Bool.false_eq_true, if_false]
    refine run.worked_onward at_work next fun run at_work kept same => ?_
    exact ih run at_work (same ▸ library) (kept ▸ holds)
  | @failed u q rest e new free missing =>
    have next : Task.onward settings s.callers.cache.get? (.walks root u (q :: rest)) =
        .asks root u q rest := by
      simp only [Task.onward, new, holds, free, Bool.false_eq_true, if_false]
    refine run.worked_onward at_work next fun run asks _ same => ?_
    have gives := (congrFun (same ▸ library) q.id).trans missing
    exact run.worked_fetch asks rfl gives fun run done _ _ => run.worked_done done
  | @read u q rest _ d new free found _ ih =>
    have next : Task.onward settings s.callers.cache.get? (.walks root u (q :: rest)) =
        .asks root u q rest := by
      simp only [Task.onward, new, holds, free, Bool.false_eq_true, if_false]
    refine run.worked_onward at_work next fun run asks kept same => ?_
    have gives := (congrFun (same ▸ library) q.id).trans found
    refine run.worked_fetch asks rfl gives fun run at_work kept' same' => ?_
    exact ih run at_work ((fetch_congr same').trans (same ▸ library)) (kept' ▸ kept ▸ holds)

theorem Run.worked_root {root : SchemaDocument} (run : Run settings events s)
    (at_work : s.errand n = .works caller (.ofRoot root)) (system : System)
    (library : settings.fetch s.authorities = system.library.document)
    (like : system.settings = settings) (cache : Cache Schema)
    (holds : s.callers.cache.get? = cache.get?) :
    Worked settings events s n caller (system.attempt cache root).outcome := by
  rw [outcome_attempt, like]
  exact run.worked_walk at_work library holds (Universe.gathers_gather ..)

/-- The resolver of a load comes to what the attempt of the load comes to. -/
theorem Run.worked_reads (run : Run settings events s)
    (at_work : s.errand n = .works caller (.reads id)) (system : System)
    (library : settings.fetch s.authorities = system.library.document)
    (like : system.settings = settings) (cache : Cache Schema)
    (holds : s.callers.cache.get? = cache.get?) :
    Worked settings events s n caller (system.attemptId cache id).outcome := by
  refine run.worked_fetch at_work rfl (congrFun library id) fun run next kept same => ?_
  unfold System.attemptId
  cases found : system.library.document id with
  | error e =>
    rw [found] at next
    exact run.worked_done next
  | ok root =>
    rw [found] at next
    exact run.worked_root next system ((fetch_congr same).trans library) like cache
      (kept ▸ holds)

/-! ## Offers -/

/-- The call has come to its offers, authorities are as before, and the callers that have had their
answers keep them. -/
def Offering (settings : Settings) (events : List Event) (s : Traffic) (n : Nat)
    (left : List Schema) (cache : Cache Schema) : Prop :=
  ∃ more s' last, Run settings (events ++ more) s' ∧ s'.errand n = .pauses last left ∧
    s'.Answered last ∧ s'.authorities = s.authorities ∧ s'.callers.cache = cache ∧
    ∀ m, (s.callers.stage m).Answered → s'.callers.stage m = s.callers.stage m

theorem Run.offering_next (run : Run settings events s)
    (next : s.errand n = .pauses last (σ :: left)) (told : s.Answered last)
    (idle : s.callers.cache.Idle) :
    Offering settings events s n left (System.offer s.callers.cache σ) := by
  cases named : σ.id? with
  | none =>
    rw [System.offer_anonymous named]
    exact ⟨_, _, last, run.next (.skip next named), errand_move_self, told, rfl, rfl,
      fun _ _ => rfl⟩
  | some id =>
    obtain ⟨c, out⟩ := run.unused
    have entered := run.next (.offer next told named (.enter id out))
    have others : ∀ m, (s.callers.stage m).Answered → m ≠ c := by
      rintro m had rfl
      rw [out] at had
      exact had
    obtain ⟨build, τ, slot, held⟩ | ⟨slot, absent⟩ := idle.slot_cases id
    · have met : s.callers.cache.enter id = (s.callers.cache, .hit build τ) := by
        simp [Cache.enter, slot]
      rw [System.offer_cached idle named held]
      rw [met] at entered
      refine ⟨_, _, some c, entered, errand_move_self, ?_, rfl, rfl,
        fun m had => Cache.Callers.stage_move_of_ne (others m had)⟩
      intro _ same
      cases same
      rw [callers_move, Cache.Callers.stage_move_self]
      trivial
    · have met : (s.callers.cache.enter id).2 = .start s.callers.cache.begun := by
        simp [Cache.enter, slot]
      rw [System.offer_new idle named absent]
      rw [met] at entered
      have brought := entered.next (.bring errand_move_self
        (.resolve Cache.Callers.stage_move_self (.built σ)))
      obtain ⟨s', ended, same, errands, cache, answered, kept⟩ :=
        brought.published Cache.Callers.stage_move_self
      refine ⟨_, s', some c, by simpa using ended, ?_, ?_, same, cache, ?_⟩
      · rw [errands]
        exact errand_move_self
      · intro _ own
        cases own
        rw [answered]
        trivial
      · intro m had
        have other := others m had
        rw [kept m other]
        exact (Cache.Callers.stage_move_of_ne other).trans (Cache.Callers.stage_move_of_ne other)

theorem Run.offering_all (run : Run settings events s) (next : s.errand n = .pauses last left)
    (told : s.Answered last) (idle : s.callers.cache.Idle) :
    Offering settings events s n [] (left.foldl System.offer s.callers.cache) := by
  induction left generalizing events s last with
  | nil =>
    exact ⟨[], s, last, by rwa [List.append_nil], next, told, rfl, rfl, fun _ _ => rfl⟩
  | cons σ left ih =>
    obtain ⟨more, t, last', run', next', told', same, cache, kept⟩ :=
      run.offering_next next told idle
    have idle' : t.callers.cache.Idle := cache ▸ System.idle_offer idle σ
    obtain ⟨rest, s', last'', ended, done, told'', same', cache', kept'⟩ :=
      ih run' next' told' idle'
    refine ⟨more ++ rest, s', last'', by simpa using ended, done, told'', same'.trans same,
      cache'.trans (by rw [cache]; rfl), fun m had => ?_⟩
    have stage := kept m had
    exact (kept' m (stage ▸ had)).trans stage

/-! ## Whole calls -/

/-- The system that calls find. -/
def system (settings : Settings) (s : Traffic) : System :=
  ⟨settings, s.authorities, s.callers.cache⟩

/-- The call has ended and leaves this system behind. -/
def Left (s : Traffic) (n : Nat) (system : System) : Prop :=
  (∃ last, s.errand n = .pauses last []) ∧ s.callers.cache = system.cache ∧
    Authority.fetch s.authorities = Authority.fetch system.authorities

theorem fetch_after (system : System) (cache : Cache Schema) (a : Attempt) :
    Authority.fetch (system.after cache a).authorities = Authority.fetch system.authorities :=
  Authority.fetch_afterFetches system.authorities a.asked

theorem builderReply_attempt {cache : Cache Schema} (slot : cache.slots.find? id = none)
    (a : Attempt) : ((cache.enter id).1.settle id cache.begun a.result).builderReply id cache.begun
      a.result = some (a.outcome.map (·.1)) := by
  rw [Cache.builderReply_settle slot]
  unfold Attempt.result
  cases a.outcome with
  | error _ => rfl
  | ok _ => rfl

/-- A load that nobody interrupts is a run: it gives what the system gives, and leaves behind what
the system leaves. -/
theorem Run.load_alone (run : Run settings events s) (idle : s.callers.cache.Idle)
    (out : s.errand n = .outside) (id : String) :
    ∃ more s' c b, Run settings (events ++ more) s' ∧ .load n c id ∈ more ∧
      s'.Left n ((s.system settings).load id).1 ∧
      (s'.callers.stage c).result? =
        some (.answered b (((s.system settings).load id).2.map (·.schema))) := by
  obtain ⟨c, free⟩ := run.unused
  have entered := run.next (.load out (.enter id free))
  obtain ⟨build, τ, slot, -⟩ | ⟨slot, -⟩ := idle.slot_cases id
  · have met : s.callers.cache.enter id = (s.callers.cache, .hit build τ) := by
      simp [Cache.enter, slot]
    rw [met] at entered
    rw [System.load_hit (s := s.system settings) slot]
    refine ⟨_, _, c, build, entered, List.mem_singleton_self _,
      ⟨⟨_, errand_move_self⟩, rfl, rfl⟩, ?_⟩
    rw [callers_move, Cache.Callers.stage_move_self]
    rfl
  · have met : (s.callers.cache.enter id).2 = .start s.callers.cache.begun := by
      simp [Cache.enter, slot]
    rw [met] at entered
    obtain ⟨a, attempted⟩ : ∃ a, (s.system settings).attemptId s.callers.cache id = a := ⟨_, rfl⟩
    have started : (s.system settings).load id =
        ((s.system settings).after (s.callers.cache.afterBuild id a.result) a,
          a.outcome.map fun r => ⟨s.callers.cache.begun, r.1⟩) := by
      subst attempted
      exact System.load_start slot
    rw [started]
    obtain ⟨work, t, worked, done, callers, answers⟩ :=
      entered.worked_reads errand_move_self (s.system settings) rfl rfl s.callers.cache
        (funext (Cache.get?_enter s.callers.cache id))
    rw [attempted] at done
    have at_work : t.callers.stage c = .builds id s.callers.cache.begun .resolving := by
      rw [callers]
      exact Cache.Callers.stage_move_self
    have delivered : Run settings (_ ++ [.touch (.resolve c a.result)])
        (t.move n (.pauses (some c) a.members) _) :=
      worked.next (.deliver done (.resolve at_work a.result))
    obtain ⟨u, published, same, errands, cache, answered, -⟩ :=
      delivered.published Cache.Callers.stage_move_self
    have built : u.callers.cache = s.callers.cache.afterBuild id a.result := by
      rw [cache, callers_move, Cache.Callers.cache_move, callers]
      rfl
    have next : u.errand n = .pauses (some c) a.members := by
      rw [errands]
      exact errand_move_self
    have told : (u.callers.stage c).Answered := by
      rw [answered]
      trivial
    obtain ⟨offers, s', last, ended, finished, -, same', cache', kept⟩ :=
      published.offering_all next (by rintro _ ⟨⟩; exact told)
        (built ▸ Cache.idle_afterBuild idle slot a.result)
    refine ⟨.load n c id :: work ++ .touch (.resolve c a.result) :: .touch (.settle c) ::
        .touch (.announce c) :: offers, s', c, s.callers.cache.begun, ?_, ?_,
      ⟨⟨last, finished⟩, ?_, ?_⟩, ?_⟩
    · simpa using ended
    · exact List.mem_cons_self ..
    · rw [cache', built]
      rfl
    · rw [same', same, fetch_after]
      exact answers
    · have reply := builderReply_attempt slot a
      rw [kept c told, answered, callers_move, Cache.Callers.cache_move, callers]
      simp only [callers_move, Cache.Callers.cache_move, Cache.Stage.result?, reply]
      cases a.outcome with
      | error _ => rfl
      | ok _ => rfl

/-- So is a compilation of values: its work comes to what the system gives. -/
theorem Run.compile_alone (run : Run settings events s) (idle : s.callers.cache.Idle)
    (out : s.errand n = .outside) {values : List Element} {root : SchemaDocument}
    (read : settings.read values = .ok root) :
    ∃ work offers t s' outcome, Run settings (events ++ .compile n values :: work) t ∧
      t.errand n = .works none (.ended outcome) ∧
      outcome.map (·.1) = ((s.system settings).compileValues values).2 ∧
      Run settings (events ++ .compile n values :: work ++ offers) s' ∧
      s'.Left n ((s.system settings).compileValues values).1 := by
  obtain ⟨a, attempted⟩ : ∃ a, (s.system settings).attempt s.callers.cache root = a := ⟨_, rfl⟩
  have compiled : (s.system settings).compileValues values =
      ((s.system settings).after s.callers.cache a, a.outcome.map (·.1)) := by
    have read' : (s.system settings).settings.read values = .ok root := read
    subst attempted
    simp only [System.compileValues, read']
    rfl
  rw [compiled]
  obtain ⟨work, t, worked, done, callers, answers⟩ :=
    (run.next (.compile out read)).worked_root errand_move_self (s.system settings) rfl rfl
      s.callers.cache rfl
  rw [attempted] at done
  have idle' : (t.move n (.pauses none a.members) t.callers).callers.cache.Idle := by
    rw [callers_move, callers]
    exact idle
  obtain ⟨offers, s', last, ended, finished, -, same, cache, -⟩ :=
    (worked.next (.finish done)).offering_all errand_move_self answered_none idle'
  refine ⟨work, .work n :: offers, t, s', a.outcome, by simpa using worked, done, rfl,
    by simpa using ended, ⟨last, finished⟩, ?_, ?_⟩
  · rw [cache, callers_move, callers]
    rfl
  · rw [same, fetch_after]
    exact answers

end Traffic
end Isl
