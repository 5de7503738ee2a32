import Isl.Proofs.System.Alone
import Isl.Proofs.System.Concord
/-!
# Calls side by side do not get stuck

A call that builds for a caller of the cache does not enter the cache again before that build has
ended: it looks at what is cached, and offers what it has compiled afterwards. So a call that builds
never waits, a call that waits does so for one that does not, and there is always a call that goes
on, however schemas import each other.

* `Tied`, `Run.tied`: what a call is at and where its caller of the cache is, after any turns;
* `Goes`: a call can take a turn that brings it on;
* `Tied.goes_of_works`, `Tied.goes_of_builds`: whoever works or builds does not need anybody else;
* `Run.never_stuck`: some call goes on, and none waits for one that waits.
-/
namespace Isl

/-! ## Whose turn it is -/

/-- The caller of the cache whose moment this is. -/
def Cache.Moment.caller? {β : Type} : Cache.Moment β → Option Nat
  | enter c _ | resolve c _ | settle c | announce c | wake c => some c
  | invalidate _ => none

/-- The caller of the cache that a call acts through. -/
def Errand.caller? : Errand → Option Nat
  | outside => none
  | works caller _ => caller
  | offers caller _ _ => some caller
  | pauses last _ => last

/-- The caller has entered, and has no resolver at work. -/
def Cache.Stage.Past {β : Type} (stage : Cache.Stage β) : Prop :=
  stage ≠ .outside ∧ ∀ key b, stage ≠ .builds key b .resolving

/-- Where its caller is when a call is there. -/
def Errand.Fits (stage : Cache.Stage Schema) : Errand → Prop
  | outside => False
  | works .. | offers .. => ∃ key b, stage = .builds key b .resolving
  | pauses .. => stage.Past

theorem Errand.Fits.inside {errand : Errand} {stage : Cache.Stage Schema}
    (fits : errand.Fits stage) : stage ≠ .outside := by
  rintro rfl
  cases errand with
  | outside => exact fits
  | works _ _ => exact nomatch fits
  | offers _ _ _ => exact nomatch fits
  | pauses _ _ => exact fits.1 rfl

namespace Traffic

variable {settings : Settings} {s s' : Traffic} {events : List Event} {event : Event}
  {n m c b : Nat} {key : String} {errand : Errand} {callers : Cache.Callers Schema}
  {caller last : Option Nat} {task : Task} {σ : Schema} {left : List Schema}
  {work : Cache.Work Schema}

/-- The call has begun and has not come to its end. -/
def Busy (s : Traffic) (n : Nat) : Prop :=
  s.errand n ≠ .outside ∧ ¬∃ last, s.errand n = .pauses last [] ∧ s.Answered last

/-- The call waits for this build. -/
def Waits (s : Traffic) (n : Nat) (key : String) (b : Nat) : Prop :=
  ∃ c, (s.errand n).caller? = some c ∧ s.callers.stage c = .waits key b

/-- The call is at this build, which has not told its waiters anything yet. -/
def Builds (s : Traffic) (n : Nat) (key : String) (b : Nat) : Prop :=
  ∃ c work, (s.errand n).caller? = some c ∧ s.callers.stage c = .builds key b work ∧
    work.Unannounced

/-- The turn is one that the call takes itself. To end without an answer is not among them, nor is
what others do to authorities and to the cache. -/
inductive Event.By (s : Traffic) (n : Nat) : Event → Prop where
  | fetch (id : String) (found : Except SchemaError SchemaDocument) : By s n (.fetch n id found)
  | work : By s n (.work n)
  | offer (c : Nat) (id : String) (σ : Schema) : By s n (.offer n c id σ)
  | touch {moment : Cache.Moment Schema} {c : Nat} (own : (s.errand n).caller? = some c)
      (of : moment.caller? = some c) (answers : moment ≠ .resolve c .abandoned) :
      By s n (.touch moment)

/-- The call can take a turn of its own, after which it is not where it was. -/
def Goes (settings : Settings) (s : Traffic) (n : Nat) : Prop :=
  ∃ event s', Step settings s event s' ∧ Event.By s n event ∧
    (s'.errand n ≠ s.errand n ∨
      ∃ c, (s.errand n).caller? = some c ∧ s'.callers.stage c ≠ s.callers.stage c)

/-! ## Calls and their callers -/

/-- A call is where its caller is, callers are not shared, and a caller that has no answer yet
belongs to a call. -/
structure Tied (s : Traffic) : Prop where
  fits : ∀ {n c}, (s.errand n).caller? = some c → (s.errand n).Fits (s.callers.stage c)
  own : ∀ {m n c}, (s.errand m).caller? = some c → (s.errand n).caller? = some c → m = n
  bound : ∀ {c}, s.callers.stage c ≠ .outside → ¬(s.callers.stage c).Answered →
    ∃ n, (s.errand n).caller? = some c

theorem tied_start (authorities : List Authority) : Tied (.start authorities) where
  fits own := by cases own
  own mine := by cases mine
  bound inside := absurd rfl inside

/-- One call goes on, through the caller that it had or a new one. A caller that it leaves has its
answer. -/
theorem Tied.move (tied : s.Tied) (authorities : List Authority)
    (others : ∀ m, errand.caller? ≠ some m → callers.stage m = s.callers.stage m)
    (fits : ∀ c, errand.caller? = some c → errand.Fits (callers.stage c))
    (came : errand.caller? = (s.errand n).caller? ∨
      (∀ old, (s.errand n).caller? = some old → (s.callers.stage old).Answered) ∧
        ∀ c, errand.caller? = some c → s.callers.stage c = .outside) :
    Tied { s.move n errand callers with authorities := authorities } := by
  -- No other call has the caller that this one goes on with.
  have apart : ∀ {m c}, m ≠ n → (s.errand m).caller? = some c → errand.caller? ≠ some c := by
    intro m c other mine same
    obtain kept | ⟨-, fresh⟩ := came
    · exact other (tied.own mine (kept ▸ same))
    · exact (tied.fits mine).inside (fresh c same)
  have at_call : ∀ m,
      ({ s.move n errand callers with authorities := authorities } : Traffic).errand m =
        if m = n then errand else s.errand m := fun m => rfl
  refine ⟨?_, ?_, ?_⟩
  · intro m c mine
    rw [at_call] at mine ⊢
    by_cases own : m = n
    · rw [if_pos own] at mine ⊢
      exact fits c mine
    · rw [if_neg own] at mine ⊢
      show (s.errand m).Fits (callers.stage c)
      rw [others c (apart own mine)]
      exact tied.fits mine
  · intro m k c mine same
    rw [at_call] at mine same
    by_cases own : m = n
    · by_cases own' : k = n
      · rw [own, own']
      · rw [if_pos own] at mine
        rw [if_neg own'] at same
        exact absurd mine (apart own' same)
    · by_cases own' : k = n
      · rw [if_neg own] at mine
        rw [if_pos own'] at same
        exact absurd same (apart own mine)
      · rw [if_neg own] at mine
        rw [if_neg own'] at same
        exact tied.own mine same
  · intro c inside unanswered
    change callers.stage c ≠ .outside at inside
    change ¬(callers.stage c).Answered at unanswered
    by_cases mine : errand.caller? = some c
    · exact ⟨n, by rw [at_call, if_pos rfl, mine]⟩
    · rw [others c mine] at inside unanswered
      obtain ⟨k, had⟩ := tied.bound inside unanswered
      have other : k ≠ n := by
        rintro rfl
        obtain kept | ⟨told, -⟩ := came
        · exact mine (kept.trans had)
        · exact unanswered (told c had)
      exact ⟨k, by rw [at_call, if_neg other, had]⟩

/-- A caller whose call pauses goes on. -/
theorem Tied.advance (tied : s.Tied) {stage : Cache.Stage Schema} {cache : Cache Schema}
    (before : (s.callers.stage c).Past) (unanswered : ¬(s.callers.stage c).Answered)
    (after : stage.Past) :
    Tied { s with callers := s.callers.move c stage cache } := by
  refine ⟨?_, tied.own, ?_⟩
  · intro n d mine
    have fits := tied.fits mine
    show (s.errand n).Fits ((s.callers.move c stage cache).stage d)
    by_cases same : d = c
    · subst same
      rw [Cache.Callers.stage_move_self]
      cases at_call : s.errand n with
      | outside =>
        rw [at_call] at fits
        cases fits
      | works _ _ =>
        rw [at_call] at fits
        obtain ⟨key, b, at_work⟩ := fits
        exact absurd at_work (before.2 key b)
      | offers _ _ _ =>
        rw [at_call] at fits
        obtain ⟨key, b, at_work⟩ := fits
        exact absurd at_work (before.2 key b)
      | pauses _ _ => exact after
    · rw [Cache.Callers.stage_move_of_ne same]
      exact fits
  · intro d inside open_call
    by_cases same : d = c
    · subst same
      exact tied.bound before.1 unanswered
    · rw [show ({ s with callers := s.callers.move c stage cache } : Traffic).callers.stage d =
        s.callers.stage d from Cache.Callers.stage_move_of_ne same] at inside open_call
      exact tied.bound inside open_call

/-- The moments that come on their own are at callers whose calls pause. -/
theorem Tied.touch (tied : s.Tied) {moment : Cache.Moment Schema} (plain : moment.Plain)
    (step : Cache.Step s.callers moment callers) : Tied { s with callers := callers } := by
  cases step with
  | enter _ _ => cases plain
  | resolve _ _ => cases plain
  | settle at_work =>
    exact tied.advance (at_work ▸ ⟨nofun, nofun⟩) (at_work ▸ id)
      ⟨nofun, nofun⟩
  | announce at_work =>
    exact tied.advance (at_work ▸ ⟨nofun, nofun⟩) (at_work ▸ id)
      ⟨nofun, nofun⟩
  | wake asleep _ =>
    exact tied.advance (asleep ▸ ⟨nofun, nofun⟩) (asleep ▸ id)
      ⟨nofun, nofun⟩
  | invalidate _ => exact ⟨tied.fits, tied.own, tied.bound⟩

/-- A caller that enters meets a build to begin, which its call takes on, or anything else. -/
theorem fits_met {work : Errand} (left : List Schema) (key : String) (entry : CacheEntry Schema)
    (starts : work.caller? = some c ∧ ∀ stage, (∃ key b, stage = .builds key b .resolving) →
      work.Fits stage) :
    (Errand.met c work left entry).caller? = some c ∧
      (Errand.met c work left entry).Fits (.entered key entry) := by
  cases entry with
  | hit _ _ => exact ⟨rfl, nofun, nofun⟩
  | join _ => exact ⟨rfl, nofun, nofun⟩
  | start b => exact ⟨starts.1, starts.2 _ ⟨key, b, rfl⟩⟩

/-- A call enters through a caller of its own, once its last one has been answered. -/
theorem Tied.enters (tied : s.Tied) {work : Errand} {id : String}
    (starts : work.caller? = some c ∧ ∀ stage, (∃ key b, stage = .builds key b .resolving) →
      work.Fits stage)
    (told : ∀ old, (s.errand n).caller? = some old → (s.callers.stage old).Answered)
    (enters : Cache.Step s.callers (.enter c id) callers) :
    Tied (s.move n (.met c work left (s.callers.cache.enter id).2) callers) := by
  cases enters with
  | enter _ out =>
    obtain ⟨mine, fits⟩ := fits_met left id (s.callers.cache.enter id).2 starts
    refine tied.move s.authorities (fun m other => ?_) (fun d same => ?_)
      (.inr ⟨told, fun d same => ?_⟩)
    · refine Cache.Callers.stage_move_of_ne ?_
      rintro rfl
      exact other mine
    · obtain rfl := Option.some.inj (mine.symm.trans same)
      show Errand.Fits ((s.callers.move c _ _).stage c) _
      rw [Cache.Callers.stage_move_self]
      exact fits
    · obtain rfl := Option.some.inj (mine.symm.trans same)
      exact out

/-- The resolver of a call ends, and the call pauses. -/
theorem Tied.resolves (tied : s.Tied) {result : BuildResult Schema}
    (mine : (s.errand n).caller? = some c)
    (resolves : Cache.Step s.callers (.resolve c result) callers) :
    Tied (s.move n (.pauses (some c) left) callers) := by
  cases resolves with
  | resolve at_work _ =>
    refine tied.move s.authorities (fun m other => ?_) (fun d same => ?_) (.inl mine.symm)
    · refine Cache.Callers.stage_move_of_ne ?_
      rintro rfl
      exact other rfl
    · cases same
      show Errand.Fits ((s.callers.move c _ _).stage c) _
      rw [Cache.Callers.stage_move_self]
      exact ⟨nofun, nofun⟩

/-- A call goes on through the caller that it has, and leaves the cache alone. -/
theorem Tied.stays (tied : s.Tied) (authorities : List Authority)
    (same : errand.caller? = (s.errand n).caller?)
    (fits : ∀ c, errand.caller? = some c → (s.errand n).Fits (s.callers.stage c) →
      errand.Fits (s.callers.stage c)) :
    Tied { s.move n errand s.callers with authorities := authorities } :=
  tied.move authorities (fun _ _ => rfl) (fun c mine => fits c mine (tied.fits (same ▸ mine)))
    (.inl same)

theorem Tied.step (tied : s.Tied) (step : Step settings s event s') : s'.Tied := by
  cases step with
  | supply _ => exact ⟨tied.fits, tied.own, tied.bound⟩
  | load out enters =>
    exact tied.enters ⟨rfl, fun _ at_work => at_work⟩ (by simp [out, Errand.caller?]) enters
  | compile out _ => exact tied.stays _ (by rw [out]; rfl) nofun
  | fetch at_work _ =>
    exact tied.stays _ (by rw [at_work]; rfl) fun _ _ fits => by rwa [at_work] at fits
  | work at_work =>
    exact tied.stays _ (by rw [at_work]; rfl) fun _ _ fits => by rwa [at_work] at fits
  | deliver done resolves => exact tied.resolves (by rw [done]; rfl) resolves
  | abandon at_work resolves => exact tied.resolves (by rw [at_work]; rfl) resolves
  | finish done => exact tied.stays _ (by rw [done]; rfl) nofun
  | offer next told _ enters =>
    refine tied.enters ⟨rfl, fun _ at_work => at_work⟩ (fun old mine => ?_) enters
    rw [next] at mine
    exact told old mine
  | skip next _ => exact tied.stays _ (by rw [next]; rfl) fun _ _ fits => by rwa [next] at fits
  | bring at_hand resolves => exact tied.resolves (by rw [at_hand]; rfl) resolves
  | touch plain step => exact tied.touch plain step

theorem Run.tied (run : Run settings events s) : s.Tied := by
  induction run with
  | start authorities => exact tied_start authorities
  | next _ step ih => exact ih.step step

/-! ## Calls that go on -/

theorem given_ne {id : String} (wants : task.wants? = some id)
    (found : Except SchemaError SchemaDocument) : task.given found ≠ task := by
  cases task with
  | reads _ =>
    cases found with
    | error _ => simp [Task.given]
    | ok _ => simp [Task.given, Task.ofRoot]
  | asks _ _ _ _ =>
    cases found with
    | error _ => simp [Task.given]
    | ok _ => simp [Task.given]
  | walks _ _ _ => cases wants
  | ended _ => cases wants

theorem onward_ne {cached : String → Option Schema} {root : SchemaDocument} {world : Universe}
    {todo : List Quest} :
    (Task.walks root world todo).onward settings cached ≠ .walks root world todo := by
  cases todo with
  | nil => simp [Task.onward]
  | cons quest todo =>
    simp only [Task.onward]
    split
    · simp
    · cases cached quest.id with
      | some _ => simp
      | none => simp

theorem works_ne (at_work : s.errand n = .works caller task) {task' : Task} (other : task' ≠ task) :
    Errand.works caller task' ≠ s.errand n := by
  rw [at_work]
  simpa using other

/-- The work on a root goes on by itself as long as it has not ended: it asks authorities, or takes
the next look at the cache. -/
theorem Goes.of_works (at_work : s.errand n = .works caller task)
    (pending : ∀ outcome, task ≠ .ended outcome) : s.Goes settings n := by
  have asking : ∀ {id}, task.wants? = some id → s.Goes settings n := by
    intro id wants
    refine ⟨_, _, .fetch at_work wants, .fetch .., .inl ?_⟩
    show (s.move n _ s.callers).errand n ≠ s.errand n
    rw [errand_move_self]
    exact works_ne at_work (given_ne wants _)
  cases task with
  | reads id => exact asking rfl
  | asks _ _ _ _ => exact asking rfl
  | walks root world todo =>
    refine ⟨_, _, .work at_work, .work, .inl ?_⟩
    rw [errand_move_self]
    exact works_ne at_work onward_ne
  | ended outcome => exact absurd rfl (pending outcome)

/-- A call can take a moment of its caller. -/
theorem Goes.of_touch {stage : Cache.Stage Schema} {cache : Cache Schema}
    {moment : Cache.Moment Schema} (mine : (s.errand n).caller? = some c) (plain : moment.Plain)
    (of : moment.caller? = some c)
    (step : Cache.Step s.callers moment (s.callers.move c stage cache))
    (moved : stage ≠ s.callers.stage c) : s.Goes settings n := by
  refine ⟨_, _, .touch plain step, .touch mine of ?_, .inr ⟨c, mine, ?_⟩⟩
  · rintro rfl
    cases plain
  · show (s.callers.move c stage cache).stage c ≠ _
    rwa [Cache.Callers.stage_move_self]

/-- A call that builds goes on by itself, until the build is announced. -/
theorem Goes.of_builds (tied : s.Tied) (mine : (s.errand n).caller? = some c)
    (at_work : s.callers.stage c = .builds key b work) (unannounced : work.Unannounced) :
    s.Goes settings n := by
  cases work with
  | resolving =>
    have fits := tied.fits mine
    cases at_call : s.errand n with
    | outside =>
      rw [at_call] at mine
      cases mine
    | works caller task =>
      rw [at_call] at mine
      obtain rfl : caller = some c := mine
      cases task with
      | ended outcome =>
        refine ⟨_, _, .deliver at_call (.resolve at_work _),
          .touch (by rw [at_call]; rfl) rfl ?_, .inl ?_⟩
        · cases outcome with
          | error _ => simp [Attempt.result]
          | ok _ => simp [Attempt.result]
        · simp [errand_move_self, at_call]
      | _ => exact .of_works at_call (by simp)
    | offers d σ left =>
      rw [at_call] at mine
      obtain rfl := Option.some.inj mine
      refine ⟨_, _, .bring at_call (.resolve at_work _),
        .touch (by rw [at_call]; rfl) rfl (by simp), .inl ?_⟩
      simp [errand_move_self, at_call]
    | pauses last left =>
      rw [at_call] at fits
      exact absurd at_work (fits.2 key b)
  | resolved result =>
    exact .of_touch mine (by trivial) rfl (.settle at_work) (by simp [at_work])
  | settled result =>
    exact .of_touch mine (by trivial) rfl (.announce at_work) (by simp [at_work])
  | ended _ _ => cases unannounced

/-- A call that pauses with something to offer goes on once its last caller has been answered. -/
theorem Goes.of_offers (run : Run settings events s) (next : s.errand n = .pauses last (σ :: left))
    (told : s.Answered last) : s.Goes settings n := by
  cases named : σ.id? with
  | none =>
    refine ⟨_, _, .skip next named, .work, .inl ?_⟩
    rw [errand_move_self, next]
    simp
  | some id =>
    obtain ⟨c, out⟩ := run.unused
    refine ⟨_, _, .offer next told named (.enter id out), .offer c id σ, .inl ?_⟩
    rw [errand_move_self, next]
    cases (s.callers.cache.enter id).2 with
    | hit _ _ => simp [Errand.met]
    | join _ => simp [Errand.met]
    | start _ => nofun

/-- A call that waits can be woken up, or the call that builds has not come to its end. -/
theorem Tied.wakes_or_builder (tied : s.Tied) (sound : Cache.Sound s.callers)
    (waits : s.Waits n key b) :
    (∃ answer, s.callers.cache.waiterReply? b = some answer) ∧ s.Goes settings n ∨
      ∃ m, s.Builds m key b := by
  obtain ⟨c, mine, asleep⟩ := waits
  obtain ⟨owner, work, at_work, serves⟩ := sound.waiting asleep
  obtain unannounced | ⟨result, reply, rfl⟩ := work.unannounced_or_ended
  · have open_build : ¬(s.callers.stage owner).Answered := by
      rw [at_work]
      cases work with
      | ended _ _ => cases unannounced
      | _ => exact id
    obtain ⟨m, owned⟩ := tied.bound (by rw [at_work]; nofun) open_build
    exact .inr ⟨m, owner, work, owned, at_work, unannounced⟩
  · refine .inl ⟨⟨_, serves.1⟩, ?_⟩
    exact .of_touch mine (by trivial) rfl (.wake asleep serves.1) (by rw [asleep]; nofun)

theorem Builds.busy (builds : s.Builds n key b) : s.Busy n := by
  obtain ⟨c, work, mine, at_work, unannounced⟩ := builds
  refine ⟨?_, ?_⟩
  · intro out
    rw [out] at mine
    cases mine
  · rintro ⟨last, done, told⟩
    rw [done] at mine
    have answered := told c mine
    rw [at_work] at answered
    cases work with
    | ended _ _ => exact unannounced
    | _ => exact answered

theorem Builds.goes (tied : s.Tied) (builds : s.Builds n key b) : s.Goes settings n := by
  obtain ⟨c, work, mine, at_work, unannounced⟩ := builds
  exact .of_builds tied mine at_work unannounced

/-- A call acts through one caller, and that caller builds. -/
theorem Builds.not_waits (builds : s.Builds n key b) {key' : String} {b' : Nat} :
    ¬s.Waits n key' b' := by
  rintro ⟨d, same, asleep⟩
  obtain ⟨c, work, mine, at_work, -⟩ := builds
  obtain rfl := Option.some.inj (mine.symm.trans same)
  exact nomatch at_work.symm.trans asleep

/-- A call that has not come to its end goes on by itself, or waits. -/
theorem Run.goes_or_waits (run : Run settings events s) (busy : s.Busy n) :
    s.Goes settings n ∨ ∃ key b, s.Waits n key b := by
  have tied := run.tied
  obtain ⟨begun, unfinished⟩ := busy
  cases at_call : s.errand n with
  | outside => exact absurd at_call begun
  | works caller task =>
    cases caller with
    | some c =>
      have mine : (s.errand n).caller? = some c := by rw [at_call]; rfl
      have fits := tied.fits mine
      rw [at_call] at fits
      obtain ⟨key, b, at_work⟩ := fits
      exact .inl (.of_builds tied mine at_work trivial)
    | none =>
      cases task with
      | ended outcome =>
        refine .inl ⟨_, _, .finish at_call, .work, .inl ?_⟩
        rw [errand_move_self, at_call]
        nofun
      | _ => exact .inl (.of_works at_call nofun)
  | offers c σ left =>
    have mine : (s.errand n).caller? = some c := by rw [at_call]; rfl
    have fits := tied.fits mine
    rw [at_call] at fits
    obtain ⟨key, b, at_work⟩ := fits
    exact .inl (.of_builds tied mine at_work trivial)
  | pauses last left =>
    by_cases told : s.Answered last
    · cases left with
      | nil => exact absurd ⟨last, at_call, told⟩ unfinished
      | cons σ left => exact .inl (.of_offers run at_call told)
    · obtain ⟨c, rfl, unanswered⟩ : ∃ c, last = some c ∧ ¬(s.callers.stage c).Answered := by
        simpa [Answered] using told
      have mine : (s.errand n).caller? = some c := by rw [at_call]; rfl
      cases at_caller : s.callers.stage c with
      | outside => exact absurd at_caller (tied.fits mine).inside
      | hit _ _ _ | served _ _ _ =>
        rw [at_caller] at unanswered
        exact absurd trivial unanswered
      | waits key b => exact .inr ⟨key, b, c, mine, at_caller⟩
      | builds key b work =>
        obtain unannounced | ⟨result, reply, rfl⟩ := work.unannounced_or_ended
        · exact .inl (.of_builds tied mine at_caller unannounced)
        · rw [at_caller] at unanswered
          exact absurd trivial unanswered

/-- Whatever calls are under way, and however their turns have come: as long as some call has not
come to its end, such a call can go on. A call that waits for a build has its outcome and can go on
itself, or the build is that of another call, which can. No call waits for a build of one that
waits. -/
theorem Run.never_stuck (run : Run settings events s) :
    (∀ n, s.Busy n → ∃ m, s.Busy m ∧ s.Goes settings m) ∧
    (∀ n key b, s.Waits n key b →
      (∃ answer, s.callers.cache.waiterReply? b = some answer) ∧ s.Goes settings n ∨
        ∃ m, s.Builds m key b ∧ s.Busy m ∧ s.Goes settings m) ∧
    ∀ n key b, s.Waits n key b → ∀ m, s.Builds m key b → ∀ key' b', ¬s.Waits m key' b' := by
  have tied := run.tied
  have waiting : ∀ n key b, s.Waits n key b →
      (∃ answer, s.callers.cache.waiterReply? b = some answer) ∧ s.Goes settings n ∨
        ∃ m, s.Builds m key b ∧ s.Busy m ∧ s.Goes settings m := by
    intro n key b waits
    obtain told | ⟨m, builds⟩ := tied.wakes_or_builder run.cached.sound waits
    · exact .inl told
    · exact .inr ⟨m, builds, builds.busy, builds.goes tied⟩
  refine ⟨fun n busy => ?_, waiting, fun _ _ _ _ m builds _ _ => builds.not_waits⟩
  obtain goes | ⟨key, b, waits⟩ := run.goes_or_waits busy
  · exact ⟨n, busy, goes⟩
  · obtain ⟨-, goes⟩ | ⟨m, -, other, goes⟩ := waiting n key b waits
    · exact ⟨n, busy, goes⟩
    · exact ⟨m, other, goes⟩

/-- Two schemas that import each other are loaded at once. The first load has come so far as to
offer the second schema, and waits for the load of it, which can go on. -/
theorem Run.never_stuck_circle :
    ∃ events s, Run circleSystem.settings events s ∧ .load 0 0 "b.isl" ∈ events ∧
      .load 1 1 "c.isl" ∈ events ∧ s.Waits 0 "c.isl" 1 ∧
      ∃ m, s.Builds m "c.isl" 1 ∧ s.Busy m ∧ s.Goes circleSystem.settings m ∧
        ∀ key b, ¬s.Waits m key b := by
  obtain ⟨σ, τ, compiled, -, documentC, -⟩ := compiled_circle
  have outcome : (circleSystem.attemptId circleSystem.cache "b.isl").outcome = .ok (σ, [τ]) := by
    have root : (circleSystem.attemptId circleSystem.cache "b.isl").compiled = [σ, τ] := compiled
    unfold Attempt.compiled at root
    cases ended : (circleSystem.attemptId circleSystem.cache "b.isl").outcome with
    | error e => simp [ended] at root
    | ok r => simpa [ended, Prod.ext_iff] using root
  have named : τ.id? = some "c.isl" := by
    rw [Schema.id?, documentC]
    rfl
  have start : Run circleSystem.settings [] (.start circleSystem.authorities) := .start _
  have both := (start.next (.load (n := 0) (c := 0) rfl (.enter "b.isl" rfl))).next
    (.load (n := 1) (c := 1) rfl (.enter "c.isl" rfl))
  obtain ⟨more, t, worked, done, callers, -⟩ :=
    both.worked_reads (n := 0) (show _ = Errand.works (some 0) (.reads "b.isl") from rfl)
      circleSystem rfl rfl circleSystem.cache
      (funext fun key => (Cache.get?_enter _ _ key).trans (Cache.get?_enter _ _ key))
  rw [outcome] at done
  have at_work : t.callers.stage 0 = .builds "b.isl" 0 .resolving := by
    rw [callers]
    rfl
  have delivered := worked.next (.deliver done (.resolve at_work _))
  obtain ⟨u, published, -, errands, cache, answered, kept⟩ :=
    delivered.published Cache.Callers.stage_move_self
  have held : u.callers.cache.slots.find? "c.isl" = some (.building 1) := by
    rw [cache, Cache.slots_announce]
    refine Cache.building_kept ?_ (by decide)
    rw [callers_move, Cache.Callers.cache_move, callers]
    rfl
  have others : ∀ c, c ≠ 0 → u.callers.stage c = t.callers.stage c :=
    fun c other => (kept c other).trans (Cache.Callers.stage_move_of_ne other)
  have free : u.callers.stage 2 = .outside := by
    rw [others 2 (by decide), callers]
    rfl
  have building : u.callers.stage 1 = .builds "c.isl" 1 .resolving := by
    rw [others 1 (by decide), callers]
    rfl
  have next : u.errand 0 = .pauses (some 0) [τ] := by
    rw [errands]
    exact errand_move_self
  have told : u.Answered (some 0) := by
    rintro c ⟨⟩
    rw [answered]
    trivial
  have met : (u.callers.cache.enter "c.isl").2 = .join 1 := by simp [Cache.enter, held]
  have offered := published.next (.offer next told named (.enter "c.isl" free))
  rw [met] at offered
  have waits : (u.move 0 (.met 2 (.offers 2 τ []) [] (.join 1))
      (u.callers.move 2 (.entered "c.isl" (.join 1)) (u.callers.cache.enter "c.isl").1)).Waits
        0 "c.isl" 1 := ⟨2, rfl, rfl⟩
  refine ⟨_, _, offered, by simp, by simp, waits, ?_⟩
  obtain ⟨-, waiting, apart⟩ := offered.never_stuck
  obtain ⟨⟨answer, told⟩, -⟩ | ⟨m, builds, busy, goes⟩ := waiting 0 _ _ waits
  · -- The second load has not told anybody anything.
    obtain ⟨waiters, found⟩ := offered.cached.sound.open_builds
      ((Cache.Callers.stage_move_of_ne (by decide)).trans building) trivial
    rw [Cache.waiterReply?, found] at told
    cases told
  · exact ⟨m, builds, busy, goes, apart 0 _ _ waits m builds⟩

end Traffic
end Isl
