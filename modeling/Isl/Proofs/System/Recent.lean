import Isl.Proofs.System.References
import Isl.Proofs.System.Traffic
/-!
# What a load gives after an invalidation

The resolver of a load fetches its root after the load has entered the cache. An offer brings a
schema along that its call has fetched before, and nothing but the offer itself has to come after
an invalidation. So a load that starts after an invalidation gives a schema whose document was
fetched after it, unless a call that had the document by then has offered the schema since.

* `Run.honest`: what calls have at hand they have fetched, and a root after they entered for it;
* `Run.made`: so has whoever made the value of a build, or it has come with an offer;
* `Run.load_recent`: where the schema comes from that a load gives;
* `Run.revived`: any schema that is left to offer can so come back.
-/
namespace Isl.Traffic

variable {settings : Settings} {s s' : Traffic} {events before after : List Event}
  {event late : Event} {n c : Nat} {id : String} {d root : SchemaDocument} {world : Universe}
  {σ τ : Schema} {members left : List Schema} {caller : Option Nat} {p : String × Nat}

/-- Whenever the moment has come, the other event has come at the same time or later. -/
def Follows (events : List Event) (moment : Cache.Moment Schema) (late : Event) : Prop :=
  ∀ before after, events = before ++ after → moment ∈ after.filterMap Event.moment? → late ∈ after

theorem Follows.now (events : List Event) (moment : Cache.Moment Schema) (late : Event) :
    Follows (events ++ [late]) moment late := by
  intro before after split come
  have some : after ≠ [] := by
    rintro rfl
    cases come
  obtain ⟨past, rfl, -⟩ := Cache.split_snoc split some
  exact List.mem_append_right _ (List.mem_singleton_self late)

theorem Follows.snoc {moment : Cache.Moment Schema} (follows : Follows events moment late)
    (other : event.moment? ≠ some moment) : Follows (events ++ [event]) moment late := by
  intro before after split come
  have some : after ≠ [] := by
    rintro rfl
    cases come
  obtain ⟨past, rfl, earlier⟩ := Cache.split_snoc split some
  refine List.mem_append_left _ (follows before past earlier ?_)
  rw [List.filterMap_append] at come
  obtain come | now := List.mem_append.1 come
  · exact come
  · obtain ⟨_, mem, is⟩ := List.mem_filterMap.1 now
    obtain rfl := List.mem_singleton.1 mem
    exact absurd is other

/-! ## What calls have at hand -/

/-- The call has found this document under the id. -/
def Fetched (events : List Event) (n : Nat) (id : String) (d : SchemaDocument) : Prop :=
  .fetch n id (.ok d) ∈ events

/-- If the schema has an id, the call has found its document there. -/
def Imported (events : List Event) (n : Nat) (σ : Schema) : Prop :=
  ∀ id, σ.id? = some id → Fetched events n id σ.document

/-- If the work is that of a caller of the cache, the root was fetched after it had entered. -/
def Rooted (events : List Event) (callers : Cache.Callers Schema) (n : Nat) (caller : Option Nat)
    (root : SchemaDocument) : Prop :=
  ∀ c, caller = some c → ∃ id b, (callers.stage c).build? = some (id, b) ∧
    Follows events (.enter c id) (.fetch n id (.ok root))

/-- What was read for a root was fetched. -/
structure Read (events : List Event) (n : Nat) (root : SchemaDocument) (world : Universe) :
    Prop where
  ascending : Ascending world.pending.names
  fetched : ∀ id d, world.pending.find? id = some d → root.id = some id ∨ Fetched events n id d

def TaskHonest (events : List Event) (callers : Cache.Callers Schema) (n : Nat)
    (caller : Option Nat) : Task → Prop
  | .reads id => ∀ c, caller = some c → ∃ b, (callers.stage c).build? = some (id, b)
  | .walks root world _ | .asks root world _ _ =>
    Rooted events callers n caller root ∧ Read events n root world
  | .ended outcome => ∀ σ members, outcome = .ok (σ, members) →
    Rooted events callers n caller σ.document ∧ ∀ τ ∈ members, Imported events n τ

/-- The caller has entered to offer this schema, and the call has fetched its document. -/
def Offered (events : List Event) (callers : Cache.Callers Schema) (n c : Nat) (σ : Schema) :
    Prop :=
  ∃ id b, (callers.stage c).build? = some (id, b) ∧
    Follows events (.enter c id) (.offer n c id σ) ∧ Fetched events n id σ.document

def Honest (events : List Event) (callers : Cache.Callers Schema) (n : Nat) : Errand → Prop
  | .outside => True
  | .works caller task => TaskHonest events callers n caller task
  | .offers c σ left => Offered events callers n c σ ∧ ∀ τ ∈ left, Imported events n τ
  | .pauses _ left => ∀ τ ∈ left, Imported events n τ

/-! ## Any event leaves it at that -/

theorem Step.build_after (step : Step settings s event s')
    (of : (s.callers.stage c).build? = some p) : (s'.callers.stage c).build? = some p := by
  obtain ⟨moment, -, touched⟩ | ⟨-, kept⟩ := step.cached
  · exact touched.build_after of
  · rwa [kept]

/-- A caller that has a build does not enter again. -/
theorem Step.follows (step : Step settings s event s')
    (of : (s.callers.stage c).build? = some p) (follows : Follows events (.enter c id) late) :
    Follows (events ++ [event]) (.enter c id) late := by
  refine follows.snoc fun again => ?_
  obtain ⟨moment, is, touched⟩ | ⟨none, -⟩ := step.cached
  · cases is.symm.trans again
    rw [touched.entrant_outside] at of
    cases of
  · cases none.symm.trans again

theorem Fetched.later (fetched : Fetched events n id d) (event : Event) :
    Fetched (events ++ [event]) n id d := List.mem_append_left _ fetched

theorem Imported.later (imported : Imported events n σ) (event : Event) :
    Imported (events ++ [event]) n σ := fun id named => (imported id named).later event

theorem Read.later (read : Read events n root world) (event : Event) :
    Read (events ++ [event]) n root world :=
  ⟨read.ascending, fun id d found => (read.fetched id d found).imp_right (·.later event)⟩

theorem Rooted.step (rooted : Rooted events s.callers n caller root)
    (step : Step settings s event s') : Rooted (events ++ [event]) s'.callers n caller root := by
  intro c own
  obtain ⟨id, b, of, follows⟩ := rooted c own
  exact ⟨id, b, step.build_after of, step.follows of follows⟩

theorem TaskHonest.step {task : Task} (honest : TaskHonest events s.callers n caller task)
    (step : Step settings s event s') :
    TaskHonest (events ++ [event]) s'.callers n caller task := by
  cases task with
  | reads id =>
    intro c own
    obtain ⟨b, of⟩ := honest c own
    exact ⟨b, step.build_after of⟩
  | walks _ _ _ => exact ⟨honest.1.step step, honest.2.later event⟩
  | asks _ _ _ _ => exact ⟨honest.1.step step, honest.2.later event⟩
  | ended _ =>
    intro σ members came
    obtain ⟨rooted, imported⟩ := honest σ members came
    exact ⟨rooted.step step, fun τ mem => (imported τ mem).later event⟩

theorem Offered.step (offered : Offered events s.callers n c σ)
    (step : Step settings s event s') : Offered (events ++ [event]) s'.callers n c σ := by
  obtain ⟨id, b, of, follows, fetched⟩ := offered
  exact ⟨id, b, step.build_after of, step.follows of follows, fetched.later event⟩

theorem Honest.step {errand : Errand} (honest : Honest events s.callers n errand)
    (step : Step settings s event s') : Honest (events ++ [event]) s'.callers n errand := by
  cases errand with
  | outside => trivial
  | works _ _ => exact TaskHonest.step honest step
  | offers _ _ _ => exact ⟨honest.1.step step, fun τ mem => (honest.2 τ mem).later event⟩
  | pauses _ _ => exact fun τ mem => (honest τ mem).later event

/-! ## A call goes on -/

theorem read_ofRoot (events : List Event) (n : Nat) (root : SchemaDocument) :
    Read events n root (.ofRoot root) :=
  ⟨Universe.ascending_ofRoot root, fun _ _ found => .inl (Universe.pending_ofRoot found).1⟩

theorem Read.addPending (read : Read events n root world) (fetched : Fetched events n id d)
    (chain : List String) : Read events n root (world.addPending id chain d) := by
  refine ⟨Table.ascending_insert id d read.ascending, fun key e found => ?_⟩
  simp only [Universe.addPending, Table.find?_insert] at found
  split at found
  · rename_i same
    cases found
    exact .inr (same ▸ fetched)
  · exact read.fetched key e found

/-- What is compiled along with a root was fetched. -/
theorem Read.imported (read : Read events n root world)
    (compiled : settings.compile world root = .ok (σ, members)) (mem : τ ∈ members)
    (named : ∀ id d, Fetched events n id d → d.id = some id) : Imported events n τ := by
  obtain ⟨each, -⟩ := System.compile_eq_ok_iff.1 compiled
  obtain ⟨⟨id, d⟩, listed, made⟩ := (SchemaError.mapM_eq_ok each).1 τ mem
  obtain ⟨entry, foreign⟩ := Settings.mem_members.1 listed
  have document : τ.document = d :=
    Compilation.document_of_run (Settings.compileMember_eq_ok_iff.1 made)
  have fetched : Fetched events n id d :=
    (read.fetched id d (Table.find?_of_mem_entries read.ascending entry)).resolve_left foreign
  intro key called
  rw [Schema.id?, document, named id d fetched] at called
  cases called
  exact document ▸ fetched

theorem TaskHonest.onward {task : Task} {callers : Cache.Callers Schema}
    (honest : TaskHonest events callers n caller task) (cached : String → Option Schema)
    (named : ∀ id d, Fetched events n id d → d.id = some id) :
    TaskHonest events callers n caller (task.onward settings cached) := by
  cases task with
  | reads _ => exact honest
  | asks _ _ _ _ => exact honest
  | ended _ => exact honest
  | walks root world todo =>
    obtain ⟨rooted, read⟩ := honest
    cases todo with
    | nil =>
      intro σ members compiled
      have own := Compilation.document_of_run (System.compile_eq_ok_iff.1 compiled).2
      refine ⟨?_, fun τ mem => read.imported compiled mem named⟩
      rw [own]
      exact rooted
    | cons quest todo =>
      by_cases seen : world.contains quest.id = true
      · simp only [Task.onward, if_pos seen]
        exact ⟨rooted, read⟩
      · cases held : cached quest.id with
        | none =>
          simp only [Task.onward, if_neg seen, held]
          exact ⟨rooted, read⟩
        | some τ =>
          simp only [Task.onward, if_neg seen, held]
          exact ⟨rooted, read.ascending, read.fetched⟩

/-- What authorities give was fetched just now, and so after anything else. -/
theorem TaskHonest.given {task : Task} {callers : Cache.Callers Schema}
    {found : Except SchemaError SchemaDocument}
    (honest : TaskHonest (events ++ [.fetch n id found]) callers n caller task)
    (wants : task.wants? = some id) :
    TaskHonest (events ++ [.fetch n id found]) callers n caller (task.given found) := by
  have fetched : ∀ {d}, found = .ok d → Fetched (events ++ [.fetch n id found]) n id d := by
    rintro d rfl
    exact List.mem_append_right _ (List.mem_singleton_self _)
  cases task with
  | walks _ _ _ => cases wants
  | ended _ => cases wants
  | reads _ =>
    cases wants
    cases found with
    | error e => exact fun _ _ => nofun
    | ok root =>
      refine ⟨fun c own => ?_, read_ofRoot _ n root⟩
      obtain ⟨b, of⟩ := honest c own
      exact ⟨id, b, of, .now events _ _⟩
  | asks root world quest todo =>
    cases wants
    obtain ⟨rooted, read⟩ := honest
    cases found with
    | error e => exact fun _ _ => nofun
    | ok d => exact ⟨rooted, read.addPending (fetched rfl) quest.chain⟩

/-- The members of an attempt that was worked out are left to offer. -/
theorem TaskHonest.imported {outcome : Except SchemaError (Schema × List Schema)}
    {callers : Cache.Callers Schema}
    (honest : TaskHonest events callers n caller (.ended outcome)) :
    ∀ τ ∈ (Attempt.mk outcome []).members, Imported events n τ := by
  intro τ mem
  cases outcome with
  | error _ => cases mem
  | ok r => exact (honest r.1 r.2 rfl).2 τ mem

theorem Honest.met {entry : CacheEntry Schema} {callers : Cache.Callers Schema} {work : Errand}
    (begins : Honest events callers n work) (imported : ∀ τ ∈ left, Imported events n τ) :
    Honest events callers n (.met c work left entry) := by
  cases entry with
  | hit _ _ => exact imported
  | join _ => exact imported
  | start _ => exact begins

/-! ## Runs -/

theorem fetch_id {authorities : List Authority} (found : settings.fetch authorities id = .ok d) :
    d.id = some id :=
  System.document_id (s := ⟨settings, authorities, .empty⟩) found

theorem Step.fetch_now {found : Except SchemaError SchemaDocument}
    (step : Step settings s (.fetch n id found) s') :
    found = settings.fetch s.authorities id := by
  cases step with
  | fetch _ _ => rfl

theorem Run.fetched_id (run : Run settings events s) (fetched : Fetched events n id d) :
    d.id = some id := by
  induction run with
  | start _ => cases fetched
  | next _ step ih =>
    obtain earlier | now := List.mem_append.1 fetched
    · exact ih earlier
    · obtain rfl := List.mem_singleton.1 now
      exact fetch_id step.fetch_now.symm

theorem Step.honest (step : Step settings s event s')
    (named : ∀ {n id d}, Fetched events n id d → d.id = some id)
    (honest : ∀ n, Honest events s.callers n (s.errand n)) (n : Nat) :
    Honest (events ++ [event]) s'.callers n (s'.errand n) := by
  have others : ∀ {m errand}, (∀ k, s'.errand k = if k = m then errand else s.errand k) →
      (n = m → Honest (events ++ [event]) s'.callers n errand) →
        Honest (events ++ [event]) s'.callers n (s'.errand n) := by
    intro m errand moved own
    rw [moved]
    split
    · exact own ‹_›
    · exact (honest n).step step
  have before := (honest n).step step
  cases step with
  | supply _ => exact before
  | @load m c id _ out enters =>
    refine others (fun _ => rfl) ?_
    rintro rfl
    refine .met (fun c own => ?_) nofun
    cases own
    exact enters.entrant_build
  | compile out read =>
    refine others (fun _ => rfl) ?_
    rintro rfl
    exact ⟨nofun, read_ofRoot _ n _⟩
  | fetch at_work wants =>
    refine others (fun _ => rfl) ?_
    rintro rfl
    rw [at_work] at before
    exact TaskHonest.given before wants
  | work at_work =>
    refine others (fun _ => rfl) ?_
    rintro rfl
    rw [at_work] at before
    refine TaskHonest.onward before _ fun id d fetched => ?_
    obtain earlier | now := List.mem_append.1 fetched
    · exact named earlier
    · cases List.mem_singleton.1 now
  | deliver done resolves =>
    refine others (fun _ => rfl) ?_
    rintro rfl
    rw [done] at before
    exact TaskHonest.imported before
  | abandon _ _ => exact others (fun _ => rfl) fun _ => nofun
  | finish done =>
    refine others (fun _ => rfl) ?_
    rintro rfl
    rw [done] at before
    exact TaskHonest.imported before
  | offer next told named enters =>
    refine others (fun _ => rfl) ?_
    rintro rfl
    rw [next] at before
    obtain ⟨b, of⟩ := enters.entrant_build
    obtain ⟨first, later⟩ := List.forall_mem_cons.1 before
    exact .met ⟨⟨_, b, of, .now events _ _, first _ named⟩, later⟩ later
  | skip next _ =>
    refine others (fun _ => rfl) ?_
    rintro rfl
    rw [next] at before
    exact fun τ mem => before τ (List.mem_cons_of_mem _ mem)
  | bring at_hand _ =>
    refine others (fun _ => rfl) ?_
    rintro rfl
    rw [at_hand] at before
    exact before.2
  | touch _ _ => exact before

theorem Run.honest (run : Run settings events s) (n : Nat) :
    Honest events s.callers n (s.errand n) := by
  induction run generalizing n with
  | start _ => trivial
  | next run step ih => exact step.honest run.fetched_id ih n

/-- A call has fetched the schema after its caller of the cache had entered, or this caller has
entered for the call to offer the schema. -/
def Sourced (events : List Event) (c : Nat) (id : String) (σ : Schema) : Prop :=
  (∃ n, Follows events (.enter c id) (.fetch n id (.ok σ.document))) ∨
    ∃ n, Follows events (.enter c id) (.offer n c id σ) ∧ Fetched events n id σ.document

theorem Step.sourced (step : Step settings s event s')
    (of : (s.callers.stage c).build? = some p) (sourced : Sourced events c id σ) :
    Sourced (events ++ [event]) c id σ := by
  obtain ⟨n, follows⟩ | ⟨n, follows, fetched⟩ := sourced
  · exact .inl ⟨n, step.follows of follows⟩
  · exact .inr ⟨n, step.follows of follows, fetched.later event⟩

/-- Only a load and an offer have resolvers. -/
theorem Step.resolver (step : Step settings s event s')
    (is : event = .touch (.resolve c (.built σ))) :
    (∃ n members, s.errand n = .works (some c) (.ended (.ok (σ, members)))) ∨
      ∃ n left, s.errand n = .offers c σ left := by
  cases step with
  | supply _ => cases is
  | load _ _ => cases is
  | compile _ _ => cases is
  | fetch _ _ => cases is
  | work _ => cases is
  | @deliver n _ outcome _ done _ =>
    cases outcome with
    | error _ => cases is
    | ok r =>
      cases is
      exact .inl ⟨n, r.2, done⟩
  | abandon _ _ => cases is
  | finish _ => cases is
  | offer _ _ _ _ => cases is
  | skip _ _ => cases is
  | @bring n _ _ left _ at_hand _ =>
    cases is
    exact .inr ⟨n, left, at_hand⟩
  | touch plain _ =>
    cases is
    cases plain

/-- A resolver that is at its end has a call that has come by the value honestly. -/
theorem Run.resolver_sourced (run : Run settings events s)
    (step : Step settings s (.touch (.resolve c (.built σ))) s') :
    ∃ id b, (s.callers.stage c).build? = some (id, b) ∧ Sourced events c id σ := by
  obtain ⟨n, members, done⟩ | ⟨n, left, at_hand⟩ := step.resolver rfl
  · have honest := run.honest n
    rw [done] at honest
    obtain ⟨id, b, had, follows⟩ := (honest σ members rfl).1 c rfl
    exact ⟨id, b, had, .inl ⟨n, follows⟩⟩
  · have honest := run.honest n
    rw [at_hand] at honest
    obtain ⟨⟨id, b, had, follows, fetched⟩, -⟩ := honest
    exact ⟨id, b, had, .inr ⟨n, follows, fetched⟩⟩

theorem build?_of_builds {callers : Cache.Callers Schema} {b : Nat} {work : Cache.Work Schema}
    (at_work : callers.stage c = .builds id b work) :
    (callers.stage c).build? = some (id, b) := by
  rw [at_work]
  rfl

theorem Run.made (run : Run settings events s) {b : Nat} {work : Cache.Work Schema}
    (at_work : s.callers.stage c = .builds id b work) (came : work.result? = some (.built σ)) :
    Sourced events c id σ := by
  induction run generalizing work with
  | start _ => cases at_work
  | @next events event s s' run step ih =>
    obtain ⟨moment, is, touched⟩ | ⟨-, kept⟩ := step.cached
    · obtain ⟨work', before, came'⟩ | rfl := touched.result_before at_work came
      · exact step.sourced (build?_of_builds before) (ih before came')
      · obtain rfl : event = .touch (.resolve c (.built σ)) := by
          cases event with
          | touch _ => exact congrArg _ (Option.some.inj is)
          | _ => cases is
        obtain ⟨id', b', had, sourced⟩ := run.resolver_sourced step
        cases (step.build_after had).symm.trans (build?_of_builds at_work)
        exact step.sourced had sourced
    · rw [kept] at at_work
      exact step.sourced (build?_of_builds at_work) (ih at_work came)

/-- The offer of a schema from its start to its end, and a load that comes after it. -/
def offerAndLoad (m c n c' : Nat) (id : String) (σ : Schema) : List Event :=
  [.offer m c id σ, .touch (.resolve c (.built σ)), .touch (.settle c), .touch (.announce c),
    .load n c' id]

/-- An offer puts a schema back that has been invalidated: nobody fetches it again, and the next
load has it. -/
theorem Run.revived {m c' : Nat} {last : Option Nat} (run : Run settings events s)
    (next : s.errand m = .pauses last (σ :: left)) (told : s.Answered last)
    (named : σ.id? = some id)
    (out : s.callers.stage c = .outside) (out' : s.callers.stage c' = .outside) (apart : c' ≠ c)
    (idle : s.errand n = .outside) :
    ∃ s' b, Run settings
        (events ++ .touch (.invalidate id) :: offerAndLoad m c n c' id σ) s' ∧
      (s'.callers.stage c').result? = some (.answered b (.ok σ)) := by
  have erased : (s.callers.cache.invalidate id).slots.find? id = none := by
    simp [Cache.invalidate, Table.find?_erase]
  have met : ((s.callers.cache.invalidate id).enter id).2 =
      .start (s.callers.cache.invalidate id).begun := by simp [Cache.enter, erased]
  have invalidated := run.next (.touch (by trivial) (.invalidate id))
  have offered := invalidated.next (.offer next told named (.enter id out))
  simp only [met, Cache.Stage.entered, Errand.met] at offered
  have brought := offered.next
    (.bring errand_move_self (.resolve Cache.Callers.stage_move_self (.built σ)))
  obtain ⟨t, published, -, errands, cache, -, kept⟩ :=
    brought.published Cache.Callers.stage_move_self
  have slot : t.callers.cache.slots.find? id =
      some (.ready (s.callers.cache.invalidate id).begun σ) := by
    rw [cache]
    change ((s.callers.cache.invalidate id).afterBuild id (.built σ)).slots.find? id = _
    rw [Cache.slots_afterBuild erased, Table.find?_insert, if_pos rfl]
  have met' : t.callers.cache.enter id =
      (t.callers.cache, .hit (s.callers.cache.invalidate id).begun σ) := by
    simp [Cache.enter, slot]
  have free : t.callers.stage c' = .outside := by
    rw [kept c' apart]
    exact (Cache.Callers.stage_move_of_ne apart).trans
      ((Cache.Callers.stage_move_of_ne apart).trans out')
  have idle' : t.errand n = .outside := by
    have other : n ≠ m := by
      rintro rfl
      cases idle.symm.trans next
    rw [errands]
    exact (errand_move_of_ne other).trans ((errand_move_of_ne other).trans idle)
  have loaded := published.next (.load idle' (.enter id free))
  refine ⟨_, (s.callers.cache.invalidate id).begun, by simpa [offerAndLoad] using loaded, ?_⟩
  rw [callers_move, Cache.Callers.stage_move_self, met']
  rfl

/-- What a load gives that starts after an invalidation was fetched after the invalidation, or else
a call has offered it since that had fetched it before. -/
theorem Run.load_recent (run : Run settings events s)
    (split : events = before ++ .touch (.invalidate id) :: after)
    (started : .load n c id ∈ after) {b : Nat}
    (answered : (s.callers.stage c).result? = some (.answered b (.ok σ))) :
    (∃ m, Fetched after m id σ.document) ∨
      ∃ m c', Fetched before m id σ.document ∧ .offer m c' id σ ∈ after ∧
        (s.callers.stage c').build? = some (id, b) := by
  have moments : events.filterMap Event.moment? =
      before.filterMap Event.moment? ++ .invalidate id :: after.filterMap Event.moment? := by
    rw [split, List.filterMap_append, List.filterMap_cons]
    rfl
  have entered : .enter c id ∈ after.filterMap Event.moment? :=
    List.mem_filterMap.2 ⟨_, started, rfl⟩
  obtain ⟨key, c', work, of, made, came⟩ := run.cached.answer_made answered
  obtain rfl : key = id := by
    refine run.cached.entered_once (run.cached.build_entered of) ?_
    rw [moments]
    exact List.mem_append_right _ (List.mem_cons_of_mem _ entered)
  obtain ⟨maker, _, made', since⟩ := run.cached.maker_since of
  obtain rfl := run.cached.sound.alone made made'
  have since := since _ _ moments entered
  have split : events = (before ++ [.touch (.invalidate key)]) ++ after := by simp [split]
  obtain ⟨m, follows⟩ | ⟨m, follows, fetched⟩ := run.made made came
  · exact .inl ⟨m, follows _ _ split since⟩
  · rw [split] at fetched
    obtain past | later := List.mem_append.1 fetched
    · obtain earlier | now := List.mem_append.1 past
      · exact .inr ⟨m, c', earlier, follows _ _ split since, build?_of_builds made⟩
      · cases List.mem_singleton.1 now
    · exact .inl ⟨m, later⟩

/-- Values that import `b.isl` have been compiled, and what they import is left to offer. -/
theorem offering_small :
    ∃ events s, Run .standard events s ∧ s.errand 0 = .pauses none [declaringSchema] ∧
      s.errand 1 = .outside ∧ ∀ c, s.callers.stage c = .outside := by
  have read : Settings.standard.read importingValues = .ok importingDocument := rfl
  have start : Run .standard [] (.start smallSystem.authorities) := .start _
  have begun := start.next (.compile (n := 0) rfl read)
  have asks := begun.work_to errand_move_self
    (.asks importingDocument (.ofRoot importingDocument) ⟨"b.isl", ["b.isl"]⟩
      [⟨"b.isl", ["b.isl"]⟩]) rfl
  have given := asks.fetch_to errand_move_self rfl (.ok declaringDocument) rfl
  have walked := given.work_to (if_pos rfl) (.walks importingDocument smallWorld []) rfl
  have ended := walked.work_to errand_move_self
    (.ended (.ok (importingSchema, [declaringSchema]))) (congrArg _ compile_small)
  exact ⟨_, _, ended.next (.finish errand_move_self), errand_move_self, rfl, fun _ => rfl⟩

/-- The imported schema is invalidated before it is offered. The load that follows gives what was
fetched before. -/
theorem Run.load_recent_revived :
    ∃ (before after : List Event) (s : Traffic) (b : Nat),
      Run .standard (before ++ .touch (.invalidate "b.isl") :: after) s ∧
      .load 1 1 "b.isl" ∈ after ∧
      (s.callers.stage 1).result? = some (.answered b (.ok declaringSchema)) ∧
      (¬ ∃ m, Fetched after m "b.isl" declaringDocument) ∧
      ∃ m c', Fetched before m "b.isl" declaringDocument ∧
        .offer m c' "b.isl" declaringSchema ∈ after ∧
        (s.callers.stage c').build? = some ("b.isl", b) := by
  obtain ⟨before, _, waits, next, idle, out⟩ := offering_small
  have named : declaringSchema.id? = some "b.isl" := rfl
  obtain ⟨s, b, run, answered⟩ :=
    waits.revived next answered_none named (out 0) (out 1) (by decide) idle
  have started : .load 1 1 "b.isl" ∈ offerAndLoad 0 0 1 1 "b.isl" declaringSchema := by
    simp [offerAndLoad]
  have never : ¬ ∃ m, Fetched (offerAndLoad 0 0 1 1 "b.isl" declaringSchema) m "b.isl"
      declaringDocument := by simp [Fetched, offerAndLoad]
  exact ⟨before, _, s, b, run, started, answered, never,
    (run.load_recent rfl started answered).resolve_left never⟩

end Isl.Traffic
