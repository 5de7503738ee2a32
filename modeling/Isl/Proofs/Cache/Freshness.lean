import Isl.Proofs.Cache.Waiters
/-!
# No stale values

A build that loses its slot to an invalidation finds the slot free or held by another build when it
settles, and leaves it alone. So what the cache gives for a key was made by a resolver that started
since the key was last invalidated, whichever other builds of the key are still under way.

* `ready_of_settle`, `Step.ready_before`: a value comes into a slot by settling only, and only if
  the slot is still held by the build;
* `Run.building_since`: who holds a slot entered since the key was last invalidated;
* `Run.values_fresh`: so did whoever made the value that a look-up or a hit gives.
-/
namespace Isl.Cache

variable {β : Type} {s s' : Callers β} {moments : List (Moment β)} {moment : Moment β}
  {key : String} {b n : Nat} {work work' : Work β} {value : β} {result : BuildResult β}

/-- What the resolver of a build has come to, if it has ended. -/
def Work.result? : Work β → Option (BuildResult β)
  | resolving => none
  | resolved result | settled result | ended result _ => some result

/-- The caller has entered, and the key has not been invalidated since. -/
def EnteredSince (moments : List (Moment β)) (caller : Nat) (key : String) : Prop :=
  ∃ before after, moments = before ++ .enter caller key :: after ∧ .invalidate key ∉ after

/-- The build is that of a caller who has entered since the key was last invalidated, and its
resolver has come to this value. -/
def MadeSince (moments : List (Moment β)) (s : Callers β) (key : String) (build : Nat)
    (value : β) : Prop :=
  ∃ maker work, s.stage maker = .builds key build work ∧
    work.result? = some (.built value) ∧ EnteredSince moments maker key

/-! ## Moments -/

theorem enteredSince_now (moments : List (Moment β)) (n : Nat) (key : String) :
    EnteredSince (moments ++ [.enter n key]) n key :=
  ⟨moments, [], rfl, List.not_mem_nil⟩

theorem EnteredSince.snoc (since : EnteredSince moments n key)
    (other : moment ≠ .invalidate key) : EnteredSince (moments ++ [moment]) n key := by
  obtain ⟨before, after, rfl, kept⟩ := since
  refine ⟨before, after ++ [moment], by simp, fun invalidated => ?_⟩
  obtain earlier | now := List.mem_append.1 invalidated
  · exact kept earlier
  · exact other (List.mem_singleton.1 now).symm

theorem Onward.result_eq (onward : Onward s s' key b work work')
    (came : work.result? = some result) : work'.result? = some result := by
  cases onward with
  | stay => exact came
  | resolve _ => cases came
  | settle _ => exact came
  | announce _ => exact came

theorem Step.slot_invalidated (step : Step s moment s') {slot : CacheSlot β}
    (found : s'.cache.slots.find? key = some slot) : moment ≠ .invalidate key := by
  rintro rfl
  cases step with
  | invalidate _ => simp [Cache.invalidate, Table.find?_erase] at found

theorem MadeSince.step (made : MadeSince moments s key b value) (step : Step s moment s')
    (other : moment ≠ .invalidate key) : MadeSince (moments ++ [moment]) s' key b value := by
  obtain ⟨maker, work, at_work, came, since⟩ := made
  obtain ⟨work', after, onward⟩ := step.builds_after at_work
  exact ⟨maker, work', after, onward.result_eq came, since.snoc other⟩

/-! ## Values in slots -/

/-- A build leaves its value only in a slot that it still holds. -/
theorem ready_of_settle {c : Cache β} {k : String} {build : Nat}
    (found : (c.settle key build result).slots.find? k = some (.ready b value)) :
    c.slots.find? k = some (.ready b value) ∨
      (key = k ∧ build = b ∧ result = .built value ∧
        c.slots.find? key = some (.building build)) := by
  unfold settle at found
  split at found
  · rename_i holds
    obtain ⟨slot, held, owned⟩ := (Option.any_eq_true _ _).1 holds
    cases result with
    | built v =>
      simp only [Table.find?_insert] at found
      split at found
      · rename_i same
        cases found
        cases slot with
        | ready _ _ => cases owned
        | building holder =>
          simp only [CacheSlot.isBuiltBy, beq_iff_eq] at owned
          subst owned
          exact .inr ⟨same, rfl, rfl, held⟩
      · exact .inl found
    | failed e =>
      simp only [Table.find?_erase] at found
      split at found
      · cases found
      · exact .inl found
    | abandoned =>
      simp only [Table.find?_erase] at found
      split at found
      · cases found
      · exact .inl found
  · exact .inl found

theorem ready_of_enter {c : Cache β} {k : String}
    (found : (c.enter key).1.slots.find? k = some (.ready b value)) :
    c.slots.find? k = some (.ready b value) := by
  obtain ⟨_, _, _, met⟩ | ⟨_, _, met⟩ | ⟨_, met⟩ := enter_cases c key
  · rwa [met] at found
  · rwa [met] at found
  · rw [met] at found
    simp only [Table.find?_insert] at found
    split at found
    · cases found
    · exact found

/-- A value was in its slot before, or its build has settled just now and held the slot. -/
theorem Step.ready_before (step : Step s moment s')
    (found : s'.cache.slots.find? key = some (.ready b value)) :
    s.cache.slots.find? key = some (.ready b value) ∨
      ∃ m, s.stage m = .builds key b (.resolved (.built value)) ∧
        s.cache.slots.find? key = some (.building b) := by
  cases step with
  | enter _ _ => exact .inl (ready_of_enter found)
  | resolve _ _ => exact .inl found
  | @settle m _ _ _ at_work =>
    obtain before | ⟨rfl, rfl, rfl, held⟩ := ready_of_settle found
    · exact .inl before
    · exact .inr ⟨m, at_work, held⟩
  | announce _ =>
    rw [Callers.cache_move, slots_announce] at found
    exact .inl found
  | wake _ _ => exact .inl found
  | invalidate _ =>
    simp only [Cache.invalidate, Table.find?_erase] at found
    split at found
    · cases found
    · exact .inl found

/-- A caller that hits has been told before, or finds the value just now. -/
theorem Step.hit_before (step : Step s moment s') (hit : s'.stage n = .hit key b value) :
    s.stage n = .hit key b value ∨
      (moment = .enter n key ∧ s.cache.slots.find? key = some (.ready b value)) := by
  cases step.turn n with
  | none kept => exact .inl (kept.symm.trans hit)
  | enters k entered _ left =>
    subst left
    rw [Callers.stage_move_self] at hit
    obtain ⟨_, _, found, met⟩ | ⟨_, _, met⟩ | ⟨_, met⟩ := enter_cases s.cache k
    · simp only [met, Stage.entered, Stage.hit.injEq] at hit
      obtain ⟨rfl, rfl, rfl⟩ := hit
      exact .inr ⟨entered, found⟩
    · simp [met, Stage.entered] at hit
    · simp [met, Stage.entered] at hit
  | works _ after _ => cases after.symm.trans hit
  | wakes _ up _ => cases up.symm.trans hit

/-! ## Runs -/

theorem Run.building_since (run : Run moments s)
    (held : s.cache.slots.find? key = some (.building b)) :
    ∃ n work, s.stage n = .builds key b work ∧ EnteredSince moments n key := by
  induction run with
  | start => cases held
  | next run step ih =>
    obtain before | ⟨m, rfl, at_work⟩ := step.slot_before held
    · obtain ⟨n, work, at_work, since⟩ := ih before
      obtain ⟨work', after, _⟩ := step.builds_after at_work
      exact ⟨n, work', after, since.snoc (step.slot_invalidated held)⟩
    · exact ⟨m, .resolving, at_work, enteredSince_now _ m key⟩

theorem Run.ready_since (run : Run moments s)
    (found : s.cache.slots.find? key = some (.ready b value)) :
    MadeSince moments s key b value := by
  induction run with
  | start => cases found
  | next run step ih =>
    have other := step.slot_invalidated found
    obtain before | ⟨m, resolved, held⟩ := step.ready_before found
    · exact (ih before).step step other
    · -- The slot tells who entered; that caller is the one that settles.
      obtain ⟨n, work, at_work, since⟩ := run.building_since held
      obtain rfl := run.sound.alone resolved at_work
      exact MadeSince.step ⟨m, _, resolved, rfl, since⟩ step other

theorem Run.hit_since (run : Run moments s) (hit : s.stage n = .hit key b value) :
    ∃ before after, moments = before ++ .enter n key :: after ∧
      ∃ maker work, s.stage maker = .builds key b work ∧ work.result? = some (.built value) ∧
        EnteredSince before maker key := by
  induction run with
  | start => cases hit
  | @next moments moment _ _ run step ih =>
    obtain before | ⟨rfl, found⟩ := step.hit_before hit
    · obtain ⟨past, later, rfl, maker, work, at_work, came, since⟩ := ih before
      obtain ⟨work', after, onward⟩ := step.builds_after at_work
      exact ⟨past, later ++ [moment], by simp, maker, work', after, onward.result_eq came, since⟩
    · obtain ⟨maker, work, at_work, came, since⟩ := run.ready_since found
      obtain ⟨work', after, onward⟩ := step.builds_after at_work
      exact ⟨moments, [], rfl, maker, work', after, onward.result_eq came, since⟩

/-- A stale build never enters the cache. A look-up reads the cache between two moments: the
resolver of the value that it finds was started after the last invalidation of the key. So was,
at the moment when a caller entered, the resolver of the value that this caller hit. -/
theorem Run.values_fresh (run : Run moments s) :
    (∀ key value, s.cache.get? key = some value → ∃ b, MadeSince moments s key b value) ∧
    (∀ n key b value, s.stage n = .hit key b value →
      ∃ before after, moments = before ++ .enter n key :: after ∧
        ∃ maker work, s.stage maker = .builds key b work ∧
          work.result? = some (.built value) ∧ EnteredSince before maker key) := by
  refine ⟨fun key value found => ?_, fun _ _ _ _ => run.hit_since⟩
  unfold Cache.get? at found
  split at found
  · rename_i build kept slot
    cases found
    exact ⟨build, run.ready_since slot⟩
  · cases found

/-- A build that was under way when its key was invalidated ends after its successor, and neither
a look-up nor a hit gives its value. -/
theorem Run.values_fresh_overtaken :
    ∃ (moments : List (Moment Nat)) (s : Callers Nat),
      moments = [.enter 0 "a", .invalidate "a", .enter 1 "a", .resolve 1 (.built 2), .settle 1,
        .resolve 0 (.built 1), .settle 0, .enter 2 "a"] ∧
      Run moments s ∧ s.cache.get? "a" = some 2 ∧ s.stage 2 = .hit "a" 1 2 ∧
      (∃ b, MadeSince moments s "a" b 2) ∧
      ∃ before after, moments = before ++ .enter 2 "a" :: after ∧
        ∃ maker work, s.stage maker = .builds "a" 1 work ∧ work.result? = some (.built 2) ∧
          EnteredSince before maker "a" := by
  have started : Run ([] ++ [.enter 0 "a"]) ((.start : Callers Nat).move 0 _ _) :=
    Run.start.next (.enter "a" rfl)
  have again := (started.next (.invalidate "a")).next (.enter (n := 1) "a" rfl)
  have renewed := (again.next (.resolve (n := 1) rfl (.built 2))).next (.settle (n := 1) rfl)
  have late := (renewed.next (.resolve (n := 0) rfl (.built 1))).next (.settle (n := 0) rfl)
  have asked := late.next (.enter (n := 2) "a" rfl)
  exact ⟨_, _, rfl, asked, rfl, rfl, asked.values_fresh.1 "a" 2 rfl,
    asked.values_fresh.2 2 "a" 1 2 rfl⟩

end Isl.Cache
