import Isl.Proofs.Cache.Callers
import Isl.Proofs.Cache.Freshness
/-!
# Who made what a caller gets

A caller that enters for a key has from then on a build of that key, whether it hits its value,
waits for it or builds it. The build has one maker, who entered since the key was last invalidated
before the caller did.

* `Run.entered_build`: a caller enters once, and keeps its build;
* `Run.maker_since`: an invalidation before the caller entered was also before its maker did;
* `Run.answer_made`: a value that a call answers with is what its maker's resolver came to.
-/
namespace Isl.Cache

variable {β : Type} {s s' : Callers β} {moments before after : List (Moment β)}
  {moment : Moment β} {key key' : String} {b n : Nat} {work : Work β} {value : β}
  {result : BuildResult β}

/-- The key that a caller asked for, and the build that it met. -/
def Stage.build? : Stage β → Option (String × Nat)
  | outside => none
  | hit key build _ | builds key build _ | waits key build | served key build _ =>
    some (key, build)

theorem Stage.build?_entered (key : String) (met : CacheEntry β) :
    ∃ b, (Stage.entered key met).build? = some (key, b) := by
  cases met with
  | hit b _ => exact ⟨b, rfl⟩
  | join b => exact ⟨b, rfl⟩
  | start b => exact ⟨b, rfl⟩

theorem Step.entrant_outside (step : Step s (.enter n key) s') : s.stage n = .outside := by
  cases step with
  | enter _ out => exact out

theorem Step.entrant_build (step : Step s (.enter n key) s') :
    ∃ b, (s'.stage n).build? = some (key, b) := by
  cases step with
  | enter _ _ =>
    rw [Callers.stage_move_self]
    exact Stage.build?_entered key _

theorem Step.build_after (step : Step s moment s') {p : String × Nat}
    (of : (s.stage n).build? = some p) : (s'.stage n).build? = some p := by
  cases step.turn n with
  | none kept => rwa [kept]
  | enters _ _ out _ =>
    rw [out] at of
    cases of
  | works before after _ =>
    rw [before] at of
    rw [after]
    exact of
  | wakes asleep up _ =>
    rw [asleep] at of
    rw [up]
    exact of

/-- A caller has a build that it had before, or enters just now. -/
theorem Step.build_before (step : Step s moment s')
    (of : (s'.stage n).build? = some (key, b)) :
    (s.stage n).build? = some (key, b) ∨ moment = .enter n key := by
  cases step.turn n with
  | none kept => exact .inl (kept ▸ of)
  | enters k entered _ left =>
    subst left
    rw [Callers.stage_move_self] at of
    obtain ⟨b', met⟩ := Stage.build?_entered k (s.cache.enter k).2
    cases met.symm.trans of
    exact .inr entered
  | works before after _ =>
    rw [after] at of
    rw [before]
    exact .inl of
  | wakes asleep up _ =>
    rw [up] at of
    rw [asleep]
    exact .inl of

/-- What a resolver came to it had come to before, or comes to just now. -/
theorem Step.result_before (step : Step s moment s')
    (at_work : s'.stage n = .builds key b work) (came : work.result? = some result) :
    (∃ work', s.stage n = .builds key b work' ∧ work'.result? = some result) ∨
      moment = .resolve n result := by
  cases step with
  | @enter m k out =>
    obtain ⟨rfl, now⟩ | earlier := Callers.stage_of_move at_work
    · cases met : (s.cache.enter k).2 with
      | hit _ _ => simp [met, Stage.entered] at now
      | join _ => simp [met, Stage.entered] at now
      | start _ =>
        simp only [met, Stage.entered, Stage.builds.injEq] at now
        obtain ⟨-, -, rfl⟩ := now
        cases came
    · exact .inl ⟨work, earlier, came⟩
  | resolve _ _ =>
    obtain ⟨rfl, now⟩ | earlier := Callers.stage_of_move at_work
    · cases now
      cases came
      exact .inr rfl
    · exact .inl ⟨work, earlier, came⟩
  | settle before =>
    obtain ⟨rfl, now⟩ | earlier := Callers.stage_of_move at_work
    · cases now
      exact .inl ⟨_, before, came⟩
    · exact .inl ⟨work, earlier, came⟩
  | announce before =>
    obtain ⟨rfl, now⟩ | earlier := Callers.stage_of_move at_work
    · cases now
      exact .inl ⟨_, before, came⟩
    · exact .inl ⟨work, earlier, came⟩
  | wake _ _ =>
    obtain ⟨rfl, now⟩ | earlier := Callers.stage_of_move at_work
    · cases now
    · exact .inl ⟨work, earlier, came⟩
  | invalidate _ => exact .inl ⟨work, at_work, came⟩

/-! ## Runs -/

theorem Run.entered_build (run : Run moments s) (entered : .enter n key ∈ moments) :
    ∃ b, (s.stage n).build? = some (key, b) := by
  induction run with
  | start => cases entered
  | next _ step ih =>
    obtain earlier | now := List.mem_append.1 entered
    · obtain ⟨b, of⟩ := ih earlier
      exact ⟨b, step.build_after of⟩
    · obtain rfl := List.mem_singleton.1 now
      exact step.entrant_build

theorem Run.entered_once (run : Run moments s) (entered : .enter n key ∈ moments)
    (again : .enter n key' ∈ moments) : key = key' := by
  obtain ⟨b, of⟩ := run.entered_build entered
  obtain ⟨b', of'⟩ := run.entered_build again
  cases of.symm.trans of'
  rfl

theorem Run.build_entered (run : Run moments s) (of : (s.stage n).build? = some (key, b)) :
    .enter n key ∈ moments := by
  induction run with
  | start => cases of
  | next _ step ih =>
    obtain before | rfl := step.build_before of
    · exact List.mem_append_left _ (ih before)
    · exact List.mem_append_right _ (List.mem_singleton_self _)

/-- Whoever entered since the last invalidation entered after any of them. -/
theorem EnteredSince.mem_after (since : EnteredSince moments n key)
    (split : moments = before ++ .invalidate key :: after) : .enter n key ∈ after := by
  obtain ⟨past, later, rfl, kept⟩ := since
  obtain ⟨between, rfl, rest⟩ | ⟨between, rfl, rest⟩ := List.append_eq_append_iff.1 split
  · cases between with
    | nil => cases rest
    | cons _ between =>
      obtain ⟨rfl, rfl⟩ := List.cons.inj rest
      exact absurd (List.mem_append_right _ (List.mem_cons_self ..)) kept
  · cases between with
    | nil => cases rest
    | cons _ between =>
      obtain ⟨rfl, rfl⟩ := List.cons.inj rest
      exact List.mem_append_right _ (List.mem_cons_self ..)

/-- The build that a caller meets has a maker that entered since the last invalidation. -/
theorem Run.met_since (run : Run moments s) (step : Step s (.enter n key) s')
    (of : (s'.stage n).build? = some (key, b)) :
    ∃ m work, s'.stage m = .builds key b work ∧
      (m = n ∨ EnteredSince moments m key) := by
  have asked := step
  cases step with
  | enter _ _ =>
    rw [Callers.stage_move_self] at of
    obtain ⟨build, value, found, met⟩ | ⟨build, held, met⟩ | ⟨_, met⟩ :=
      enter_cases s.cache key
    · rw [met] at of
      cases of
      obtain ⟨m, work, at_work, -, since⟩ := run.ready_since found
      obtain ⟨work', after, -⟩ := asked.builds_after at_work
      exact ⟨m, work', after, .inr since⟩
    · rw [met] at of
      cases of
      obtain ⟨m, work, at_work, since⟩ := run.building_since held
      obtain ⟨work', after, -⟩ := asked.builds_after at_work
      exact ⟨m, work', after, .inr since⟩
    · rw [met] at of
      cases of
      exact ⟨n, .resolving, by rw [Callers.stage_move_self, met]; rfl, .inl rfl⟩

/-- A list that ends with an item, split elsewhere. -/
theorem split_snoc {α : Type} {xs before after : List α} {x : α}
    (split : xs ++ [x] = before ++ after) (some : after ≠ []) :
    ∃ past, after = past ++ [x] ∧ xs = before ++ past := by
  obtain ⟨between, rfl, rest⟩ | ⟨past, rfl, rest⟩ := List.append_eq_append_iff.1 split
  · cases between with
    | nil => exact ⟨[], rest.symm, by simp⟩
    | cons _ between =>
      obtain ⟨-, none⟩ := List.cons.inj rest
      exact absurd (List.append_eq_nil_iff.1 none.symm).2 some
  · exact ⟨past, rest, rfl⟩

/-- An invalidation before a caller entered was before the maker of its build entered. -/
theorem Run.maker_since (run : Run moments s) (of : (s.stage n).build? = some (key, b)) :
    ∃ m work, s.stage m = .builds key b work ∧ ∀ before after,
      moments = before ++ .invalidate key :: after → .enter n key ∈ after →
        .enter m key ∈ after := by
  induction run with
  | start => cases of
  | @next moments moment s s' run step ih =>
    have splits : ∀ before after : List (Moment β),
        moments ++ [moment] = before ++ .invalidate key :: after → .enter n key ∈ after →
          ∃ past, after = past ++ [moment] ∧ moments = before ++ .invalidate key :: past := by
      intro before after split entered
      rw [List.append_cons before] at split
      obtain ⟨past, rfl, rest⟩ := split_snoc split (List.ne_nil_of_mem entered)
      exact ⟨past, rfl, by rw [List.append_cons, ← rest]⟩
    obtain earlier | rfl := step.build_before of
    · obtain ⟨m, work, at_work, since⟩ := ih earlier
      obtain ⟨work', kept, -⟩ := step.builds_after at_work
      refine ⟨m, work', kept, fun before after split entered => ?_⟩
      obtain ⟨past, rfl, split'⟩ := splits before after split entered
      refine List.mem_append_left _ (since before past split' ?_)
      obtain then_ | now := List.mem_append.1 entered
      · exact then_
      · -- It has its build already, so it does not enter now.
        obtain rfl := List.mem_singleton.1 now
        rw [step.entrant_outside] at earlier
        cases earlier
    · obtain ⟨m, work, at_work, rfl | since⟩ := run.met_since step of
      · exact ⟨m, work, at_work, fun _ _ _ entered => entered⟩
      · refine ⟨m, work, at_work, fun before after split entered => ?_⟩
        obtain ⟨past, rfl, split'⟩ := splits before after split entered
        exact List.mem_append_left _ (since.mem_after split')

/-! ## Answers -/

theorem built_of_shared {key : String} (same : Except.ok value = sharedOutcome key result) :
    result = .built value := by
  cases result with
  | built _ =>
    cases same
    rfl
  | failed _ => cases same
  | abandoned => cases same

/-- A builder that answers with a value has built it. -/
theorem Run.reply_made (run : Run moments s)
    (ended : s.stage n = .builds key b (.ended result (some (.ok value)))) :
    result = .built value := by
  induction run with
  | start => cases ended
  | @next moments moment s s' run step ih =>
    obtain ⟨work, before, onward⟩ | ⟨-, -, -, new⟩ := step.builds_before ended
    · generalize replied : some (Except.ok value) = reply at onward
      cases onward with
      | stay => exact ih (replied ▸ before)
      | announce _ =>
        cases result with
        | built _ =>
          cases replied
          rfl
        | failed _ => simp [builderReply] at replied
        | abandoned => cases replied
    · cases new

/-- A value that a call answers with is what the resolver of its build's maker came to. -/
theorem Run.answer_made (run : Run moments s)
    (answered : (s.stage n).result? = some (.answered b (.ok value))) :
    ∃ key m work, (s.stage n).build? = some (key, b) ∧ s.stage m = .builds key b work ∧
      work.result? = some (.built value) := by
  cases stage : s.stage n with
  | outside =>
    rw [stage] at answered
    cases answered
  | hit key _ _ =>
    rw [stage] at answered
    cases answered
    obtain ⟨-, -, -, m, work, at_work, came, -⟩ := run.hit_since stage
    exact ⟨key, m, work, rfl, at_work, came⟩
  | waits _ _ =>
    rw [stage] at answered
    cases answered
  | served key _ _ =>
    rw [stage] at answered
    cases answered
    obtain ⟨m, result, reply, ended, same, -⟩ := run.sound.served stage
    exact ⟨key, m, _, rfl, ended, congrArg some (built_of_shared same)⟩
  | builds key _ work =>
    rw [stage] at answered
    cases work with
    | resolving => cases answered
    | resolved _ => cases answered
    | settled _ => cases answered
    | ended result reply =>
      cases reply with
      | none => cases answered
      | some own =>
        cases answered
        exact ⟨key, n, _, rfl, stage, congrArg some (run.reply_made stage)⟩

end Isl.Cache
