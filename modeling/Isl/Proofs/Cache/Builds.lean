import Isl.Proofs.Cache
/-!
# Slots and builds

What the operations of the cache do to its slots and to its builds. A build under way holds its
slot until it settles, is counted by those who join it, and is announced to them afterwards.

* `enter_cases`: what a caller can meet;
* `find?_enter`, `find?_settle`, `find?_announce_of_ne`: what becomes of a build;
* `waiterReply?_announce`, `builderReply_waited`: what an announced build tells;
* `building_of_settle`, `building_kept`, `settle_releases`: which slots are taken.
-/
namespace Isl.Cache

variable {β : Type} {c : Cache β} {key k : String} {build b : Nat}

/-! ## Builds -/

theorem find?_updateBuild (c : Cache β) (build b : Nat) (f : Build β → Build β) :
    (c.updateBuild build f).find? b = (c.find? b).map fun x => if b = build then f x else x := by
  simp only [find?, updateBuild, List.find?_map, Option.map_map]
  have same : ((fun x : Nat × Build β => x.1 == b) ∘
      fun x => if x.1 == build then (x.1, f x.2) else x) = fun x => x.1 == b := by
    funext x
    by_cases at_build : x.1 = build
    · simp [at_build]
    · simp [at_build]
  rw [same]
  cases found : c.builds.find? (·.1 == b) with
  | none => rfl
  | some x =>
    obtain rfl : x.1 = b := by simpa using List.find?_some found
    by_cases at_build : x.1 = build
    · simp [at_build]
    · simp [at_build]

theorem find?_forget (c : Cache β) (build b : Nat) :
    (c.forget build).find? b = if b = build then none else c.find? b := by
  simp only [find?, forget]
  by_cases same : b = build
  · subst same
    simp
  · rw [List.find?_filter, if_neg same]
    congr 2
    funext x
    by_cases at_b : x.1 = b
    · simp [at_b, same]
    · simp [at_b]

theorem find?_settle (c : Cache β) (key : String) (build b : Nat) (result : BuildResult β) :
    (c.settle key build result).find? b = c.find? b := by
  simp only [find?, builds_settle]

theorem begun_settle (c : Cache β) (key : String) (build : Nat) (result : BuildResult β) :
    (c.settle key build result).begun = c.begun := by
  unfold settle
  split
  · cases result with
    | built value => rfl
    | failed e => rfl
    | abandoned => rfl
  · rfl

theorem begun_announce (c : Cache β) (key : String) (build : Nat) (result : BuildResult β) :
    (c.announce key build result).begun = c.begun := by
  unfold announce
  split
  · rfl
  · rfl

theorem find?_announce_of_ne (result : BuildResult β) (other : b ≠ build) :
    (c.announce key build result).find? b = c.find? b := by
  unfold announce
  split
  · simp [find?_forget, other]
  · simp [find?_updateBuild, other]

/-- A build that somebody waits for has its outcome once it is announced. -/
theorem waiterReply?_announce (waited : c.waitersOf build ≠ 0) (result : BuildResult β) :
    (c.announce key build result).waiterReply? build = some (sharedOutcome key result) := by
  cases found : c.find? build with
  | none => simp [waitersOf, found] at waited
  | some x => simp [announce, waited, waiterReply?, find?_updateBuild, found]

/-- A builder that has waiters gets what they get, if it gets anything. -/
theorem builderReply_waited (waited : c.waitersOf build ≠ 0) {result : BuildResult β}
    {own : Except SchemaError β} (reply : c.builderReply key build result = some own) :
    own = sharedOutcome key result := by
  cases result with
  | built value => simpa [builderReply, sharedOutcome] using reply.symm
  | failed e => simpa [builderReply, sharedOutcome, waited] using reply.symm
  | abandoned => cases reply

/-! ## Slots -/

/-- No build begins by settling. -/
theorem building_of_settle {result : BuildResult β}
    (held : (c.settle key build result).slots.find? k = some (.building b)) :
    c.slots.find? k = some (.building b) := by
  unfold settle at held
  split at held
  · cases result with
    | built value =>
      simp only [Table.find?_insert] at held
      split at held
      · cases held
      · exact held
    | failed e =>
      simp only [Table.find?_erase] at held
      split at held
      · cases held
      · exact held
    | abandoned =>
      simp only [Table.find?_erase] at held
      split at held
      · cases held
      · exact held
  · exact held

/-- Settling touches no slot but one's own. -/
theorem building_kept {result : BuildResult β}
    (held : c.slots.find? k = some (.building b)) (other : ¬(key = k ∧ build = b)) :
    (c.settle key build result).slots.find? k = some (.building b) := by
  unfold settle
  split
  · rename_i holds
    have elsewhere : key ≠ k := by
      rintro rfl
      simp only [Cache.holds, held, Option.any_some, CacheSlot.isBuiltBy, beq_iff_eq] at holds
      exact other ⟨rfl, holds.symm⟩
    cases result with
    | built value => simpa [Table.find?_insert, elsewhere] using held
    | failed e => simpa [Table.find?_erase, elsewhere] using held
    | abandoned => simpa [Table.find?_erase, elsewhere] using held
  · exact held

/-- A build that has settled holds its slot no longer. -/
theorem settle_releases (c : Cache β) (key : String) (build : Nat) (result : BuildResult β) :
    (c.settle key build result).slots.find? key ≠ some (.building build) := by
  intro held
  have holds : c.holds key build = true := by
    simp [Cache.holds, building_of_settle held, CacheSlot.isBuiltBy]
  cases result with
  | built value => simp [settle, holds, Table.find?_insert] at held
  | failed e => simp [settle, holds, Table.find?_erase] at held
  | abandoned => simp [settle, holds, Table.find?_erase] at held

theorem building_of_invalidate
    (held : (c.invalidate key).slots.find? k = some (.building b)) :
    c.slots.find? k = some (.building b) := by
  simp only [invalidate, Table.find?_erase] at held
  split at held
  · cases held
  · exact held

/-! ## Entering -/

/-- All that can happen to a caller that asks for a key. -/
theorem enter_cases (c : Cache β) (key : String) :
    (∃ build value, c.slots.find? key = some (.ready build value) ∧
      c.enter key = (c, .hit build value)) ∨
    (∃ build, c.slots.find? key = some (.building build) ∧
      c.enter key =
        (c.updateBuild build fun x => { x with waiters := x.waiters + 1 }, .join build)) ∨
    (c.slots.find? key = none ∧
      c.enter key =
        ({ slots := c.slots.insert key (.building c.begun)
           builds := (c.begun, ⟨key, 0, none⟩) :: c.builds
           begun := c.begun + 1 }, .start c.begun)) := by
  cases found : c.slots.find? key with
  | none => exact .inr (.inr ⟨rfl, by simp [enter, found]⟩)
  | some slot =>
    cases slot with
    | ready build value => exact .inl ⟨build, value, rfl, by simp [enter, found]⟩
    | building build => exact .inr (.inl ⟨build, rfl, by simp [enter, found]⟩)

/-- Entering leaves the builds that have begun, up to the number of their waiters. -/
theorem find?_enter (old : b < c.begun) {x : Build β} (found : c.find? b = some x) :
    ∃ waiters, x.waiters ≤ waiters ∧
      (c.enter key).1.find? b = some { x with waiters := waiters } := by
  obtain ⟨_, _, _, entered⟩ | ⟨build, _, entered⟩ | ⟨_, entered⟩ := enter_cases c key
  · exact ⟨x.waiters, Nat.le_refl _, by rw [entered]; exact found⟩
  · rw [entered]
    simp only [find?_updateBuild, found, Option.map_some]
    by_cases same : b = build
    · exact ⟨x.waiters + 1, Nat.le_succ _, by simp [same]⟩
    · exact ⟨x.waiters, Nat.le_refl _, by simp [same]⟩
  · have newer : c.begun ≠ b := by omega
    refine ⟨x.waiters, Nat.le_refl _, ?_⟩
    rw [entered, find?, List.find?_cons_of_neg (by simpa using newer)]
    exact found

theorem begun_enter (c : Cache β) (key : String) : c.begun ≤ (c.enter key).1.begun := by
  obtain ⟨_, _, _, entered⟩ | ⟨_, _, entered⟩ | ⟨_, entered⟩ := enter_cases c key
  · simp [entered]
  · simp [entered, updateBuild]
  · simp [entered]

end Isl.Cache
