import Isl.Cache
import Isl.Proofs.Table
/-!
# The cache between calls

Between calls that come one after the other no build is under way: the cache is idle. On an idle
cache a caller finds a value or builds it itself, nobody waits for the build, and afterwards the
cache is idle again.

* `getOrBuild_hit`, `getOrBuild_start`: what a call comes to;
* `get?_afterBuild`: what the cache holds after a build;
* `idle_afterBuild`: it is idle again.
-/
namespace Isl.Cache

variable {β : Type} {c : Cache β} {key : String}

/-- No slot waits for a build to end. -/
def Idle (c : Cache β) : Prop := ∀ key slot, c.slots.find? key = some slot → slot.isReady = true

theorem idle_empty : (empty : Cache β).Idle := by
  intro key slot found
  simp [empty, Table.empty, Table.find?] at found

theorem idle_invalidate (idle : c.Idle) (key : String) : (c.invalidate key).Idle := by
  intro k slot found
  simp only [invalidate, Table.find?_erase] at found
  split at found
  · cases found
  · exact idle k slot found

theorem get?_invalidate (c : Cache β) (key k : String) :
    (c.invalidate key).get? k = if key = k then none else c.get? k := by
  simp only [get?, invalidate, Table.find?_erase]
  by_cases same : key = k
  · simp [same]
  · simp [same]

theorem get?_empty (key : String) : (empty : Cache β).get? key = none := rfl

/-- A key of an idle cache has its value, or nothing at all. -/
theorem Idle.slot_cases (idle : c.Idle) (key : String) :
    (∃ build value, c.slots.find? key = some (.ready build value) ∧ c.get? key = some value) ∨
      (c.slots.find? key = none ∧ c.get? key = none) := by
  cases found : c.slots.find? key with
  | none => exact .inr ⟨rfl, by simp [get?, found]⟩
  | some slot =>
    cases slot with
    | ready build value => exact .inl ⟨build, value, rfl, by simp [get?, found]⟩
    | building build =>
      have ready := idle key _ found
      cases ready

/-! ## A build from its start to its end -/

/-- The cache after a build that nobody joined. -/
def afterBuild (c : Cache β) (key : String) (result : BuildResult β) : Cache β :=
  ((c.enter key).1.settle key c.begun result).announce key c.begun result

theorem slots_announce (c : Cache β) (key : String) (build : Nat) (result : BuildResult β) :
    (c.announce key build result).slots = c.slots := by
  unfold announce
  split
  · rfl
  · rfl

theorem get?_enter (c : Cache β) (key k : String) : (c.enter key).1.get? k = c.get? k := by
  unfold enter
  split
  · rfl
  · rfl
  · rename_i absent
    simp only [get?, Table.find?_insert]
    by_cases same : key = k
    · subst same
      simp [absent]
    · simp [same]

theorem holds_enter (absent : c.slots.find? key = none) :
    (c.enter key).1.holds key c.begun = true := by
  simp [enter, absent, holds, Table.find?_insert, CacheSlot.isBuiltBy]

theorem slots_afterBuild (absent : c.slots.find? key = none) (result : BuildResult β) :
    (c.afterBuild key result).slots =
      match result with
      | .built value => (c.enter key).1.slots.insert key (.ready c.begun value)
      | _ => (c.enter key).1.slots.erase key := by
  have held := holds_enter absent
  cases result with
  | built value => simp [afterBuild, slots_announce, settle, held]
  | failed e => simp [afterBuild, slots_announce, settle, held]
  | abandoned => simp [afterBuild, slots_announce, settle, held]

theorem get?_afterBuild_built (absent : c.slots.find? key = none) (value : β) (k : String) :
    (c.afterBuild key (.built value)).get? k = if key = k then some value else c.get? k := by
  rw [get?, slots_afterBuild absent]
  simp only [Table.find?_insert]
  by_cases same : key = k
  · simp [same]
  · simp only [if_neg same]
    exact get?_enter c key k

theorem get?_afterBuild_failed (absent : c.slots.find? key = none) (e : SchemaError) (k : String) :
    (c.afterBuild key (.failed e)).get? k = c.get? k := by
  rw [get?, slots_afterBuild absent]
  simp only [Table.find?_erase]
  by_cases same : key = k
  · subst same
    simp [get?, absent]
  · simp only [if_neg same]
    exact get?_enter c key k

theorem idle_afterBuild (idle : c.Idle) (absent : c.slots.find? key = none)
    (result : BuildResult β) : (c.afterBuild key result).Idle := by
  intro k slot found
  have entered : key ≠ k → (c.enter key).1.slots.find? k = c.slots.find? k := by
    intro other
    simp [enter, absent, Table.find?_insert, other]
  by_cases same : key = k
  · subst same
    rw [slots_afterBuild absent] at found
    cases result with
    | built value =>
      simp only [Table.find?_insert, if_pos] at found
      cases found
      rfl
    | failed e => simp [Table.find?_erase] at found
    | abandoned => simp [Table.find?_erase] at found
  · rw [slots_afterBuild absent] at found
    cases result with
    | built value =>
      simp only [Table.find?_insert, if_neg same, entered same] at found
      exact idle k slot found
    | failed e =>
      simp only [Table.find?_erase, if_neg same, entered same] at found
      exact idle k slot found
    | abandoned =>
      simp only [Table.find?_erase, if_neg same, entered same] at found
      exact idle k slot found

/-! ## A call -/

variable {m : Type → Type} [Monad m]

theorem pure_apply {σ α : Type} (a : α) (s : σ) : (pure a : StateT σ m α) s = pure (a, s) := rfl

theorem modify_apply {σ : Type} (change : σ → σ) (s : σ) :
    (modify change : StateT σ m PUnit) s = pure (⟨⟩, change s) := rfl

variable [LawfulMonad m]

theorem getOrBuild_hit {build : Nat} {value : β}
    (found : c.slots.find? key = some (.ready build value))
    (work : StateT (Cache β) m (BuildResult β)) :
    getOrBuild key work c = pure (.answered build (.ok value), c) := by
  simp [getOrBuild, enter, found, modifyGet, MonadStateOf.modifyGet, StateT.modifyGet, bind,
    StateT.bind, pure_apply]

/-- What the caller that built gets: nobody shares its error. -/
def soleReply (build : Nat) : BuildResult β → CallResult β
  | .built value => .answered build (.ok value)
  | .failed e => .answered build (.error e)
  | .abandoned => .abandoned

theorem builds_settle (c : Cache β) (key : String) (build : Nat) (result : BuildResult β) :
    (c.settle key build result).builds = c.builds := by
  unfold settle
  split
  · cases result with
    | built value => rfl
    | failed e => rfl
    | abandoned => rfl
  · rfl

theorem builderReply_settle (absent : c.slots.find? key = none) (result : BuildResult β) :
    ((c.enter key).1.settle key c.begun result).builderReply key c.begun result =
      match result with
      | .built value => some (.ok value)
      | .failed e => some (.error e)
      | .abandoned => none := by
  cases result with
  | built value => rfl
  | failed e =>
    have alone : ((c.enter key).1.settle key c.begun (.failed e)).waitersOf c.begun = 0 := by
      rw [waitersOf, find?, builds_settle]
      simp [enter, absent]
    simp [builderReply, alone]
  | abandoned => rfl

theorem getOrBuild_start (absent : c.slots.find? key = none)
    (work : StateT (Cache β) m (BuildResult β)) {ended : m (BuildResult β)}
    (keeps : work (c.enter key).1 = (fun result => (result, (c.enter key).1)) <$> ended) :
    getOrBuild key work c =
      (fun result => (soleReply c.begun result, c.afterBuild key result)) <$> ended := by
  have started : (c.enter key).2 = .start c.begun := by simp [enter, absent]
  simp only [getOrBuild, modifyGet, MonadStateOf.modifyGet, StateT.modifyGet, bind, StateT.bind,
    pure_bind, started, keeps, map_eq_pure_bind, bind_assoc, modify_apply]
  congr 1
  funext result
  cases result with
  | built value => simp [builderReply_settle absent, soleReply, afterBuild, pure_apply]
  | failed e => simp [builderReply_settle absent, soleReply, afterBuild, pure_apply]
  | abandoned => simp [builderReply_settle absent, soleReply, afterBuild, pure_apply]

end Isl.Cache
