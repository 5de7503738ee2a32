import Isl.Proofs.System.Mirror
/-!
# What calls leave in the cache

A call that drops nothing adds to the cache, all of its schemas or none. What a cached schema
imports is therefore cached with it: the members of a load are all that its root reaches and that
was not cached, and they are offered once the root is there.

* `System.Grown`: systems after calls that drop nothing;
* `System.untouched_of_fails`: a call that fails leaves the cache as it was;
* `System.has_call`: what is cached stays;
* `System.get?_compiled`: what a call compiles under an id is cached from then on;
* `System.cache_whole`: all of this after any such calls, with every import cached.
-/
namespace Isl

/-! ## Schemas that stay -/

namespace Cache

variable {β : Type} {c : Cache β} {key k : String} {build : Nat} {value : β}

/-- A cache holds this value of this build under a key. -/
def Has (c : Cache β) (key : String) (build : Nat) (value : β) : Prop :=
  c.slots.find? key = some (.ready build value)

theorem Has.get? (held : c.Has key build value) : c.get? key = some value := by
  simp only [Cache.get?, show c.slots.find? key = _ from held]

theorem Idle.has_of_get? (idle : c.Idle) (found : c.get? key = some value) :
    ∃ build, c.Has key build value := by
  obtain ⟨build, other, slot, there⟩ | ⟨-, absent⟩ := idle.slot_cases key
  · rw [found] at there
    cases there
    exact ⟨build, slot⟩
  · rw [found] at absent
    cases absent

theorem find?_afterBuild_of_ne (absent : c.slots.find? key = none) (result : BuildResult β)
    (other : key ≠ k) : (c.afterBuild key result).slots.find? k = c.slots.find? k := by
  have entered : (c.enter key).1.slots.find? k = c.slots.find? k := by
    simp [enter, absent, Table.find?_insert, other]
  rw [slots_afterBuild absent]
  cases result with
  | built value => simp only [Table.find?_insert, if_neg other, entered]
  | failed e => simp only [Table.find?_erase, if_neg other, entered]
  | abandoned => simp only [Table.find?_erase, if_neg other, entered]

theorem has_afterBuild (absent : c.slots.find? key = none) (result : BuildResult β)
    (held : c.Has k build value) : (c.afterBuild key result).Has k build value := by
  have other : key ≠ k := by
    rintro rfl
    rw [Has, absent] at held
    cases held
  rw [Has, find?_afterBuild_of_ne absent result other]
  exact held

theorem find?_afterBuild_failed (absent : c.slots.find? key = none) (e : SchemaError) (k : String) :
    (c.afterBuild key (.failed e)).slots.find? k = c.slots.find? k := by
  by_cases same : key = k
  · subst same
    rw [slots_afterBuild absent, absent]
    simp [Table.find?_erase]
  · exact find?_afterBuild_of_ne absent _ same

end Cache

namespace System

variable {s : System} {c : Call} {σ τ : Schema} {id key : String} {build : Nat}

theorem has_offer {cache : Cache Schema} (idle : cache.Idle) (σ : Schema)
    (held : cache.Has key build τ) : (offer cache σ).Has key build τ := by
  obtain same | ⟨id, -, slot, new⟩ := offer_cases idle σ
  · rw [same]
    exact held
  · rw [new]
    exact Cache.has_afterBuild slot _ held

theorem has_offers {cache : Cache Schema} (idle : cache.Idle) (members : List Schema)
    (held : cache.Has key build τ) : (members.foldl offer cache).Has key build τ := by
  induction members generalizing cache with
  | nil => exact held
  | cons σ rest ih => exact ih (idle_offer idle σ) (has_offer idle σ held)

theorem has_call (idle : s.cache.Idle) (keeps : ∀ id, c ≠ .invalidate id)
    (held : s.cache.Has key build τ) : (s.call c).cache.Has key build τ := by
  rcases call_cases idle c with ⟨id, rfl⟩ | ⟨-, left⟩ | ⟨a, -, left⟩ | ⟨id, slot, -, left⟩
  · exact absurd rfl (keeps id)
  · rwa [left]
  · rw [left]
    exact has_offers idle a.members held
  · rw [left]
    exact has_offers (Cache.idle_afterBuild idle slot _) _ (Cache.has_afterBuild slot _ held)

/-! ## Calls that fail -/

/-- What a call answers is an error. -/
def Fails (s : System) : Call → Prop
  | .load id => ∃ e, (s.load id).2 = .error e
  | .compileText text => ∃ e, (s.compileText text).2 = .error e
  | .compileValues values => ∃ e, (s.compileValues values).2 = .error e
  | .invalidate _ => False

theorem members_of_error {a : Attempt} {e : SchemaError} (ended : a.outcome = .error e) :
    a.members = [] := by
  simp only [Attempt.members, ended]

theorem cache_of_compileValues_error {values : List Element} {e : SchemaError}
    (failed : (s.compileValues values).2 = .error e) :
    (s.compileValues values).1.cache = s.cache := by
  unfold compileValues at failed ⊢
  cases read : s.settings.read values with
  | error e' => rfl
  | ok root =>
    rw [read] at failed
    cases ended : (s.attempt s.cache root).outcome with
    | error e' => simp [after, members_of_error ended]
    | ok r => simp [ended, Except.map] at failed

theorem slots_of_load_error {e : SchemaError} (idle : s.cache.Idle)
    (failed : (s.load id).2 = .error e) (key : String) :
    (s.load id).1.cache.slots.find? key = s.cache.slots.find? key := by
  obtain ⟨build, σ, slot, -⟩ | ⟨slot, -⟩ := idle.slot_cases id
  · rw [load_hit slot] at failed
    cases failed
  · rw [load_start slot] at failed
    cases ended : (s.attemptId s.cache id).outcome with
    | ok r => simp [ended, Except.map] at failed
    | error e' =>
      have left : (s.load id).1.cache = s.cache.afterBuild id (.failed e') := by
        rw [load_start slot]
        simp [after, members_of_error ended, Attempt.result, ended]
      rw [left, Cache.find?_afterBuild_failed slot]

/-- A call that fails leaves the cache as it was, builds included. -/
theorem untouched_of_fails (idle : s.cache.Idle) (failed : s.Fails c) (key : String) :
    (s.call c).cache.slots.find? key = s.cache.slots.find? key := by
  cases c with
  | load id =>
    obtain ⟨e, failed⟩ := failed
    exact slots_of_load_error idle failed key
  | compileText text =>
    obtain ⟨e, failed⟩ := failed
    show (s.compileText text).1.cache.slots.find? key = s.cache.slots.find? key
    cases parsed : Ion.parse text with
    | error e' => simp only [compileText, parsed]
    | ok values =>
      rw [compileText_of_parse parsed] at failed ⊢
      rw [cache_of_compileValues_error failed]
  | compileValues values =>
    obtain ⟨e, failed⟩ := failed
    show (s.compileValues values).1.cache.slots.find? key = s.cache.slots.find? key
    rw [cache_of_compileValues_error failed]
  | invalidate id => cases failed

/-! ## Calls that succeed -/

theorem get?_of_offered {cache : Cache Schema} (idle : cache.Idle) {members : List Schema}
    (mem : σ ∈ members) (named : σ.id? = some id) :
    ∃ τ, (members.foldl offer cache).get? id = some τ := by
  induction members generalizing cache with
  | nil => cases mem
  | cons first rest ih =>
    have later := idle_offer idle first
    rcases List.mem_cons.1 mem with rfl | mem
    · have there : ∃ τ, (offer cache σ).get? id = some τ := by
        cases found : cache.get? id with
        | some τ => exact ⟨τ, by rw [offer_cached idle named found, found]⟩
        | none =>
          obtain ⟨build, τ, -, present⟩ | ⟨slot, -⟩ := idle.slot_cases id
          · rw [found] at present
            cases present
          · refine ⟨σ, ?_⟩
            rw [offer_new idle named found, Cache.get?_afterBuild_built slot, if_pos rfl]
      obtain ⟨τ, found⟩ := there
      obtain ⟨build, held⟩ := later.has_of_get? found
      exact ⟨τ, (has_offers later rest held).get?⟩
    · exact ih later mem

/-- The root of values has no id. -/
theorem anonymous_of_values {values : List Element} {a : Attempt} {members : List Schema}
    (made : s.attemptValues? values = some a) (ended : a.outcome = .ok (σ, members)) :
    σ.id? = none := by
  obtain ⟨root, read, rfl⟩ := attemptValues?_eq_some_iff.1 made
  obtain ⟨world, -, compiles⟩ := attempt_eq_ok_iff.1 ended
  rw [Schema.id?, Compilation.document_of_run (compile_eq_ok_iff.1 compiles).2]
  exact id_of_read read

/-- So a schema with an id is a member. -/
theorem mem_members_of_values {values : List Element} {a : Attempt}
    (made : s.attemptValues? values = some a) (mem : τ ∈ a.compiled) (named : τ.id? = some id) :
    τ ∈ a.members := by
  unfold Attempt.compiled at mem
  unfold Attempt.members
  cases ended : a.outcome with
  | error e => simp [ended] at mem
  | ok r =>
    obtain ⟨σ, members⟩ := r
    simp only [ended] at mem ⊢
    rcases List.mem_cons.1 mem with rfl | mem
    · cases (anonymous_of_values made ended).symm.trans named
    · exact mem

theorem get?_compiled_values {values : List Element} (idle : s.cache.Idle)
    (mem : τ ∈ s.compiled (.compileValues values)) (named : τ.id? = some id) :
    ∃ σ, (s.compileValues values).1.cache.get? id = some σ := by
  obtain ⟨nothing, -⟩ | ⟨a, made, left⟩ := s.compileValues_cases values
  · simp [compiled, attempt?, nothing] at mem
  · simp only [compiled, attempt?, made] at mem
    rw [left]
    exact get?_of_offered idle (mem_members_of_values made mem named) named

/-- The root of a load is put into the cache by its build, and its members are offered. -/
theorem get?_compiled_load {root : String} (idle : s.cache.Idle) (mem : τ ∈ s.compiled (.load root))
    (named : τ.id? = some id) : ∃ σ, (s.load root).1.cache.get? id = some σ := by
  obtain ⟨build, value, -, found⟩ | ⟨slot, absent⟩ := idle.slot_cases root
  · simp [compiled, attempt?, found] at mem
  simp only [compiled, attempt?, absent] at mem
  have left : (s.load root).1.cache = (s.attemptId s.cache root).members.foldl offer
      (s.cache.afterBuild root (s.attemptId s.cache root).result) := by
    rw [load_start slot]
    rfl
  have later := Cache.idle_afterBuild idle slot (s.attemptId s.cache root).result
  rw [left]
  cases ended : (s.attemptId s.cache root).outcome with
  | error e => simp [Attempt.compiled, ended] at mem
  | ok r =>
    obtain ⟨σ, members⟩ := r
    simp only [Attempt.compiled, ended] at mem
    rcases List.mem_cons.1 mem with rfl | mem
    · obtain rfl := Option.some.inj ((id_of_attemptId ended).symm.trans named)
      have there : (s.cache.afterBuild root (s.attemptId s.cache root).result).get? root =
          some τ := by
        simp only [Attempt.result, ended, Cache.get?_afterBuild_built slot, if_pos]
      obtain ⟨build, held⟩ := later.has_of_get? there
      exact ⟨τ, (has_offers later _ held).get?⟩
    · have offered : τ ∈ (s.attemptId s.cache root).members := by
        simpa only [Attempt.members, ended] using mem
      exact get?_of_offered later offered named

/-- What a call compiles under an id is cached from then on. -/
theorem get?_compiled (idle : s.cache.Idle) (mem : τ ∈ s.compiled c) (named : τ.id? = some id) :
    ∃ σ, (s.call c).cache.get? id = some σ := by
  cases c with
  | load root => exact get?_compiled_load idle mem named
  | compileText text =>
    show ∃ σ, (s.compileText text).1.cache.get? id = some σ
    cases parsed : Ion.parse text with
    | error e => simp [compiled, attempt?, parsed] at mem
    | ok values =>
      rw [compiled_of_parse parsed] at mem
      rw [compileText_of_parse parsed]
      exact get?_compiled_values idle mem named
  | compileValues values => exact get?_compiled_values idle mem named
  | invalidate other => simp [compiled, attempt?] at mem

/-! ## Imports of cached schemas -/

/-- What a cached schema imports is cached under its own id. -/
def ImportsCached (s : System) : Prop :=
  ∀ key σ, s.cache.get? key = some σ →
    ∀ id, σ.document.Needs id → ∃ τ, s.cache.get? id = some τ ∧ τ.id? = some id

/-- What a schema imports that a call compiled is cached after the call. -/
theorem imports_of_compiled (idle : s.cache.Idle) (keeps : ∀ id, c ≠ .invalidate id)
    (mem : τ ∈ s.compiled c) (needs : τ.document.Needs id) :
    ∃ σ, (s.call c).cache.get? id = some σ := by
  obtain ⟨root, world, σ, members, loads⟩ := loads_of_compiled mem
  obtain ⟨d, ran, mine⟩ := loads.run mem
  rw [Compilation.document_of_run ran] at needs
  have part := loads.takesPart mine (SchemaDocument.mem_importIds_iff.2 needs)
  rcases Universe.contains_iff.1 part with ⟨e, found⟩ | ⟨σ, held⟩
  · obtain ⟨other, compiled, -, named, -⟩ := loads.compiled_of_reads (loads.reads found)
    exact get?_compiled idle compiled named
  · obtain ⟨build, has⟩ := idle.has_of_get? (loads.held held)
    exact ⟨σ, (has_call idle keeps has).get?⟩

/-- The systems that calls lead to from one that has loaded nothing yet, none of them to drop a
schema, whatever authorities come to hold in between. -/
inductive Grown (settings : Settings) : System → Prop where
  | fresh (authorities : List Authority) : Grown settings (.fresh settings authorities)
  | call {s : System} (grown : Grown settings s) (c : Call) (keeps : ∀ id, c ≠ .invalidate id) :
      Grown settings (s.call c)
  | supply {s : System} (grown : Grown settings s) (authorities : List Authority) :
      Grown settings { s with authorities }

theorem Grown.reached {settings : Settings} (grown : s.Grown settings) : s.Reached settings := by
  induction grown with
  | fresh authorities => exact .fresh authorities
  | call _ c _ ih => exact .call ih c
  | supply _ authorities ih => exact .supply ih authorities

theorem Grown.importsCached {settings : Settings} (grown : s.Grown settings) :
    s.ImportsCached := by
  induction grown with
  | fresh authorities =>
    intro key σ found
    cases found
  | @call s grown c keeps ih =>
    have idle := grown.reached.idle
    intro key σ found id needs
    have there : ∃ τ, (s.call c).cache.get? id = some τ := by
      obtain before | ⟨mem, -⟩ := get?_call idle found
      · obtain ⟨τ, cached, -⟩ := ih key σ before id needs
        obtain ⟨build, has⟩ := idle.has_of_get? cached
        exact ⟨τ, (has_call idle keeps has).get?⟩
      · exact imports_of_compiled idle keeps mem needs
    obtain ⟨τ, cached⟩ := there
    exact ⟨τ, cached, (Reached.call grown.reached c).labelled id τ cached⟩
  | supply _ _ ih => exact ih

/-- As long as no call drops a schema, what cached schemas import is cached under its own id. A call
that fails leaves the cache as it was, and every call leaves what is cached as it is. -/
theorem cache_whole {settings : Settings} (grown : s.Grown settings) :
    s.ImportsCached ∧ ∀ c : Call, (∀ id, c ≠ .invalidate id) →
      (s.Fails c → ∀ key build σ, (s.call c).cache.Has key build σ ↔ s.cache.Has key build σ) ∧
      (∀ key build σ, s.cache.Has key build σ → (s.call c).cache.Has key build σ) ∧
      (s.call c).ImportsCached := by
  refine ⟨grown.importsCached, fun c keeps => ⟨fun failed key build σ => ?_,
    fun key build σ held => has_call grown.reached.idle keeps held,
    (Grown.call grown c keeps).importsCached⟩⟩
  rw [Cache.Has, Cache.Has, untouched_of_fails grown.reached.idle failed]

/-- A schema without an id is compiled with the one that it imports, which is cached. A load that
finds no document leaves it there. -/
theorem cache_whole_small :
    let s := smallSystem.call (.compileValues importingValues)
    s.Grown .standard ∧ s.cache.get? "b.isl" = some declaringSchema ∧ s.ImportsCached ∧
      (∀ id, Call.load "c.isl" ≠ .invalidate id) ∧ s.Fails (.load "c.isl") ∧
      ∀ key build σ, (s.call (.load "c.isl")).cache.Has key build σ ↔ s.cache.Has key build σ := by
  intro s
  have small : smallSystem.cache.Idle := Cache.idle_empty
  have grown : s.Grown .standard := .call (.fresh _) _ fun id => nofun
  have keeps : ∀ id, Call.load "c.isl" ≠ .invalidate id := fun id => nofun
  -- Only the imported schema has an id.
  have only : ∀ id σ, s.cache.get? id = some σ → σ = declaringSchema ∧ id = "b.isl" := by
    intro id σ found
    obtain before | ⟨mem, named⟩ := get?_call small found
    · cases before
    · rw [compiled_small] at mem
      obtain rfl | rfl : σ = importingSchema ∨ σ = declaringSchema := by simpa using mem
      · cases named
      · exact ⟨rfl, (Option.some.inj named).symm⟩
  have member : declaringSchema ∈ smallSystem.compiled (.compileValues importingValues) := by
    rw [compiled_small]
    exact List.mem_cons_of_mem _ (List.mem_cons_self ..)
  have named : declaringSchema.id? = some "b.isl" := rfl
  obtain ⟨σ, found⟩ := get?_compiled small member named
  have absent : s.cache.get? "c.isl" = none := by
    cases other : s.cache.get? "c.isl" with
    | none => rfl
    | some τ => exact nomatch (only _ τ other).2
  have failed : s.Fails (.load "c.isl") := by
    refine ⟨.schemaNotFound "c.isl" [], ?_⟩
    have missing : s.library.document "c.isl" = .error (.schemaNotFound "c.isl" []) := by
      rw [show s.library = smallSystem.library from library_call small _]
      rfl
    rw [load_attempted grown.reached.idle absent]
    simp [attemptId, missing, Except.map]
  obtain ⟨whole, each⟩ := cache_whole grown
  exact ⟨grown, (only _ σ found).1 ▸ found, whole, keeps, failed, (each _ keeps).1 failed⟩

end System
end Isl
