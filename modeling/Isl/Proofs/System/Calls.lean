import Isl.Proofs.Authority
import Isl.Proofs.Cache
import Isl.Proofs.System.Compile
/-!
# Calls on a system

What one call after the other does to a system: what it answers, what it compiles, and what the
cache holds afterwards.

* `System.load_cached`, `System.load_attempted`: a load answers from the cache, or else with what
  its attempt comes to;
* `System.load_eq_ok_iff`, `System.compileValues_eq_ok_iff`, `System.compileText_eq_ok_iff`: what a
  call answers is the first of the schemas that it compiles (`System.compiled`);
* `System.get?_call`: a schema in the cache was there before the call, or the call compiled it;
* `System.library_calls`, `System.idle_calls`: documents stay what they are, and no build is left.
-/
namespace Isl

/-- What one can ask of a system. -/
inductive Call where
  | load (id : String)
  | compileText (text : String)
  | compileValues (values : List Element)
  | invalidate (id : String)

namespace Attempt

variable {a : Attempt} {σ : Schema} {members : List Schema}

/-- The schemas of an attempt that succeeds, the root first. -/
def compiled (a : Attempt) : List Schema :=
  match a.outcome with
  | .ok (root, members) => root :: members
  | .error _ => []

theorem compiled_eq_cons_iff : a.compiled = σ :: members ↔ a.outcome = .ok (σ, members) := by
  unfold compiled
  cases a.outcome with
  | error e => simp
  | ok r => simp [Prod.ext_iff]

/-- What an attempt comes to is the first schema that it compiles. -/
theorem root_eq_ok_iff :
    a.outcome.map (·.1) = .ok σ ↔ ∃ members, a.compiled = σ :: members := by
  simp only [compiled_eq_cons_iff]
  cases a.outcome with
  | error e => simp [Except.map]
  | ok r => simp [Except.map, Prod.ext_iff]

end Attempt

namespace System

/-- A system that has loaded nothing yet. -/
def fresh (settings : Settings) (authorities : List Authority) : System :=
  ⟨settings, authorities, .empty⟩

def call (s : System) : Call → System
  | .load id => (s.load id).1
  | .compileText text => (s.compileText text).1
  | .compileValues values => (s.compileValues values).1
  | .invalidate id => s.invalidate id

def calls (s : System) (cs : List Call) : System := cs.foldl call s

def attemptValues? (s : System) (values : List Element) : Option Attempt :=
  match s.settings.read values with
  | .error _ => none
  | .ok root => some (s.attempt s.cache root)

/-- The attempt of a call, unless the cache answers it or there is no document. -/
def attempt? (s : System) : Call → Option Attempt
  | .load id =>
    match s.cache.get? id with
    | some _ => none
    | none => some (s.attemptId s.cache id)
  | .compileText text =>
    match Ion.parse text with
    | .error _ => none
    | .ok values => s.attemptValues? values
  | .compileValues values => s.attemptValues? values
  | .invalidate _ => none

/-- The schemas that a call compiles: the root, which is what it answers, and everything that was
read for it. -/
def compiled (s : System) (c : Call) : List Schema :=
  match s.attempt? c with
  | some a => a.compiled
  | none => []

theorem attempt_congr (s : System) {c d : Cache Schema} (same : c.get? = d.get?)
    (root : SchemaDocument) : s.attempt c root = s.attempt d root := by
  simp only [attempt, same]

theorem attemptId_congr (s : System) {c d : Cache Schema} (same : c.get? = d.get?) (id : String) :
    s.attemptId c id = s.attemptId d id := by
  simp only [attemptId, attempt_congr s same]

/-! ## Offers -/

theorem offer_anonymous {cache : Cache Schema} {σ : Schema} (anonymous : σ.id? = none) :
    offer cache σ = cache := by
  simp only [offer, anonymous]

theorem offer_cached {cache : Cache Schema} {σ τ : Schema} {id : String} (idle : cache.Idle)
    (named : σ.id? = some id) (found : cache.get? id = some τ) : offer cache σ = cache := by
  obtain ⟨build, value, slot, -⟩ | ⟨-, absent⟩ := idle.slot_cases id
  · simp only [offer, named, Cache.getOrBuild_hit slot]
    rfl
  · rw [found] at absent
    cases absent

theorem offer_new {cache : Cache Schema} {σ : Schema} {id : String} (idle : cache.Idle)
    (named : σ.id? = some id) (absent : cache.get? id = none) :
    offer cache σ = cache.afterBuild id (.built σ) := by
  obtain ⟨build, value, -, found⟩ | ⟨slot, -⟩ := idle.slot_cases id
  · rw [absent] at found
    cases found
  · have keeps : (pure (.built σ) : StateT (Cache Schema) Id (BuildResult Schema))
        (cache.enter id).1 = (fun result => (result, (cache.enter id).1)) <$>
          (pure (.built σ) : Id (BuildResult Schema)) := rfl
    simp only [offer, named, Cache.getOrBuild_start slot _ keeps]
    rfl

/-- An offer changes nothing, or puts the schema under its own id where nothing was. -/
theorem offer_cases {cache : Cache Schema} (idle : cache.Idle) (σ : Schema) :
    offer cache σ = cache ∨ ∃ id, σ.id? = some id ∧ cache.slots.find? id = none ∧
      offer cache σ = cache.afterBuild id (.built σ) := by
  cases named : σ.id? with
  | none => exact .inl (offer_anonymous named)
  | some id =>
    obtain ⟨build, value, -, found⟩ | ⟨slot, absent⟩ := idle.slot_cases id
    · exact .inl (offer_cached idle named found)
    · exact .inr ⟨id, rfl, slot, offer_new idle named absent⟩

theorem idle_offer {cache : Cache Schema} (idle : cache.Idle) (σ : Schema) :
    (offer cache σ).Idle := by
  obtain same | ⟨id, -, slot, new⟩ := offer_cases idle σ
  · rw [same]
    exact idle
  · rw [new]
    exact Cache.idle_afterBuild idle slot _

theorem get?_offer {cache : Cache Schema} (idle : cache.Idle) {σ τ : Schema} {key : String}
    (found : (offer cache σ).get? key = some τ) :
    cache.get? key = some τ ∨ τ = σ ∧ σ.id? = some key := by
  obtain same | ⟨id, named, slot, new⟩ := offer_cases idle σ
  · exact .inl (same ▸ found)
  · rw [new, Cache.get?_afterBuild_built slot] at found
    by_cases at_id : id = key
    · subst at_id
      simp only [if_pos, Option.some.injEq] at found
      exact .inr ⟨found.symm, named⟩
    · rw [if_neg at_id] at found
      exact .inl found

theorem idle_offers {cache : Cache Schema} (idle : cache.Idle) (members : List Schema) :
    (members.foldl offer cache).Idle := by
  induction members generalizing cache with
  | nil => exact idle
  | cons σ rest ih => exact ih (idle_offer idle σ)

theorem get?_offers {cache : Cache Schema} (idle : cache.Idle) {members : List Schema}
    {key : String} {τ : Schema} (found : (members.foldl offer cache).get? key = some τ) :
    cache.get? key = some τ ∨ τ ∈ members ∧ τ.id? = some key := by
  induction members generalizing cache with
  | nil => exact .inl found
  | cons σ rest ih =>
    obtain earlier | ⟨mem, named⟩ := ih (idle_offer idle σ) found
    · obtain before | ⟨rfl, named⟩ := get?_offer idle earlier
      · exact .inl before
      · exact .inr ⟨List.mem_cons_self .., named⟩
    · exact .inr ⟨List.mem_cons_of_mem _ mem, named⟩

/-! ## Loads -/

theorem load_hit {s : System} {id : String} {build : Nat} {σ : Schema}
    (slot : s.cache.slots.find? id = some (.ready build σ)) :
    s.load id = (s.after s.cache ⟨.error (.schemaNotFound id []), []⟩, .ok ⟨build, σ⟩) := by
  simp only [load, Cache.getOrBuild_hit slot]
  rfl

theorem load_start {s : System} {id : String} (slot : s.cache.slots.find? id = none) :
    s.load id =
      (s.after (s.cache.afterBuild id (s.attemptId s.cache id).result) (s.attemptId s.cache id),
        (s.attemptId s.cache id).outcome.map fun r => ⟨s.cache.begun, r.1⟩) := by
  have sees : s.attemptId (s.cache.enter id).1 id = s.attemptId s.cache id :=
    attemptId_congr s (funext (Cache.get?_enter s.cache id)) id
  have keeps : s.work id (s.cache.enter id).1 =
      (fun result => (result, (s.cache.enter id).1)) <$>
        (fun _ => ((s.attemptId s.cache id).result, s.attemptId s.cache id) :
          StateM Attempt (BuildResult Schema)) := by
    funext idle
    exact congrArg (fun a : Attempt => ((a.result, (s.cache.enter id).1), a)) sees
  simp only [load, Cache.getOrBuild_start slot _ keeps]
  cases outcome : (s.attemptId s.cache id).outcome with
  | error e => simp [Functor.map, StateT.map, StateT.run, Attempt.result, outcome,
      Cache.soleReply, Except.map, bind, pure]
  | ok r => simp [Functor.map, StateT.map, StateT.run, Attempt.result, outcome,
      Cache.soleReply, Except.map, bind, pure]

theorem load_cached {s : System} (idle : s.cache.Idle) {id : String} {σ : Schema}
    (found : s.cache.get? id = some σ) :
    ∃ build, s.load id =
      (s.after s.cache ⟨.error (.schemaNotFound id []), []⟩, .ok ⟨build, σ⟩) := by
  obtain ⟨build, value, slot, value_found⟩ | ⟨-, absent⟩ := idle.slot_cases id
  · rw [found] at value_found
    cases value_found
    exact ⟨build, load_hit slot⟩
  · rw [found] at absent
    cases absent

theorem load_attempted {s : System} (idle : s.cache.Idle) {id : String}
    (absent : s.cache.get? id = none) :
    s.load id =
      (s.after (s.cache.afterBuild id (s.attemptId s.cache id).result) (s.attemptId s.cache id),
        (s.attemptId s.cache id).outcome.map fun r => ⟨s.cache.begun, r.1⟩) := by
  obtain ⟨build, value, -, found⟩ | ⟨slot, -⟩ := idle.slot_cases id
  · rw [absent] at found
    cases found
  · exact load_start slot

/-! ## What an attempt compiles -/

theorem compile_eq_ok_iff {settings : Settings} {world : Universe} {root : SchemaDocument}
    {σ : Schema} {members : List Schema} :
    settings.compile world root = .ok (σ, members) ↔
      (Settings.members root world).mapM (fun m => settings.compileMember world m.1 m.2) =
          .ok members ∧
        (settings.compilation world root).run = .ok σ := by
  simp only [Settings.compile, SchemaError.bind_eq_ok_iff, pure, Except.pure, Except.ok.injEq,
    Prod.mk.injEq]
  constructor
  · rintro ⟨compiled, each, _, own, rfl, rfl⟩
    exact ⟨each, own⟩
  · rintro ⟨each, own⟩
    exact ⟨members, each, σ, own, rfl, rfl⟩

theorem attempt_eq_ok_iff {s : System} {cache : Cache Schema} {root : SchemaDocument} {σ : Schema}
    {members : List Schema} :
    (s.attempt cache root).outcome = .ok (σ, members) ↔
      ∃ world, Universe.gather s.library cache.get? root = .ok world ∧
        s.settings.compile world root = .ok (σ, members) := by
  unfold attempt
  cases gathered : Universe.gather s.library cache.get? root with
  | error fault => simp
  | ok world => simp

theorem document_id {s : System} {id : String} {d : SchemaDocument}
    (found : s.library.document id = .ok d) : d.id = some id := by
  have fetched : s.settings.fetch s.authorities id = .ok d := found
  unfold Settings.fetch at fetched
  split at fetched
  · cases fetched
  · rename_i values _
    cases read : s.settings.read values with
    | error e => simp [read, Except.map] at fetched
    | ok d' =>
      simp only [read, Except.map, Except.ok.injEq] at fetched
      subst fetched
      rfl

theorem attemptId_eq_ok_iff {s : System} {cache : Cache Schema} {id : String} {σ : Schema}
    {members : List Schema} :
    (s.attemptId cache id).outcome = .ok (σ, members) ↔
      ∃ root, s.library.document id = .ok root ∧
        (s.attempt cache root).outcome = .ok (σ, members) := by
  unfold attemptId
  cases found : s.library.document id with
  | error e => simp
  | ok root => simp

theorem id_of_attemptId {s : System} {cache : Cache Schema} {id : String} {σ : Schema}
    {members : List Schema} (h : (s.attemptId cache id).outcome = .ok (σ, members)) :
    σ.id? = some id := by
  obtain ⟨root, found, attempted⟩ := attemptId_eq_ok_iff.1 h
  obtain ⟨world, -, compiled⟩ := attempt_eq_ok_iff.1 attempted
  have same := Compilation.document_of_run (compile_eq_ok_iff.1 compiled).2
  rw [Schema.id?, same]
  exact document_id found

theorem compiled_eq_cons_iff {s : System} {c : Call} {σ : Schema} {members : List Schema} :
    s.compiled c = σ :: members ↔
      ∃ a, s.attempt? c = some a ∧ a.outcome = .ok (σ, members) := by
  unfold compiled
  cases s.attempt? c with
  | none => simp
  | some a => simp [Attempt.compiled_eq_cons_iff]

/-! ## What a call answers -/

/-- A load that the cache does not answer gives the first schema that it compiles, as what its own
build made. -/
theorem load_eq_ok_iff {s : System} (idle : s.cache.Idle) {id : String}
    (absent : s.cache.get? id = none) {loaded : Loaded} :
    (s.load id).2 = .ok loaded ↔ loaded.build = s.cache.begun ∧
      ∃ members, s.compiled (.load id) = loaded.schema :: members := by
  have here : s.compiled (.load id) = (s.attemptId s.cache id).compiled := by
    simp only [compiled, attempt?, absent]
  rw [load_attempted idle absent, here, ← Attempt.root_eq_ok_iff]
  obtain ⟨build, σ⟩ := loaded
  cases (s.attemptId s.cache id).outcome with
  | error e => simp [Except.map]
  | ok r => simp [Except.map, eq_comm]

/-- Values are answered with the first schema that is compiled. -/
theorem compileValues_eq_ok_iff {s : System} {values : List Element} {σ : Schema} :
    (s.compileValues values).2 = .ok σ ↔
      ∃ members, s.compiled (.compileValues values) = σ :: members := by
  cases read : s.settings.read values with
  | error e => simp [compileValues, compiled, attempt?, attemptValues?, read]
  | ok root =>
    simp only [compileValues, compiled, attempt?, attemptValues?, read]
    exact Attempt.root_eq_ok_iff

theorem compileText_of_parse {s : System} {text : String} {values : List Element}
    (parsed : Ion.parse text = .ok values) : s.compileText text = s.compileValues values := by
  simp only [compileText, parsed]

theorem compiled_of_parse {s : System} {text : String} {values : List Element}
    (parsed : Ion.parse text = .ok values) :
    s.compiled (.compileText text) = s.compiled (.compileValues values) := by
  simp only [compiled, attempt?, parsed]

/-- A text is answered like the values in it. -/
theorem compileText_eq_ok_iff {s : System} {text : String} {σ : Schema} :
    (s.compileText text).2 = .ok σ ↔
      ∃ members, s.compiled (.compileText text) = σ :: members := by
  cases parsed : Ion.parse text with
  | error e => simp [compileText, compiled, attempt?, parsed]
  | ok values =>
    rw [compileText_of_parse parsed, compiled_of_parse parsed]
    exact compileValues_eq_ok_iff

/-! ## Any call -/

theorem attemptValues?_eq_some_iff {s : System} {values : List Element} {a : Attempt} :
    s.attemptValues? values = some a ↔
      ∃ root, s.settings.read values = .ok root ∧ s.attempt s.cache root = a := by
  unfold attemptValues?
  cases s.settings.read values with
  | error e => simp
  | ok root => simp

/-- An attempt is made for a load that the cache does not answer, or for values. -/
theorem attempt?_cases {s : System} {c : Call} {a : Attempt} (made : s.attempt? c = some a) :
    (∃ id, c = .load id ∧ s.cache.get? id = none ∧ s.attemptId s.cache id = a) ∨
      ∃ values, s.attemptValues? values = some a := by
  cases c with
  | load id =>
    cases found : s.cache.get? id with
    | some σ => simp [attempt?, found] at made
    | none => exact .inl ⟨id, rfl, found, by simpa [attempt?, found] using made⟩
  | compileText text =>
    cases parsed : Ion.parse text with
    | error e => simp [attempt?, parsed] at made
    | ok values => exact .inr ⟨values, by simpa [attempt?, parsed] using made⟩
  | compileValues values => exact .inr ⟨values, made⟩
  | invalidate id => cases made

/-- Values are compiled with the cache as it is, and leave only members behind. -/
theorem compileValues_cases (s : System) (values : List Element) :
    (s.attemptValues? values = none ∧ (s.compileValues values).1 = s) ∨
      ∃ a, s.attemptValues? values = some a ∧ (s.compileValues values).1 = s.after s.cache a := by
  unfold attemptValues? compileValues
  cases s.settings.read values with
  | error e => exact .inl ⟨rfl, rfl⟩
  | ok root => exact .inr ⟨_, rfl, rfl⟩

/-- A call that is not an invalidation leaves the system as it was, or takes in the attempt that
it made. A load puts its root into the cache first. -/
theorem call_cases {s : System} (idle : s.cache.Idle) (c : Call) :
    (∃ id, c = .invalidate id) ∨ (s.attempt? c = none ∧ s.call c = s) ∨
      (∃ a, s.attempt? c = some a ∧ s.call c = s.after s.cache a) ∨
      ∃ id, s.cache.slots.find? id = none ∧ s.attempt? c = some (s.attemptId s.cache id) ∧
        s.call c = s.after (s.cache.afterBuild id (s.attemptId s.cache id).result)
          (s.attemptId s.cache id) := by
  cases c with
  | load id =>
    obtain ⟨build, σ, slot, found⟩ | ⟨slot, absent⟩ := idle.slot_cases id
    · refine .inr (.inl ⟨by simp [attempt?, found], ?_⟩)
      rw [call, load_hit slot]
      rfl
    · refine .inr (.inr (.inr ⟨id, slot, by simp [attempt?, absent], ?_⟩))
      rw [call, load_start slot]
  | compileText text =>
    cases parsed : Ion.parse text with
    | error e => exact .inr (.inl (by simp [attempt?, call, compileText, parsed]))
    | ok values =>
      have same : s.attempt? (.compileText text) = s.attemptValues? values := by
        simp only [attempt?, parsed]
      have left : s.call (.compileText text) = (s.compileValues values).1 := by
        simp only [call, compileText, parsed]
      rw [same, left]
      exact .inr ((s.compileValues_cases values).imp_right .inl)
  | compileValues values => exact .inr ((s.compileValues_cases values).imp_right .inl)
  | invalidate id => exact .inl ⟨id, rfl⟩

theorem settings_call {s : System} (idle : s.cache.Idle) (c : Call) :
    (s.call c).settings = s.settings := by
  rcases call_cases idle c with ⟨id, rfl⟩ | ⟨-, left⟩ | ⟨a, -, left⟩ | ⟨id, -, -, left⟩
  · rfl
  · rw [left]
  · rw [left, settings_after]
  · rw [left, settings_after]

theorem library_call {s : System} (idle : s.cache.Idle) (c : Call) :
    (s.call c).library = s.library := by
  rcases call_cases idle c with ⟨id, rfl⟩ | ⟨-, left⟩ | ⟨a, -, left⟩ | ⟨id, -, -, left⟩
  · exact s.library_invalidate id
  · rw [left]
  · rw [left, library_after]
  · rw [left, library_after]

theorem idle_call {s : System} (idle : s.cache.Idle) (c : Call) : (s.call c).cache.Idle := by
  rcases call_cases idle c with ⟨id, rfl⟩ | ⟨-, left⟩ | ⟨a, -, left⟩ | ⟨id, slot, -, left⟩
  · exact Cache.idle_invalidate idle id
  · rwa [left]
  · rw [left]
    exact idle_offers idle a.members
  · rw [left]
    exact idle_offers (Cache.idle_afterBuild idle slot _) _

theorem members_subset_compiled {a : Attempt} {σ : Schema} (mem : σ ∈ a.members) :
    σ ∈ a.compiled := by
  unfold Attempt.members at mem
  unfold Attempt.compiled
  cases outcome : a.outcome with
  | error e => simp [outcome] at mem
  | ok r =>
    rw [outcome] at mem
    exact List.mem_cons_of_mem _ mem

/-- The root of a load goes into the cache under the id that was asked for. -/
theorem get?_afterBuild_attempt {s : System} {id key : String} {τ : Schema}
    (slot : s.cache.slots.find? id = none)
    (found : (s.cache.afterBuild id (s.attemptId s.cache id).result).get? key = some τ) :
    s.cache.get? key = some τ ∨ τ ∈ (s.attemptId s.cache id).compiled ∧ τ.id? = some key := by
  cases outcome : (s.attemptId s.cache id).outcome with
  | error e =>
    simp only [Attempt.result, outcome, Cache.get?_afterBuild_failed slot] at found
    exact .inl found
  | ok r =>
    obtain ⟨σ, members⟩ := r
    simp only [Attempt.result, outcome, Cache.get?_afterBuild_built slot] at found
    by_cases at_id : id = key
    · subst at_id
      simp only [if_pos, Option.some.injEq] at found
      subst found
      refine .inr ⟨?_, id_of_attemptId outcome⟩
      simp [Attempt.compiled, outcome]
    · rw [if_neg at_id] at found
      exact .inl found

/-- A schema that the cache holds after a call was there before it, or the call compiled it. -/
theorem get?_call {s : System} (idle : s.cache.Idle) {c : Call} {key : String} {τ : Schema}
    (found : (s.call c).cache.get? key = some τ) :
    s.cache.get? key = some τ ∨ τ ∈ s.compiled c ∧ τ.id? = some key := by
  rcases call_cases idle c with ⟨id, rfl⟩ | ⟨-, left⟩ | ⟨a, made, left⟩ | ⟨id, slot, made, left⟩
  · have kept := Cache.get?_invalidate s.cache id key
    rw [call, invalidate] at found
    rw [kept] at found
    split at found
    · cases found
    · exact .inl found
  · rw [left] at found
    exact .inl found
  · rw [left] at found
    obtain before | ⟨mem, named⟩ := get?_offers idle found
    · exact .inl before
    · refine .inr ⟨?_, named⟩
      simp only [compiled, made]
      exact members_subset_compiled mem
  · rw [left] at found
    simp only [compiled, made]
    obtain before | ⟨mem, named⟩ := get?_offers (Cache.idle_afterBuild idle slot _) found
    · exact get?_afterBuild_attempt slot before
    · exact .inr ⟨members_subset_compiled mem, named⟩

/-! ## Runs of calls -/

/-- What holds of a system without a build under way, and is kept by each call, holds after any
number of calls. -/
theorem calls_invariant {P : System → Prop}
    (step : ∀ s c, s.cache.Idle → P s → P (s.call c)) {s : System} (idle : s.cache.Idle) (h : P s)
    (cs : List Call) : P (s.calls cs) := by
  induction cs generalizing s with
  | nil => exact h
  | cons c cs ih => exact ih (idle_call idle c) (step s c idle h)

theorem idle_calls {s : System} (idle : s.cache.Idle) (cs : List Call) : (s.calls cs).cache.Idle :=
  calls_invariant (P := fun t => t.cache.Idle) (fun _ c idle _ => idle_call idle c) idle idle cs

theorem settings_calls {s : System} (idle : s.cache.Idle) (cs : List Call) :
    (s.calls cs).settings = s.settings :=
  calls_invariant (P := fun t => t.settings = s.settings)
    (fun _ c idle same => (settings_call idle c).trans same) idle rfl cs

theorem library_calls {s : System} (idle : s.cache.Idle) (cs : List Call) :
    (s.calls cs).library = s.library :=
  calls_invariant (P := fun t => t.library = s.library)
    (fun _ c idle same => (library_call idle c).trans same) idle rfl cs

end System
end Isl
