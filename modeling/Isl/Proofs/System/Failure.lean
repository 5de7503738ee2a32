import Mathlib.Data.List.Chain
import Isl.Proofs.System.Anonymous
import Isl.Proofs.System.Mirror
import Isl.Proofs.System.Refusal
/-!
# Where a load fails

An error within an imported schema comes with the ids of the imports on the way to it. A walk notes
the way to a schema when it first comes to it, from whichever branch that is. What it has noted is
told much later, when the schema does not compile.

* `Library.Route`: imports that lead from a root to a schema, one after the other;
* `Universe.Tracked`, `Universe.tracked_gather`: what a walk has read, and what it fails at, it has
  come to by the route that it notes;
* `System.OwnError`, `System.ImportError`: what can be wrong with a root, and with what it imports;
* `System.failures_located`: the ids in the error of a call are a route to the schema that it is
  about, and an error of the root has none.
-/
namespace Isl

/-! ## An error and the way to it -/

/-- This is not an error within another schema. -/
def SchemaError.Plain (e : SchemaError) : Prop := ∀ id source, e ≠ .importFailed id source

namespace Settings

/-- Every error is a plain one behind some imports. -/
theorem exists_importFailed (e : SchemaError) :
    ∃ chain inner, inner.Plain ∧ e = importFailed chain inner := by
  induction e with
  | importFailed id source ih =>
    obtain ⟨chain, inner, plain, rfl⟩ := ih
    exact ⟨id :: chain, inner, plain, rfl⟩
  | _ => exact ⟨[], _, by exact nofun, rfl⟩

/-- It tells the imports and the plain error apart. -/
theorem importFailed_inj {chain chain' : List String} {e e' : SchemaError} (plain : e.Plain)
    (plain' : e'.Plain) (same : importFailed chain e = importFailed chain' e') :
    chain = chain' ∧ e = e' := by
  induction chain generalizing chain' with
  | nil =>
    cases chain' with
    | nil => exact ⟨rfl, same⟩
    | cons id ids => exact absurd same (plain id _)
  | cons id ids ih =>
    cases chain' with
    | nil => exact absurd same.symm (plain' id _)
    | cons id' ids' =>
      obtain ⟨rfl, rest⟩ := SchemaError.importFailed.inj same
      obtain ⟨rfl, inner⟩ := ih rest
      exact ⟨rfl, inner⟩

theorem exitCode_importFailed (chain : List String) (e : SchemaError) :
    (importFailed chain e).exitCode = e.exitCode := by
  induction chain with
  | nil => rfl
  | cons id ids ih => exact ih

end Settings

/-! ## Routes -/

/-- The document of one schema imports another one, in its header or in a type at any depth. -/
def Library.Imports (lib : Library) (id other : String) : Prop :=
  ∃ d, lib.document id = .ok d ∧ d.Needs other

/-- Imports lead from a root to a schema: the root imports the first one, and each one imports the
next. -/
structure Library.Route (lib : Library) (root : SchemaDocument) (chain : List String)
    (id : String) : Prop where
  starts : ∃ first, chain.head? = some first ∧ root.Needs first
  linked : chain.IsChain lib.Imports
  ends : chain.getLast? = some id

namespace Library.Route

variable {lib : Library} {root : SchemaDocument} {chain : List String} {id other : String}

theorem direct (needs : root.Needs id) : lib.Route root [id] id :=
  ⟨⟨id, rfl, needs⟩, List.isChain_singleton id, rfl⟩

theorem onward (route : lib.Route root chain id) (imports : lib.Imports id other) :
    lib.Route root (chain ++ [other]) other := by
  obtain ⟨first, head, needs⟩ := route.starts
  refine ⟨⟨first, by simp [head], needs⟩, ?_, by simp⟩
  refine route.linked.append (List.isChain_singleton other) ?_
  rintro last ends next ⟨⟩
  rw [route.ends] at ends
  cases ends
  exact imports

end Library.Route

namespace Universe

variable {lib : Library} {cached : String → Option Schema} {root : SchemaDocument} {u : Universe}
  {todo rest : List Quest} {q : Quest} {r : Except GatherFault Universe}

/-- What is left to look at has the route that leads to it, and what was read but the root the one
that led to it. -/
structure Tracked (u : Universe) (lib : Library) (root : SchemaDocument) (todo : List Quest) :
    Prop where
  ahead : ∀ q ∈ todo, lib.Route root q.chain q.id
  behind : ∀ id d, u.pending.find? id = some d → root.id ≠ some id →
    ∃ chain, u.chains.find? id = some chain ∧ lib.Route root chain id

theorem tracked_ofRoot (lib : Library) (root : SchemaDocument) :
    (ofRoot root).Tracked lib root (questsOf [] root) where
  ahead q mem := by
    obtain ⟨id, listed, rfl⟩ := List.mem_map.1 mem
    exact .direct (SchemaDocument.mem_importIds_iff.1 (List.mem_reverse.1 listed))
  behind id d found foreign := absurd (pending_ofRoot found).1 foreign

theorem Tracked.skip (tracked : u.Tracked lib root (q :: rest)) : u.Tracked lib root rest :=
  ⟨fun p mem => tracked.ahead p (List.mem_cons_of_mem _ mem), tracked.behind⟩

/-- The imports of a document continue the route to it. -/
theorem Tracked.read {d : SchemaDocument} (tracked : u.Tracked lib root (q :: rest))
    (found : lib.document q.id = .ok d) :
    (u.addPending q.id q.chain d).Tracked lib root (questsOf q.chain d ++ rest) where
  ahead p mem := by
    have here := tracked.ahead q (List.mem_cons_self ..)
    rcases List.mem_append.1 mem with own | left
    · obtain ⟨id, listed, rfl⟩ := List.mem_map.1 own
      exact here.onward ⟨d, found, SchemaDocument.mem_importIds_iff.1 (List.mem_reverse.1 listed)⟩
    · exact tracked.skip.ahead p left
  behind id e known foreign := by
    simp only [addPending, Table.find?_insert] at known ⊢
    by_cases same : q.id = id
    · subst same
      exact ⟨q.chain, by simp, tracked.ahead q (List.mem_cons_self ..)⟩
    · rw [if_neg same] at known ⊢
      exact tracked.behind id e known foreign

/-- Both ends of a walk are tracked: what it comes to, and where it fails. -/
theorem Gathers.tracked (h : Gathers lib cached u todo r) (tracked : u.Tracked lib root todo) :
    (∀ v, r = .ok v → v.Tracked lib root []) ∧
      ∀ fault, r = .error fault → lib.Route root fault.quest.chain fault.quest.id := by
  induction h with
  | done u =>
    refine ⟨?_, nofun⟩
    rintro _ ⟨⟩
    exact tracked
  | seen _ _ ih => exact ih tracked.skip
  | held _ _ _ ih => exact ih ⟨tracked.skip.ahead, tracked.behind⟩
  | failed _ _ _ =>
    refine ⟨nofun, ?_⟩
    rintro _ ⟨⟩
    exact tracked.ahead _ (List.mem_cons_self ..)
  | read _ _ found _ ih => exact ih (tracked.read found)

theorem tracked_gather {v : Universe} (h : gather lib cached root = .ok v) :
    v.Tracked lib root [] :=
  ((gathers_gather lib cached root).tracked (tracked_ofRoot lib root)).1 v h

theorem route_gather {fault : GatherFault} (h : gather lib cached root = .error fault) :
    lib.Route root fault.quest.chain fault.quest.id :=
  ((gathers_gather lib cached root).tracked (tracked_ofRoot lib root)).2 fault h

end Universe

/-! ## What can be wrong -/

theorem SchemaError.mapM_eq_error {α β : Type} {f : α → Except SchemaError β} {as : List α}
    {e : SchemaError} (h : as.mapM f = .error e) : ∃ a ∈ as, f a = .error e := by
  induction as with
  | nil => cases h
  | cons a as ih =>
    rw [List.mapM_cons, SchemaError.bind_eq_error_iff] at h
    obtain now | ⟨_, -, h⟩ := h
    · exact ⟨a, List.mem_cons_self .., now⟩
    · obtain later | ⟨_, -, ended⟩ := SchemaError.bind_eq_error_iff.1 h
      · obtain ⟨x, mem, failed⟩ := ih later
        exact ⟨x, List.mem_cons_of_mem _ mem, failed⟩
      · cases ended

theorem Compilation.plain_run {c : Compilation} {e : SchemaError} (failed : c.run = .error e) :
    e.Plain := by
  rintro id source rfl
  cases Compilation.only_run.error _ failed

namespace Settings

variable {settings : Settings}

theorem plain_read {values : List Element} {e : SchemaError}
    (failed : settings.read values = .error e) : e.Plain := by
  rintro id source rfl
  unfold Settings.read at failed
  cases read : Reader.document settings.dialect values settings.failFast with
  | ok d =>
    rw [read] at failed
    cases failed
  | error errors =>
    rw [read] at failed
    cases failed

theorem plain_fetch {authorities : List Authority} {id : String} {e : SchemaError}
    (failed : settings.fetch authorities id = .error e) : e.Plain := by
  unfold fetch at failed
  split at failed
  · rename_i missing
    obtain ⟨causes, rfl⟩ := Authority.error_of_fetchFrom missing
    cases failed
    rintro _ _ ⟨⟩
  · exact plain_read (SchemaError.map_eq_error_iff.1 failed)

end Settings

namespace System

/-- What the answer of a call is an error with. -/
def FailsWith (s : System) (e : SchemaError) : Call → Prop
  | .load id => (s.load id).2 = .error e
  | .compileText text => (s.compileText text).2 = .error e
  | .compileValues values => (s.compileValues values).2 = .error e
  | .invalidate _ => False

/-- The document that a call begins with. -/
def root (s : System) : Call → Except SchemaError SchemaDocument
  | .load id => s.library.document id
  | .compileText text =>
    match Ion.parse text with
    | .error e => .error (.malformedText e)
    | .ok values => s.settings.read values
  | .compileValues values => s.settings.read values
  | .invalidate id => .error (.schemaNotFound id [])

/-- The root cannot be fetched or read, or it does not compile though all that was read for it
does. -/
inductive OwnError (s : System) (c : Call) (e : SchemaError) : Prop where
  | missing (failed : s.root c = .error e)
  | refused {root : SchemaDocument} {world : Universe} (document : s.root c = .ok root)
      (gathered : Universe.gather s.library s.cache.get? root = .ok world)
      (others : ∀ id d, root.id ≠ some id → world.pending.find? id = some d →
        Compiles s.settings world d)
      (failed : (s.settings.compilation world root).run = .error e)

/-- An imported schema cannot be fetched or read, or it does not compile among the schemas of the
load. -/
inductive ImportError (s : System) (root : SchemaDocument) (id : String) (e : SchemaError) :
    Prop where
  | missing (failed : s.library.document id = .error e)
  | refused {d : SchemaDocument} {world : Universe} (document : s.library.document id = .ok d)
      (gathered : Universe.gather s.library s.cache.get? root = .ok world)
      (read : world.Reads id d) (failed : (s.settings.compilation world d).run = .error e)

variable {s : System} {c : Call} {root : SchemaDocument} {world : Universe} {id : String}
  {e inner : SchemaError}

theorem plain_root (failed : s.root c = .error e) : e.Plain := by
  cases c with
  | load id => exact Settings.plain_fetch failed
  | compileText text =>
    cases parsed : Ion.parse text with
    | error e' =>
      simp only [System.root, parsed] at failed
      cases failed
      exact nofun
    | ok values =>
      simp only [System.root, parsed] at failed
      exact Settings.plain_read failed
  | compileValues values => exact Settings.plain_read failed
  | invalidate id =>
    cases failed
    exact nofun

theorem OwnError.plain (own : s.OwnError c e) : e.Plain := by
  cases own with
  | missing failed => exact plain_root failed
  | refused _ _ _ failed => exact Compilation.plain_run failed

theorem ImportError.plain (error : s.ImportError root id e) : e.Plain := by
  cases error with
  | missing failed => exact Settings.plain_fetch failed
  | refused _ _ _ failed => exact Compilation.plain_run failed

/-! ## What a call fails with -/

theorem compile_eq_error (failed : s.settings.compile world root = .error e) :
    (∃ m ∈ Settings.members root world, s.settings.compileMember world m.1 m.2 = .error e) ∨
      (∃ compiled, (Settings.members root world).mapM
        (fun m => s.settings.compileMember world m.1 m.2) = .ok compiled) ∧
        (s.settings.compilation world root).run = .error e := by
  obtain members | ⟨compiled, each, failed⟩ := SchemaError.bind_eq_error_iff.1 failed
  · exact .inl (SchemaError.mapM_eq_error members)
  · obtain own | ⟨_, -, ended⟩ := SchemaError.bind_eq_error_iff.1 failed
    · exact .inr ⟨⟨compiled, each⟩, own⟩
    · cases ended

theorem compileMember_eq_error {d : SchemaDocument}
    (failed : s.settings.compileMember world id d = .error e) :
    ∃ inner, (s.settings.compilation world d).run = .error inner ∧
      e = Settings.importFailed ((world.chains.find? id).getD []) inner := by
  unfold Settings.compileMember at failed
  cases ran : (s.settings.compilation world d).run with
  | ok σ =>
    rw [ran] at failed
    cases failed
  | error inner =>
    rw [ran] at failed
    exact ⟨inner, rfl, (Except.error.inj failed).symm⟩

theorem answer_compileValues (s : System) (values : List Element) :
    (s.compileValues values).2 =
      s.settings.read values >>= fun root => (s.attempt s.cache root).outcome.map (·.1) := by
  unfold compileValues
  cases s.settings.read values with
  | error e => rfl
  | ok root => rfl

theorem outcome_attemptId (s : System) (cache : Cache Schema) (id : String) :
    (s.attemptId cache id).outcome =
      s.library.document id >>= fun root => (s.attempt cache root).outcome := by
  unfold attemptId
  cases s.library.document id with
  | error e => rfl
  | ok root => rfl

/-- A call fails with what is wrong with its root, or with what its attempt fails with. -/
theorem attempt_of_failsWith (idle : s.cache.Idle) (failed : s.FailsWith e c) :
    (s.root c >>= fun root => (s.attempt s.cache root).outcome) = .error e := by
  have ofValues : ∀ {values : List Element}, (s.compileValues values).2 = .error e →
      (s.settings.read values >>= fun root => (s.attempt s.cache root).outcome) = .error e := by
    intro values failed
    rw [answer_compileValues] at failed
    simpa only [SchemaError.bind_eq_error_iff, SchemaError.map_eq_error_iff] using failed
  cases c with
  | load id =>
    cases found : s.cache.get? id with
    | some σ =>
      obtain ⟨build, answer⟩ := load_cached idle found
      rw [FailsWith, answer] at failed
      cases failed
    | none =>
      rw [FailsWith, load_attempted idle found] at failed
      rw [SchemaError.map_eq_error_iff, outcome_attemptId] at failed
      exact failed
  | compileText text =>
    cases parsed : Ion.parse text with
    | error e' =>
      simp only [FailsWith, compileText, parsed] at failed
      simp only [System.root, parsed]
      cases failed
      rfl
    | ok values =>
      simp only [FailsWith, compileText, parsed] at failed
      simp only [System.root, parsed]
      exact ofValues failed
  | compileValues values => exact ofValues failed
  | invalidate id => cases failed

/-- What is wrong with the root itself is what the call fails with. -/
theorem OwnError.attempt (own : s.OwnError c e) :
    (s.root c >>= fun root => (s.attempt s.cache root).outcome) = .error e := by
  cases own with
  | missing failed => exact SchemaError.bind_eq_error_iff.2 (.inl failed)
  | @refused root world document gathered others failed =>
    obtain ⟨members, each⟩ := (members_ok_iff (Universe.drawn_gather gathered)).2 others
    refine SchemaError.bind_eq_error_iff.2 (.inr ⟨root, document, ?_⟩)
    simp only [System.attempt, gathered]
    refine SchemaError.bind_eq_error_iff.2 (.inr ⟨members, each, ?_⟩)
    exact SchemaError.bind_eq_error_iff.2 (.inl failed)

/-- What the members of a load fail with is behind the route to one of them. -/
theorem importError_of_members (gathered : Universe.gather s.library s.cache.get? root = .ok world)
    {m : String × SchemaDocument} (listed : m ∈ Settings.members root world)
    (failed : s.settings.compileMember world m.1 m.2 = .error e) :
    ∃ chain inner id, e = Settings.importFailed chain inner ∧ root.id ≠ some id ∧
      s.library.Route root chain id ∧ s.ImportError root id inner := by
  obtain ⟨id, d⟩ := m
  obtain ⟨entry, foreign⟩ := Settings.mem_members.1 listed
  have drawn := Universe.drawn_gather gathered
  have found := Table.find?_of_mem_entries drawn.ascending entry
  obtain ⟨chain, noted, route⟩ := (Universe.tracked_gather gathered).behind id d found foreign
  obtain ⟨inner, refused, rfl⟩ := compileMember_eq_error failed
  rw [noted, Option.getD_some]
  obtain ⟨named, -⟩ | ⟨document, -⟩ := drawn.pending id d found
  · exact absurd named foreign
  · have read := Universe.reads_of_pending (drawn.apart id) found
    exact ⟨chain, inner, id, rfl, foreign, route, .refused document gathered read refused⟩

theorem errors_of_attempt (document : s.root c = .ok root)
    (failed : (s.attempt s.cache root).outcome = .error e) :
    s.OwnError c e ∨ ∃ chain inner id, e = Settings.importFailed chain inner ∧
      root.id ≠ some id ∧ s.library.Route root chain id ∧ s.ImportError root id inner := by
  unfold attempt at failed
  cases gathered : Universe.gather s.library s.cache.get? root with
  | error fault =>
    simp only [gathered, Except.error.injEq] at failed
    obtain ⟨-, foreign, -, missing⟩ := Universe.missing_gather gathered
    exact .inr ⟨_, _, _, failed.symm, foreign, Universe.route_gather gathered, .missing missing⟩
  | ok world =>
    simp only [gathered] at failed
    obtain ⟨m, listed, refused⟩ | ⟨each, refused⟩ := compile_eq_error failed
    · exact .inr (importError_of_members gathered listed refused)
    · have others := (members_ok_iff (Universe.drawn_gather gathered)).1 each
      exact .inl (.refused document gathered others refused)

/-- **The ids in an error name a real way.** Every error of a call is a plain one, within one error
for each of some imports. There are none if something is wrong with the root itself, and that is
then the error. If there are some, the root imports the first one, each one imports the next, and
the plain error is what fetching, reading or compiling the last one comes to. The exit code is that
of the plain error. -/
theorem failures_located (idle : s.cache.Idle) (failed : s.FailsWith e c) :
    (∃ chain inner, inner.Plain ∧ e = Settings.importFailed chain inner) ∧
    (∀ own, s.OwnError c own → own.Plain ∧ e = own) ∧
    ∀ chain inner, inner.Plain → e = Settings.importFailed chain inner →
      e.exitCode = inner.exitCode ∧ (chain = [] → s.OwnError c inner) ∧
      (chain ≠ [] → ∃ root id, s.root c = .ok root ∧ root.id ≠ some id ∧
        s.library.Route root chain id ∧ s.ImportError root id inner) := by
  have ended := attempt_of_failsWith idle failed
  refine ⟨Settings.exists_importFailed e, fun own error => ⟨error.plain, ?_⟩, ?_⟩
  · exact Except.error.inj (ended.symm.trans error.attempt)
  rintro chain inner plain rfl
  refine ⟨Settings.exitCode_importFailed chain inner, ?_⟩
  have either : s.OwnError c (Settings.importFailed chain inner) ∨
      ∃ root id, s.root c = .ok root ∧ root.id ≠ some id ∧ s.library.Route root chain id ∧
        s.ImportError root id inner := by
    obtain missing | ⟨root, document, failed⟩ := SchemaError.bind_eq_error_iff.1 ended
    · exact .inl (.missing missing)
    · obtain own | ⟨chain', inner', id, same, foreign, route, error⟩ :=
        errors_of_attempt document failed
      · exact .inl own
      · obtain ⟨rfl, rfl⟩ := Settings.importFailed_inj plain error.plain same
        exact .inr ⟨root, id, document, foreign, route, error⟩
  -- A route is never empty, and an error of the root itself is never within another one.
  constructor
  · rintro rfl
    obtain own | ⟨root, id, -, -, route, -⟩ := either
    · exact own
    · cases route.ends
  · intro within
    obtain own | located := either
    · have bare : Settings.importFailed chain inner =
          Settings.importFailed [] (Settings.importFailed chain inner) := rfl
      exact absurd (Settings.importFailed_inj plain own.plain bare).1 within
    · exact located

end System

/-! ## A schema that is nowhere -/

/-- `a.isl` imports `b.isl`, which imports from `c.isl`, and nobody has that one. -/
def brokenSystem : System :=
  .fresh .standard [.memory ((MemoryAuthority.empty.insertValues "a.isl"
    usingValues).insertValues "b.isl" relayValues)]

theorem idle_broken : brokenSystem.cache.Idle := Cache.idle_empty

theorem failsWith_broken :
    brokenSystem.FailsWith (Settings.importFailed ["b.isl", "c.isl"] (.schemaNotFound "c.isl" []))
      (.load "a.isl") := by
  have document : brokenSystem.library.document "a.isl" = .ok usingDocument := rfl
  have missing : brokenSystem.library.document "c.isl" = .error (.schemaNotFound "c.isl" []) := rfl
  have gathered : Universe.gather brokenSystem.library brokenSystem.cache.get? usingDocument =
      .error ⟨⟨"c.isl", ["b.isl", "c.isl"]⟩, .schemaNotFound "c.isl" [],
        (Universe.ofRoot usingDocument).addPending "b.isl" ["b.isl"] relayDocument⟩ :=
    Universe.gather_eq (.read rfl rfl rfl (.failed rfl rfl missing))
  rw [System.FailsWith, System.load_attempted idle_broken rfl,
    SchemaError.map_eq_error_iff, System.outcome_attemptId, document]
  simp only [bind, Except.bind, System.attempt, gathered]

/-- The two ids of the error are the way to the schema that was not found. -/
theorem System.failures_located_broken :
    brokenSystem.FailsWith (.importFailed "b.isl" (.importFailed "c.isl"
        (.schemaNotFound "c.isl" []))) (.load "a.isl") ∧
      ∃ root, brokenSystem.root (.load "a.isl") = .ok root ∧
        brokenSystem.library.Route root ["b.isl", "c.isl"] "c.isl" ∧
        brokenSystem.ImportError root "c.isl" (.schemaNotFound "c.isl" []) := by
  refine ⟨failsWith_broken, ?_⟩
  obtain ⟨-, -, located⟩ := System.failures_located idle_broken failsWith_broken
  have plain : (SchemaError.schemaNotFound "c.isl" []).Plain := nofun
  obtain ⟨-, -, within⟩ := located ["b.isl", "c.isl"] _ plain rfl
  obtain ⟨root, id, document, -, route, error⟩ := within nofun
  obtain rfl : "c.isl" = id := Option.some.inj route.ends
  exact ⟨root, document, route, error⟩

end Isl
