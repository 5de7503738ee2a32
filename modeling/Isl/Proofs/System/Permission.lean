import Isl.Proofs.System.Coherence
import Isl.Proofs.System.References
/-!
# Allowing transitive imports

The policy on transitive imports is asked only whether a declaration that was found may be used, and
a schema that compiles without it has never needed the permission. So what a strict system accepts,
a permissive one accepts with the same result, and the names that it could bind on demand do not
come into it.

* `Compilation.run_permissive`: a compilation that succeeds comes to the same with the permission;
* `System.attemptId_permissive`: so does an attempt, down to each schema that it compiles;
* `System.load_permissive`: so does a load on a system that has loaded nothing yet.
-/
namespace Isl

/-- The same settings with another policy on transitive imports. -/
def Settings.allowing (s : Settings) (transitive : Bool) : Settings :=
  { s with allowTransitive := transitive }

/-- The same compilation with transitive imports allowed. -/
def Compilation.permissive (c : Compilation) : Compilation := { c with allowTransitive := true }

/-- The same system with transitive imports allowed. -/
def System.permissive (s : System) : System := { s with settings := s.settings.allowing true }

theorem SchemaError.mapM_mono {α β : Type} {f g : α → Except SchemaError β} {as : List α}
    {bs : List β} (keeps : ∀ a b, f a = .ok b → g a = .ok b) (h : as.mapM f = .ok bs) :
    as.mapM g = .ok bs := by
  induction as generalizing bs with
  | nil => exact h
  | cons a as ih =>
    simp only [List.mapM_cons, SchemaError.bind_eq_ok_iff, pure, Except.pure,
      Except.ok.injEq] at h ⊢
    obtain ⟨b, first, rest, others, whole⟩ := h
    exact ⟨b, keeps a b first, rest, ih others, whole⟩

/-! ## One compilation -/

namespace Compilation

variable {c : Compilation} {b b' : Bindings} {σ : Schema}

theorem exported_permissive {id typeName : String} {origin : Origin}
    (h : c.exported id typeName = .ok origin) :
    c.permissive.exported id typeName = .ok origin :=
  exported_eq_ok_iff.2 ⟨(exported_eq_ok_iff.1 h).1, fun _ => rfl⟩

theorem bindAll_permissive (id : String) (b : Bindings) (ts : List NamedType) :
    c.permissive.bindAll id b ts = c.bindAll id b ts := by
  induction ts generalizing b with
  | nil => rfl
  | cons t ts ih =>
    simp only [bindAll]
    congr 1
    funext bound
    exact ih bound

theorem importOne_permissive {i : HeaderImport} (h : c.importOne b i = .ok b') :
    c.permissive.importOne b i = .ok b' := by
  cases i with
  | wildcard id =>
    obtain ⟨foreign, bound, all, recorded⟩ := importOne_wildcard_eq_ok_iff.1 h
    have all' := (bindAll_permissive id b (c.world.declaredTypes id)).trans all
    exact importOne_wildcard_eq_ok_iff.2 ⟨foreign, bound, all', recorded⟩
  | single id typeName newName =>
    obtain ⟨foreign, origin, visible, bound⟩ := importOne_single_eq_ok_iff.1 h
    exact importOne_single_eq_ok_iff.2 ⟨foreign, origin, exported_permissive visible, bound⟩

theorem importAll_permissive {is : List HeaderImport} (h : c.importAll b is = .ok b') :
    c.permissive.importAll b is = .ok b' := by
  induction is generalizing b with
  | nil => exact h
  | cons i is ih =>
    obtain ⟨bound, first, rest⟩ := importAll_cons_eq_ok_iff.1 h
    exact importAll_cons_eq_ok_iff.2 ⟨bound, importOne_permissive first, ih rest⟩

/-- Whether a name is known, and which import it could come from, is decided without the policy. -/
theorem checkMention_permissive {m : Mention} {unresolved unresolved' : NameSet}
    (h : c.checkMention b unresolved m = .ok (b', unresolved')) :
    c.permissive.checkMention b unresolved m = .ok (b', unresolved') := by
  cases m with
  | name name =>
    refine checkMention_name_eq_ok_iff.2 ?_
    rcases checkMention_name_eq_ok_iff.1 h with
      known | lost | ⟨unknown, id, origin, source, visible, bound⟩
    · exact .inl known
    · exact .inr (.inl lost)
    · exact .inr (.inr ⟨unknown, id, origin, source, exported_permissive visible, bound⟩)
  | imported id typeName =>
    obtain ⟨foreign, ⟨origin, visible⟩, recorded⟩ := checkMention_imported_eq_ok_iff.1 h
    exact checkMention_imported_eq_ok_iff.2
      ⟨foreign, ⟨origin, exported_permissive visible⟩, recorded⟩

theorem checkMentions_permissive {ms : List Mention} {unresolved unresolved' : NameSet}
    (h : c.checkMentions b unresolved ms = .ok (b', unresolved')) :
    c.permissive.checkMentions b unresolved ms = .ok (b', unresolved') := by
  induction ms generalizing b unresolved with
  | nil => exact h
  | cons m ms ih =>
    obtain ⟨bound, left, first, rest⟩ := checkMentions_cons_eq_ok_iff.1 h
    exact checkMentions_cons_eq_ok_iff.2 ⟨bound, left, checkMention_permissive first, ih rest⟩

/-- A compilation that succeeds comes to the same schema with transitive imports allowed. -/
theorem run_permissive (h : c.run = .ok σ) : c.permissive.run = .ok σ := by
  obtain ⟨declarations, ends, b₀, b, imported, checked, made⟩ := run_eq_ok_iff.1 h
  exact run_eq_ok_iff.2 ⟨declarations, ends, b₀, b, importAll_permissive imported,
    checkMentions_permissive checked, made⟩

end Compilation

/-! ## A load -/

namespace Settings

variable {settings : Settings} {world : Universe} {root : SchemaDocument}

theorem compileMember_permissive {id : String} {d : SchemaDocument} {σ : Schema}
    (h : settings.compileMember world id d = .ok σ) :
    (settings.allowing true).compileMember world id d = .ok σ :=
  compileMember_eq_ok_iff.2 (Compilation.run_permissive (compileMember_eq_ok_iff.1 h))

theorem compile_permissive {r : Schema × List Schema} (h : settings.compile world root = .ok r) :
    (settings.allowing true).compile world root = .ok r := by
  obtain ⟨each, own⟩ := System.compile_eq_ok_iff.1 h
  refine System.compile_eq_ok_iff.2 ⟨?_, Compilation.run_permissive own⟩
  exact SchemaError.mapM_mono (fun _ _ => compileMember_permissive) each

end Settings

namespace System

variable {s : System} {cache : Cache Schema} {root : SchemaDocument} {id : String}
  {r : Schema × List Schema}

/-- What is read does not depend on the policy. -/
theorem library_permissive (s : System) : s.permissive.library = s.library := rfl

theorem attempt_permissive (h : (s.attempt cache root).outcome = .ok r) :
    s.permissive.attempt cache root = s.attempt cache root := by
  obtain ⟨world, gathered, compiles⟩ := attempt_eq_ok_iff.1 h
  have compiles' := Settings.compile_permissive compiles
  unfold attempt
  simp only [library_permissive, gathered, compiles]
  exact congrArg (fun outcome => Attempt.mk outcome world.chains.names) compiles'

theorem attemptId_permissive (h : (s.attemptId cache id).outcome = .ok r) :
    s.permissive.attemptId cache id = s.attemptId cache id := by
  obtain ⟨root, document, attempted⟩ := attemptId_eq_ok_iff.1 h
  simp only [attemptId, library_permissive, document, attempt_permissive attempted]

theorem load_permissive {loaded : Loaded} (idle : s.cache.Idle) (h : (s.load id).2 = .ok loaded) :
    s.permissive.load id = ((s.load id).1.permissive, .ok loaded) ∧
      s.permissive.compiled (.load id) = s.compiled (.load id) := by
  obtain ⟨build, σ, slot, found⟩ | ⟨slot, absent⟩ := idle.slot_cases id
  · have here := load_hit slot
    have there := load_hit (s := s.permissive) slot
    rw [here] at h ⊢
    refine ⟨there.trans (congrArg (Prod.mk _) h), ?_⟩
    have found' : s.permissive.cache.get? id = some σ := found
    simp only [compiled, attempt?, found, found']
  · have here := load_start slot
    have there := load_start (s := s.permissive) slot
    rw [here] at h ⊢
    have absent' : s.permissive.cache.get? id = none := absent
    cases outcome : (s.attemptId s.cache id).outcome with
    | error e => simp [outcome, Except.map] at h
    | ok r =>
      have same : s.permissive.attemptId s.permissive.cache id = s.attemptId s.cache id :=
        attemptId_permissive outcome
      rw [there, same]
      refine ⟨congrArg (Prod.mk _) h, ?_⟩
      simp only [compiled, attempt?, absent, absent', same]

/-- Allowing transitive imports only accepts more. What loads on a system that disallows them and
has loaded nothing yet, loads on one over the same authorities that allows them. It is the same
schema, with its document, imports and names in scope, and so is every schema that is compiled along
the way and what is in the cache afterwards. -/
theorem load_allowing (settings : Settings) (authorities : List Authority) (id : String)
    {loaded : Loaded}
    (h : ((fresh (settings.allowing false) authorities).load id).2 = .ok loaded) :
    ((fresh (settings.allowing true) authorities).load id).2 = .ok loaded ∧
      (∃ members,
        (fresh (settings.allowing false) authorities).compiled (.load id) =
          loaded.schema :: members ∧
        (fresh (settings.allowing true) authorities).compiled (.load id) =
          loaded.schema :: members) ∧
      ((fresh (settings.allowing true) authorities).load id).1.cache =
        ((fresh (settings.allowing false) authorities).load id).1.cache := by
  have idle := idle_fresh (settings.allowing false) authorities
  obtain ⟨again, same⟩ := load_permissive idle h
  obtain ⟨-, members, compiled⟩ := (load_eq_ok_iff idle (Cache.get?_empty id)).1 h
  have permissive : (fresh (settings.allowing false) authorities).permissive =
      fresh (settings.allowing true) authorities := rfl
  rw [permissive] at again same
  refine ⟨by rw [again], ⟨members, compiled, same.trans compiled⟩, ?_⟩
  rw [again]
  rfl

end System

/-! ## A load of two schemas -/

/-- `schema_header::{ imports: [{ id: "b.isl" }] } type::{ name: x, type: t }` -/
def usingValues : List Element :=
  [⟨["schema_header"], .struct [⟨"imports", .list [.struct [⟨"id", .string "b.isl"⟩]]⟩]⟩,
    ⟨["type"], .struct [⟨"name", .symbol "x"⟩, ⟨"type", .symbol "t"⟩]⟩]

def usingDocument : SchemaDocument :=
  ⟨some "a.isl", .v1, [.header ⟨[.wildcard "b.isl"], .none, []⟩,
    .type ⟨"x", ⟨[.type (.reference "t" .unmarked)], []⟩⟩]⟩

def usingSchema : Schema :=
  ⟨usingDocument, .ofList [("b.isl", ⟨true, .empty⟩)],
    .ofList [("t", ⟨"b.isl", ⟨"t", ⟨[], []⟩⟩⟩)]⟩

def usingAuthorities : List Authority :=
  [.memory ((MemoryAuthority.empty.insertValues "a.isl" usingValues).insertValues "b.isl"
    declaringValues)]

theorem load_using :
    ((System.fresh (Settings.standard.allowing false) usingAuthorities).load "a.isl").2 =
      .ok ⟨0, usingSchema⟩ := by
  let s := System.fresh (Settings.standard.allowing false) usingAuthorities
  let world := (Universe.ofRoot usingDocument).addPending "b.isl" ["b.isl"] declaringDocument
  have gathered : Universe.gather s.library s.cache.get? usingDocument = .ok world :=
    Universe.gather_eq (.read rfl rfl rfl (.done world))
  have listed : Settings.members usingDocument world = [("b.isl", declaringDocument)] := by
    have entries : (world.pending.entries.filter fun e => usingDocument.id != some e.1) =
        [("b.isl", declaringDocument)] := rfl
    simp only [Settings.members, entries, List.mergeSort_singleton]
  have member :
      s.settings.compileMember world "b.isl" declaringDocument = .ok declaringSchema := rfl
  have root : (s.settings.compilation world usingDocument).run = .ok usingSchema := rfl
  have outcome : (s.attemptId s.cache "a.isl").outcome = .ok (usingSchema, [declaringSchema]) := by
    refine System.attemptId_eq_ok_iff.2 ⟨usingDocument, rfl,
      System.attempt_eq_ok_iff.2 ⟨world, gathered, System.compile_eq_ok_iff.2 ⟨?_, root⟩⟩⟩
    simp [listed, member, bind, Except.bind, pure, Except.pure]
  rw [System.load_attempted (System.idle_fresh _ _) rfl]
  exact congrArg (Except.map fun r : Schema × List Schema => (⟨0, r.1⟩ : Loaded)) outcome

/-- A schema that imports another one as a whole and refers to its type. -/
theorem load_allowing_using :
    ((System.fresh (Settings.standard.allowing false) usingAuthorities).load "a.isl").2 =
        .ok ⟨0, usingSchema⟩ ∧
      ((System.fresh (Settings.standard.allowing true) usingAuthorities).load "a.isl").2 =
        .ok ⟨0, usingSchema⟩ :=
  ⟨load_using, (System.load_allowing .standard usingAuthorities "a.isl" load_using).1⟩

end Isl
