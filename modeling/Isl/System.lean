import Isl.Authority
import Isl.Cache
import Isl.Reader.Document
import Isl.System.Compile
/-!
# The schema system

A system loads schemas by id through its authorities, compiles each with everything that it reaches
and that is not cached, and keeps what it has compiled. What a load read along the way is offered to
the cache once the build of the load itself has ended, so no build ever waits for another one.
-/
namespace Isl

structure Settings where
  dialect : Reader.Dialect
  failFast : Bool
  /-- Types may be imported from a schema that only imports them itself. -/
  allowTransitive : Bool

def Settings.standard : Settings := ⟨.standard, false, false⟩

namespace Settings

def read (s : Settings) (values : List Element) : Except SchemaError SchemaDocument :=
  (Reader.document s.dialect values s.failFast).mapError .invalidIsl

/-- Fetches and reads the document of an id. -/
def fetch (s : Settings) (authorities : List Authority) (id : String) :
    Except SchemaError SchemaDocument :=
  match Authority.fetch authorities id with
  | .error e => .error e
  | .ok values => (s.read values).map (·.withId id)

/-- The documents that authorities hold. -/
def library (s : Settings) (authorities : List Authority) : Library where
  document := s.fetch authorities
  finite := by
    refine ⟨(authorities.flatMap Authority.contents).flatMap fun values =>
      match s.read values with
      | .ok d => d.importIds
      | .error _ => [], fun id d h i hi => ?_⟩
    unfold fetch at h
    split at h
    · cases h
    · rename_i values found
      refine List.mem_flatMap.2 ⟨values, Authority.mem_contents_of_fetchFrom found, ?_⟩
      cases hr : s.read values with
      | error e => simp [hr, Except.map] at h
      | ok d' =>
        simp only [hr, Except.map] at h
        injection h with h
        subst h
        exact hi

/-- Wraps an error once for each import on the way to it. -/
def importFailed (chain : List String) (e : SchemaError) : SchemaError :=
  chain.foldr .importFailed e

def compilation (s : Settings) (world : Universe) (d : SchemaDocument) : Compilation :=
  ⟨world, d, s.dialect.vocabulary d.version, s.allowTransitive⟩

def compileMember (s : Settings) (world : Universe) (id : String) (d : SchemaDocument) :
    Except SchemaError Schema :=
  (s.compilation world d).run.mapError (importFailed ((world.chains.find? id).getD []))

/-- The pending schemas but the root, those at the end of long chains first. -/
def members (root : SchemaDocument) (world : Universe) : List (String × SchemaDocument) :=
  let depth (id : String) : Nat := ((world.chains.find? id).map (·.length)).getD 0
  (world.pending.entries.filter fun e => root.id != some e.1).mergeSort
    fun a b => depth b.1 ≤ depth a.1

/-- Compiles a root and the schemas that were read for it. -/
def compile (s : Settings) (world : Universe) (root : SchemaDocument) :
    Except SchemaError (Schema × List Schema) := do
  let compiled ← (members root world).mapM fun (id, d) => s.compileMember world id d
  return (← (s.compilation world root).run, compiled)

end Settings

/-- What the work of a load comes to. -/
structure Attempt where
  outcome : Except SchemaError (Schema × List Schema)
  /-- The ids that authorities were asked for. -/
  asked : List String

namespace Attempt

def result (a : Attempt) : BuildResult Schema :=
  match a.outcome with
  | .ok (schema, _) => .built schema
  | .error e => .failed e

/-- The imported schemas that were compiled along the way. -/
def members (a : Attempt) : List Schema :=
  match a.outcome with
  | .ok (_, members) => members
  | .error _ => []

end Attempt

structure System where
  settings : Settings
  authorities : List Authority
  cache : Cache Schema

/-- A schema, and the number of the build that made it. -/
structure Loaded where
  build : Nat
  schema : Schema

namespace System

def ofAuthorities (authorities : List Authority) : System := ⟨.standard, authorities, .empty⟩

def library (s : System) : Library := s.settings.library s.authorities

/-- Reads what a root reaches and compiles it. -/
def attempt (s : System) (cache : Cache Schema) (root : SchemaDocument) : Attempt :=
  match Universe.gather s.library cache.get? root with
  | .error fault =>
    ⟨.error (Settings.importFailed fault.quest.chain fault.error),
      fault.reached.chains.names ++ [fault.quest.id]⟩
  | .ok world => ⟨s.settings.compile world root, world.chains.names⟩

def attemptId (s : System) (cache : Cache Schema) (id : String) : Attempt :=
  match s.library.document id with
  | .error e => ⟨.error e, [id]⟩
  | .ok root =>
    let a := s.attempt cache root
    { a with asked := id :: a.asked }

/-- Puts a schema into the cache under its id, unless there is one. -/
def offer (cache : Cache Schema) (schema : Schema) : Cache Schema :=
  match schema.id? with
  | some id => (Cache.getOrBuild (m := Id) id (pure (.built schema)) cache).2
  | none => cache

/-- The system after an attempt: its members are offered, and authorities have been asked. -/
def after (s : System) (cache : Cache Schema) (a : Attempt) : System :=
  { s with
    cache := a.members.foldl offer cache
    authorities := a.asked.foldl (fun as id => Authority.afterFetch id as) s.authorities }

/-- The work of a load, which leaves its attempt behind. -/
def work (s : System) (id : String) :
    StateT (Cache Schema) (StateM Attempt) (BuildResult Schema) := do
  let a := s.attemptId (← get) id
  StateT.lift (set a)
  return a.result

/-- The schema of an id, from the cache if it is there. -/
def load (s : System) (id : String) : System × Except SchemaError Loaded :=
  let idle : Attempt := ⟨.error (.schemaNotFound id []), []⟩
  let ((reply, cache), attempt) := (Cache.getOrBuild id (s.work id) s.cache).run idle
  (s.after cache attempt,
    match reply with
    | .answered build (.ok schema) => .ok ⟨build, schema⟩
    | .answered _ (.error e) => .error e
    | _ => .error (.sharedFailure id (.invalidSchema (.abandoned id))))

/-- Compiles values that no authority was asked for. The result has no id and is not cached. -/
def compileValues (s : System) (values : List Element) : System × Except SchemaError Schema :=
  match s.settings.read values with
  | .error e => (s, .error e)
  | .ok root =>
    let a := s.attempt s.cache root
    (s.after s.cache a, a.outcome.map (·.1))

def compileText (s : System) (text : String) : System × Except SchemaError Schema :=
  match Ion.parse text with
  | .error e => (s, .error (.malformedText e))
  | .ok values => s.compileValues values

/-- Drops the schema of an id. Schemas that import it keep what they were compiled with. -/
def invalidate (s : System) (id : String) : System :=
  { s with cache := s.cache.invalidate id }

end System
end Isl
