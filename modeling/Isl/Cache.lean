import Isl.Error
import Isl.Table
/-!
# The cache of built values

Callers that ask for the same key share one build: the first one builds, later ones join it and
wait. What a build yields goes to everyone who waited for it; a failure is not kept. `enter`,
`settle`, `announce` and `invalidate` are the moments at which callers touch the shared state, and
nothing else happens in between, so any interleaving of callers is a sequence of them.
-/
namespace Isl

/-- How the work of a build ends. -/
inductive BuildResult (β : Type u) where
  | built (value : β)
  | failed (error : SchemaError)
  /-- Without an answer. -/
  | abandoned

/-- A build under way, or one whose waiters have not all been served. -/
structure Build (β : Type u) where
  key : String
  waiters : Nat
  /-- What its waiters get, once it has ended. -/
  outcome : Option (Except SchemaError β)

/-- What the cache has for a key. Builds are told apart by number. -/
inductive CacheSlot (β : Type u) where
  | ready (build : Nat) (value : β)
  | building (build : Nat)

namespace CacheSlot

def isReady {β : Type u} : CacheSlot β → Bool
  | ready .. => true
  | building _ => false

/-- Whether this build holds the slot and has not ended. -/
def isBuiltBy {β : Type u} (s : CacheSlot β) (build : Nat) : Bool :=
  match s with
  | ready .. => false
  | building b => b == build

end CacheSlot

structure Cache (β : Type u) where
  slots : Table (CacheSlot β)
  builds : List (Nat × Build β)
  /-- How many builds have begun. -/
  begun : Nat

/-- What a caller meets that asks for a key. -/
inductive CacheEntry (β : Type u) where
  | hit (build : Nat) (value : β)
  /-- Somebody else builds it; the caller has to wait. -/
  | join (build : Nat)
  /-- The caller has to build it. -/
  | start (build : Nat)

namespace Cache

def empty {β : Type u} : Cache β := ⟨.empty, [], 0⟩

instance {β : Type u} : Inhabited (Cache β) := ⟨empty⟩

def find? {β : Type u} (c : Cache β) (build : Nat) : Option (Build β) :=
  (c.builds.find? (·.1 == build)).map (·.2)

def updateBuild {β : Type u} (c : Cache β) (build : Nat) (f : Build β → Build β) : Cache β :=
  { c with builds := c.builds.map fun b => if b.1 == build then (b.1, f b.2) else b }

def forget {β : Type u} (c : Cache β) (build : Nat) : Cache β :=
  { c with builds := c.builds.filter (·.1 != build) }

/-- A caller asks for a key: it gets the value, waits for a build, or begins one. -/
def enter {β : Type u} (c : Cache β) (key : String) : Cache β × CacheEntry β :=
  match c.slots.find? key with
  | some (.ready build value) => (c, .hit build value)
  | some (.building build) =>
    (c.updateBuild build fun b => { b with waiters := b.waiters + 1 }, .join build)
  | none =>
    ({ slots := c.slots.insert key (.building c.begun)
       builds := (c.begun, ⟨key, 0, none⟩) :: c.builds
       begun := c.begun + 1 }, .start c.begun)

/-- Whether the slot of a key is still held by this build. -/
def holds {β : Type u} (c : Cache β) (key : String) (build : Nat) : Bool :=
  (c.slots.find? key).any (·.isBuiltBy build)

/-- A build ends: if it still holds its slot, its value stays there, or the slot is freed. -/
def settle {β : Type u} (c : Cache β) (key : String) (build : Nat) (result : BuildResult β) :
    Cache β :=
  if c.holds key build then
    match result with
    | .built value => { c with slots := c.slots.insert key (.ready build value) }
    | _ => { c with slots := c.slots.erase key }
  else c

/-- What those get who waited for a build of this key. -/
def sharedOutcome {β : Type u} (key : String) : BuildResult β → Except SchemaError β
  | .built value => .ok value
  | .failed e => .error (.sharedFailure key e)
  | .abandoned => .error (.sharedFailure key (.invalidSchema (.abandoned key)))

def waitersOf {β : Type u} (c : Cache β) (build : Nat) : Nat :=
  ((c.find? build).map (·.waiters)).getD 0

/-- A build that has ended serves its waiters, and is forgotten if there are none. -/
def announce {β : Type u} (c : Cache β) (key : String) (build : Nat) (result : BuildResult β) :
    Cache β :=
  if c.waitersOf build = 0 then c.forget build
  else c.updateBuild build fun b => { b with outcome := some (sharedOutcome key result) }

/-- What the caller that built gets: its own error, unless it shares it with waiters. -/
def builderReply {β : Type u} (c : Cache β) (key : String) (build : Nat)
    (result : BuildResult β) : Option (Except SchemaError β) :=
  match result with
  | .built value => some (.ok value)
  | .failed e => some (.error (if c.waitersOf build = 0 then e else .sharedFailure key e))
  | .abandoned => none

/-- What a waiter gets from a build, once it has ended. -/
def waiterReply? {β : Type u} (c : Cache β) (build : Nat) : Option (Except SchemaError β) :=
  (c.find? build).bind (·.outcome)

def invalidate {β : Type u} (c : Cache β) (key : String) : Cache β :=
  { c with slots := c.slots.erase key }

/-- The value of a key, if it has been built. -/
def get? {β : Type u} (c : Cache β) (key : String) : Option β :=
  match c.slots.find? key with
  | some (.ready _ value) => some value
  | _ => none

/-- How many values there are. -/
def size {β : Type u} (c : Cache β) : Nat := c.slots.values.countP (·.isReady)

/-! ## One caller at a time -/

/-- What a call ends with: an answer with the number of its build, an end without an answer, or
a wait for a build that somebody else has to end. -/
inductive CallResult (β : Type u) where
  | answered (build : Nat) (answer : Except SchemaError β)
  | abandoned
  | waiting (build : Nat)

/-- The value of a key, built if need be by work that may itself use the cache. -/
def getOrBuild {β : Type} {m : Type → Type v} [Monad m] (key : String)
    (work : StateT (Cache β) m (BuildResult β)) : StateT (Cache β) m (CallResult β) := do
  match ← modifyGet fun c => ((c.enter key).2, (c.enter key).1) with
  | .hit build value => return .answered build (.ok value)
  | .join build => return .waiting build
  | .start build =>
    let result ← work
    modify (·.settle key build result)
    let reply ← modifyGet fun c => (c.builderReply key build result, c.announce key build result)
    match reply with
    | some answer => return .answered build answer
    | none => return .abandoned

end Cache
end Isl
