import Isl.Schema
import Isl.System.Library
/-!
# The schemas of a load

A load reads every schema that its root reaches through imports, without a look beyond those that
are cached. Names are then looked up in what was read, so schemas may import each other in circles.
-/
namespace Isl

/-- The schemas that take part in a load, by id. -/
structure Universe where
  /-- Read for this load, and not compiled yet. -/
  pending : Table SchemaDocument
  /-- Found in the cache. -/
  cached : Table Schema
  /-- The imports that led to each pending schema but the root, its own id last. -/
  chains : Table (List String)

namespace Universe

def empty : Universe := ⟨.empty, .empty, .empty⟩

instance : Inhabited Universe := ⟨empty⟩

def contains (u : Universe) (id : String) : Bool := u.pending.contains id || u.cached.contains id

def addCached (u : Universe) (id : String) (s : Schema) : Universe :=
  { u with cached := u.cached.insert id s }

def addPending (u : Universe) (id : String) (chain : List String) (d : SchemaDocument) : Universe :=
  { u with pending := u.pending.insert id d, chains := u.chains.insert id chain }

/-- Where a walk along imports begins: with the root alone. -/
def ofRoot (root : SchemaDocument) : Universe :=
  match root.id with
  | some id => { empty with pending := Table.empty.insert id root }
  | none => empty

theorem contains_addCached (u : Universe) (id key : String) (s : Schema) :
    (u.addCached id s).contains key = (id == key || u.contains key) := by
  simp only [addCached, contains, Table.contains_insert]
  cases id == key <;> simp

theorem contains_addPending (u : Universe) (id key : String) (chain : List String)
    (d : SchemaDocument) :
    (u.addPending id chain d).contains key = (id == key || u.contains key) := by
  simp only [addPending, contains, Table.contains_insert, Bool.or_assoc]

/-- The types that a schema of this load declares. -/
def declaredTypes (u : Universe) (id : String) : List NamedType :=
  match u.cached.find? id with
  | some s => s.types
  | none => ((u.pending.find? id).map (·.types)).getD []

end Universe

/-! ## Reading what a root reaches -/

/-- A schema still to be looked at. -/
structure Quest where
  id : String
  /-- The imports that lead to it, its own id last. -/
  chain : List String

/-- Why a walk along imports ended early, and how far it had come. -/
structure GatherFault where
  quest : Quest
  error : SchemaError
  reached : Universe

namespace Universe

/-- How many of the ids that a walk can come upon it has not looked at. -/
noncomputable def unseen (lib : Library) (start : List String) (u : Universe) : Nat :=
  ((Classical.choose (lib.finite_mentions start)).filter fun id => !u.contains id).length

theorem unseen_lt {lib : Library} {start : List String} {u v : Universe} {id : String}
    (mentioned : lib.Mentions start id) (new : u.contains id = false)
    (seen : ∀ key, v.contains key = (id == key || u.contains key)) :
    v.unseen lib start < u.unseen lib start := by
  have member := Classical.choose_spec (lib.finite_mentions start) id mentioned
  unfold unseen
  generalize Classical.choose (lib.finite_mentions start) = ids at member
  have split : ids.filter (fun key => !v.contains key) =
      (ids.filter fun key => !u.contains key).filter fun key => !(id == key) := by
    rw [List.filter_filter]
    exact List.filter_congr fun key _ => by rw [seen, Bool.not_or]
  rw [split]
  exact List.length_filter_lt_length_iff_exists.2
    ⟨id, List.mem_filter.2 ⟨member, by simp [new]⟩, by simp⟩

/-- What is left to look at after a document has been read, the last import first. -/
def questsOf (chain : List String) (d : SchemaDocument) : List Quest :=
  d.importIds.reverse.map fun id => ⟨id, chain ++ [id]⟩

theorem mem_questsOf {chain : List String} {d : SchemaDocument} {q : Quest}
    (h : q ∈ questsOf chain d) : q.id ∈ d.importIds := by
  simp only [questsOf, List.mem_map, List.mem_reverse] at h
  obtain ⟨id, hid, rfl⟩ := h
  exact hid

/-- Looks at one schema after the other, and first at what was mentioned last. -/
def gatherFrom (lib : Library) (cached : String → Option Schema) (start : List String)
    (u : Universe) (todo : List Quest) (mentioned : ∀ q ∈ todo, lib.Mentions start q.id) :
    Except GatherFault Universe :=
  match todo with
  | [] => .ok u
  | q :: rest =>
    have mentionedRest : ∀ p ∈ rest, lib.Mentions start p.id :=
      fun p h => mentioned p (List.mem_cons_of_mem _ h)
    if _seen : u.contains q.id then gatherFrom lib cached start u rest mentionedRest
    else
      match cached q.id with
      | some s => gatherFrom lib cached start (u.addCached q.id s) rest mentionedRest
      | none =>
        match found : lib.document q.id with
        | .error e => .error ⟨q, e, u⟩
        | .ok d =>
          gatherFrom lib cached start (u.addPending q.id q.chain d) (questsOf q.chain d ++ rest)
            fun p h => (List.mem_append.1 h).elim
              (fun hp => .inr ⟨q.id, d, found, mem_questsOf hp⟩) (mentionedRest p)
termination_by (u.unseen lib start, todo.length)
decreasing_by
  all_goals simp_wf
  · exact Prod.Lex.right _ (Nat.lt_succ_self _)
  · exact Prod.Lex.left _ _ (unseen_lt (mentioned q (List.mem_cons_self ..)) (by simpa using _seen)
      fun key => contains_addCached u q.id key s)
  · exact Prod.Lex.left _ _ (unseen_lt (mentioned q (List.mem_cons_self ..)) (by simpa using _seen)
      fun key => contains_addPending u q.id key q.chain d)

/-- Reads every schema that a root reaches. -/
def gather (lib : Library) (cached : String → Option Schema) (root : SchemaDocument) :
    Except GatherFault Universe :=
  gatherFrom lib cached root.importIds (ofRoot root) (questsOf [] root)
    fun _ h => .inl (mem_questsOf h)

/-! ## Looking names up -/

/-- The names by which documents ask for types of others. -/
def importedNames (u : Universe) : List String :=
  u.pending.values.flatMap fun d => d.imports.filterMap fun
    | .single _ typeName _ => some typeName
    | .wildcard _ => none

/-- Every question after a type that a search for this name can lead to. -/
def questions (u : Universe) (name : String) : List (String × String) :=
  (u.pending.names ++ u.cached.names).flatMap fun id =>
    (name :: u.importedNames).map fun n => (id, n)

/-- The questions that are left once this one is asked. -/
def without (question : String × String) (questions : List (String × String)) :
    List (String × String) :=
  questions.filter (· ≠ question)

theorem length_without_lt {question : String × String} {questions : List (String × String)}
    (h : question ∈ questions) : (without question questions).length < questions.length :=
  List.length_filter_lt_length_iff_exists.2 ⟨question, h, by simp⟩

/-- Looks for the declaration behind a name, in the schema itself and then along its imports. No
question is asked again on the way to its own answer: a name that leads back to itself through a
circle of imports is declared nowhere. A wildcard import passes on what the other schema declares,
a single one what the other schema knows by the name. -/
def originAmong (u : Universe) (questions : List (String × String)) (id name : String) :
    Option Origin :=
  if _open : (id, name) ∈ questions then
    match u.cached.find? id with
    | some s => s.origin? name
    | none =>
      match u.pending.find? id with
      | none => none
      | some d =>
        match d.declared? name with
        | some t => some ⟨id, t, false⟩
        | none =>
          let found := d.imports.findSome? fun
            | .wildcard other =>
              (u.originAmong (without (id, name) questions) other name).filter (!·.transitive)
            | .single other typeName newName =>
              if newName.getD typeName = name then
                u.originAmong (without (id, name) questions) other typeName
              else none
          found.map fun o => { o with transitive := true }
  else none
termination_by questions.length
decreasing_by
  all_goals exact length_without_lt _open

/-- Where the type is declared that a schema of this load knows by a name. -/
def origin? (u : Universe) (id name : String) : Option Origin :=
  u.originAmong (u.questions name) id name

end Universe
end Isl
