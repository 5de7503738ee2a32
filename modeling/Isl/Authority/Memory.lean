import Isl.Authority.Stream
import Isl.Ion.Parser
import Isl.Table
/-!
# Schemas in memory

Documents by id, as text or as values. A text that parses is replaced by its values when it is
first asked for, which changes no answer.
-/
namespace Isl

inductive MemoryEntry where
  | text (source : String)
  | values (elements : List Element)

structure MemoryAuthority where
  entries : Table MemoryEntry

namespace MemoryAuthority

def empty : MemoryAuthority := ⟨.empty⟩

def insertText (m : MemoryAuthority) (id source : String) : MemoryAuthority :=
  ⟨m.entries.insert id (.text source)⟩

def insertValues (m : MemoryAuthority) (id : String) (values : List Element) : MemoryAuthority :=
  ⟨m.entries.insert id (.values values)⟩

def remove (m : MemoryAuthority) (id : String) : MemoryAuthority := ⟨m.entries.erase id⟩

end MemoryAuthority

namespace MemoryEntry

def isParsed : MemoryEntry → Bool
  | text _ => false
  | values _ => true

def read : MemoryEntry → Except SchemaError (List Element)
  | text source => (Ion.parse source).mapError .malformedText
  | values elements => .ok elements

/-- The entry after somebody has asked for it. A text that does not parse stays. -/
def kept (entry : MemoryEntry) : MemoryEntry :=
  match entry.read with
  | .ok elements => values elements
  | .error _ => entry

theorem read_kept (entry : MemoryEntry) : entry.kept.read = entry.read := by
  unfold kept
  split
  · rename_i h; rw [h]; rfl
  · rfl

end MemoryEntry

namespace MemoryAuthority

def isParsed (m : MemoryAuthority) (id : String) : Bool :=
  (m.entries.find? id).any MemoryEntry.isParsed

def elements (m : MemoryAuthority) (id : String) : Except SchemaError ElementStream :=
  match m.entries.find? id with
  | some entry => entry.read.map .ofList
  | none => .ok .empty

/-- The authority after `elements` has been asked for an id. -/
def asked (m : MemoryAuthority) (id : String) : MemoryAuthority :=
  match m.entries.find? id with
  | some entry => ⟨m.entries.insert id entry.kept⟩
  | none => m

end MemoryAuthority
end Isl
