import Isl.Authority.Stream
import Isl.Disk
import Isl.Ion.Parser
/-!
# Schemas in a directory

An id is a path below the base directory. It is brought to normal form without a look at the files;
an id that leads out of the base, by its steps or by a link, is refused.
-/
namespace Isl

structure DirectoryAuthority where
  disk : Disk
  /-- The base, free of links. -/
  base : List String

namespace DirectoryAuthority

def open? (disk : Disk) (path : String) : Except SchemaError DirectoryAuthority :=
  match disk.locate path with
  | .error _ => .error (.fileNotFound path)
  | .ok base =>
    match disk.find? base with
    | some .directory => .ok ⟨disk, base⟩
    | _ => .error (.fileNotFound path)

/-- Appends the steps of an id to names below the base. -/
def normalizeFrom (names : List String) : List String → Except Denial (List String)
  | [] => if names.isEmpty then .error .empty else .ok names
  | step :: rest =>
    if step.isEmpty || step == "." then normalizeFrom names rest
    else if step == ".." then
      if names.isEmpty then .error .escapes else normalizeFrom names.dropLast rest
    else normalizeFrom (names ++ [step]) rest

/-- The names that lead from the base to the file of an id. -/
def normalize (id : String) : Except Denial (List String) :=
  if FilePath.isAbsolute id then .error .absolute else normalizeFrom [] (FilePath.steps id)

def shown (place : List String) : String := "/" ++ FilePath.ofNames place

/-- The values in the file in a place. -/
def valuesAt (a : DirectoryAuthority) (place : List String) : Except SchemaError (List Element) :=
  match a.disk.textAt place with
  | .error fault => .error (.unreadable (shown place) fault)
  | .ok source => (Ion.parse source).mapError .malformedText

def elements (a : DirectoryAuthority) (id : String) : Except SchemaError ElementStream :=
  match normalize id with
  | .error denial => .error (.accessDenied id denial)
  | .ok names =>
    match a.disk.walk false Disk.linkLimit a.base names with
    | .error _ => .ok .empty
    | .ok place =>
      match a.disk.find? place with
      | some (.file _) =>
        if a.base.isPrefixOf place then .ok (.deferred fun _ => a.valuesAt place)
        else .error (.accessDenied id .escapes)
      | _ => .ok .empty

end DirectoryAuthority
end Isl
