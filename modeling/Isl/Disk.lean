import Isl.Disk.Fault
import Isl.Disk.Path
/-!
# Files

A tree of files, directories and links, listed by the names that lead to each item from the top.
Relative paths start at `home`. A path is followed step by step as it is written; a link stands for
the path it holds, and no more than forty links are followed.
-/
namespace Isl

inductive DiskItem where
  | file (content : ByteArray)
  | directory
  | link (target : String)

structure Disk where
  items : List (List String × DiskItem)
  home : List String

namespace Disk

def linkLimit : Nat := 40

def nameLimit : Nat := 255

def pathLimit : Nat := 4095

/-- The item at the end of these names. The top is a directory. -/
def find? (d : Disk) (names : List String) : Option DiskItem :=
  if names.isEmpty then some .directory else (d.items.find? (·.1 == names)).map (·.2)

/-- Puts an item in its place, with the directories that lead there. -/
def put (d : Disk) (names : List String) (item : DiskItem) : Disk :=
  let leading := (List.range names.length).map names.take
  let missing := leading.filter fun place => (d.find? place).isNone
  { d with
    items := d.items.filter (·.1 != names) ++ missing.map (·, .directory) ++ [(names, item)] }

def empty (home : List String) : Disk :=
  if home.isEmpty then ⟨[], home⟩ else put ⟨[], home⟩ home .directory

/-- Where steps lead to from a directory. The last one may be the name of something new if `new`
says so. -/
def walk (d : Disk) (new : Bool) (links : Nat) (place : List String) :
    List String → Except FileFault (List String)
  | [] => .ok place
  | step :: rest =>
    if step.isEmpty || step == "." then walk d new links place rest
    else if step == ".." then walk d new links place.dropLast rest
    else if nameLimit < step.utf8ByteSize then .error .nameTooLong
    else match d.find? (place ++ [step]) with
      | none => if new && rest.isEmpty then .ok (place ++ [step]) else .error .missing
      | some (.file _) => if rest.isEmpty then .ok (place ++ [step]) else .error .notDirectory
      | some .directory => walk d new links (place ++ [step]) rest
      | some (.link target) =>
        match links with
        | 0 => .error .tooManyLinks
        | links + 1 =>
          let start := if FilePath.isAbsolute target then [] else place
          walk d new links start (FilePath.steps target ++ rest)
termination_by steps => (links, steps.length)

/-- Where a path leads to, free of links. -/
def resolve (d : Disk) (new : Bool) (path : String) : Except FileFault (List String) :=
  if path.contains '\x00' then .error .endedPath
  else if path.isEmpty then .error .missing
  else if pathLimit < path.utf8ByteSize then .error .nameTooLong
  else
    walk d new linkLimit (if FilePath.isAbsolute path then [] else d.home) (FilePath.steps path)

def locate (d : Disk) (path : String) : Except FileFault (List String) := d.resolve false path

def itemAt? (d : Disk) (path : String) : Option DiskItem :=
  match d.locate path with
  | .ok place => d.find? place
  | .error _ => none

def pathExists (d : Disk) (path : String) : Bool := (d.itemAt? path).isSome

def isFile (d : Disk) (path : String) : Bool :=
  match d.itemAt? path with
  | some (.file _) => true
  | _ => false

def isDirectory (d : Disk) (path : String) : Bool :=
  match d.itemAt? path with
  | some .directory => true
  | _ => false

/-- The names in a directory, in no particular order. -/
def namesIn (d : Disk) (place : List String) : List String :=
  d.items.filterMap fun item =>
    match item.1.getLast? with
    | some name => if item.1 == place ++ [name] then some name else none
    | none => none

def decodeText (content : ByteArray) : Except FileFault String :=
  match String.fromUTF8? content with
  | some s => .ok s
  | none => .error .notText

/-- The text of the file in a place. -/
def textAt (d : Disk) (place : List String) : Except FileFault String :=
  match d.find? place with
  | some (.file content) => decodeText content
  | some .directory => .error .isDirectory
  | _ => .error .missing

def readText (d : Disk) (path : String) : Except FileFault String := do d.textAt (← d.locate path)

/-- Writes a file at a path, a new one if there was none. -/
def writeText (d : Disk) (path content : String) : Except FileFault Disk := do
  if path.endsWith "/" then
    let parent := FilePath.parent (String.ofList (FilePath.dropSlashes path.toList))
    let _ ← d.locate (FilePath.join parent ".")
    .error .isDirectory
  else
    let place ← d.resolve true path
    match d.find? place with
    | some .directory => .error .isDirectory
    | _ => .ok (d.put place (.file content.toUTF8))

end Disk
end Isl
