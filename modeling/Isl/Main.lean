import Isl.CommandLine
/-!
# The program

Looks at the files that a command names or searches, runs the command on what it has seen, and
prints and writes what comes of it.
-/
namespace Isl.Program

def textOf (place : List String) : String := "/" ++ FilePath.ofNames place

def namesOf (path : String) : List String := (FilePath.steps path).filter (!·.isEmpty)

/-- What is behind a failure counts as missing. -/
def orNone (action : IO α) : IO (Option α) := do
  try return some (← action) catch _ => return none

mutual

/-- Follows steps from a directory and adds what they lead over to the disk. -/
partial def addSteps (disk : Disk) (deep : Bool) (place : List String) : List String → IO Disk
  | [] => if deep then addBelow disk place else return disk
  | step :: rest => do
    if step.isEmpty || step == "." then addSteps disk deep place rest
    else if step == ".." then addSteps disk deep place.dropLast rest
    else
      let next := place ++ [step]
      let path := (← IO.currentDir) / textOf next
      match ← orNone path.symlinkMetadata with
      | none => return disk
      | some found =>
        match found.type with
        | .symlink =>
          match ← orNone (IO.FS.realPath path) with
          | none => return disk
          | some target =>
            addSteps (disk.put next (.link target.toString)) deep []
              (namesOf target.toString ++ rest)
        | .dir =>
          let known := (disk.find? next).isSome
          addSteps (if known then disk else disk.put next .directory) deep next rest
        | _ =>
          match ← orNone (IO.FS.readBinFile path) with
          | none => return disk
          | some content => return disk.put next (.file content)

/-- Adds everything below a directory. What has been seen is not looked at again. -/
partial def addBelow (disk : Disk) (place : List String) : IO Disk := do
  let path := (← IO.currentDir) / textOf place
  let entries := ((← orNone path.readDir).getD #[]).toList
  entries.foldlM (fun disk entry =>
    if (disk.find? (place ++ [entry.fileName])).isSome then return disk
    else addSteps disk true place [entry.fileName]) disk

end

def addPath (disk : Disk) (deep : Bool) (path : String) : IO Disk :=
  addSteps disk deep (if FilePath.isAbsolute path then [] else disk.home) (FilePath.steps path)

/-- The files that a command can see. -/
def diskFor (c : Command) : IO Disk := do
  let disk := Disk.empty (namesOf (← IO.currentDir).toString)
  let disk ← c.paths.foldlM (addPath · false ·) disk
  (c.searched disk).foldlM (addPath · true ·) disk

def save (saved : String × String) : IO (Option CommandResult) := do
  try
    IO.FS.writeFile saved.1 saved.2
    return none
  catch e => return some (.ofError (.unwritable e.toString))

def run (args : List String) : IO CommandResult := do
  match Command.parse args with
  | .error instead => return Command.runInstead instead
  | .ok c =>
    let result := c.run (← diskFor c)
    match result.saved with
    | none => return result
    | some saved => return (← save saved).getD result

end Isl.Program

def main (args : List String) : IO UInt32 := do
  let result ← Isl.Program.run args
  IO.print result.out
  IO.eprint result.err
  return result.code.toUInt32
