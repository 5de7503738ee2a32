import Isl.CommandLine.Command
import Isl.Lint
import Isl.Lint.Report
import Isl.Writer
/-!
# The command line

What each command prints, what it writes, and the code it exits with. The exit code is 1 for a lint
that fails, that of the error for anything that cannot be done, and 0 otherwise.
-/
namespace Isl

structure CommandResult where
  code : Nat
  out : String
  err : String
  /-- The path and the content of a file to be written. -/
  saved : Option (String × String)

namespace CommandResult

def printed (out : String) : CommandResult := ⟨0, out, "", none⟩

def failed (code : Nat) (message : String) : CommandResult := ⟨code, "", message, none⟩

def errorLine (message : String) : String := s!"Error: {message}\n"

def ofError (e : SchemaError) : CommandResult := failed e.exitCode (errorLine e.message)

end CommandResult

namespace Command

def usageText : String :=
  "Usage: ion-schema lint <PATH> [--format <FORMAT>] [--strict] [-q|--quiet]\n" ++
  "       ion-schema load <ID> [--base <BASE>]... [--allow-transitive-imports] [--json]\n" ++
  "       ion-schema fmt <FILE> [--output <OUTPUT>]\n"

def versionText : String := "ion-schema 0.1.0\n"

/-- What is printed if the arguments ask for no command. -/
def runInstead : Instead → CommandResult
  | .usage => .failed 2 usageText
  | .help => .printed usageText
  | .version => .printed versionText

def runLint (disk : Disk) (path style : String) (strict quiet : Bool) : CommandResult :=
  if disk.pathExists path then
    let report := Isl.lint disk path strict
    let text :=
      if style == "json" then report.toJson.pretty ++ "\n" else report.toText quiet
    { CommandResult.printed text with code := if report.succeeds then 0 else 1 }
  else .failed 2 (CommandResult.errorLine s!"path not found: {path}")

/-- A schema by its id as asked for, with its types and the schemas it imports. -/
def schemaJson (id : String) (s : Schema) : JsonValue :=
  .object [("id", .text id), ("version", .text s.version.name),
    ("types", .list (s.types.map fun t => .text t.name)),
    ("imports", .list (s.imports.names.map .text))]

def schemaText (id : String) (s : Schema) : String :=
  s!"{id} ({s.version.name})\n" ++ String.join (s.types.map fun t => s!"  type {t.name}\n") ++
    String.join (s.imports.names.map fun i => s!"  import {i}\n")

def runLoad (disk : Disk) (id : String) (bases : List String) (allowTransitive json : Bool) :
    CommandResult :=
  match bases.mapM (Authority.ofSource disk) with
  | .error e => .ofError e
  | .ok authorities =>
    let settings := { Settings.standard with allowTransitive }
    match ((⟨settings, authorities, .empty⟩ : System).load id).2 with
    | .error e => .ofError e
    | .ok loaded =>
      .printed (if json then (schemaJson id loaded.schema).compact ++ "\n"
        else schemaText id loaded.schema)

def runFormat (disk : Disk) (file : String) (output : Option String) : CommandResult :=
  if disk.pathExists file then
    match Lint.parseFile disk file with
    | .error e => .ofError e
    | .ok values =>
      match SchemaReader.standard.readSchema values false with
      | .error errors =>
        .failed 2 (String.join (errors.map fun e => CommandResult.errorLine e.toText))
      | .ok d =>
        let text := Writer.lines (Writer.documentElements d)
        match output with
        | none => .printed text
        | some path =>
          match disk.writeText path text with
          | .error fault => .ofError (.unreadable path fault)
          | .ok _ => { CommandResult.printed "" with saved := some (path, text) }
  else .ofError (.fileNotFound file)

def run (disk : Disk) : Command → CommandResult
  | lint path style strict quiet => runLint disk path style strict quiet
  | load id bases allowTransitive json => runLoad disk id bases allowTransitive json
  | format file output => runFormat disk file output

/-- The paths that a command names. -/
def paths : Command → List String
  | lint path _ _ _ => [path]
  | load _ bases _ _ => bases
  | format file output => file :: output.toList

/-- The directories that a command searches, once it is known what its paths are. -/
def searched (disk : Disk) : Command → List String
  | lint path _ _ _ => [Lint.base disk path].filter (!·.isEmpty)
  | load _ bases _ _ => bases
  | format _ _ => []

end Command

/-- Runs the program on its arguments. -/
def runCommandLine (disk : Disk) (args : List String) : CommandResult :=
  match Command.parse args with
  | .ok c => c.run disk
  | .error instead => Command.runInstead instead

end Isl
