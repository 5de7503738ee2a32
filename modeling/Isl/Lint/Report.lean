import Isl.Lint.Diagnostic
import Isl.Text.Json
/-!
# Reports on files

A report as JSON, and as text for a terminal with a mark and a colour for each file and finding.
-/
namespace Isl

/-! ## JSON -/

def Diagnostic.toJson (d : Diagnostic) : JsonValue :=
  .object [("severity", .text d.severity.name), ("code", .text d.finding.code),
    ("file", .text d.file), ("path", .text d.path.toText), ("message", .text d.finding.message)]

/-- A file without findings has no list of them. -/
def FileReport.toJson (r : FileReport) : JsonValue :=
  .object ([("file", .text r.file), ("status", .text r.status.name)] ++
    if r.diagnostics.isEmpty then []
    else [("diagnostics", .list (r.diagnostics.map Diagnostic.toJson))])

def LintReport.toJson (r : LintReport) : JsonValue :=
  .object [("path", .text r.path), ("files_checked", .number r.files.length),
    ("passed", .number r.passed), ("failed", .number r.failed),
    ("errors", .number (r.count .error)), ("warnings", .number (r.count .warning)),
    ("results", .list (r.files.map FileReport.toJson))]

/-! ## Terminals -/

inductive Colour where
  | red | green | yellow

def Colour.code : Colour → String
  | red => "31"
  | green => "32"
  | yellow => "33"

/-- Text in a colour, which ends with it. -/
def Colour.paint (c : Colour) (s : String) : String := s!"\x1b[{c.code}m{s}\x1b[0m"

def FileStatus.mark : FileStatus → String
  | ok => Colour.green.paint "✓"
  | warning => Colour.yellow.paint "⚠"
  | error => Colour.red.paint "✗"

def Diagnostic.line (d : Diagnostic) : String :=
  let colour := match d.severity with
    | .error => Colour.red
    | .warning => Colour.yellow
  let label := colour.paint (d.severity.name ++ "[" ++ d.finding.code ++ "]")
  s!"    {label}: {d.path.toText} - {d.finding.message}\n"

/-- The lines on a file. A quiet report is silent on files that pass and on warnings. -/
def FileReport.lines (r : FileReport) (quiet : Bool) : String :=
  let head := if !quiet || r.status != .ok then s!"  {r.status.mark} {r.file}\n" else ""
  head ++ String.join
    ((r.diagnostics.filter fun d => !quiet || d.severity == .error).map Diagnostic.line)

def LintReport.summary (r : LintReport) : String :=
  if r.succeeds then
    Colour.green.paint s!"✓ {r.files.length} files checked, all passed"
  else
    let counts := s!"{r.count .error} errors, {r.count .warning} warnings"
    Colour.red.paint
      s!"✗ {r.files.length} files checked: {r.passed} passed, {r.failed} failed ({counts})"

def LintReport.toText (r : LintReport) (quiet : Bool) : String :=
  (if quiet then "" else s!"Linting {r.path} ...\n\n") ++
    String.join (r.files.map (·.lines quiet)) ++ "\n" ++ r.summary ++ "\n"

end Isl
