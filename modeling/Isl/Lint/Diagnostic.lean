import Isl.Error
/-!
# Findings

What a linter can find in a file, with its code and its words, and the report on many files.
-/
namespace Isl

inductive Severity where
  | error
  | warning
deriving DecidableEq, Repr

def Severity.name : Severity → String
  | error => "error"
  | warning => "warning"

inductive Finding where
  /-- The file cannot be read as values. -/
  | unparsed (error : SchemaError)
  /-- The values cannot be read as a schema. -/
  | misread (fault : ReadFault)
  /-- The schema does not compile. -/
  | uncompiled (error : SchemaError)
  | noMarker
  | noTypes
  /-- A top-level value that no reader looks at. -/
  | ignored (value : Element)

namespace Finding

def severity : Finding → Severity
  | unparsed _ | misread _ | uncompiled _ => .error
  | noMarker | noTypes | ignored _ => .warning

def code : Finding → String
  | unparsed _ => "E001"
  | misread _ => "E002"
  | uncompiled _ => "E003"
  | noMarker => "W001"
  | noTypes => "W002"
  | ignored _ => "W003"

def message : Finding → String
  | unparsed e => s!"syntax error: {e.message}"
  | misread fault => fault.message
  | uncompiled e => e.message
  | noMarker => "missing version marker; reading as Ion Schema 1.0"
  | noTypes => "schema declares no types"
  | ignored value => s!"top-level open content is not part of any type: {value.toText}"

end Finding

structure Diagnostic where
  file : String
  path : TreePath
  finding : Finding

def Diagnostic.severity (d : Diagnostic) : Severity := d.finding.severity

inductive FileStatus where
  | ok | error | warning
deriving DecidableEq, Repr

def FileStatus.name : FileStatus → String
  | ok => "ok"
  | error => "error"
  | warning => "warning"

structure FileReport where
  /-- The path of the file from where the linter looked. -/
  file : String
  diagnostics : List Diagnostic

namespace FileReport

def count (r : FileReport) (s : Severity) : Nat := r.diagnostics.countP (·.severity == s)

def status (r : FileReport) : FileStatus :=
  if 0 < r.count .error then .error else if 0 < r.count .warning then .warning else .ok

end FileReport

structure LintReport where
  path : String
  /-- A file with warnings fails. -/
  strict : Bool
  files : List FileReport

namespace LintReport

def count (r : LintReport) (s : Severity) : Nat :=
  (r.files.flatMap (·.diagnostics)).countP (·.severity == s)

def fails (r : LintReport) (f : FileReport) : Bool :=
  if r.strict then f.status != .ok else f.status == .error

def failed (r : LintReport) : Nat := r.files.countP r.fails

def passed (r : LintReport) : Nat := r.files.length - r.failed

/-- No file has errors. -/
def isOk (r : LintReport) : Bool := r.count .error == 0

/-- No file has what the report takes for a failure. -/
def succeeds (r : LintReport) : Bool := r.isOk && (!r.strict || r.count .warning == 0)

end LintReport
end Isl
