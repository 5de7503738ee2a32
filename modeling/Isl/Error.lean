import Isl.Authority.Denial
import Isl.Disk.Fault
import Isl.Ion.Cursor
import Isl.Reader.Fault
/-!
# Errors

Everything that can end an operation on schemas, with the words for it and the exit code of a
program that stops for it. Trouble with files exits with 3, an error within another one as that
one would, and all else with 2.
-/
namespace Isl

inductive SchemaError where
  | malformedText (error : Ion.SyntaxError)
  | invalidIsl (errors : List ReadError)
  | invalidSchema (defect : Defect)
  | schemaNotFound (id : String) (causes : List String)
  | typeNotFound (schemaId typeName : String)
  | transitiveImport (schemaId typeName : String)
  | duplicateImport (name first second : String)
  | duplicateType (name : String)
  | selfImport (id : String)
  | unresolvedReferences (names : List String)
  | importFailed (id : String) (source : SchemaError)
  | accessDenied (id : String) (denial : Denial)
  | sharedFailure (key : String) (source : SchemaError)
  | fileNotFound (path : String)
  | unreadable (path : String) (fault : FileFault)
  | unwritable (reason : String)

namespace SchemaError

def message : SchemaError → String
  | malformedText e => s!"invalid Ion text at offset {e.offset}: {e.fault.message}"
  | invalidIsl errors =>
    let joined := "; ".intercalate (errors.map (·.toText))
    s!"invalid schema: {joined}"
  | invalidSchema defect => s!"invalid schema: {defect.message}"
  | schemaNotFound id causes =>
    let joined := "; ".intercalate causes
    let listed := if causes.isEmpty then "" else s!" ({joined})"
    s!"unable to resolve schema id '{id}'{listed}"
  | typeNotFound schemaId typeName =>
    s!"schema '{schemaId}' doesn't contain a type named '{typeName}'"
  | transitiveImport schemaId typeName =>
    s!"type '{typeName}' is only visible in schema '{schemaId}' through a transitive import"
  | duplicateImport name first second =>
    s!"duplicate imported type name/alias '{name}' (from '{first}' and '{second}')"
  | duplicateType name => s!"duplicate type name '{name}'"
  | selfImport id => s!"schema '{id}' imports itself"
  | unresolvedReferences names =>
    let joined := ", ".intercalate names
    s!"unable to resolve type reference(s): {joined}"
  | importFailed id source => s!"failed to load schema '{id}': {source.message}"
  | accessDenied id denial => s!"access denied for schema id '{id}': {denial.message}"
  | sharedFailure key source => s!"schema '{key}' failed to build: {source.message}"
  | fileNotFound path => s!"file not found: {path}"
  | unreadable path fault => s!"cannot read {path}: {fault.message}"
  | unwritable reason => s!"cannot write output: {reason}"

def exitCode : SchemaError → Nat
  | fileNotFound _ | unreadable _ _ | unwritable _ => 3
  | importFailed _ source | sharedFailure _ source => source.exitCode
  | _ => 2

instance : Inhabited SchemaError := ⟨schemaNotFound "" []⟩

end SchemaError
end Isl
