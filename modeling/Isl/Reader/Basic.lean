import Isl.Model.Document
import Isl.Reader.Fault
import Isl.Vocabulary
/-!
# Reading with errors on record

A read keeps a record of errors. A step that meets an invalid value halts; the nearest `catching`
around it puts the fault on record and lets the siblings go on, unless the read fails fast: then
everything halts with the first error on record.
-/
namespace Isl.Reader

/-- Why a step stopped early. -/
inductive Halt where
  | invalid (fault : ReadFault)
  /-- The read fails fast, and its error is on record. -/
  | abort

abbrev Read := EStateM Halt (List ReadError)

/-- A check that neither records nor recovers. -/
abbrev Check := Except ReadFault

structure Context where
  vocabulary : Vocabulary
  failFast : Bool
  /-- What the header declares. -/
  declared : ReservedFields

def Context.version (ctx : Context) : IslVersion := ctx.vocabulary.version

def invalid (fault : ReadFault) : Read α := throw (.invalid fault)

def lift (check : Check α) : Read α :=
  match check with
  | .ok a => pure a
  | .error fault => invalid fault

def require (condition : Bool) (fault : ReadFault) : Check Unit :=
  if condition then .ok () else .error fault

def ofDefect (result : Except Defect α) : Check α := result.mapError .defect

def ofRange (result : Except RangeFault α) : Check α := result.mapError fun f => .defect (.range f)

/-- Puts an error on record, which ends a read that fails fast. -/
def report (ctx : Context) (path : TreePath) (fault : ReadFault) : Read Unit := fun errors =>
  let errors := errors ++ [⟨path, fault⟩]
  if ctx.failFast then .error .abort errors else .ok () errors

/-- Runs a step of its own. Without a result, its fault is on record at the path. -/
def catching (ctx : Context) (path : TreePath) (step : Read α) : Read (Option α) := fun errors =>
  match step errors with
  | .ok a errors => .ok (some a) errors
  | .error (.invalid fault) errors => (report ctx path fault *> pure none) errors
  | .error .abort errors => .error .abort errors

/-- The outcome of a whole read: a value only if nothing is on record. -/
def finish (path : TreePath) (read : Read α) : Except (List ReadError) α :=
  match read [] with
  | .ok a errors => if errors.isEmpty then .ok a else .error errors
  | .error .abort errors => .error errors
  | .error (.invalid fault) errors => .error (errors ++ [⟨path, fault⟩])

/-! ## Fields -/

/-- The only value of a field that may be missing. -/
def optionalField (fs : List Field) (name : String) (shape : Shape) : Check (Option Element) :=
  match Field.getAll fs name with
  | [] => .ok none
  | [e] => if shape.admits e then .ok (some e) else .error (.fieldShape name shape e)
  | _ => .error (.repeatedField name)

def requiredField (fs : List Field) (name : String) (shape : Shape) (owner : Element) :
    Check Element := do
  match ← optionalField fs name shape with
  | some e => .ok e
  | none => .error (.missingField name owner)

def textOf (e : Element) : String := e.text?.getD ""

def onlyAnnotated (e : Element) (allowed : List String) : Bool :=
  e.annotations.all allowed.contains

end Isl.Reader
