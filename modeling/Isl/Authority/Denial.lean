/-!
# Refused ids

Why an id may not be looked up as a file below a base directory.
-/
namespace Isl

inductive Denial where
  | absolute
  /-- The id leads out of the base. -/
  | escapes
  /-- The id names the base itself. -/
  | empty
deriving DecidableEq, Repr

def Denial.message : Denial → String
  | absolute => "absolute paths are not allowed"
  | escapes => "path escapes the authority base"
  | empty => "empty path"

end Isl
