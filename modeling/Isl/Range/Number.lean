import Isl.Ion.Value
import Isl.Range
/-!
# Ranges of numbers

Ints, decimals and floats are compared by exact worth, whatever their form and scale.
-/
namespace Isl

/-- The exact worth of an int, a decimal or a finite float. -/
def Element.decimal? (e : Element) : Option Decimal :=
  match e.value with
  | .int n => some (.ofInt n)
  | .decimal d => some d
  | .float x => x.toDecimal
  | _ => none

abbrev NumberRange := Range Decimal

/-- The element is a number within the range. -/
def NumberRange.containsElement (r : NumberRange) (e : Element) : Bool :=
  match e.decimal? with
  | some d => r.contains d
  | none => false

end Isl
