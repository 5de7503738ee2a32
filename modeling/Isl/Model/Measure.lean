import Isl.Fault
import Isl.Range.Integer
/-!
# Measures

The properties of a value that a range of integers can restrict. Lengths count things, so no length
may go below zero, and a precision may not go below one.
-/
namespace Isl

inductive Measure where
  | byteLength | codepointLength | containerLength | utf8ByteLength | precision
  /-- Known in version 1.0 only; version 2.0 has `exponent` instead. -/
  | scale
  | exponent
deriving DecidableEq, Repr

namespace Measure

def all : List Measure :=
  [byteLength, codepointLength, containerLength, utf8ByteLength, precision, scale, exponent]

/-- The field that a schema states it under. -/
def name : Measure → String
  | byteLength => "byte_length" | codepointLength => "codepoint_length"
  | containerLength => "container_length" | utf8ByteLength => "utf8_byte_length"
  | precision => "precision" | scale => "scale" | exponent => "exponent"

def ofName? (s : String) : Option Measure := all.find? (·.name == s)

def isLength : Measure → Bool
  | byteLength | codepointLength | containerLength | utf8ByteLength => true
  | _ => false

/-- The least value that makes sense. -/
def minimum? : Measure → Option Int64
  | precision => some 1
  | m => if m.isLength then some 0 else none

theorem ofName?_name (m : Measure) : ofName? m.name = some m := by cases m <;> rfl

end Measure

/-- The least integer within a lower limit, if there is one. -/
def Limit.least? : Limit Int64 → Option Int64
  | unbounded => none
  | closed n => some n
  | opened n => if n = Int64.maxValue then none else some (n + 1)

/-- A range of values of a measure, none below its minimum. -/
structure MeasureRange where
  measure : Measure
  range : IntRange
deriving DecidableEq, Repr

namespace MeasureRange

/-- The range reaches below the minimum, or has no least value at all. -/
def reachesBelow (minimum : Int64) (r : IntRange) : Bool :=
  match r.lower.least? with
  | some n => n < minimum
  | none => true

def make? (measure : Measure) (range : IntRange) : Except Defect MeasureRange :=
  match measure.minimum? with
  | some minimum =>
    if reachesBelow minimum range then
      .error (.belowMinimum measure.name minimum.toInt range.text)
    else .ok ⟨measure, range⟩
  | none => .ok ⟨measure, range⟩

end MeasureRange
end Isl
