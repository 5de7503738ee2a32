import Isl.Range
import Isl.Range.Integer
import Isl.Timestamp
/-!
# Ranges of instants and of precisions

Timestamps are compared by the instant they denote. Precisions are compared by their place on a
scale that counts the digits of a fraction of a second, and goes below zero for less than seconds.
-/
namespace Isl

instance : Comparable Timestamp := ⟨fun s t => some (s.epochMillis.compare t.epochMillis)⟩
instance : Shown Timestamp := ⟨Timestamp.toText⟩

abbrev InstantRange := Range Timestamp

/-- The precisions that a constraint can name. -/
inductive NamedPrecision where
  | year | month | day | minute | second | millisecond | microsecond | nanosecond
deriving DecidableEq, Repr, Inhabited

namespace NamedPrecision

def all : List NamedPrecision :=
  [year, month, day, minute, second, millisecond, microsecond, nanosecond]

def name : NamedPrecision → String
  | year => "year" | month => "month" | day => "day" | minute => "minute" | second => "second"
  | millisecond => "millisecond" | microsecond => "microsecond" | nanosecond => "nanosecond"

def ofName? (s : String) : Option NamedPrecision := all.find? (·.name == s)

/-- The place on the scale of precisions. -/
def place : NamedPrecision → Int64
  | year => -4 | month => -3 | day => -2 | minute => -1 | second => 0
  | millisecond => 3 | microsecond => 6 | nanosecond => 9

theorem ofName?_name (p : NamedPrecision) : ofName? p.name = some p := by cases p <;> rfl

end NamedPrecision

/-- The place of a timestamp's own precision. -/
def Timestamp.precisionPlace (t : Timestamp) : Int64 :=
  match t.precision with
  | .year => -4 | .month => -3 | .day => -2 | .minute => -1 | .second => 0
  | .fraction ds => Int64.ofNat ds.length

/-- Limits by name, valid as limits of places. -/
structure PrecisionRange where
  lower : Limit NamedPrecision
  upper : Limit NamedPrecision
  places : IntRange
deriving DecidableEq, Repr

namespace PrecisionRange

def make? (lower upper : Limit NamedPrecision) : Except RangeFault PrecisionRange :=
  (IntRange.make? (lower.map (·.place)) (upper.map (·.place))).map fun places =>
    ⟨lower, upper, places⟩

def singleton (p : NamedPrecision) : PrecisionRange := ⟨.closed p, .closed p, .singleton p.place⟩

instance : Inhabited PrecisionRange := ⟨singleton .year⟩

def contains (r : PrecisionRange) (t : Timestamp) : Bool := r.places.contains t.precisionPlace

def singleton? (r : PrecisionRange) : Option NamedPrecision :=
  match r.lower, r.upper with
  | .closed p, .closed q => if p = q then some p else none
  | _, _ => none

end PrecisionRange
end Isl
