import Isl.Range
/-!
# Ranges of integers

Ranges of 64-bit integers. On top of what holds for any range, an exclusive end must leave an
integer between two ends: `IntRange.make?` refuses a gap of one.
-/
namespace Isl

structure IntRange where
  range : Range Int64
deriving DecidableEq, Repr

namespace IntRange

def lower (r : IntRange) : Limit Int64 := r.range.lower
def upper (r : IntRange) : Limit Int64 := r.range.upper

/-- An exclusive end stands right beside the other end. -/
def gapFault? (lower upper : Limit Int64) : Option RangeFault :=
  match lower.value?, upper.value? with
  | some lo, some hi =>
    if (lower.isOpen || upper.isOpen) && decide (hi.toInt - lo.toInt ≤ 1) then
      some (.empty (Shown.shown lo) (Shown.shown hi))
    else none
  | _, _ => none

def make? (lower upper : Limit Int64) : Except RangeFault IntRange := do
  let range ← Range.make? lower upper
  match gapFault? lower upper with
  | some fault => .error fault
  | none => .ok ⟨range⟩

/-- The first of the limits that is below zero. -/
def firstNegative? (lower upper : Limit Int64) : Option Int64 :=
  (lower.value?.toList ++ upper.value?.toList).find? (· < 0)

/-- A range whose ends, where there are any, are not negative. -/
def nonNegative? (lower upper : Limit Int64) : Except RangeFault IntRange :=
  match firstNegative? lower upper with
  | some v => .error (.negative (Shown.shown v))
  | none => make? lower upper

def singleton (n : Int64) : IntRange := ⟨Range.singleton n⟩

/-- How often a field may occur unless it says otherwise. -/
def optional : IntRange := ⟨⟨.closed 0, .closed 1⟩⟩

/-- How often an ordered element occurs unless it says otherwise. -/
def required : IntRange := singleton 1

instance : Inhabited IntRange := ⟨optional⟩

def contains (r : IntRange) (n : Int64) : Bool := r.range.contains n

/-- The only value of a range with closed equal ends. -/
def singleton? (r : IntRange) : Option Int64 :=
  match r.lower, r.upper with
  | .closed a, .closed b => if a = b then some a else none
  | _, _ => none

def intersect? (r s : IntRange) : Option IntRange :=
  (r.range.intersect? s.range).bind fun overlap => (make? overlap.lower overlap.upper).toOption

def negateLimit (l : Limit Int64) : Except RangeFault (Limit Int64) :=
  if l.value? = some Int64.minValue then .error .cannotNegate else .ok (l.map (-·))

/-- The range of the negated values. -/
def negate (r : IntRange) : Except RangeFault IntRange := do
  let lower ← negateLimit r.upper
  let upper ← negateLimit r.lower
  make? lower upper

def text (r : IntRange) : String := r.range.text

end IntRange
end Isl
