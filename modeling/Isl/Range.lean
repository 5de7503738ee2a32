import Isl.Number.FloatText
/-!
# Ranges

An interval with a limit on each side: none, one that belongs to it, or one that does not. A range
is made by `Range.make?`, which refuses limits that leave nothing between them. Values are compared
by `Comparable.compare?`, which may leave two of them without an order.
-/
namespace Isl

class Comparable (α : Type u) where
  compare? : α → α → Option Ordering

/-- How values are shown in messages. -/
class Shown (α : Type u) where
  shown : α → String

instance : Comparable Int64 := ⟨fun a b => some (compare a b)⟩
instance : Comparable String := ⟨fun a b => some (compare a b)⟩
instance : Comparable Decimal := ⟨fun a b => some (a.compare b)⟩
instance : Comparable Binary64 := ⟨Binary64.compare?⟩

instance : Shown Int64 := ⟨fun n => toString n.toInt⟩
instance : Shown String := ⟨id⟩
instance : Shown Decimal := ⟨Decimal.display⟩
instance : Shown Binary64 := ⟨Binary64.display⟩

/-- One end of a range. -/
inductive Limit (α : Type u) where
  | unbounded
  | closed (a : α)
  | opened (a : α)
deriving DecidableEq, Repr, Inhabited

namespace Limit

def value? : Limit α → Option α
  | unbounded => none
  | closed a | opened a => some a

def isOpen : Limit α → Bool
  | opened _ => true
  | _ => false

def map (f : α → β) : Limit α → Limit β
  | unbounded => unbounded
  | closed a => closed (f a)
  | opened a => opened (f a)

/-- Limits of one kind whose values compare as equal. -/
def same [Comparable α] : Limit α → Limit α → Bool
  | unbounded, unbounded => true
  | closed a, closed b | opened a, opened b => Comparable.compare? a b == some .eq
  | _, _ => false

/-- The value is on the inner side of this lower limit. -/
def admitsAbove [Comparable α] (l : Limit α) (a : α) : Bool :=
  match l with
  | unbounded => true
  | closed lo => Comparable.compare? a lo == some .eq || Comparable.compare? a lo == some .gt
  | opened lo => Comparable.compare? a lo == some .gt

/-- The value is on the inner side of this upper limit. -/
def admitsBelow [Comparable α] (l : Limit α) (a : α) : Bool :=
  match l with
  | unbounded => true
  | closed hi => Comparable.compare? a hi == some .eq || Comparable.compare? a hi == some .lt
  | opened hi => Comparable.compare? a hi == some .lt

def shown [Shown α] (word : String) : Limit α → String
  | unbounded => word
  | closed a => Shown.shown a
  | opened a => "exclusive::" ++ Shown.shown a

end Limit

/-- Why limits make no range. -/
inductive RangeFault where
  | unbounded
  | incomparable (lower upper : String)
  | reversed (lower upper : String)
  | empty (lower upper : String)
  | negative (bound : String)
  | cannotNegate
deriving DecidableEq, Repr

def RangeFault.message : RangeFault → String
  | unbounded => "range may not be unbounded at both ends"
  | incomparable lo hi => s!"range bounds {lo} and {hi} are not comparable"
  | reversed lo hi => s!"lower bound {lo} is greater than upper bound {hi}"
  | empty lo hi => s!"range between {lo} and {hi} contains no values"
  | negative v => s!"range bound {v} must be a non-negative integer"
  | cannotNegate => "range bound cannot be negated"

structure Range (α : Type u) where
  lower : Limit α
  upper : Limit α
deriving DecidableEq, Repr, Inhabited

namespace Range

variable {α : Type u} [Comparable α] [Shown α]

/-- What is wrong with a pair of values as ends of a range. -/
def orderFault? (lower upper : Limit α) (lo hi : α) : Option RangeFault :=
  match Comparable.compare? lo hi with
  | none => some (.incomparable (Shown.shown lo) (Shown.shown hi))
  | some .gt => some (.reversed (Shown.shown lo) (Shown.shown hi))
  | some .eq =>
    if lower.isOpen || upper.isOpen then some (.empty (Shown.shown lo) (Shown.shown hi)) else none
  | some .lt => none

def fault? (lower upper : Limit α) : Option RangeFault :=
  match lower.value?, upper.value? with
  | some lo, some hi => orderFault? lower upper lo hi
  | none, none => some .unbounded
  | _, _ => none

def make? (lower upper : Limit α) : Except RangeFault (Range α) :=
  match fault? lower upper with
  | some fault => .error fault
  | none => .ok ⟨lower, upper⟩

def contains (r : Range α) (a : α) : Bool := r.lower.admitsAbove a && r.upper.admitsBelow a

def singleton (a : α) : Range α := ⟨.closed a, .closed a⟩

/-- The more restrictive of two limits on one side. `inner` is how a value compares that is more
restrictive than another. -/
def tighter (inner : Ordering) (x y : Limit α) : Limit α :=
  match x.value?, y.value? with
  | none, _ => y
  | _, none => x
  | some a, some b =>
    match Comparable.compare? a b with
    | some .eq => if y.isOpen then y else x
    | o => if o == some inner then x else y

/-- The overlap, if the ranges share a value. -/
def intersect? (r s : Range α) : Option (Range α) :=
  (make? (tighter .gt r.lower s.lower) (tighter .lt r.upper s.upper)).toOption

def same (r s : Range α) : Bool := r.lower.same s.lower && r.upper.same s.upper

def text (r : Range α) : String :=
  "range::[" ++ r.lower.shown "min" ++ ", " ++ r.upper.shown "max" ++ "]"

end Range
end Isl
