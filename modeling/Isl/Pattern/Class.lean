import Isl.Pattern.Fold
import Isl.Unicode.Ranges
/-!
# Character classes

Sets of characters built from ranges, named ASCII classes and tables by union, nesting, negation and
set operators. Where case is ignored, every table, bracketed class and operand is closed under case
variants before it is negated or combined.
-/
namespace Isl.Pattern

open Unicode

inductive AsciiClass where
  | alnum | alpha | ascii | blank | cntrl | digit | graph | lower | print | punct | space
  | upper | word | xdigit
deriving DecidableEq, Repr

namespace AsciiClass

def named : List (String × AsciiClass) :=
  [("alnum", alnum), ("alpha", alpha), ("ascii", ascii), ("blank", blank), ("cntrl", cntrl),
    ("digit", digit), ("graph", graph), ("lower", lower), ("print", print), ("punct", punct),
    ("space", space), ("upper", upper), ("word", word), ("xdigit", xdigit)]

/-- The ranges of code points in the class. -/
def ranges : AsciiClass → List (Nat × Nat)
  | alnum => [(0x30, 0x39), (0x41, 0x5A), (0x61, 0x7A)]
  | alpha => [(0x41, 0x5A), (0x61, 0x7A)]
  | ascii => [(0, 0x7F)]
  | blank => [(9, 9), (0x20, 0x20)]
  | cntrl => [(0, 0x1F), (0x7F, 0x7F)]
  | digit => [(0x30, 0x39)]
  | graph => [(0x21, 0x7E)]
  | lower => [(0x61, 0x7A)]
  | print => [(0x20, 0x7E)]
  | punct => [(0x21, 0x2F), (0x3A, 0x40), (0x5B, 0x60), (0x7B, 0x7E)]
  | space => [(9, 0xD), (0x20, 0x20)]
  | upper => [(0x41, 0x5A)]
  | word => [(0x30, 0x39), (0x41, 0x5A), (0x5F, 0x5F), (0x61, 0x7A)]
  | xdigit => [(0x30, 0x39), (0x41, 0x46), (0x61, 0x66)]

end AsciiClass

inductive SetOperator where
  | intersection | difference | symmetricDifference
deriving DecidableEq, Repr

def SetOperator.apply : SetOperator → Bool → Bool → Bool
  | intersection, a, b => a && b
  | difference, a, b => a && !b
  | symmetricDifference, a, b => a != b

def SetOperator.ranges (op : SetOperator) (rs ss : List CodeRange) : List CodeRange :=
  match op with
  | intersection => CodeRanges.intersection rs ss
  | difference => CodeRanges.difference rs ss
  | symmetricDifference =>
    CodeRanges.union (CodeRanges.difference rs ss) (CodeRanges.difference ss rs)

inductive ClassSet where
  /-- The characters from `first` to `last`. -/
  | range (first last : Nat)
  | ascii (kind : AsciiClass) (negated : Bool)
  | table (members : Array CodeRange) (negated : Bool)
  | union (items : List ClassSet)
  | bracketed (negated : Bool) (content : ClassSet)
  | operation (op : SetOperator) (left right : ClassSet)

namespace ClassSet

/-- Membership of a code point in a set, or in its closure under case variants. -/
def closed (casing : Casing) (member : Nat → Bool) (n : Nat) : Bool :=
  (casing.variants n).any member

mutual

def contains (casing : Casing) : ClassSet → Nat → Bool
  | range first last, n => first ≤ n && n ≤ last
  | ascii kind negated, n =>
    closed casing (fun n => kind.ranges.any fun r => r.1 ≤ n && n ≤ r.2) n != negated
  | table members negated, n =>
    closed casing (CodeRanges.contains members) n != negated
  | union items, n => anyContains casing items n
  | bracketed negated content, n => closed casing (contains casing content) n != negated
  | operation op left right, n =>
    op.apply (closed casing (contains casing left) n) (closed casing (contains casing right) n)

def anyContains (casing : Casing) : List ClassSet → Nat → Bool
  | [], _ => false
  | s :: ss, n => contains casing s n || anyContains casing ss n

end

mutual

/-- How deeply the class nests. -/
def depth : ClassSet → Nat
  | range .. | ascii .. | table .. | union [] => 0
  | union items => depthAll items + 1
  | bracketed _ content => content.depth + 1
  | operation _ left right => max left.depth right.depth + 1

def depthAll : List ClassSet → Nat
  | [] => 0
  | s :: ss => max s.depth (depthAll ss)

end

/-- Ranges with all case variants, in order. -/
def closedRanges (casing : Casing) (rs : List CodeRange) : List CodeRange :=
  let members := (CodeRanges.normalize rs).toArray
  let letters := (casing.pairs.filter fun (n, letter) =>
    CodeRanges.contains members n || CodeRanges.contains members letter).map (·.2)
  let letters := CodeRanges.ofPoints letters
  let others := (casing.pairs.filter (CodeRanges.contains letters.toArray ·.2)).map (·.1)
  CodeRanges.normalize (rs ++ letters ++ CodeRanges.ofPoints others)

def complementIf (negated : Bool) (rs : List CodeRange) : List CodeRange :=
  if negated then CodeRanges.complement rs else rs

mutual

/-- The members of a class as ranges in order. -/
def ranges (casing : Casing) : ClassSet → List CodeRange
  | range first last => [(first, last)]
  | ascii kind negated => complementIf negated (closedRanges casing kind.ranges)
  | table members negated => complementIf negated (closedRanges casing members.toList)
  | union items => CodeRanges.normalize (allRanges casing items)
  | bracketed negated content =>
    complementIf negated (closedRanges casing (content.ranges casing))
  | operation op left right =>
    op.ranges (closedRanges casing (left.ranges casing))
      (closedRanges casing (right.ranges casing))

def allRanges (casing : Casing) : List ClassSet → List CodeRange
  | [] => []
  | s :: ss => s.ranges casing ++ allRanges casing ss

end

end ClassSet
end Isl.Pattern
