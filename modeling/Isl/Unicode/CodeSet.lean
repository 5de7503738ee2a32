import Isl.Unicode.Ranges
/-!
# Sets of code points

A set as a table lists it, or as it is derived from other sets. A set is a term; `ranges` works it
out.
-/
namespace Isl.Unicode

inductive CodeSet where
  | listed (table : String)
  | union (left right : CodeSet)
  | without (left right : CodeSet)
deriving Inhabited

namespace CodeSet

def any : CodeSet := .listed "0-10FFFF"

def unionAll : List CodeSet → CodeSet
  | [] => .without any any
  | [s] => s
  | s :: ss => .union s (unionAll ss)

def ranges : CodeSet → List CodeRange
  | listed table => CodeRanges.ofText table
  | union left right => CodeRanges.union left.ranges right.ranges
  | without left right => CodeRanges.difference left.ranges right.ranges

end CodeSet
end Isl.Unicode
