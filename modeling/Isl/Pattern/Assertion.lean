import Isl.Unicode.Ranges
/-!
# Assertions

Conditions on the place between two characters: that a line, a text or a word begins or ends there.
-/
namespace Isl.Pattern

/-- What lines there are. -/
inductive Lines where
  /-- The whole text is the one line. -/
  | whole
  | newline
  /-- Lines that a newline, a carriage return or both together end. -/
  | carriage
deriving DecidableEq, Repr

/-- Edges of words. A half looks at one side only. -/
inductive WordEdge where
  | either | none | start | finish | startHalf | finishHalf
deriving DecidableEq, Repr

def WordEdge.holds : WordEdge → Bool → Bool → Bool
  | either, before, after => before != after
  | none, before, after => before == after
  | start, before, after => !before && after
  | finish, before, after => before && !after
  | startHalf, before, _ => !before
  | finishHalf, _, after => !after

inductive Assertion where
  | lineStart (lines : Lines)
  | lineEnd (lines : Lines)
  /-- An edge of a word made of these characters. -/
  | word (edge : WordEdge) (members : Array Unicode.CodeRange)

namespace Assertion

def isMember (members : Array Unicode.CodeRange) (c : Option Char) : Bool :=
  c.any fun c => Unicode.CodeRanges.contains members c.toNat

/-- Whether it holds between these characters; there is none outside of the text. -/
def holds (a : Assertion) (before after : Option Char) : Bool :=
  match a with
  | lineStart .whole => before.isNone
  | lineStart .newline => before.isNone || before == some '\n'
  | lineStart .carriage =>
    before.isNone || before == some '\n' || (before == some '\r' && after != some '\n')
  | lineEnd .whole => after.isNone
  | lineEnd .newline => after.isNone || after == some '\n'
  | lineEnd .carriage =>
    after.isNone || after == some '\r' || (after == some '\n' && before != some '\r')
  | word edge members => edge.holds (isMember members before) (isMember members after)

end Assertion
end Isl.Pattern
