import Isl.Pattern.Regex
/-!
# Matching

A pattern matches a text when it matches somewhere in it. `reach` carries a set of positions through
a pattern: from the positions where a match may begin to those where it may end. A set of positions
is a mark for each place between the characters, before the first and after the last included.
-/
namespace Isl.Pattern

abbrev Marks := List Bool

namespace Regex

def both (x y : Marks) : Marks := x.zipWith (· || ·) y

/-- Moves marks over the characters that pass. -/
def advance (pass : Char → Bool) (text : List Char) (marks : Marks) : Marks :=
  false :: text.zipWith (fun c m => m && pass c) marks

/-- The marks at places where an assertion holds. -/
def keepWhere (a : Assertion) (text : List Char) (marks : Marks) : Marks :=
  let places := (none :: text.map some).zip (text.map some ++ [none])
  places.zipWith (fun p m => m && a.holds p.1 p.2) marks

/-- `n` steps, or fewer once a step changes nothing. -/
def iterate (f : Marks → Marks) : Nat → Marks → Marks
  | 0, marks => marks
  | n + 1, marks =>
    let next := f marks
    if next == marks then marks else iterate f n next

/-- All marks that up to `n` steps lead to; only new ones are carried on. -/
def spread (f : Marks → Marks) : Nat → Marks → Marks → Marks
  | 0, seen, _ => seen
  | n + 1, seen, fresh =>
    let next := (f fresh).zipWith (fun a b => a && !b) seen
    if next.any id then spread f n (both seen next) next else seen

mutual

def reach (text : List Char) : Regex → Marks → Marks
  | .empty, marks => marks
  | .literal c casing, marks =>
    advance (fun x => casing.fold x.toNat == casing.fold c.toNat) text marks
  | .dot except, marks => advance (fun x => !except.contains x) text marks
  | .set s casing, marks => advance (fun x => s.contains casing x.toNat) text marks
  | .assertion a, marks => keepWhere a text marks
  | .group _ r, marks => reach text r marks
  | .repetition r least most, marks =>
    let first := iterate (reach text r) least marks
    spread (reach text r) (match most with | some m => m - least | none => text.length + 1)
      first first
  | .sequence rs, marks => reachAll text rs marks
  | .alternatives rs, marks => reachAny text rs marks

/-- One after the other. -/
def reachAll (text : List Char) : List Regex → Marks → Marks
  | [], marks => marks
  | r :: rs, marks => reachAll text rs (reach text r marks)

/-- Any of them. -/
def reachAny (text : List Char) : List Regex → Marks → Marks
  | [], marks => marks.map fun _ => false
  | r :: rs, marks => both (reach text r marks) (reachAny text rs marks)

end

def isMatch (r : Regex) (text : String) : Bool :=
  let cs := text.toList
  (reach cs r (true :: cs.map fun _ => true)).any id

end Regex
end Isl.Pattern
