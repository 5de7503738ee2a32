import Isl.Pattern.Regex
import Isl.Unicode.Utf8
/-!
# Size of a compiled pattern

A pattern is compiled to states that read bytes, once for reading forward and once for reading
backward, and either may take so much memory only. Characters become their bytes in UTF-8. Forward,
the bytes of a set share their ends; backward, they share their beginnings. Captures are kept
forward only. `bytes` is the memory of a part of a pattern, `compiledBytes` that of the whole.
-/
namespace Isl.Pattern

open Unicode

/-- Which way a text is read. -/
inductive Direction where
  | forward | backward
deriving DecidableEq, Repr

namespace Regex

/-- What the states of one direction of a compiled pattern may take. -/
def memoryLimit : Nat := 10485760

def stateBytes : Nat := 32

/-- A way on from a state that reads a byte. -/
def rangeBytes : Nat := 8

/-- A way on from a state that reads nothing. -/
def branchBytes : Nat := 4

/-! ## Sets -/

def forwardBytes (rows : List Utf8.Row) : Nat :=
  (Utf8.suffixes rows).foldl (fun n j => n + stateBytes + rangeBytes * j.length) stateBytes

def backwardBytes (rows : List Utf8.Row) : Nat :=
  2 * stateBytes + branchBytes * rows.length + stateBytes * Utf8.prefixes [] rows

/-- Memory for one character of a set. A set of one character takes a state for each of its bytes,
and ASCII one state for all of its ranges. -/
def setBytes (direction : Direction) (rs : List CodeRange) : Nat :=
  let rows := Utf8.rows rs
  if CodeRanges.isSingleton rs then stateBytes * rows.flatten.length
  else if rs.all (·.2 < 0x80) then 2 * stateBytes + rangeBytes * rs.length
  else
    match direction with
    | .forward => forwardBytes rows
    | .backward => backwardBytes rows

/-- The characters that a pattern takes one of. -/
def characters? : Regex → Option (List CodeRange)
  | literal c casing => some (CodeRanges.ofPoints (casing.variants c.toNat))
  | dot except => some (CodeRanges.complement (CodeRanges.ofPoints (except.map Char.toNat)))
  | set s casing => some (s.ranges casing)
  | _ => none

/-! ## What a pattern takes -/

mutual

/-- It takes no characters whatever it matches. -/
def takesNone : Regex → Bool
  | empty | assertion _ => true
  | literal .. | dot _ | set .. => false
  | group _ r => r.takesNone
  | repetition r _ most => r.takesNone || most == some 0
  | sequence rs | alternatives rs => takeNone rs

def takeNone : List Regex → Bool
  | [] => true
  | r :: rs => r.takesNone && takeNone rs

end

mutual

/-- It takes characters whatever it matches. -/
def takesSome : Regex → Bool
  | empty | assertion _ => false
  | literal .. | dot _ | set .. => true
  | group _ r => r.takesSome
  | repetition r least _ => r.takesSome && 0 < least
  | sequence rs => anyTakesSome rs
  | alternatives rs => allTakeSome rs

def anyTakesSome : List Regex → Bool
  | [] => false
  | r :: rs => r.takesSome || anyTakesSome rs

def allTakeSome : List Regex → Bool
  | [] => true
  | r :: rs => r.takesSome && allTakeSome rs

end

/-! ## Memory -/

/-- A state that branches in two. -/
def forkBytes : Nat := stateBytes + 2 * branchBytes

/-- Memory for a repetition of what takes `size`. -/
def repeatedBytes (size : Nat) (takesSome : Bool) (least : Nat) : Option Nat → Nat
  | none =>
    if 0 < least then least * size + forkBytes
    else if takesSome then size + forkBytes
    else size + 2 * forkBytes + stateBytes
  | some most =>
    if least = most then if least = 0 then stateBytes else least * size
    else if least = 0 ∧ most = 1 then size + forkBytes + stateBytes
    else (if least = 0 then stateBytes else least * size) + stateBytes +
      (most - least) * (size + forkBytes)

mutual

/-- Memory for a pattern. To repeat what takes no characters changes nothing after the first
time. -/
def bytes (direction : Direction) : Regex → Nat
  | group captures r =>
    r.bytes direction + (if captures ∧ direction = .forward then 2 * stateBytes else 0)
  | repetition r least most =>
    if r.takesNone then
      repeatedBytes (r.bytes direction) false (min least 1) (some (min (most.getD 1) 1))
    else repeatedBytes (r.bytes direction) r.takesSome least most
  | sequence rs => bytesAll direction rs
  | alternatives rs =>
    match rs.mapM characters? with
    | some sets => setBytes direction (CodeRanges.normalize sets.flatten)
    | none => bytesAll direction rs + 2 * stateBytes + branchBytes * rs.length
  | r => ((characters? r).map (setBytes direction)).getD stateBytes

def bytesAll (direction : Direction) : List Regex → Nat
  | [] => 0
  | empty :: rs => bytesAll direction rs
  | r :: rs => r.bytes direction + bytesAll direction rs

end

/-- Memory for the pattern between states that skip what is in front of a match and that find one,
and forward a capture of it all. -/
def compiledBytes (direction : Direction) (r : Regex) : Nat :=
  let skipping := 2 * stateBytes + rangeBytes + forkBytes
  let capture := if direction = .forward then 2 * stateBytes else 0
  skipping + capture + r.bytes direction + stateBytes

def depthLimit : Nat := 250

/-- Lets a pattern through that is within the limits. -/
def withinLimits (r : Regex) : Except Refusal Regex :=
  if depthLimit < r.depth then .error .malformed
  else if [.forward, .backward].any fun d => memoryLimit < r.compiledBytes d then .error .tooLarge
  else .ok r

end Regex
end Isl.Pattern
