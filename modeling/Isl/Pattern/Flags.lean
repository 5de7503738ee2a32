import Isl.Pattern.Fold
import Isl.Text.Blank
/-!
# Flags

What a pattern says about how its parts are read: `(?i)` changes flags up to the end of the group,
`(?i:…)` for a group of its own. A hyphen turns the flags behind it off.
-/
namespace Isl.Pattern

structure Flags where
  ignoreCase : Bool
  /-- Lines within the text count. -/
  multiline : Bool
  /-- The dot takes newlines, too. -/
  dotAll : Bool
  /-- A carriage return ends a line, too. -/
  carriage : Bool
  unicode : Bool
  /-- Blanks, and comments behind a number sign, are skipped. -/
  spaced : Bool

namespace Flags

def standard (ignoreCase multiline : Bool) : Flags :=
  ⟨ignoreCase, multiline, false, false, true, false⟩

def casing (f : Flags) : Casing :=
  if !f.ignoreCase then .exact else if f.unicode then .unicode else .ascii

/-- Behind a comment, or within one. -/
def skipFrom (comment : Bool) : List Char → List Char
  | [] => []
  | c :: cs =>
    if comment then skipFrom (c != '\n') cs
    else if Text.isBlank c then skipFrom false cs
    else if c = '#' then skipFrom true cs
    else c :: cs

/-- What is left of a pattern behind what does not count. -/
def skip (f : Flags) (cs : List Char) : List Char := if f.spaced then skipFrom false cs else cs

def letters : List Char := "imsURux".toList

/-- Whether a repetition takes little or much makes no difference to whether it matches, so `U`
changes nothing. -/
def set (f : Flags) (on : Bool) (c : Char) : Flags :=
  match c with
  | 'i' => { f with ignoreCase := on }
  | 'm' => { f with multiline := on }
  | 's' => { f with dotAll := on }
  | 'R' => { f with carriage := on }
  | 'u' => { f with unicode := on }
  | 'x' => { f with spaced := on }
  | _ => f

/-- Sets the flags in front of a hyphen, and clears those behind it. -/
def apply (f : Flags) (items : List Char) : Flags :=
  let on := (items.takeWhile (· != '-')).foldl (fun f c => f.set true c) f
  (items.dropWhile (· != '-')).foldl (fun f c => f.set false c) on

/-- Each flag once, and one hyphen that is not the last. -/
def areItems (items : List Char) : Bool :=
  items.all (fun c => letters.contains c || c == '-') && decide items.Nodup &&
    items.getLast? != some '-'

end Flags
end Isl.Pattern
