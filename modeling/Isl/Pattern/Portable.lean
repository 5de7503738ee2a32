import Isl.Version
/-!
# The portable subset of patterns

Patterns are checked character by character and spelled out on the way: class escapes become
explicit ASCII classes, and a tilde within a class is escaped. There are no groups that begin with
`(?`, no lazy or possessive quantifiers, and no set operators.

`Place` says what the scanner stands behind, and `step` reads one character. A refusal names the
offset of a character.
-/
namespace Isl.Pattern

inductive PortableFault where
  | invalidCharacter (c : Char)
  | invalidEscape (c : Char)
  | escapeAtEnd
  | intersection
  | nestedClass
  | invalidClassEscape (c : Char)
  | unclosedClass
  | missingLowerBound
  | unclosedQuantifier
deriving DecidableEq, Repr

def PortableFault.message : PortableFault → String
  | invalidCharacter c => s!"invalid character '{c}'"
  | invalidEscape c => s!"invalid escape character '{c}'"
  | escapeAtEnd => "invalid escape character at end of pattern"
  | intersection => "'&&' is not supported in a character class"
  | nestedClass => "'[' must be escaped within a character class"
  | invalidClassEscape c => s!"invalid sequence '\\{c}' in character class"
  | unclosedClass => "character class missing ']'"
  | missingLowerBound => "range quantifier is missing lower bound"
  | unclosedQuantifier => "range quantifier missing '\x7d'"

/-- What the scanner stands behind. -/
inductive Place where
  /-- The beginning, or a quantifier that can take no suffix any more. -/
  | start
  | escape
  /-- An opening parenthesis. -/
  | opening
  /-- A class that is not closed yet; the flag tells that its last character is `&`. -/
  | inClass (ampersand : Bool)
  | classEscape
  /-- An atom; a quantifier may follow. -/
  | atom
  /-- An opening brace; the flag tells that a digit has been read. -/
  | braces (digit : Bool)
  | quantifier
deriving DecidableEq, Repr

def digitRange : List Char := "0-9".toList
def wordRange : List Char := "0-9A-Za-z_".toList
def spaceRange : List Char := " \\f\\n\\r\\t".toList

/-- The class that a letter behind a backslash names, and whether it is negated. -/
def namedClass? (c : Char) : Option (List Char × Bool) :=
  match c with
  | 'd' => some (digitRange, false)
  | 'D' => some (digitRange, true)
  | 'w' => some (wordRange, false)
  | 'W' => some (wordRange, true)
  | 's' => some (spaceRange, false)
  | 'S' => some (spaceRange, true)
  | _ => none

def bracketed (members : List Char) (negated : Bool) : List Char :=
  '[' :: ((if negated then ['^'] else []) ++ members ++ [']'])

/-- Characters that mean themselves behind a backslash. -/
def literalEscapes : List Char :=
  ['.', '^', '$', '|', '?', '*', '+', '\\', '[', ']', '(', ')', '\x7b', '\x7d']

/-- A character read, with the place behind it and what is written for it. -/
abbrev Stepped := Except (PortableFault × Nat) (Place × List Char)

/-- Reads the first character of an atom. -/
def stepStart (c : Char) : Place × List Char :=
  match c with
  | '[' => (.inClass false, [c])
  | '(' => (.opening, [c])
  | '\\' => (.escape, [])
  | _ => (.atom, [c])

/-- Reads a character where a quantifier may stand. -/
def stepAtom (c : Char) : Place × List Char :=
  if c = '?' ∨ c = '*' ∨ c = '+' then (.quantifier, [c])
  else if c = '\x7b' then (.braces false, [c])
  else stepStart c

def stepEscape (c : Char) (at_ : Nat) : Stepped :=
  if literalEscapes.contains c then .ok (.atom, ['\\', c])
  else match namedClass? c with
    | some (members, negated) => .ok (.atom, bracketed members negated)
    | none => .error (.invalidEscape c, at_)

def stepClass (ampersand : Bool) (c : Char) (at_ : Nat) : Stepped :=
  if c = '&' then
    if ampersand then .error (.intersection, at_ - 1) else .ok (.inClass true, [c])
  else if c = '[' then .error (.nestedClass, at_)
  else if c = '\\' then .ok (.classEscape, [])
  else if c = ']' then .ok (.atom, [c])
  else if c = '~' then .ok (.inClass false, ['\\', '~'])
  else .ok (.inClass false, [c])

/-- Behind a backslash in a class. Named classes are known there from version 2.0 on; a negated one
is a class of its own. -/
def stepClassEscape (version : IslVersion) (c : Char) (at_ : Nat) : Stepped :=
  if c = '[' ∨ c = ']' ∨ c = '\\' then .ok (.inClass false, ['\\', c])
  else match version, namedClass? c with
    | .v2, some (members, negated) =>
      .ok (.inClass false, if negated then bracketed members true else members)
    | _, _ => .error (.invalidClassEscape c, at_)

def stepBraces (digit : Bool) (c : Char) (at_ : Nat) : Stepped :=
  if c.isDigit then .ok (.braces true, [c])
  else if c = ',' then
    if digit then .ok (.braces digit, [c]) else .error (.missingLowerBound, at_)
  else if c = '\x7d' then .ok (.quantifier, [c])
  else .error (.invalidCharacter c, at_)

/-- Reads the character at an offset. -/
def step (version : IslVersion) (place : Place) (c : Char) (at_ : Nat) : Stepped :=
  match place with
  | .start => .ok (stepStart c)
  | .atom => .ok (stepAtom c)
  | .opening => if c = '?' then .error (.invalidCharacter c, at_) else .ok (stepAtom c)
  | .quantifier =>
    if c = '?' ∨ c = '+' then .error (.invalidCharacter c, at_) else .ok (stepStart c)
  | .escape => stepEscape c at_
  | .inClass ampersand => stepClass ampersand c at_
  | .classEscape => stepClassEscape version c at_
  | .braces digit => stepBraces digit c at_

/-- What is missing where the pattern ends. -/
def endFault? : Place → Option PortableFault
  | .escape => some .escapeAtEnd
  | .inClass _ | .classEscape => some .unclosedClass
  | .braces _ => some .unclosedQuantifier
  | _ => none

/-- Reads the characters from an offset on. -/
def scan (version : IslVersion) : Place → Nat → List Char → Except (PortableFault × Nat) (List Char)
  | place, at_, [] =>
    match endFault? place with
    | some fault => .error (fault, at_ - 1)
    | none => .ok []
  | place, at_, c :: cs => do
    let (next, out) ← step version place c at_
    let rest ← scan version next (at_ + 1) cs
    .ok (out ++ rest)

/-- The pattern spelled out in the syntax that is matched, or the fault and the offset that refuse
it. -/
def expand (version : IslVersion) (cs : List Char) :
    Except (PortableFault × Nat) (List Char) :=
  scan version .start 0 cs

end Isl.Pattern
