import Isl.Pattern.Flags
import Isl.Pattern.Regex
import Isl.Text.Hex
import Isl.Unicode.Query
/-!
# Escapes

What a backslash and the characters behind it stand for: a character, a set of characters, or an
assertion. Where Unicode is off there are no sets that go beyond ASCII.
-/
namespace Isl.Pattern

inductive Escape where
  | character (c : Char)
  | set (s : ClassSet)
  | assertion (a : Assertion)

namespace Escape

/-- Marks of ASCII stand for themselves, and some letters for control characters. -/
def character? (c : Char) : Option Char :=
  match c with
  | 'a' => some '\x07'
  | 'f' => some '\x0c'
  | 't' => some '\t'
  | 'n' => some '\n'
  | 'r' => some '\r'
  | 'v' => some '\x0b'
  | _ => if c.toNat < 0x80 ∧ !c.isAlphanum ∧ c ≠ '<' ∧ c ≠ '>' then some c else none

/-! ## Characters by number -/

def ofCode? (n : Nat) : Option Char := if n.isValidChar then some (Char.ofNat n) else none

/-- So many hexadecimal digits. -/
def digits? (f : Flags) : Nat → Nat → List Char → Option (Nat × List Char)
  | 0, n, cs => some (n, cs)
  | _ + 1, _, [] => none
  | count + 1, n, c :: cs => do
    let d ← Text.hexValue? c
    digits? f count (n * 16 + d) (f.skip cs)

/-- Hexadecimal digits up to a closing brace. -/
def bracedDigits? (f : Flags) : Nat → Option Nat → List Char → Option (Nat × List Char)
  | 0, _, _ => none
  | fuel + 1, n, cs =>
    match f.skip cs with
    | [] => none
    | '\x7d' :: cs => n.map (·, f.skip cs)
    | c :: cs => do
      let d ← Text.hexValue? c
      bracedDigits? f fuel (some (n.getD 0 * 16 + d)) cs

/-- How many digits stand behind a letter when there are no braces. -/
def digitCount : Char → Nat
  | 'x' => 2
  | 'u' => 4
  | _ => 8

/-- A character by its number, behind the letter. Without Unicode two digits are a byte, and bytes
beyond ASCII are no characters. -/
def byNumber? (f : Flags) (letter : Char) (cs : List Char) : Option (Escape × List Char) :=
  match f.skip cs with
  | '\x7b' :: cs => do
    let (n, rest) ← bracedDigits? f (cs.length + 1) none cs
    some (character (← ofCode? n), rest)
  | cs => do
    let (n, rest) ← digits? f (digitCount letter) 0 cs
    if letter = 'x' ∧ !f.unicode ∧ 0x80 ≤ n then none
    else some (character (← ofCode? n), rest)

/-! ## Sets by name -/

def table (s : Unicode.CodeSet) (negated : Bool) : ClassSet := .table s.ranges.toArray negated

/-- Digits, blanks or word characters, behind the letter. -/
def named? (f : Flags) (letter : Char) : Option ClassSet :=
  let negated := letter.isUpper
  let (members, kind) : Unicode.CodeSet × AsciiClass := match letter.toLower with
    | 'd' => (Unicode.Category.decimalNumber, .digit)
    | 's' => (Unicode.Property.whiteSpace, .space)
    | _ => (Unicode.Property.word, .word)
  if f.unicode then some (table members negated)
  else if negated then none else some (.ascii kind false)

/-- The characters up to a closing brace. -/
def bracedName? (f : Flags) : Nat → List Char → List Char → Option (List Char × List Char)
  | 0, _, _ => none
  | fuel + 1, name, cs =>
    match f.skip cs with
    | [] => none
    | '\x7d' :: cs => some (name.reverse, cs)
    | c :: cs => bracedName? f fuel (c :: name) cs

/-- What stands on either side of a mark. -/
def aroundMark? (mark : List Char) : List Char → Option (List Char × List Char)
  | [] => none
  | c :: cs =>
    if mark.isPrefixOf (c :: cs) then some ([], (c :: cs).drop mark.length)
    else (aroundMark? mark cs).map fun sides => (c :: sides.1, sides.2)

/-- The set of a name, or of a property and a value. Any of the three marks reads the same. -/
def propertySet? (name : List Char) : Option Unicode.CodeSet :=
  match (aroundMark? ['!', '='] name).or ((aroundMark? [':'] name).or (aroundMark? ['='] name)) with
  | some (property, value) => Unicode.findValue? property value
  | none => Unicode.find? name

/-- A set by the name of a property, behind the letter `p` or `P`. -/
def property? (f : Flags) (negated : Bool) (cs : List Char) : Option (Escape × List Char) := do
  let (name, rest) ← match f.skip cs with
    | '\x7b' :: cs => bracedName? f (cs.length + 1) [] cs
    | '\\' :: _ | [] => none
    | c :: cs => some ([c], f.skip cs)
  let s ← propertySet? name
  if f.unicode then some (set (table s negated), rest) else none

/-! ## Edges of words -/

def wordMembers (f : Flags) : Array Unicode.CodeRange :=
  if f.unicode then Unicode.Property.word.ranges.toArray else AsciiClass.word.ranges.toArray

def edge (f : Flags) (e : WordEdge) : Escape := assertion (.word e (wordMembers f))

def isEdgeChar (c : Char) : Bool := c.isAlpha || c == '-'

/-- The letters and hyphens in front. -/
def edgeName (f : Flags) : Nat → List Char → List Char → List Char × List Char
  | fuel + 1, name, c :: cs =>
    if isEdgeChar c then edgeName f fuel (c :: name) (f.skip cs) else (name.reverse, c :: cs)
  | _, name, cs => (name.reverse, cs)

def edgeOf? (name : String) : Option WordEdge :=
  [("start", WordEdge.start), ("end", .finish), ("start-half", .startHalf),
    ("end-half", .finishHalf)].lookup name

/-- An edge by name in braces, behind `\b`. Braces without a name count repetitions. -/
def edge? (f : Flags) (cs : List Char) : Option (Escape × List Char) :=
  match cs with
  | '\x7b' :: inner =>
    match f.skip inner with
    | [] => none
    | c :: inner =>
      if isEdgeChar c then
        match edgeName f (inner.length + 1) [] (c :: inner) with
        | (name, '\x7d' :: rest) => (edgeOf? (String.ofList name)).map fun e => (edge f e, rest)
        | _ => none
      else some (edge f .either, cs)
  | _ => some (edge f .either, cs)

/-- Reads an escape behind its backslash. -/
def read? (f : Flags) : List Char → Option (Escape × List Char)
  | [] => none
  | c :: cs =>
    match c with
    | 'x' | 'u' | 'U' => byNumber? f c cs
    | 'p' => property? f false cs
    | 'P' => property? f true cs
    | 'd' | 's' | 'w' | 'D' | 'S' | 'W' => (named? f c).map fun s => (set s, cs)
    | 'A' => some (assertion (.lineStart .whole), cs)
    | 'z' => some (assertion (.lineEnd .whole), cs)
    | 'b' => edge? f cs
    | 'B' => some (edge f .none, cs)
    | '<' => some (edge f .start, cs)
    | '>' => some (edge f .finish, cs)
    | _ => (character? c).map fun c => (character c, cs)

end Escape
end Isl.Pattern
