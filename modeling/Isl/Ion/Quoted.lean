import Isl.Ion.Cursor
import Isl.Number.Digits
import Isl.Text.Hex
/-!
# Quoted text

Strings and quoted symbols between single quotes, double quotes, or threefold single quotes.
`escape` reads what follows a backslash.
-/
namespace Isl.Ion

/-- The characters that make up exactly the next `n` bytes. -/
def bytesPrefix? : Nat → List Char → Option (List Char)
  | 0, _ => some []
  | _ + 1, [] => none
  | n + 1, c :: cs =>
    if c.utf8Size ≤ n + 1 then (bytesPrefix? (n + 1 - c.utf8Size) cs).map (c :: ·) else none
termination_by _ cs => cs.length

/-- The character with this number, unless it is no character. -/
def charOfNat? (n : Nat) : Option Char := if n.isValidChar then some (Char.ofNat n) else none

/-- A hexadecimal numeral with a plus sign or none. -/
def hexNumeral? (cs : List Char) : Option Nat :=
  Digits.numeral? Text.hexValue? 16 (match cs with | '+' :: ds => ds | ds => ds)

/-- The escapes of a single letter. -/
def simpleEscape? (c : Char) : Option (List Char) :=
  match c with
  | 'n' => some ['\n']
  | 't' => some ['\t']
  | 'r' => some ['\r']
  | '0' => some ['\x00']
  | 'a' => some ['\x07']
  | 'b' => some ['\x08']
  | 'f' => some ['\x0c']
  | 'v' => some ['\x0b']
  | '\\' | '"' | '\'' | '/' | '?' => some [c]
  | '\n' => some []
  | _ => none

/-- How many hexadecimal digits an escape of this letter takes. -/
def hexEscapeWidth? (c : Char) : Option Nat :=
  match c with
  | 'x' => some 2
  | 'u' => some 4
  | 'U' => some 8
  | _ => none

/-- Reads what follows a backslash: the text it stands for and how many characters it took. An
escaped newline stands for nothing. -/
def escape : List Char → Except SyntaxFault (List Char × Nat)
  | [] => .error .unterminatedEscape
  | c :: cs =>
    match simpleEscape? c, hexEscapeWidth? c with
    | some text, _ => .ok (text, 1)
    | none, some width =>
      let digits := (bytesPrefix? width cs).getD []
      match (hexNumeral? digits).bind charOfNat? with
      | some x => if digits.length = width then .ok ([x], width + 1)
        else .error (.invalidHexEscape (String.ofList digits))
      | none => .error (.invalidHexEscape (String.ofList digits))
    | none, none => .error (.invalidEscape c)

/-- Reads up to the closing quote, behind the opening one. -/
def quotedText (quote : Char) (cs : List Char) (n : Nat) (acc : List Char) :
    Reading (List Char × Cursor) :=
  match cs with
  | [] => .error ⟨n, .unterminatedString⟩
  | c :: cs =>
    if c = quote then .ok (acc.reverse, ⟨cs, n + c.utf8Size⟩)
    else if c = '\\' then
      match escape cs with
      | .error fault => .error ⟨n + 1 + byteCount (cs.take 1), fault⟩
      | .ok (text, taken) =>
        quotedText quote (cs.drop taken) (n + 1 + byteCount (cs.take taken)) (text.reverse ++ acc)
    else if c = '\n' ∧ quote = '"' then .error ⟨n + 1, .newlineInString⟩
    else quotedText quote cs (n + c.utf8Size) (c :: acc)
termination_by cs.length

/-- Reads a short string or a quoted symbol at its opening quote. -/
def quoted? (quote : Char) (c : Cursor) : Reading (List Char × Cursor) :=
  quotedText quote (c.rest.drop 1) (c.offset + 1) []

def longQuote : List Char := ['\'', '\'', '\'']

/-- Reads up to the closing quotes of one long string, behind the opening ones. -/
def longSegment (cs : List Char) (n : Nat) (acc : List Char) : Reading (List Char × Cursor) :=
  match cs with
  | '\'' :: '\'' :: '\'' :: cs => .ok (acc, ⟨cs, n + 3⟩)
  | [] => .error ⟨n, .unterminatedLongString⟩
  | c :: cs =>
    if c = '\\' then
      match escape cs with
      | .error fault => .error ⟨n + 1 + byteCount (cs.take 1), fault⟩
      | .ok (text, taken) =>
        longSegment (cs.drop taken) (n + 1 + byteCount (cs.take taken)) (text.reverse ++ acc)
    else longSegment cs (n + c.utf8Size) (c :: acc)
termination_by cs.length

/-- Reads adjacent long strings as one. The cursor stays right behind the last of them. -/
def longText : Nat → Cursor → List Char → Reading (List Char × Cursor)
  | 0, c, _ => c.fail .unterminatedLongString
  | budget + 1, c, acc => do
    let (acc, c) ← longSegment (c.rest.drop 3) (c.offset + 3) acc
    let next ← skipBlank c
    if next.startsWith longQuote then longText budget next acc else .ok (acc.reverse, c)

end Isl.Ion
