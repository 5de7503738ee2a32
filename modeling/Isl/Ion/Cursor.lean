import Isl.Text.Base64
import Isl.Text.Blank
/-!
# Places in Ion text

A cursor is the text still to be read and the number of bytes before it. What can be wrong with a
text is a `SyntaxFault`, found at a byte offset. `skipBlank` steps over blanks and comments.
-/
namespace Isl.Ion

inductive SyntaxFault where
  | unterminatedComment
  | tooDeep (limit : Nat)
  | unexpectedEnd
  | unexpectedCharacter (c : Char)
  | expectedCharacter (c : Char)
  | unknownNullType (name : String)
  | invalidTimestamp (text : String)
  /-- A radix form without a digit of its radix in it, or with something else. -/
  | invalidRadixInt (token : String)
  | invalidInt (token : String)
  | leadingZeros (token : String)
  | invalidFloat (token : String)
  | invalidDecimal (token : String)
  | unterminatedString
  | newlineInString
  | unterminatedLongString
  | unterminatedEscape
  | invalidEscape (c : Char)
  | invalidHexEscape (digits : String)
  | unterminatedBlob
  | invalidBase64 (fault : Base64.Fault)
  | expectedLobEnd
  | listSeparator
  | unterminatedSexp
  | expectedFieldName
  | annotatedFieldName
  | structSeparator
deriving DecidableEq

def SyntaxFault.message : SyntaxFault → String
  | unterminatedComment => "unterminated block comment"
  | tooDeep limit => s!"nesting depth exceeds limit of {limit}"
  | unexpectedEnd => "unexpected end of input"
  | unexpectedCharacter c => s!"unexpected character '{c}'"
  | expectedCharacter c => s!"expected '{c}'"
  | unknownNullType name => s!"unknown null type '{name}'"
  | invalidTimestamp text => s!"invalid timestamp: {text}"
  | invalidRadixInt token => s!"invalid int '{token}'"
  | invalidInt token => s!"invalid int '{token}': invalid digit found in string"
  | leadingZeros token => s!"leading zeros are not allowed: {token}"
  | invalidFloat token => s!"invalid float '{token}': invalid float literal"
  | invalidDecimal token => s!"invalid decimal '{token}'"
  | unterminatedString => "unterminated string"
  | newlineInString => "newline in string"
  | unterminatedLongString => "unterminated long string"
  | unterminatedEscape => "unterminated escape"
  | invalidEscape c => s!"invalid escape '\\{c}'"
  | invalidHexEscape digits => s!"invalid hex escape '{digits}'"
  | unterminatedBlob => "unterminated blob"
  | invalidBase64 fault => s!"invalid base64 in blob: {fault.message}"
  | expectedLobEnd => "expected '\x7d\x7d'"
  | listSeparator => "expected ',' or ']' in list"
  | unterminatedSexp => "unterminated s-expression"
  | expectedFieldName => "expected field name"
  | annotatedFieldName => "field names cannot be annotated"
  | structSeparator => "expected ',' or '\x7d' in struct"

structure SyntaxError where
  offset : Nat
  fault : SyntaxFault
deriving DecidableEq

structure Cursor where
  rest : List Char
  offset : Nat

/-- A result, unless the text is at fault. -/
abbrev Reading := Except SyntaxError

/-- The bytes of a text in UTF-8. -/
def byteCount (cs : List Char) : Nat := cs.foldl (fun n c => n + c.utf8Size) 0

namespace Cursor

def ofText (s : String) : Cursor := ⟨s.toList, 0⟩

def fail (c : Cursor) (fault : SyntaxFault) : Reading α := .error ⟨c.offset, fault⟩

/-- The cursor behind the next `n` characters. -/
def drop (c : Cursor) (n : Nat) : Cursor := ⟨c.rest.drop n, c.offset + byteCount (c.rest.take n)⟩

/-- The longest run of characters of a class, and the cursor behind it. -/
def takeWhile (c : Cursor) (p : Char → Bool) : List Char × Cursor :=
  let run := c.rest.takeWhile p
  (run, ⟨c.rest.dropWhile p, c.offset + byteCount run⟩)

def startsWith (c : Cursor) (cs : List Char) : Bool := cs.isPrefixOf c.rest

end Cursor

/-- Where a scan for blanks stands. -/
inductive Blank where
  | space
  | line
  /-- A block comment that began at this offset. -/
  | block (start : Nat)

def skipBlankFrom : Blank → List Char → Nat → Reading Cursor
  | .space, '/' :: '/' :: cs, n => skipBlankFrom .line cs (n + 2)
  | .space, '/' :: '*' :: cs, n => skipBlankFrom (.block n) cs (n + 2)
  | .space, c :: cs, n =>
    if Text.isBlank c then skipBlankFrom .space cs (n + c.utf8Size) else .ok ⟨c :: cs, n⟩
  | .line, c :: cs, n =>
    skipBlankFrom (if c = '\n' then .space else .line) cs (n + c.utf8Size)
  | .block _, '*' :: '/' :: cs, n => skipBlankFrom .space cs (n + 2)
  | .block start, c :: cs, n => skipBlankFrom (.block start) cs (n + c.utf8Size)
  | .block start, [], _ => .error ⟨start, .unterminatedComment⟩
  | _, [], n => .ok ⟨[], n⟩

/-- Steps over blanks, line comments and block comments. -/
def skipBlank (c : Cursor) : Reading Cursor := skipBlankFrom .space c.rest c.offset

end Isl.Ion
