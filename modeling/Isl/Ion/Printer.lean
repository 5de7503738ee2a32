import Isl.Ion.Value
import Isl.Number.FloatText
import Isl.Text.Base64
import Isl.Text.Blank
/-!
# Ion text of a value

One spelling per value. Symbols are quoted unless they are plain identifiers, control characters
are escaped, decimals keep coefficient and scale, and fields keep their order.
-/
namespace Isl.Ion

def isIdentStart (c : Char) : Bool := c.isAlpha || c == '_' || c == '$'

def isIdentChar (c : Char) : Bool := c.isAlphanum || c == '_' || c == '$'

/-- Identifiers that are values of their own. -/
def keywords : List String := ["null", "true", "false", "nan"]

def isIdentifier : List Char → Bool
  | [] => false
  | c :: cs => isIdentStart c && cs.all isIdentChar && !keywords.contains (String.ofList (c :: cs))

def escapeChar (quote c : Char) : List Char :=
  if c = '\\' then ['\\', '\\']
  else if c = '\n' then ['\\', 'n']
  else if c = '\t' then ['\\', 't']
  else if c = '\r' then ['\\', 'r']
  else if c = quote then ['\\', c]
  else if Text.isControl c then '\\' :: 'u' :: Text.hexDigits 4 c.toNat
  else [c]

def quoted (quote : Char) (cs : List Char) : List Char :=
  quote :: (cs.flatMap (escapeChar quote) ++ [quote])

def symbolChars (s : String) : List Char :=
  if isIdentifier s.toList then s.toList else quoted '\'' s.toList

/-- `1.50`, or `2d0` and `15d1` where no digit stands behind the point. -/
def decimalChars (d : Decimal) : List Char :=
  let ds := Digits.decimal d.coefficient.natAbs
  d.signChars ++
    (if d.scale ≤ 0 then ds ++ 'd' :: Digits.decimal (-d.scale).toNat
     else Decimal.placePoint ds d.scale.toNat)

def intChars (n : Int) : List Char := (if n < 0 then ['-'] else []) ++ Digits.decimal n.natAbs

def clobByteChars (b : UInt8) : List Char :=
  if b = 34 then ['\\', '"']
  else if b = 92 then ['\\', '\\']
  else if 0x20 ≤ b ∧ b ≤ 0x7e then [Char.ofNat b.toNat]
  else '\\' :: 'x' :: Text.hexDigits 2 b.toNat

def annotationChars (names : List String) : List Char :=
  names.flatMap fun name => symbolChars name ++ [':', ':']

mutual

def valueChars : Value → List Char
  | .null t => "null".toList ++ (if t = .null then [] else '.' :: t.name.toList)
  | .bool b => (if b then "true" else "false").toList
  | .int n => intChars n
  | .float x => x.ionChars
  | .decimal d => decimalChars d
  | .timestamp t => t.toChars
  | .symbol s => symbolChars s
  | .string s => quoted '"' s.toList
  | .clob bytes => '\x7b' :: '\x7b' :: '"' :: (bytes.flatMap clobByteChars ++ ['"', '\x7d', '\x7d'])
  | .blob bytes => '\x7b' :: '\x7b' :: (Base64.encode bytes ++ ['\x7d', '\x7d'])
  | .list es => '[' :: (itemsChars [',', ' '] es ++ [']'])
  | .sexp es => '(' :: (itemsChars [' '] es ++ [')'])
  | .struct fs => '\x7b' :: (fieldsChars fs ++ ['\x7d'])

def elementChars : Element → List Char
  | ⟨names, v⟩ => annotationChars names ++ valueChars v

/-- Items with a separator between any two. -/
def itemsChars (separator : List Char) : List Element → List Char
  | [] => []
  | [e] => elementChars e
  | e :: es => elementChars e ++ (separator ++ itemsChars separator es)

def fieldChars : Field → List Char
  | ⟨name, e⟩ => symbolChars name ++ ':' :: ' ' :: elementChars e

def fieldsChars : List Field → List Char
  | [] => []
  | [f] => fieldChars f
  | f :: fs => fieldChars f ++ (',' :: ' ' :: fieldsChars fs)

end

end Isl.Ion

namespace Isl.Element

def toText (e : Element) : String := String.ofList (Ion.elementChars e)

end Isl.Element
