import Isl.Unicode.Hidden
/-!
# Lists of texts in messages

Texts in double quotes between brackets. Quotes, backslashes and characters that do not show are
escaped.
-/
namespace Isl.Text

/-- The ranges of characters that do not show. -/
def hiddenRanges : Array Unicode.CodeRange := Unicode.hidden.ranges.toArray

def isHidden (c : Char) : Bool :=
  Unicode.CodeRanges.contains hiddenRanges c.toNat

def shownChar (c : Char) : List Char :=
  if c = '"' then ['\\', '"']
  else if c = '\\' then ['\\', '\\']
  else if c = '\n' then ['\\', 'n']
  else if c = '\r' then ['\\', 'r']
  else if c = '\t' then ['\\', 't']
  else if c = '\x00' then ['\\', '0']
  else if isHidden c then ['\\', 'u', '\x7b'] ++ Nat.toDigits 16 c.toNat ++ ['\x7d']
  else [c]

def shown (s : String) : String :=
  String.ofList ('"' :: (s.toList.flatMap shownChar ++ ['"']))

def listed (texts : List String) : String :=
  "[" ++ ", ".intercalate (texts.map shown) ++ "]"

end Isl.Text
