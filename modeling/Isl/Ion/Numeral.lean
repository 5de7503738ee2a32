import Isl.Ion.Cursor
import Isl.Ion.Value
import Isl.Number.FloatText
import Isl.Text.Hex
/-!
# Numbers and timestamps

A token of digits, letters and a few marks is told apart by its form: a timestamp, an int in base
ten, two or sixteen, a float with an exponent `e`, or a decimal with a point or an exponent `d`.
Underscores are dropped from numbers. Ints and decimals are exact; a decimal whose exponent or
scale does not fit 64 bits is refused.
-/
namespace Isl.Ion

def isNumeralChar (c : Char) : Bool :=
  c.isAlphanum || c == '_' || c == '.' || c == ':' || c == '+' || c == '-'

/-- Four digits, then `-` or `T`. -/
def looksLikeTimestamp (cs : List Char) : Bool :=
  (cs.take 4).length == 4 && (cs.take 4).all Char.isDigit &&
    (match cs.drop 4 with
      | '-' :: _ | 'T' :: _ => true
      | _ => false)

def digitValue? (c : Char) : Option Nat :=
  if c.isDigit then some (c.toNat - '0'.toNat) else none

def binaryValue? (c : Char) : Option Nat :=
  if c = '0' then some 0 else if c = '1' then some 1 else none

/-- A numeral with one sign or none. -/
def signed? (value? : Char → Option Nat) (radix : Nat) : List Char → Option Int
  | '-' :: cs => (Digits.numeral? value? radix cs).map fun n => -(n : Int)
  | '+' :: cs => (Digits.numeral? value? radix cs).map Int.ofNat
  | cs => (Digits.numeral? value? radix cs).map Int.ofNat

def fits64 (n : Int) : Bool := -0x8000000000000000 ≤ n && n < 0x8000000000000000

/-- `[-]whole[.fraction][d exponent]`, with the scale it is written with. -/
def decimal? (cs : List Char) : Option Decimal := do
  let isMark (c : Char) : Bool := c == 'd' || c == 'D'
  let mantissa := cs.takeWhile (!isMark ·)
  let exponent ← match cs.dropWhile (!isMark ·) with
    | [] => some 0
    | _ :: text => signed? digitValue? 10 text
  if !fits64 exponent then none
  let (negative, mantissa) : Bool × List Char := match mantissa with
    | '-' :: ds => (true, ds)
    | ds => (false, ds)
  let whole := mantissa.takeWhile (· != '.')
  let fraction := (mantissa.dropWhile (· != '.')).drop 1
  if whole.isEmpty then none
  let magnitude ← Digits.numeral? digitValue? 10 (whole ++ fraction)
  let scale : Int := fraction.length - exponent
  if !fits64 scale then none
  some ⟨if negative then -magnitude else magnitude, scale⟩

/-- The radix that a numeral announces. -/
def radix? : List Char → Option (Nat × (Char → Option Nat))
  | '0' :: c :: _ =>
    if c = 'x' ∨ c = 'X' then some (16, Text.hexValue?)
    else if c = 'b' ∨ c = 'B' then some (2, binaryValue?)
    else none
  | _ => none

def hasLeadingZero : List Char → Bool
  | '0' :: c :: _ => c.isDigit
  | _ => false

/-- The value of a numeric token. -/
def numeral (cs : List Char) : Except SyntaxFault Value :=
  let token := String.ofList cs
  if looksLikeTimestamp cs then
    match Timestamp.parse? cs with
    | some t => .ok (.timestamp t)
    | none => .error (.invalidTimestamp token)
  else
    let cleaned := cs.filter (· != '_')
    let (negative, unsigned) : Bool × List Char := match cleaned with
      | '-' :: ds => (true, ds)
      | ds => (false, ds)
    match radix? unsigned with
    | some (radix, value?) =>
      match signed? value? radix (unsigned.drop 2) with
      | some n => .ok (.int (if negative then -n else n))
      | none => .error (.invalidRadixInt token)
    | none =>
      if hasLeadingZero unsigned then .error (.leadingZeros token)
      else if cleaned.any fun c => c == 'e' || c == 'E' then
        match Binary64.parse? cleaned with
        | some x => .ok (.float x)
        | none => .error (.invalidFloat token)
      else if cleaned.any fun c => c == 'd' || c == 'D' || c == '.' then
        match decimal? cleaned with
        | some d => .ok (.decimal d)
        | none => .error (.invalidDecimal token)
      else
        match signed? digitValue? 10 cleaned with
        | some n => .ok (.int n)
        | none => .error (.invalidInt token)

end Isl.Ion
