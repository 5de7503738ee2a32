import Isl.Number.Binary64
/-!
# Text of floating point numbers

`shortest` finds the fewest decimal digits that read back as the same number, and of those the
nearest; of two equally near ones, the one farther from zero. Ion text writes them with an exponent
(`1.5e0`), messages without one (`1.5`). `Binary64.parse?` reads decimal text of any length,
rounding once.
-/
namespace Isl.Binary64

/-- The distance between `num / den` and `c · 10 ^ p`, as a numerator over `den · 10 ^ |p|`. -/
def gap (num den : Nat) (p : Int) (c : Nat) : Nat :=
  let x := num * Decimal.tenTo (-p).toNat
  let y := c * (den * Decimal.tenTo p.toNat)
  if x ≤ y then y - x else x - y

/-- The best of the two neighbours of `num / den` on the grid of `10 ^ p` that read back as `x`. -/
def onGrid? (x : Binary64) (num den : Nat) (p : Int) : Option Nat :=
  let below := num * Decimal.tenTo (-p).toNat / (den * Decimal.tenTo p.toNat)
  let good c := ofScientific false c p = x
  if good below then
    if good (below + 1) ∧ gap num den p (below + 1) ≤ gap num den p below then some (below + 1)
    else some below
  else if good (below + 1) then some (below + 1)
  else none

/-- Tries grids of ever more digits; `lead` is the exponent of ten of the leading digit. -/
def searchGrids (x : Binary64) (num den : Nat) (lead : Int) : Nat → Int → Option (Nat × Int)
  | 0, _ => none
  | tries + 1, p =>
    match onGrid? x num den p with
    | some c => some (c, p)
    | none => searchGrids x num den lead tries (p - 1)

/-- The exponent of ten of the leading digit of `num / den`. -/
def leadingPlace (num den : Nat) : Int :=
  let guess : Int := Decimal.digitCount num - Decimal.digitCount den
  if num * Decimal.tenTo (-guess).toNat < den * Decimal.tenTo guess.toNat then guess - 1 else guess

/-- Drops the zeros at the end of a coefficient into its exponent. -/
def stripZeros : Nat → Nat → Int → Nat × Int
  | 0, c, p => (c, p)
  | fuel + 1, c, p =>
    if c ≠ 0 ∧ c % 10 = 0 then stripZeros fuel (c / 10) (p + 1) else (c, p)

/-- Coefficient and exponent of ten of the shortest decimal that reads back as the magnitude
`m · 2 ^ e`. Seventeen digits are always enough; the exact worth stands behind them. -/
def shortest (m : Nat) (e : Int) (h : Canonical m e) : Nat × Int :=
  if m = 0 then (0, 0) else
    let num := m <<< e.toNat
    let den := 1 <<< (-e).toNat
    let lead := leadingPlace num den
    match searchGrids (.finite false m e h) num den lead 17 lead with
    | some (c, p) => stripZeros (Decimal.digitCount c) c p
    | none => if 0 ≤ e then (num, 0) else (m * Nat.pow 5 (-e).toNat, e)

/-- One digit, a point and the others if there are any, then the exponent. -/
def scientificChars (negative : Bool) (c : Nat) (p : Int) : List Char :=
  let ds := Digits.decimal c
  let lead : Int := p + (ds.length - 1 : Nat)
  (if negative then ['-'] else []) ++ ds.take 1 ++
    (if ds.length ≤ 1 then [] else '.' :: ds.drop 1) ++
    'e' :: ((if lead < 0 then ['-'] else []) ++ Digits.decimal lead.natAbs)

/-- All digits in place, however many zeros that takes. -/
def positionalChars (negative : Bool) (c : Nat) (p : Int) : List Char :=
  let ds := Digits.decimal c
  (if negative then ['-'] else []) ++
    (if 0 ≤ p then (if c = 0 then ds else ds ++ List.replicate p.toNat '0')
     else Decimal.placePoint ds (-p).toNat)

/-- Text with an exponent, as Ion writes floats. -/
def ionChars : Binary64 → List Char
  | .nan => "nan".toList
  | .infinite negative => (if negative then "-inf" else "+inf").toList
  | .finite negative m e h =>
    let (c, p) := shortest m e h
    scientificChars negative c p

/-- Text without an exponent, as messages show floats. -/
def display : Binary64 → String
  | .nan => "NaN"
  | .infinite negative => if negative then "-inf" else "inf"
  | .finite negative m e h =>
    let (c, p) := shortest m e h
    String.ofList (positionalChars negative c p)

/-- The worth of the digits of an exponent. One that has come to 2 ^ 16 takes no more digits. -/
def exponentDigits (cs : List Char) : Nat :=
  cs.foldl (fun n c => if n < 0x10000 then n * 10 + (c.toNat - '0'.toNat) else n) 0

/-- The exponent part of a numeral: `e`, a sign or none, and at least one digit. -/
def exponent? : List Char → Option Int
  | [] => some 0
  | e :: cs =>
    if e = 'e' ∨ e = 'E' then
      let (negative, ds) : Bool × List Char := match cs with
        | '-' :: ds => (true, ds)
        | '+' :: ds => (false, ds)
        | ds => (false, ds)
      if ds.isEmpty ∨ !ds.all Char.isDigit then none
      else some (if negative then -exponentDigits ds else exponentDigits ds)
    else none

/-- More digits than the halfway point between any two neighbours has. -/
def digitLimit : Nat := 800

/-- The number nearest to `ds · 10 ^ e`. Behind the digits that a halfway point can have it only
matters whether anything is left; a one stands for that. -/
def ofDigits (negative : Bool) (ds : List Char) (e : Int) : Binary64 :=
  if ds.length ≤ digitLimit then ofScientific negative (Digits.ofDecimal ds) e
  else
    let significant := ds.dropWhile (· == '0')
    let left := significant.drop digitLimit
    let rest := if left.all (· == '0') then '0' else '1'
    if left.isEmpty then ofScientific negative (Digits.ofDecimal significant) e
    else ofScientific negative (Digits.ofDecimal (significant.take digitLimit ++ [rest]))
      (e + left.length - 1)

/-- A numeral without its sign. -/
def unsigned? (negative : Bool) (cs : List Char) : Option Binary64 :=
  let whole := cs.takeWhile Char.isDigit
  let rest := cs.dropWhile Char.isDigit
  let (fraction, rest) : List Char × List Char := match rest with
    | '.' :: tail => (tail.takeWhile Char.isDigit, tail.dropWhile Char.isDigit)
    | _ => ([], rest)
  if whole.isEmpty ∧ fraction.isEmpty then none
  else (exponent? rest).map fun e =>
    ofDigits negative (whole ++ fraction) (e - fraction.length)

/-- Reads a decimal numeral, or one of the words for the values that are not finite. -/
def parse? (cs : List Char) : Option Binary64 :=
  let (negative, body) : Bool × List Char := match cs with
    | '-' :: body => (true, body)
    | '+' :: body => (false, body)
    | _ => (false, cs)
  let word := String.ofList (body.map Char.toLower)
  if word = "nan" then some .nan
  else if word = "inf" ∨ word = "infinity" then some (.infinite negative)
  else unsigned? negative body

end Isl.Binary64
