import Isl.Number.Digits
/-!
# Decimals

A decimal is a coefficient and a scale, worth `coefficient · 10 ^ (-scale)`. Both parts are data:
`1.0` and `1.00` are different decimals of one worth. `Decimal.compare` orders by worth alone. It
looks at the position of the leading digit first, so that it never aligns two decimals whose
scales lie far apart.
-/
namespace Isl

structure Decimal where
  coefficient : Int
  scale : Int
deriving DecidableEq, Repr, Inhabited

namespace Decimal

/-- A one and `n` zeros. -/
def tenTo (n : Nat) : Nat := Nat.pow 10 n

def digitCount (n : Nat) : Nat := (Digits.decimal n).length

def ofInt (n : Int) : Decimal := ⟨n, 0⟩

/-- One past the exponent of ten of the leading digit. -/
def magnitude (d : Decimal) : Int := digitCount d.coefficient.natAbs - d.scale

/-- Compares two positive worths `a · 10 ^ (-s)` and `b · 10 ^ (-t)`. -/
def comparePositive (a : Nat) (s : Int) (b : Nat) (t : Int) : Ordering :=
  match compare (digitCount a - s) (digitCount b - t) with
  | .eq => compare (a * tenTo (t - s).toNat) (b * tenTo (s - t).toNat)
  | o => o

def compare (x y : Decimal) : Ordering :=
  match Ord.compare x.coefficient.sign y.coefficient.sign with
  | .eq =>
    if x.coefficient = 0 then .eq
    else if 0 < x.coefficient then
      comparePositive x.coefficient.natAbs x.scale y.coefficient.natAbs y.scale
    else comparePositive y.coefficient.natAbs y.scale x.coefficient.natAbs x.scale
  | o => o

/-- Adds at the larger of the two scales. -/
def add (x y : Decimal) : Decimal :=
  let scale := max x.scale y.scale
  ⟨x.coefficient * tenTo (scale - x.scale).toNat + y.coefficient * tenTo (scale - y.scale).toNat,
    scale⟩

instance : Add Decimal := ⟨add⟩

/-- Digits with a point before the last `scale` of them, led by a zero where none is left. -/
def placePoint (ds : List Char) (scale : Nat) : List Char :=
  if scale < ds.length then
    ds.take (ds.length - scale) ++ '.' :: ds.drop (ds.length - scale)
  else '0' :: '.' :: (List.replicate (scale - ds.length) '0' ++ ds)

def signChars (d : Decimal) : List Char := if d.coefficient < 0 then ['-'] else []

/-- Text for people. A scale up to zero appends zeros, more than fifteen of them as an exponent;
a leading digit more than five places behind the point brings an exponent too. -/
def display (d : Decimal) : String :=
  let ds := Digits.decimal d.coefficient.natAbs
  let scale := if d.coefficient = 0 then 0 else d.scale
  let body :=
    if scale ≤ 0 then
      let zeros := (-scale).toNat
      if 15 < zeros then ds ++ ['e', '+'] ++ Digits.decimal zeros
      else ds ++ List.replicate zeros '0'
    else if 5 < scale - ds.length then
      ds.take 1 ++ (if ds.length = 1 then [] else '.' :: ds.drop 1) ++
        ['E', '-'] ++ Digits.decimal (scale - (ds.length - 1 : Nat)).toNat
    else placePoint ds scale.toNat
  String.ofList (d.signChars ++ body)

end Decimal
end Isl
