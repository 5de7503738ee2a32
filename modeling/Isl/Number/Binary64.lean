import Isl.Number.Decimal
/-!
# Binary floating point numbers of 64 bits

A finite number is a sign, a significand of at most 53 bits and a binary exponent, in the one form
that leaves no room for a second spelling: the significand is full unless the exponent is the least
one. There is one value that is not a number, so equality of the type is equality of numbers that
also tells the zeros apart. `ofRatio` rounds a quotient to the nearest number, a tie to the even
significand; `toDecimal` is the exact worth.
-/
namespace Isl

/-- The significand and exponent of a finite number. -/
def Binary64.Canonical (significand : Nat) (exponent : Int) : Prop :=
  significand < 0x20000000000000 ∧ -1074 ≤ exponent ∧ exponent ≤ 971 ∧
    (exponent ≠ -1074 → 0x10000000000000 ≤ significand)

instance (m : Nat) (e : Int) : Decidable (Binary64.Canonical m e) := by
  unfold Binary64.Canonical; infer_instance

inductive Binary64 where
  | nan
  | infinite (negative : Bool)
  /-- Worth `± significand · 2 ^ exponent`. -/
  | finite (negative : Bool) (significand : Nat) (exponent : Int)
      (canonical : Binary64.Canonical significand exponent)
deriving DecidableEq

namespace Binary64

instance : Inhabited Binary64 := ⟨.nan⟩

/-- The finite number of these parts, infinite where they are out of bounds. -/
def ofParts (negative : Bool) (significand : Nat) (exponent : Int) : Binary64 :=
  if h : Canonical significand exponent then .finite negative significand exponent h
  else .infinite negative

def isNan : Binary64 → Bool
  | .nan => true
  | _ => false

/-- The quotient rounded to the nearest natural number, a half to the even one. -/
def roundQuotient (num den : Nat) : Nat :=
  let q := num / den
  let r := num % den
  if 2 * r < den then q
  else if den < 2 * r then q + 1
  else if q % 2 = 0 then q else q + 1

/-- `num / den` in units of `2 ^ e`, rounded. -/
def significandAt (num den : Nat) (e : Int) : Nat :=
  roundQuotient (num <<< (-e).toNat) (den <<< e.toNat)

/-- The number nearest to `± num / den`. -/
def ofRatio (negative : Bool) (num den : Nat) : Binary64 :=
  let guess := max (-1074) ((Nat.log2 num : Int) - Nat.log2 den - 53)
  let exponent :=
    if num <<< (-guess).toNat < (den <<< guess.toNat) <<< 53 then guess else guess + 1
  let significand := significandAt num den exponent
  if significand < 0x20000000000000 then ofParts negative significand exponent
  else ofParts negative (significand / 2) (exponent + 1)

/-- The number nearest to `± coefficient · 10 ^ exponent`. Exponents far outside of the range are
settled by the position of the leading digit. -/
def ofScientific (negative : Bool) (coefficient : Nat) (exponent : Int) : Binary64 :=
  let magnitude := Decimal.digitCount coefficient + exponent
  if coefficient = 0 ∨ magnitude < -400 then ofParts negative 0 (-1074)
  else if 400 < magnitude then .infinite negative
  else ofRatio negative (coefficient * Decimal.tenTo exponent.toNat)
    (Decimal.tenTo (-exponent).toNat)

/-- The exact worth of a finite number, at the scale of its binary fraction. -/
def toDecimal : Binary64 → Option Decimal
  | .finite negative m e _ =>
    let magnitude := if 0 ≤ e then m <<< e.toNat else m * Nat.pow 5 (-e).toNat
    some ⟨if negative then -magnitude else magnitude, max 0 (-e)⟩
  | _ => none

/-- Compares magnitudes: canonical parts are ordered by exponent, then significand. -/
def compareMagnitude (m : Nat) (e : Int) (n : Nat) (f : Int) : Ordering :=
  (compare e f).then (compare m n)

/-- The order of the numbers; nothing compares with what is not a number. -/
def compare? : Binary64 → Binary64 → Option Ordering
  | .nan, _ | _, .nan => none
  | .infinite a, .infinite b => some (compare b a)
  | .infinite a, .finite .. => some (if a then .lt else .gt)
  | .finite .., .infinite b => some (if b then .gt else .lt)
  | .finite a m e _, .finite b n f _ =>
    some (if m = 0 ∧ n = 0 then .eq
      else match a, b with
        | false, false => compareMagnitude m e n f
        | true, true => compareMagnitude n f m e
        | true, false => .lt
        | false, true => .gt)

def signBit (negative : Bool) : Nat := if negative then 0x8000000000000000 else 0

/-- The interchange format: sign, eleven bits of biased exponent, fraction. -/
def toBits : Binary64 → Nat
  | .nan => 0x7ff8000000000000
  | .infinite negative => signBit negative + 0x7ff0000000000000
  | .finite negative m e _ =>
    signBit negative +
      (if m < 0x10000000000000 then m else (e + 1075).toNat <<< 52 + (m - 0x10000000000000))

def ofBits (bits : Nat) : Binary64 :=
  let negative := bits / 0x8000000000000000 % 2 = 1
  let biased := bits / 0x10000000000000 % 0x800
  let fraction := bits % 0x10000000000000
  if biased = 0x7ff then (if fraction = 0 then .infinite negative else .nan)
  else if biased = 0 then ofParts negative fraction (-1074)
  else ofParts negative (fraction + 0x10000000000000) ((biased : Int) - 1075)

end Binary64
end Isl
