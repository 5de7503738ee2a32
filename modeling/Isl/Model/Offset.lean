import Isl.Fault
import Isl.Timestamp
/-!
# Offsets from UTC

Entries of a list of allowed offsets: one known to the minute, or the unknown one.
-/
namespace Isl

inductive OffsetValue where
  | unknown
  | minutes (n : Int)
deriving DecidableEq, Repr

namespace OffsetValue

/-- Reads `+hh:mm` or `-hh:mm`, where `-00:00` is the unknown offset. -/
def parse? (text : String) : Except Defect OffsetValue :=
  match text.toList with
  | [sign, h, i, ':', m, n] =>
    let ds := [h, i, m, n]
    let hours := Digits.ofDecimal [h, i]
    let mins := Digits.ofDecimal [m, n]
    if (sign = '+' ∨ sign = '-') ∧ ds.all Char.isDigit ∧ hours ≤ 23 ∧ mins ≤ 59 then
      if sign = '-' ∧ hours = 0 ∧ mins = 0 then .ok .unknown
      else
        let total : Int := (hours * 60 + mins : Nat)
        .ok (.minutes (if sign = '-' then -total else total))
    else .error (.offset text)
  | _ => .error (.offset text)

/-- Whether a timestamp with this offset is allowed. -/
def allows (o : OffsetValue) (offset : Option Int) : Bool :=
  match o with
  | unknown => offset.isNone
  | minutes n => offset == some n

def toText : OffsetValue → String
  | unknown => "-00:00"
  | minutes n =>
    String.ofList ((if n < 0 then '-' else '+') ::
      (Timestamp.padded 2 (n.natAbs / 60) ++ ':' :: Timestamp.padded 2 (n.natAbs % 60)))

end OffsetValue
end Isl
