import Isl.Number.Decimal
import Isl.Timestamp.Calendar
/-!
# Timestamps

A point in time, known to some precision and with an offset from UTC that may be unknown. The
fraction of a second keeps its digits as written. `parse?` reads the text `2007-02-23T12:14:33.079Z`
and its shorter forms; `toChars` writes it back. `epochMillis` is the exact instant.
-/
namespace Isl

/-- How much of a timestamp is known. -/
inductive Precision where
  | year | month | day | minute | second
  /-- Seconds with a fraction of these digits. -/
  | fraction (digits : List Char)
deriving DecidableEq, Repr

/-- An offset of `none` is unknown and written `-00:00`. -/
structure Timestamp where
  year : Nat
  month : Nat
  day : Nat
  hour : Nat
  minute : Nat
  second : Nat
  precision : Precision
  offset : Option Int
deriving DecidableEq, Repr

namespace Timestamp

def ofYear (year : Nat) : Timestamp := ⟨year, 1, 1, 0, 0, 0, .year, none⟩

instance : Inhabited Timestamp := ⟨ofYear 1⟩

def fractionDigits (t : Timestamp) : Nat :=
  match t.precision with
  | .fraction ds => ds.length
  | _ => 0

/-- The fields name a day of the calendar and a time of day. -/
def InCalendar (t : Timestamp) : Prop :=
  Calendar.IsDate t.year t.month t.day ∧ Calendar.IsTimeOfDay t.hour t.minute t.second

instance (t : Timestamp) : Decidable t.InCalendar := by unfold InCalendar; infer_instance

/-- Seconds from the epoch to the local fields. -/
def localSeconds (t : Timestamp) : Int :=
  Calendar.dayNumber t.year t.month t.day * 86400 + (t.hour * 3600 + t.minute * 60 + t.second : Nat)

/-- Milliseconds since the epoch, exact, at the scale of the fraction. An unknown offset counts
as zero. -/
def epochMillis (t : Timestamp) : Decimal :=
  let whole := if t.InCalendar then t.localSeconds * 1000 else 0
  let millis := Decimal.ofInt (whole - t.offset.getD 0 * 60000)
  match t.precision with
  | .fraction ds => millis + ⟨Digits.ofDecimal ds * 1000, ds.length⟩
  | _ => millis

/-! ## Reading -/

/-- Reads exactly `n` digits. -/
def takeDigits : Nat → List Char → Nat → Option (Nat × List Char)
  | 0, cs, acc => some (acc, cs)
  | n + 1, c :: cs, acc =>
    if c.isDigit then takeDigits n cs (acc * 10 + (c.toNat - '0'.toNat)) else none
  | _ + 1, [], _ => none

/-- `Z`, `+hh:mm` or `-hh:mm`; the inner `none` is the unknown offset `-00:00`. -/
def parseOffset? (cs : List Char) : Option (Option Int) := do
  match cs with
  | ['Z'] => some (some 0)
  | sign :: r =>
    if sign ≠ '+' ∧ sign ≠ '-' then none
    let (hours, r) ← takeDigits 2 r 0
    match r with
    | ':' :: r =>
      let (minutes, r) ← takeDigits 2 r 0
      if !r.isEmpty ∨ 23 < hours ∨ 59 < minutes then none
      else if sign = '-' then
        some (if hours = 0 ∧ minutes = 0 then none else some (-(hours * 60 + minutes : Nat)))
      else some (some (hours * 60 + minutes : Nat))
    | _ => none
  | [] => none

/-- A timestamp of at least month precision must lie in the calendar, in the years 1 to 9999. -/
def checked? (t : Timestamp) : Option Timestamp :=
  if t.InCalendar ∧ 1 ≤ t.year ∧ t.year ≤ 9999 then some t else none

/-- What follows the minutes: seconds and a fraction if they are there, and the offset. The digits
of the fraction are counted in 32 bits. -/
def parseSeconds? (t : Timestamp) (r : List Char) : Option Timestamp := do
  match r with
  | ':' :: r =>
    let (second, r) ← takeDigits 2 r 0
    let t := { t with second }
    match r with
    | '.' :: r =>
      let ds := r.takeWhile Char.isDigit
      if ds.isEmpty ∨ 0x100000000 ≤ ds.length then none
      let offset ← parseOffset? (r.dropWhile Char.isDigit)
      checked? { t with precision := .fraction ds, offset }
    | r =>
      let offset ← parseOffset? r
      checked? { t with precision := .second, offset }
  | r =>
    let offset ← parseOffset? r
    checked? { t with precision := .minute, offset }

def parseTime? (t : Timestamp) (r : List Char) : Option Timestamp := do
  let (hour, r) ← takeDigits 2 r 0
  match r with
  | ':' :: r =>
    let (minute, r) ← takeDigits 2 r 0
    parseSeconds? { t with hour, minute } r
  | _ => none

def parse? (cs : List Char) : Option Timestamp := do
  let (year, r) ← takeDigits 4 cs 0
  match r with
  | ['T'] => some (ofYear year)
  | '-' :: r =>
    let (month, r) ← takeDigits 2 r 0
    match r with
    | ['T'] => checked? { ofYear year with month, precision := .month }
    | '-' :: r =>
      let (day, r) ← takeDigits 2 r 0
      let t := { ofYear year with month, day, precision := .day }
      match r with
      | [] | ['T'] => checked? t
      | 'T' :: r => parseTime? t r
      | _ => none
    | _ => none
  | _ => none

def invalidMessage (text : String) : String := s!"invalid timestamp: {text}"

/-! ## Writing -/

/-- A number in at least `width` digits. -/
def padded (width n : Nat) : List Char :=
  let ds := Digits.decimal n
  List.replicate (width - ds.length) '0' ++ ds

def offsetChars : Option Int → List Char
  | none => "-00:00".toList
  | some minutes =>
    if minutes = 0 then ['Z']
    else
      (if minutes < 0 then '-' else '+') ::
        (padded 2 (minutes.natAbs / 60) ++ ':' :: padded 2 (minutes.natAbs % 60))

def toChars (t : Timestamp) : List Char :=
  let year := padded 4 t.year
  let month := year ++ '-' :: padded 2 t.month
  let day := month ++ '-' :: padded 2 t.day
  let minute := day ++ 'T' :: (padded 2 t.hour ++ ':' :: padded 2 t.minute)
  let second := minute ++ ':' :: padded 2 t.second
  match t.precision with
  | .year => year ++ ['T']
  | .month => month ++ ['T']
  | .day => day
  | .minute => minute ++ offsetChars t.offset
  | .second => second ++ offsetChars t.offset
  | .fraction ds => second ++ '.' :: (ds ++ offsetChars t.offset)

def toText (t : Timestamp) : String := String.ofList t.toChars

end Timestamp
end Isl
