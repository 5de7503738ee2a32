/-!
# The Gregorian calendar

Dates of the proleptic calendar, counted in days from the first of January 1970. `dayNumber` adds
whole years, whole months and days; a year is leap every fourth time, but not every hundredth,
but again every four hundredth.
-/
namespace Isl.Calendar

def isLeap (year : Nat) : Bool :=
  year % 4 = 0 && (year % 100 ≠ 0 || year % 400 = 0)

def daysInMonth (year month : Nat) : Nat :=
  if month = 2 then (if isLeap year then 29 else 28)
  else if month = 4 ∨ month = 6 ∨ month = 9 ∨ month = 11 then 30
  else 31

def IsDate (year month day : Nat) : Prop :=
  1 ≤ month ∧ month ≤ 12 ∧ 1 ≤ day ∧ day ≤ daysInMonth year month

def IsTimeOfDay (hour minute second : Nat) : Prop :=
  hour < 24 ∧ minute < 60 ∧ second < 60

instance (y m d : Nat) : Decidable (IsDate y m d) := by unfold IsDate; infer_instance
instance (h m s : Nat) : Decidable (IsTimeOfDay h m s) := by unfold IsTimeOfDay; infer_instance

/-- Days in the years before `year`, counted from year zero. -/
def daysBeforeYear (year : Nat) : Nat :=
  365 * year + (year + 3) / 4 - (year + 99) / 100 + (year + 399) / 400

/-- Days in the months of `year` before `month`. -/
def daysBeforeMonth (year : Nat) : Nat → Nat
  | 0 => 0
  | 1 => 0
  | month + 1 => daysBeforeMonth year month + daysInMonth year month

def dayNumber (year month day : Nat) : Int :=
  (daysBeforeYear year + daysBeforeMonth year month + day : Nat) - (daysBeforeYear 1970 + 1 : Nat)

end Isl.Calendar
