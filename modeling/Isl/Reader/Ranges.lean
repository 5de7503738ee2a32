import Isl.Reader.Basic
/-!
# Reading ranges

A range is a list `range::[lower, upper]`; a single int or precision stands for itself.
-/
namespace Isl.Reader

/-- Reads one limit of a range. `bound?` converts a bound that is not null. -/
def limit (range : Element) (expected : String) (bound? : Element → Check (Option α)) (side : Side)
    (item : Element) : Check (Limit α) := do
  if item.symbol? == some side.unbounded then
    require item.annotations.isEmpty (.unboundedAnnotated side range)
    .ok .unbounded
  else
    require (onlyAnnotated item ["exclusive"]) (.markedBound side range)
    match ← (if item.isNull then .ok none else bound? item) with
    | none => .error (.boundType side expected)
    | some a => .ok (if item.isAnnotated "exclusive" then .opened a else .closed a)

def limits (range : Element) (expected : String) (bound? : Element → Check (Option α)) :
    Check (Limit α × Limit α) :=
  match range.list? with
  | none => .error (.rangeNotList range)
  | some [low, high] => do
    require (range.annotations == ["range"]) (.unmarkedRange range)
    let lower ← limit range expected bound? .lower low
    let upper ← limit range expected bound? .upper high
    .ok (lower, upper)
  | some _ => .error (.rangeSize range)

def intBound (e : Element) : Check Int64 :=
  match e.int64? with
  | some n => .ok n
  | none => .error (.intTooLarge e)

def intBound? (e : Element) : Check (Option Int64) :=
  match e.int? with
  | some _ => (intBound e).map some
  | none => .ok none

/-- A range of integers, or one integer. -/
def intRange (e : Element) : Check IntRange := do
  if e.type == .int then
    require (!e.isNull) .nullRange
    require e.annotations.isEmpty .measureAnnotated
    (intBound e).map .singleton
  else
    let (lower, upper) ← limits e "int" intBound?
    ofRange (IntRange.make? lower upper)

def nonNegativeRange (e : Element) : Check IntRange := do
  let r ← intRange e
  ofRange (IntRange.nonNegative? r.lower r.upper)

def isNumberType (t : IonType) : Bool := t == .int || t == .decimal || t == .float

def numberBound? (range : Element) (e : Element) : Check (Option Decimal) :=
  if isNumberType e.type then
    match e.decimal? with
    | some d => .ok (some d)
    | none => .error (.notReal range)
  else .ok none

def numberRange (e : Element) : Check NumberRange := do
  let (lower, upper) ← limits e "number" (numberBound? e)
  ofRange (Range.make? lower upper)

def instantRange (e : Element) : Check InstantRange := do
  let (lower, upper) ← limits e "timestamp" fun item => .ok item.timestamp?
  ofRange (Range.make? lower upper)

def precisionBound? (range : Element) (e : Element) : Check (Option NamedPrecision) :=
  if e.type == .symbol then
    match e.symbol?.bind NamedPrecision.ofName? with
    | some p => .ok (some p)
    | none => .error (.precisionName range)
  else .ok none

/-- A range of precisions, or one precision. -/
def precisionRange (e : Element) : Check PrecisionRange := do
  if e.type == .symbol then
    require (!e.isNull) (.nullPrecision e)
    require e.annotations.isEmpty .precisionAnnotated
    match e.symbol?.bind NamedPrecision.ofName? with
    | some p => .ok (.singleton p)
    | none => .error (.precisionName e)
  else
    let (lower, upper) ← limits e "symbol" (precisionBound? e)
    ofRange (PrecisionRange.make? lower upper)

/-- Whether an item of a list is of one of these types. -/
def hasBound (e : Element) (admits : IonType → Bool) : Bool :=
  (e.list?.getD []).any (admits ·.type)

end Isl.Reader
