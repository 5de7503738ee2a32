import Mathlib.Tactic.Linarith
import Isl.Proofs.Number.Worth
import Isl.Proofs.Range.Integer
import Isl.Proofs.Timestamp
/-!
# What is in a range that was made

A range of numbers always has a number in it, since between two decimals there is a third. A range
of integers has an integer in it unless it has one end, which is left out and the last on the scale,
and a range of precisions has one that a timestamp can have unless it is all that is less than a
year (`Range.made_inhabited`).
-/
namespace Isl

/-! ## Numbers -/

namespace Decimal

/-- Half of a decimal, with one digit more behind the point. -/
def half (d : Decimal) : Decimal := ⟨d.coefficient * 5, d.scale + 1⟩

theorem worth_half (d : Decimal) : d.half.worth = d.worth / 2 := by
  have tenth : (10 : ℚ) ^ (-(d.scale + 1)) = 10 ^ (-d.scale) / 10 := by
    rw [neg_add, zpow_add₀ ten_pos.ne', zpow_neg_one, div_eq_mul_inv]
  simp only [worth, half, tenth]
  push_cast
  ring

theorem exists_between {a b : Decimal} (h : a.worth < b.worth) :
    ∃ d : Decimal, a.worth < d.worth ∧ d.worth < b.worth := by
  refine ⟨(a + b).half, ?_⟩
  rw [worth_half, worth_add]
  constructor <;> linarith

theorem exists_above (a : Decimal) : ∃ d : Decimal, a.worth < d.worth := by
  refine ⟨a + ofInt 1, ?_⟩
  rw [worth_add, worth_ofInt]
  norm_num

theorem exists_below (a : Decimal) : ∃ d : Decimal, d.worth < a.worth := by
  refine ⟨a + ofInt (-1), ?_⟩
  rw [worth_add, worth_ofInt]
  norm_num

end Decimal

namespace Limit
variable {α β : Type*} [Comparable α] [LinearOrder β] {key : α → β} {l : Limit α} {a b : α}

theorem admits_of_unbounded (none : l.value? = none) (inner : Ordering) (a : α) :
    l.admits inner a = true := by
  cases l with
  | unbounded => rfl
  | closed b | opened b => cases none

/-- What is beyond a lower end is above the limit, whether the end belongs to it or not. -/
theorem admits_gt_of_lt (ordered : OrderedBy key) (end' : l.value? = some b) (h : key b < key a) :
    l.admits .gt a = true := by
  cases l <;> cases end'
  · exact (admits_closed_gt ordered).2 h.le
  · exact (admits_opened_gt ordered).2 h

theorem admits_lt_of_lt (ordered : OrderedBy key) (end' : l.value? = some b) (h : key a < key b) :
    l.admits .lt a = true := by
  cases l <;> cases end'
  · exact (admits_closed_lt ordered).2 h.le
  · exact (admits_opened_lt ordered).2 h

end Limit

/-- The ends of a range are in order, and if they are in one place both belong to it. -/
theorem Range.Made.ends {α β : Type*} [Comparable α] [Shown α] [LinearOrder β] {key : α → β}
    {r : Range α} {lo hi : α} (ordered : OrderedBy key) (made : r.Made)
    (low : r.lower.value? = some lo) (high : r.upper.value? = some hi) :
    key lo < key hi ∨ key lo = key hi ∧ r.lower = .closed lo ∧ r.upper = .closed hi := by
  have sound := (make?_eq_ok_iff.1 made).1
  simp only [fault?, low, high, orderFault?] at sound
  rcases lt_trichotomy (key lo) (key hi) with apart | same | crossed
  · exact .inl apart
  · rw [(ordered.eq_iff lo hi).2 same] at sound
    obtain ⟨inside, inside'⟩ : r.lower.isOpen = false ∧ r.upper.isOpen = false := by
      simpa using sound
    have low := Limit.eq_of_value? low
    have high := Limit.eq_of_value? high
    rw [inside] at low
    rw [inside'] at high
    exact .inr ⟨same, low, high⟩
  · rw [(ordered.gt_iff lo hi).2 crossed] at sound
    cases sound

/-- A range of numbers has a number in it. -/
theorem NumberRange.exists_contains {r : NumberRange} (made : r.Made) :
    ∃ d, r.contains d = true := by
  simp only [Range.contains_eq, Bool.and_eq_true]
  cases low : r.lower.value? with
  | none =>
    cases high : r.upper.value? with
    | none => simpa [low, high] using made.bounded
    | some hi =>
      obtain ⟨d, below⟩ := hi.exists_below
      exact ⟨d, Limit.admits_of_unbounded low .gt d,
        Limit.admits_lt_of_lt orderedBy_decimal high below⟩
  | some lo =>
    cases high : r.upper.value? with
    | none =>
      obtain ⟨d, above⟩ := lo.exists_above
      exact ⟨d, Limit.admits_gt_of_lt orderedBy_decimal low above,
        Limit.admits_of_unbounded high .lt d⟩
    | some hi =>
      rcases made.ends orderedBy_decimal low high with apart | ⟨same, lower, upper⟩
      · obtain ⟨d, above, below⟩ := Decimal.exists_between apart
        exact ⟨d, Limit.admits_gt_of_lt orderedBy_decimal low above,
          Limit.admits_lt_of_lt orderedBy_decimal high below⟩
      · rw [lower, upper]
        exact ⟨lo, (Limit.admits_closed_gt orderedBy_decimal).2 le_rfl,
          (Limit.admits_closed_lt orderedBy_decimal).2 same.le⟩

/-! ## Integers -/

namespace IntRange
variable {r : IntRange}

theorem Made.exists_contains_iff (made : r.Made) :
    (∃ n, r.contains n = true) ↔ ¬ OffScale r.lower r.upper := by
  have kept := make?_eq_ok_iff.1 made
  rw [ne_eq, make?_refuses_iff made.bounded, not_or] at kept
  simp only [contains_eq, exists_between_iff]
  constructor
  · intro some off
    have none := off.greatest_lt_least
    omega
  · intro on
    have some := kept.2
    rw [not_and] at some
    exact Int.not_lt.1 (some on)

end IntRange

/-! ## Precisions -/

namespace Timestamp
variable {t : Timestamp}

/-- The first moment of a year, known to some precision. -/
def ofPrecision (precision : Precision) : Timestamp := { ofYear 2000 with precision }

theorem checked?_ofPrecision (precision : Precision) :
    checked? (ofPrecision precision) = some (ofPrecision precision) :=
  if_pos (show (Calendar.IsDate 2000 1 1 ∧ Calendar.IsTimeOfDay 0 0 0) ∧ 1 ≤ 2000 ∧ 2000 ≤ 9999 by
    decide)

theorem parsed_ofPrecision (precision : Precision)
    (digits : ∀ ds, precision = .fraction ds →
      ds ≠ [] ∧ (∀ d ∈ ds, d.isDigit = true) ∧ ds.length < 0x100000000) :
    Parsed (ofPrecision precision) := by
  have valid := checked?_ofPrecision precision
  cases precision with
  | year => exact .year 2000 (by decide)
  | month => exact .month 2000 1 valid
  | day => exact .day 2000 1 1 valid
  | minute => exact .minute 2000 1 1 0 0 none nofun valid
  | second => exact .second 2000 1 1 0 0 0 none nofun valid
  | fraction ds =>
    obtain ⟨filled, digits, counted⟩ := digits ds rfl
    exact .fraction 2000 1 1 0 0 0 ds none filled digits counted nofun valid

/-- Precisions start with the year. -/
theorem precisionPlace_least (accepted : t.Accepted) : -4 ≤ t.precisionPlace.toInt := by
  have counted := accepted.counted
  unfold fractionDigits at counted
  unfold precisionPlace
  cases precision : t.precision with
  | fraction ds =>
    simp only [precision] at counted
    have count := Int64.toInt_ofNat_of_lt (show ds.length < 2 ^ 63 by omega)
    dsimp only
    omega
  | _ => decide

/-- A precision without a fraction has each place from that of the year to that of the second. -/
theorem exists_precision_of_le {place : Int} (least : -4 ≤ place) (coarse : place ≤ 0) :
    ∃ precision, (∀ ds, precision ≠ .fraction ds) ∧
      (ofPrecision precision).precisionPlace.toInt = place := by
  obtain rfl | rfl | rfl | rfl | rfl :
      place = -4 ∨ place = -3 ∨ place = -2 ∨ place = -1 ∨ place = 0 := by omega
  · exact ⟨.year, nofun, rfl⟩
  · exact ⟨.month, nofun, rfl⟩
  · exact ⟨.day, nofun, rfl⟩
  · exact ⟨.minute, nofun, rfl⟩
  · exact ⟨.second, nofun, rfl⟩

/-- Every place from that of the year on is the precision of a timestamp, as far as digits are
counted. -/
theorem exists_precisionPlace {place : Int} (least : -4 ≤ place) (short : place < 0x100000000) :
    ∃ t, Parsed t ∧ t.precisionPlace.toInt = place := by
  by_cases coarse : place ≤ 0
  · obtain ⟨precision, none, same⟩ := exists_precision_of_le least coarse
    exact ⟨ofPrecision precision, parsed_ofPrecision _ fun ds h => absurd h (none ds), same⟩
  · obtain ⟨count, rfl⟩ : ∃ count : Nat, place = count := ⟨place.toNat, by omega⟩
    have digits : ∀ ds, Precision.fraction (List.replicate count '0') = .fraction ds →
        ds ≠ [] ∧ (∀ d ∈ ds, d.isDigit = true) ∧ ds.length < 0x100000000 := by
      rintro ds ⟨⟩
      refine ⟨fun none => ?_, fun d hd => ?_, ?_⟩
      · have zero := (List.replicate_eq_nil_iff _).1 none
        omega
      · rw [List.eq_of_mem_replicate hd]
        rfl
      · rw [List.length_replicate]
        omega
    refine ⟨_, parsed_ofPrecision _ digits, ?_⟩
    simp only [precisionPlace, ofPrecision, List.length_replicate]
    exact Int64.toInt_ofNat_of_lt (by omega)

end Timestamp

namespace PrecisionRange
variable {r : PrecisionRange} {l : Limit NamedPrecision}

theorem place_bounds (p : NamedPrecision) : -4 ≤ p.place.toInt ∧ p.place.toInt ≤ 9 := by
  cases p <;> decide

theorem least_place (h : l ≠ .unbounded) :
    -4 ≤ (l.map (·.place)).least ∧ (l.map (·.place)).least ≤ 10 := by
  cases l with
  | unbounded => contradiction
  | closed p | opened p =>
    have bounds := place_bounds p
    simp only [Limit.map, Limit.least]
    omega

theorem greatest_place (h : l ≠ .opened .year) : -4 ≤ (l.map (·.place)).greatest := by
  cases l with
  | unbounded => decide
  | closed p => exact (place_bounds p).1
  | opened p =>
    cases p with
    | year => contradiction
    | _ => decide

/-- A named precision is far from both ends of the scale of integers. -/
theorem not_offScale (lower upper : Limit NamedPrecision) :
    ¬ IntRange.OffScale (lower.map (·.place)) (upper.map (·.place)) := by
  have least (p : NamedPrecision) : p.place ≠ Int64.minValue := by cases p <;> decide
  have most (p : NamedPrecision) : p.place ≠ Int64.maxValue := by cases p <;> decide
  generalize below : lower.map (·.place) = low
  generalize above : upper.map (·.place) = high
  intro off
  cases off with
  | above =>
    cases lower with
    | opened p => exact most p (Limit.opened.inj below)
    | unbounded | closed p => cases below
  | below =>
    cases upper with
    | opened p => exact least p (Limit.opened.inj above)
    | unbounded | closed p => cases above

theorem Made.contains_iff (made : r.Made) (t : Timestamp) :
    r.contains t = true ↔ (r.lower.map (·.place)).least ≤ t.precisionPlace.toInt ∧
      t.precisionPlace.toInt ≤ (r.upper.map (·.place)).greatest := by
  rw [contains, IntRange.contains_iff, IntRange.eq_of_make? made.places_made]
  rfl

theorem Made.least_le_greatest (made : r.Made) :
    (r.lower.map (·.place)).least ≤ (r.upper.map (·.place)).greatest := by
  have places := IntRange.made_of_make? made.places_made
  have some := places.exists_contains_iff.2
  rw [IntRange.eq_of_make? made.places_made] at some
  simp only [IntRange.contains_eq] at some
  exact IntRange.exists_between_iff.1 (some (not_offScale _ _))

/-- A range of precisions has one that a timestamp can have, unless it is all that is less than a
year. -/
theorem Made.exists_contains_iff (made : r.Made) :
    (∃ cs t, Timestamp.parse? cs = some t ∧ r.contains t = true) ↔
      ¬ (r.lower = .unbounded ∧ r.upper = .opened .year) := by
  simp only [made.contains_iff]
  constructor
  · rintro ⟨cs, t, parsed, above, below⟩ ⟨lower, upper⟩
    have least := Timestamp.precisionPlace_least (Timestamp.spelled_of_parse? parsed).2
    rw [upper] at below
    change t.precisionPlace.toInt ≤ -5 at below
    omega
  · intro other
    obtain ⟨place, least, short, above, below⟩ : ∃ place : Int, -4 ≤ place ∧ place < 0x100000000 ∧
        (r.lower.map (·.place)).least ≤ place ∧ place ≤ (r.upper.map (·.place)).greatest := by
      by_cases lower : r.lower = .unbounded
      · have upper : r.upper ≠ .opened .year := fun upper => other ⟨lower, upper⟩
        refine ⟨-4, by decide, by decide, ?_, greatest_place upper⟩
        rw [lower]
        decide
      · have bounds := least_place lower
        exact ⟨_, bounds.1, by omega, Int.le_refl _, made.least_le_greatest⟩
    obtain ⟨t, parsed, same⟩ := Timestamp.exists_precisionPlace least short
    exact ⟨t.toChars, t, Timestamp.parse?_toChars parsed, by omega, by omega⟩

end PrecisionRange

/-- **What is in a range.** A range of integers contains an integer, unless its one end is left out
and is the last on the scale. A range of precisions contains that of a timestamp that there is text
for, unless it ends before the year. A range of numbers contains a decimal. -/
theorem Range.made_inhabited (integers : IntRange) (precisions : PrecisionRange)
    (numbers : NumberRange) :
    (integers.Built →
      ((∃ n, integers.contains n = true) ↔ ¬ IntRange.OffScale integers.lower integers.upper)) ∧
    (precisions.Built →
      ((∃ cs t, Timestamp.parse? cs = some t ∧ precisions.contains t = true) ↔
        ¬ (precisions.lower = .unbounded ∧ precisions.upper = .opened .year))) ∧
    (numbers.Made → ∃ d, numbers.contains d = true) :=
  ⟨fun built => built.isMade.exists_contains_iff, fun built => built.isMade.exists_contains_iff,
    NumberRange.exists_contains⟩

/-- There is an integer in `(5, 7)` and none above the greatest, a precision from the year on and
none below it, and a decimal in `(0, 1)`. -/
theorem Range.made_inhabited_ends :
    let six : IntRange := ⟨⟨.opened 5, .opened 7⟩⟩
    let beyond : IntRange := ⟨⟨.opened Int64.maxValue, .unbounded⟩⟩
    let coarse : PrecisionRange := ⟨.unbounded, .opened .year, ⟨⟨.unbounded, .opened (-4)⟩⟩⟩
    let fine : PrecisionRange := ⟨.opened .nanosecond, .unbounded, ⟨⟨.opened 9, .unbounded⟩⟩⟩
    let fraction : NumberRange := ⟨.opened ⟨0, 0⟩, .opened ⟨1, 0⟩⟩
    (six.Built ∧ ∃ n, six.contains n = true) ∧
      (beyond.Built ∧ ¬ ∃ n, beyond.contains n = true) ∧
      (coarse.Built ∧
        ¬ ∃ cs t, Timestamp.parse? cs = some t ∧ coarse.contains t = true) ∧
      (fine.Built ∧ ∃ cs t, Timestamp.parse? cs = some t ∧ fine.contains t = true) ∧
      fraction.Made ∧ ∃ d, fraction.contains d = true := by
  intro six beyond coarse fine fraction
  obtain ⟨some, some', within⟩ := Range.made_inhabited six fine fraction
  obtain ⟨none, none', -⟩ := Range.made_inhabited beyond coarse fraction
  have hsix : six.Built := .made (show IntRange.make? (.opened 5) (.opened 7) = .ok six from rfl)
  have hbeyond : beyond.Built :=
    .made (show IntRange.make? (.opened Int64.maxValue) .unbounded = .ok beyond from rfl)
  have hcoarse : coarse.Built :=
    .made (show PrecisionRange.make? .unbounded (.opened .year) = .ok coarse from rfl)
  have hfine : fine.Built :=
    .made (show PrecisionRange.make? (.opened .nanosecond) .unbounded = .ok fine from rfl)
  have hfraction : fraction.Made := rfl
  refine ⟨⟨hsix, (some hsix).2 nofun⟩, ⟨hbeyond, ?_⟩, ⟨hcoarse, ?_⟩,
    ⟨hfine, (some' hfine).2 nofun⟩, hfraction, within hfraction⟩
  · rw [none hbeyond, not_not]
    exact .above
  · rw [none' hcoarse, not_not]
    exact ⟨rfl, rfl⟩

end Isl
