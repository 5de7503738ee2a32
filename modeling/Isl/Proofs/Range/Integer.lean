import Isl.Proofs.Range
import Isl.Range.Integer
/-!
# Ranges of integers as sets

Every limit leaves a half line of integers: those from `Limit.least` up, or those down from
`Limit.greatest`. So two limits leave something between them exactly if the least is not above the
greatest (`IntRange.exists_between_iff`). What `IntRange.make?` refuses is more, and less:

* `IntRange.Pinched`: limits that leave one integer between an end that is in and one that is out;
* `IntRange.OffScale`: a single limit behind which there are no integers, and which is no fault;
* `IntRange.make?_refuses_iff`: exactly which limits are refused;
* `IntRange.overlap_exact`: what this makes of the overlap of two ranges.

`IntRange.Built` and `PrecisionRange.Built` say how ranges come about.
-/
namespace Isl

/-! ## Limits -/

namespace Limit

/-- The least integer above a lower limit. -/
def least : Limit Int64 → Int
  | unbounded => Int64.minValue.toInt
  | closed n => n.toInt
  | opened n => n.toInt + 1

/-- The greatest integer below an upper limit. -/
def greatest : Limit Int64 → Int
  | unbounded => Int64.maxValue.toInt
  | closed n => n.toInt
  | opened n => n.toInt - 1

theorem admits_gt_iff (l : Limit Int64) (n : Int64) :
    l.admits .gt n = true ↔ l.least ≤ n.toInt := by
  cases l with
  | unbounded => exact ⟨fun _ => n.minValue_le_toInt, fun _ => rfl⟩
  | closed m => exact admits_closed_gt orderedBy_int64
  | opened m => exact (admits_opened_gt orderedBy_int64).trans Int.add_one_le_iff.symm

theorem admits_lt_iff (l : Limit Int64) (n : Int64) :
    l.admits .lt n = true ↔ n.toInt ≤ l.greatest := by
  cases l with
  | unbounded => exact ⟨fun _ => n.toInt_le, fun _ => rfl⟩
  | closed m => exact admits_closed_lt orderedBy_int64
  | opened m => exact (admits_opened_lt orderedBy_int64).trans Int.le_sub_one_iff.symm

theorem eq_of_value? {l : Limit α} {a : α} (h : l.value? = some a) :
    l = if l.isOpen then .opened a else .closed a := by
  cases l <;> cases h <;> rfl

theorem least_eq {l : Limit Int64} {n : Int64} (h : l.value? = some n) :
    l.least = n.toInt + if l.isOpen then 1 else 0 := by
  cases l <;> cases h
  · exact (Int.add_zero _).symm
  · rfl

theorem greatest_eq {l : Limit Int64} {n : Int64} (h : l.value? = some n) :
    l.greatest = n.toInt - if l.isOpen then 1 else 0 := by
  cases l <;> cases h
  · exact (Int.sub_zero _).symm
  · rfl

theorem minValue_le_least (l : Limit Int64) : Int64.minValue.toInt ≤ l.least := by
  cases l with
  | unbounded => exact Int.le_refl _
  | closed n => exact n.minValue_le_toInt
  | opened n => exact Int.le_add_one n.minValue_le_toInt

theorem greatest_le_maxValue (l : Limit Int64) : l.greatest ≤ Int64.maxValue.toInt := by
  cases l with
  | unbounded => exact Int.le_refl _
  | closed n => exact n.toInt_le
  | opened n => exact Int.le_trans (Int.sub_le_self _ (by decide)) n.toInt_le

end Limit

theorem Int64.exists_toInt {i : Int} (low : Int64.minValue.toInt ≤ i)
    (high : i ≤ Int64.maxValue.toInt) : ∃ n : Int64, n.toInt = i := by
  rw [Int64.toInt_minValue] at low
  rw [Int64.toInt_maxValue] at high
  exact ⟨.ofInt i, Int64.toInt_ofInt_of_le (by omega) (by omega)⟩

namespace IntRange
variable {lower upper : Limit Int64} {r s : IntRange}

/-- Limits leave an integer between them exactly if the least is not above the greatest. -/
theorem exists_between_iff :
    (∃ n, (lower.admits .gt n && upper.admits .lt n) = true) ↔ lower.least ≤ upper.greatest := by
  simp only [Bool.and_eq_true, Limit.admits_gt_iff, Limit.admits_lt_iff]
  constructor
  · rintro ⟨n, above, below⟩
    exact Int.le_trans above below
  · intro h
    obtain ⟨n, same⟩ := Int64.exists_toInt lower.minValue_le_least
      (Int.le_trans h upper.greatest_le_maxValue)
    exact ⟨n, same ▸ Int.le_refl _, same ▸ h⟩

theorem not_between_iff :
    (∀ n, (lower.admits .gt n && upper.admits .lt n) = false) ↔ upper.greatest < lower.least := by
  rw [← Int.not_le, ← exists_between_iff, not_exists]
  simp only [Bool.not_eq_true]

/-- Exactly one integer is left, between an end that belongs to the range and one that does not. -/
inductive Pinched (lower upper : Limit Int64) (n : Int64) : Prop where
  | above {m : Int64} (out : lower = .opened m) (own : upper = .closed n)
      (beside : m.toInt + 1 = n.toInt)
  | below {m : Int64} (own : lower = .closed n) (out : upper = .opened m)
      (beside : n.toInt + 1 = m.toInt)

/-- There is one end, and all that is left lies beyond the greatest or the least integer. -/
inductive OffScale : Limit Int64 → Limit Int64 → Prop where
  | above : OffScale (.opened Int64.maxValue) .unbounded
  | below : OffScale .unbounded (.opened Int64.minValue)

/-- Two ends are refused if they are crossed, or if one of them is left out and stands beside the
other. -/
theorem make?_refuses_ends_iff {lo hi : Int64} (low : lower.value? = some lo)
    (high : upper.value? = some hi) :
    (make? lower upper).toOption = none ↔
      hi.toInt < lo.toInt ∨
        (lower.isOpen || upper.isOpen) = true ∧ hi.toInt - lo.toInt ≤ 1 := by
  unfold make? Range.make? Range.fault? gapFault?
  simp only [low, high, Range.orderFault?]
  rcases lt_trichotomy lo.toInt hi.toInt with apart | same | crossed
  · rw [(orderedBy_int64.lt_iff lo hi).2 apart]
    by_cases beside : hi.toInt - lo.toInt ≤ 1 <;> cases out : lower.isOpen || upper.isOpen <;>
      simp [bind, Except.bind, Except.toOption, beside, Int.le_of_lt apart]
  · rw [(orderedBy_int64.eq_iff lo hi).2 same]
    cases out : lower.isOpen || upper.isOpen <;> simp [bind, Except.bind, Except.toOption, same]
  · rw [(orderedBy_int64.gt_iff lo hi).2 crossed]
    simp [bind, Except.bind, Except.toOption, crossed]

theorem Pinched.ends {n : Int64} (h : Pinched lower upper n) :
    lower.least = n.toInt ∧ upper.greatest = n.toInt ∧
      lower.value?.isSome ∧ upper.value?.isSome := by
  cases h with
  | above out own beside =>
    subst out own
    exact ⟨beside, rfl, rfl, rfl⟩
  | below own out beside =>
    subst out own
    exact ⟨rfl, by simp only [Limit.greatest]; omega, rfl, rfl⟩

theorem OffScale.greatest_lt_least (h : OffScale lower upper) : upper.greatest < lower.least := by
  cases h <;> decide

/-- Where only one end stands, no integer is left exactly if it is left out and the last on the
scale. -/
theorem offScale_iff (bounded : lower.value?.isSome ∨ upper.value?.isSome)
    (half : lower.value? = none ∨ upper.value? = none) :
    OffScale lower upper ↔ upper.greatest < lower.least := by
  cases lower with
  | unbounded =>
    cases upper with
    | unbounded => simp [Limit.value?] at bounded
    | closed hi =>
      have least := hi.minValue_le_toInt
      exact ⟨OffScale.greatest_lt_least, fun h => absurd h (Int.not_lt.2 least)⟩
    | opened hi =>
      have least := hi.minValue_le_toInt
      refine ⟨OffScale.greatest_lt_least, fun h => ?_⟩
      have same : hi.toInt = Int64.minValue.toInt := by
        simp only [Limit.greatest, Limit.least] at h
        omega
      exact Int64.toInt_inj.1 same ▸ .below
  | closed lo =>
    cases upper with
    | unbounded =>
      have most := lo.toInt_le
      exact ⟨OffScale.greatest_lt_least, fun h => absurd h (Int.not_lt.2 most)⟩
    | closed hi | opened hi => simp [Limit.value?] at half
  | opened lo =>
    cases upper with
    | unbounded =>
      have most := lo.toInt_le
      refine ⟨OffScale.greatest_lt_least, fun h => ?_⟩
      have same : lo.toInt = Int64.maxValue.toInt := by
        simp only [Limit.greatest, Limit.least] at h
        omega
      exact Int64.toInt_inj.1 same ▸ .above
    | closed hi | opened hi => simp [Limit.value?] at half

theorem exists_pinched_iff {lo hi : Int64} (low : lower.value? = some lo)
    (high : upper.value? = some hi) :
    (∃ n, Pinched lower upper n) ↔ lower.isOpen ≠ upper.isOpen ∧ hi.toInt = lo.toInt + 1 := by
  constructor
  · rintro ⟨n, ⟨rfl, rfl, beside⟩ | ⟨rfl, rfl, beside⟩⟩ <;> cases low <;> cases high
    · exact ⟨nofun, beside.symm⟩
    · exact ⟨nofun, beside.symm⟩
  · rintro ⟨different, beside⟩
    have low := Limit.eq_of_value? low
    have high := Limit.eq_of_value? high
    cases below : lower.isOpen <;> cases above : upper.isOpen <;>
      simp [below, above] at low high different
    · exact ⟨lo, .below low high beside.symm⟩
    · exact ⟨hi, .above low high beside.symm⟩

/-- One end alone makes a range. -/
theorem make?_half (bounded : lower.value?.isSome ∨ upper.value?.isSome)
    (half : lower.value? = none ∨ upper.value? = none) :
    make? lower upper = .ok ⟨⟨lower, upper⟩⟩ := by
  cases lower with
  | unbounded =>
    cases upper with
    | unbounded => simp [Limit.value?] at bounded
    | closed hi | opened hi => rfl
  | closed lo | opened lo =>
    cases upper with
    | unbounded => rfl
    | closed hi | opened hi => simp [Limit.value?] at half

theorem make?_refuses_iff (bounded : lower.value?.isSome ∨ upper.value?.isSome) :
    (make? lower upper).toOption = none ↔
      (∃ n, Pinched lower upper n) ∨ ¬ OffScale lower upper ∧ upper.greatest < lower.least := by
  by_cases half : lower.value? = none ∨ upper.value? = none
  · rw [make?_half bounded half]
    constructor
    · intro refused
      cases refused
    · rintro (⟨n, pinched⟩ | ⟨on, none⟩)
      · obtain ⟨_, _, low, high⟩ := pinched.ends
        rcases half with h | h <;> simp [h] at low high
      · exact absurd ((offScale_iff bounded half).2 none) on
  · obtain ⟨⟨lo, low⟩, ⟨hi, high⟩⟩ :
        (∃ lo, lower.value? = some lo) ∧ ∃ hi, upper.value? = some hi := by
      simpa [not_or, Option.ne_none_iff_exists'] using half
    have on : ¬ OffScale lower upper := by
      rintro (_ | _)
      · cases high
      · cases low
    rw [make?_refuses_ends_iff low high, exists_pinched_iff low high, Limit.least_eq low,
      Limit.greatest_eq high]
    cases lower.isOpen <;> cases upper.isOpen <;> simp [on] <;> omega

/-! ## Ranges -/

/-- The limits of the range make the range. -/
def Made (r : IntRange) : Prop := make? r.lower r.upper = .ok r

theorem range_of_make? (h : make? lower upper = .ok r) :
    Range.make? lower upper = .ok r.range := by
  simp only [make?, bind, Except.bind] at h
  cases made : Range.make? lower upper with
  | error fault => simp [made] at h
  | ok range =>
    simp only [made] at h
    split at h
    · cases h
    · injection h with h
      rw [← h]

theorem eq_of_make? (h : make? lower upper = .ok r) : r = ⟨⟨lower, upper⟩⟩ :=
  congrArg mk (Range.make?_eq_ok_iff.1 (range_of_make? h)).2

theorem made_of_make? (h : make? lower upper = .ok r) : r.Made := by
  obtain rfl := eq_of_make? h
  exact h

/-- Limits that are not refused make the range between them. -/
theorem make?_eq_ok_iff :
    make? lower upper = .ok ⟨⟨lower, upper⟩⟩ ↔ (make? lower upper).toOption ≠ none := by
  constructor
  · intro made
    rw [made]
    nofun
  · intro kept
    cases made : make? lower upper with
    | error fault => exact absurd (congrArg Except.toOption made) kept
    | ok r => rw [eq_of_make? made]

theorem make?_singleton (n : Int64) : make? (.closed n) (.closed n) = .ok (singleton n) := by
  simp [make?, Range.make?, Range.fault?, Limit.value?, Range.orderFault?, Comparable.compare?,
    gapFault?, Limit.isOpen, singleton, Range.singleton, bind, Except.bind]

theorem make?_of_nonNegative? (h : nonNegative? lower upper = .ok r) :
    make? lower upper = .ok r := by
  unfold nonNegative? at h
  split at h
  · cases h
  · exact h

theorem intersect?_eq (r s : IntRange) :
    r.intersect? s = (make? (Range.tighter .gt r.lower s.lower)
      (Range.tighter .lt r.upper s.upper)).toOption := by
  unfold intersect? Range.intersect? make?
  simp only [lower, upper]
  cases made : Range.make? (Range.tighter .gt r.range.lower s.range.lower)
    (Range.tighter .lt r.range.upper s.range.upper) with
  | error fault => rfl
  | ok overlap =>
    obtain rfl := (Range.make?_eq_ok_iff.1 made).2
    simp [Except.toOption, bind, Except.bind, made]

theorem make?_of_intersect? {overlap : IntRange} (h : r.intersect? s = some overlap) :
    make? (Range.tighter .gt r.lower s.lower) (Range.tighter .lt r.upper s.upper) =
      .ok overlap := by
  rw [intersect?_eq] at h
  exact ok_of_toOption h

/-- The ranges of integers: they are made from limits or from one integer, or are what two ranges
have in common or what negation gives. -/
inductive Built : IntRange → Prop where
  | made {low high : Limit Int64} {made : IntRange} (h : make? low high = .ok made) : Built made
  | nonNegative {low high : Limit Int64} {made : IntRange}
      (h : nonNegative? low high = .ok made) : Built made
  | singleton (n : Int64) : Built (singleton n)
  | optional : Built optional
  | required : Built required
  | overlap {left right overlap : IntRange} (h : left.intersect? right = some overlap) :
      Built overlap
  | negated {range negated : IntRange} (h : range.negate = .ok negated) : Built negated

theorem Built.isMade (h : r.Built) : r.Made := by
  cases h with
  | made h => exact made_of_make? h
  | nonNegative h => exact made_of_make? (make?_of_nonNegative? h)
  | singleton n => exact make?_singleton n
  | optional => exact rfl
  | required => exact make?_singleton 1
  | overlap h => exact made_of_make? (make?_of_intersect? h)
  | @negated range _ h =>
    unfold negate at h
    cases low : negateLimit range.upper with
    | error fault => simp [low, bind, Except.bind] at h
    | ok low' =>
      cases high : negateLimit range.lower with
      | error fault => simp [low, high, bind, Except.bind] at h
      | ok high' =>
        simp only [low, high, bind, Except.bind] at h
        exact made_of_make? h

theorem contains_eq (r : IntRange) (n : Int64) :
    r.contains n = (r.lower.admits .gt n && r.upper.admits .lt n) := Range.contains_eq r.range n

theorem contains_iff (r : IntRange) (n : Int64) :
    r.contains n = true ↔ r.lower.least ≤ n.toInt ∧ n.toInt ≤ r.upper.greatest := by
  rw [contains_eq, Bool.and_eq_true, Limit.admits_gt_iff, Limit.admits_lt_iff]

theorem admits_overlap (r s : IntRange) (n : Int64) :
    ((Range.tighter .gt r.lower s.lower).admits .gt n &&
      (Range.tighter .lt r.upper s.upper).admits .lt n) = (r.contains n && s.contains n) :=
  Range.admits_overlap orderedBy_int64 r.range s.range n

theorem Made.bounded (made : r.Made) : r.lower.value?.isSome ∨ r.upper.value?.isSome :=
  Range.Made.bounded (range_of_make? made)

/-- **The overlap of ranges of integers.** An overlap contains exactly what both ranges contain.
There is none if the ranges have no integer in common, unless all that their ends leave lies beyond
the scale; and there is none if they have just one in common and it stands between an end that
belongs to the overlap and one that does not. -/
theorem overlap_exact (hr : r.Built) (s : IntRange) :
    let lower := Range.tighter .gt r.lower s.lower
    let upper := Range.tighter .lt r.upper s.upper
    (∀ overlap, r.intersect? s = some overlap →
      ∀ n, overlap.contains n = (r.contains n && s.contains n)) ∧
    (r.intersect? s = none ↔
      (∃ n, Pinched lower upper n) ∨
        ¬ OffScale lower upper ∧ ∀ n, (r.contains n && s.contains n) = false) ∧
    (∀ n, Pinched lower upper n → ∀ m, (r.contains m && s.contains m) = true ↔ m = n) ∧
    (OffScale lower upper → ∀ n, (r.contains n && s.contains n) = false) := by
  intro lower upper
  have between : ∀ n, (r.contains n && s.contains n) =
      (lower.admits .gt n && upper.admits .lt n) := fun n => (admits_overlap r s n).symm
  have bounded : lower.value?.isSome ∨ upper.value?.isSome :=
    Range.bounded_tighter hr.isMade.bounded s.range
  simp only [between]
  refine ⟨fun overlap h n => ?_, ?_, fun n pinched m => ?_, fun off n => ?_⟩
  · obtain rfl := eq_of_make? (make?_of_intersect? h)
    exact contains_eq _ n
  · rw [intersect?_eq, make?_refuses_iff bounded, not_between_iff]
  · obtain ⟨least, greatest, _⟩ := pinched.ends
    rw [Bool.and_eq_true, Limit.admits_gt_iff, Limit.admits_lt_iff, least, greatest,
      ← Int64.toInt_inj]
    omega
  · exact not_between_iff.2 off.greatest_lt_least n

/-- `(5, max]` and `[min, 6]` share just six, and have no overlap. What is greater than the greatest
integer overlaps with itself, and contains nothing. -/
theorem overlap_exact_beside :
    let aboveFive : IntRange := ⟨⟨.opened 5, .unbounded⟩⟩
    let toSix : IntRange := ⟨⟨.unbounded, .closed 6⟩⟩
    let beyond : IntRange := ⟨⟨.opened Int64.maxValue, .unbounded⟩⟩
    aboveFive.Built ∧ toSix.Built ∧ beyond.Built ∧
      aboveFive.intersect? toSix = none ∧
      (∀ n, (aboveFive.contains n && toSix.contains n) = true ↔ n = 6) ∧
      beyond.intersect? beyond = some beyond ∧
      ∀ n, (beyond.contains n && beyond.contains n) = false := by
  intro aboveFive toSix beyond
  have five : aboveFive.Built := .made (show make? (.opened 5) .unbounded = .ok aboveFive from rfl)
  have six : toSix.Built := .made (show make? .unbounded (.closed 6) = .ok toSix from rfl)
  have past : beyond.Built :=
    .made (show make? (.opened Int64.maxValue) .unbounded = .ok beyond from rfl)
  have pinched : Pinched (.opened 5) (.closed 6) 6 := .above rfl rfl rfl
  obtain ⟨_, none, only, _⟩ := overlap_exact five toSix
  obtain ⟨_, _, _, nothing⟩ := overlap_exact past beyond
  exact ⟨five, six, past, none.2 (.inl ⟨6, pinched⟩), only 6 pinched, rfl, nothing .above⟩

end IntRange

/-! ## Precisions -/

namespace PrecisionRange
variable {lower upper : Limit NamedPrecision} {r : PrecisionRange}

/-- The limits of the range make the range. -/
def Made (r : PrecisionRange) : Prop := make? r.lower r.upper = .ok r

theorem make?_eq_ok_iff : make? lower upper = .ok r ↔
    ∃ places, IntRange.make? (lower.map (·.place)) (upper.map (·.place)) = .ok places ∧
      r = ⟨lower, upper, places⟩ := by
  unfold make?
  cases IntRange.make? (lower.map (·.place)) (upper.map (·.place)) with
  | error fault => simp [Except.map]
  | ok places => simp [Except.map, eq_comm]

theorem made_of_make? (h : make? lower upper = .ok r) : r.Made := by
  obtain ⟨places, made, rfl⟩ := make?_eq_ok_iff.1 h
  exact make?_eq_ok_iff.2 ⟨places, made, rfl⟩

/-- A range of precisions is made from the places of its limits. -/
theorem Made.places_made (made : r.Made) :
    IntRange.make? (r.lower.map (·.place)) (r.upper.map (·.place)) = .ok r.places := by
  obtain ⟨places, made, same⟩ := make?_eq_ok_iff.1 made
  rw [made, same]

theorem make?_singleton (p : NamedPrecision) :
    make? (.closed p) (.closed p) = .ok (singleton p) := by
  simp only [singleton, make?, Limit.map, IntRange.make?_singleton, Except.map]

/-- The ranges of precisions: they are made from limits or from one precision. -/
inductive Built : PrecisionRange → Prop where
  | made {low high : Limit NamedPrecision} {made : PrecisionRange}
      (h : make? low high = .ok made) : Built made
  | singleton (p : NamedPrecision) : Built (singleton p)

theorem Built.isMade (h : r.Built) : r.Made := by
  cases h with
  | made h => exact made_of_make? h
  | singleton p => exact make?_singleton p

end PrecisionRange
end Isl
