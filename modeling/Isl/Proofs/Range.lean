import Mathlib.Order.Interval.Set.Basic
import Mathlib.Tactic.Order
import Isl.Proofs.Number.Worth
import Isl.Range.Instant
import Isl.Range.Number
/-!
# Ranges as sets of values

A range stands for the values that it contains. Over any total order the overlap of two ranges
contains what both contain, and there is none only if they share nothing
(`Range.intersection_exact`).

* `OrderedBy`: values are compared by where a key puts them in a linear order;
* `Limit.admits`: a limit of either side, and `Limit.admits_tighter`: the tighter of two;
* `Range.Made`: the ranges that `Range.make?` makes.
-/
namespace Isl

universe u v

theorem ok_of_toOption {α : Type u} {result : Except RangeFault α} {a : α}
    (h : result.toOption = some a) : result = .ok a := by
  cases result with
  | error fault => cases h
  | ok b => exact congrArg Except.ok (Option.some_inj.1 h)

/-- Values are compared by where a key puts them in a linear order. Several may share a place. -/
def OrderedBy {α : Type u} {β : Type v} [Comparable α] [LinearOrder β] (key : α → β) : Prop :=
  ∀ a b : α, Comparable.compare? a b = some (cmp (key a) (key b))

theorem orderedBy_int64 : OrderedBy Int64.toInt := by
  intro a b
  refine congrArg some ?_
  rw [cmp_eq_compare]
  rcases lt_trichotomy a.toInt b.toInt with h | h | h
  · rw [compare_lt_iff_lt.2 h, Std.compare_eq_lt.2 (Int64.lt_iff_toInt_lt.2 h)]
  · rw [compare_eq_iff_eq.2 h, Std.compare_eq_iff_eq.2 (Int64.toInt_inj.1 h)]
  · rw [compare_gt_iff_gt.2 h, Std.compare_eq_gt.2 (Int64.lt_iff_toInt_lt.2 h)]

theorem orderedBy_decimal : OrderedBy Decimal.worth :=
  fun a b => congrArg some (Decimal.compare_eq_cmp a b)

theorem orderedBy_timestamp : OrderedBy fun t : Timestamp => t.epochMillis.worth :=
  fun s t => congrArg some (Decimal.compare_eq_cmp s.epochMillis t.epochMillis)

section
variable {α : Type u} {β : Type v} [Comparable α] [LinearOrder β] {key : α → β}

theorem OrderedBy.eq_iff (ordered : OrderedBy key) (a b : α) :
    Comparable.compare? a b = some .eq ↔ key a = key b := by
  rw [ordered a b, Option.some_inj, cmp_eq_eq_iff]

theorem OrderedBy.lt_iff (ordered : OrderedBy key) (a b : α) :
    Comparable.compare? a b = some .lt ↔ key a < key b := by
  rw [ordered a b, Option.some_inj, cmp_eq_lt_iff]

theorem OrderedBy.gt_iff (ordered : OrderedBy key) (a b : α) :
    Comparable.compare? a b = some .gt ↔ key b < key a := by
  rw [ordered a b, Option.some_inj, cmp_eq_gt_iff]

/-! ## Limits -/

namespace Limit

/-- The value is on the inner side of the limit. `inner` is how values there compare to it. -/
def admits (inner : Ordering) (l : Limit α) (a : α) : Bool :=
  match l with
  | unbounded => true
  | closed b => Comparable.compare? a b == some .eq || Comparable.compare? a b == some inner
  | opened b => Comparable.compare? a b == some inner

theorem admitsAbove_eq (l : Limit α) : l.admitsAbove = l.admits .gt := by cases l <;> rfl

theorem admitsBelow_eq (l : Limit α) : l.admitsBelow = l.admits .lt := by cases l <;> rfl

section
variable (ordered : OrderedBy key) {a b : α}
include ordered

theorem admits_closed_gt : (closed b).admits .gt a = true ↔ key b ≤ key a := by
  rw [le_iff_eq_or_lt, eq_comm (a := key b)]
  simp [admits, ordered.eq_iff a b, ordered.gt_iff a b]

theorem admits_opened_gt : (opened b).admits .gt a = true ↔ key b < key a := by
  simp [admits, ordered.gt_iff a b]

theorem admits_closed_lt : (closed b).admits .lt a = true ↔ key a ≤ key b := by
  rw [le_iff_eq_or_lt]
  simp [admits, ordered.eq_iff a b, ordered.lt_iff a b]

theorem admits_opened_lt : (opened b).admits .lt a = true ↔ key a < key b := by
  simp [admits, ordered.lt_iff a b]

/-- The tighter of two limits on one side admits what both of them admit. -/
theorem admits_tighter {inner : Ordering} (sided : inner ≠ .eq) (x y : Limit α) (a : α) :
    (Range.tighter inner x y).admits inner a = (x.admits inner a && y.admits inner a) := by
  cases x with
  | unbounded => rfl
  | closed b | opened b =>
    cases y with
    | unbounded => exact (Bool.and_true _).symm
    | closed c | opened c =>
      rw [Bool.eq_iff_iff, Bool.and_eq_true]
      simp only [Range.tighter, value?, isOpen]
      cases inner with
      | eq => contradiction
      | lt | gt =>
        rcases lt_trichotomy (key b) (key c) with h | h | h
        · simp [(ordered.lt_iff b c).2 h, admits_closed_gt ordered, admits_opened_gt ordered,
            admits_closed_lt ordered, admits_opened_lt ordered]
          order
        · simp [(ordered.eq_iff b c).2 h, admits_closed_gt ordered, admits_opened_gt ordered,
            admits_closed_lt ordered, admits_opened_lt ordered]
          order
        · simp [(ordered.gt_iff b c).2 h, admits_closed_gt ordered, admits_opened_gt ordered,
            admits_closed_lt ordered, admits_opened_lt ordered]
          order

end

theorem isSome_value?_tighter (inner : Ordering) (x y : Limit α) :
    (Range.tighter inner x y).value?.isSome = (x.value?.isSome || y.value?.isSome) := by
  unfold Range.tighter
  cases hx : x.value? with
  | none => simp
  | some a =>
    cases hy : y.value? with
    | none => simp [hx]
    | some b =>
      simp only
      split <;> split <;> simp [hx, hy]

theorem tighter_self (ordered : OrderedBy key) (inner : Ordering) (x : Limit α) :
    Range.tighter inner x x = x := by
  unfold Range.tighter
  cases x.value? with
  | none => rfl
  | some a =>
    simp only [(ordered.eq_iff a a).2 rfl]
    split <;> rfl

end Limit

/-! ## Ranges -/

namespace Range
variable {lower upper : Limit α} {r s : Range α}

theorem contains_eq (r : Range α) (a : α) :
    r.contains a = (r.lower.admits .gt a && r.upper.admits .lt a) := by
  rw [contains, Limit.admitsAbove_eq, Limit.admitsBelow_eq]

/-- What the ends of an overlap admit is in both ranges. -/
theorem admits_overlap (ordered : OrderedBy key) (r s : Range α) (a : α) :
    ((tighter .gt r.lower s.lower).admits .gt a && (tighter .lt r.upper s.upper).admits .lt a) =
      (r.contains a && s.contains a) := by
  rw [Limit.admits_tighter ordered (by decide : Ordering.gt ≠ .eq),
    Limit.admits_tighter ordered (by decide : Ordering.lt ≠ .eq), contains_eq, contains_eq,
    Bool.and_assoc, Bool.and_assoc, Bool.and_left_comm (s.lower.admits .gt a)]

/-- A range with an end has an overlap with an end, whatever the other one is. -/
theorem bounded_tighter (bounded : r.lower.value?.isSome ∨ r.upper.value?.isSome)
    (s : Range α) :
    (tighter .gt r.lower s.lower).value?.isSome ∨ (tighter .lt r.upper s.upper).value?.isSome := by
  rw [Limit.isSome_value?_tighter, Limit.isSome_value?_tighter]
  rcases bounded with h | h
  · exact .inl (by rw [h, Bool.true_or])
  · exact .inr (by rw [h, Bool.true_or])

/-- The value is in the range. Where there is no range there are no values. -/
def covers (range : Option (Range α)) (a : α) : Bool := range.any (·.contains a)

variable [Shown α]

/-- The limits of the range make the range. -/
def Made (r : Range α) : Prop := make? r.lower r.upper = .ok r

theorem make?_eq_ok_iff :
    make? lower upper = .ok r ↔ fault? lower upper = none ∧ r = ⟨lower, upper⟩ := by
  unfold make?
  cases fault? lower upper <;> simp [eq_comm]

theorem made_of_make? (h : make? lower upper = .ok r) : r.Made := by
  obtain ⟨_, rfl⟩ := make?_eq_ok_iff.1 h
  exact h

theorem Made.bounded (made : r.Made) : r.lower.value?.isSome ∨ r.upper.value?.isSome := by
  have sound := (make?_eq_ok_iff.1 made).1
  unfold fault? at sound
  cases hl : r.lower.value? with
  | some a => exact .inl rfl
  | none =>
    cases hu : r.upper.value? with
    | some b => exact .inr rfl
    | none => simp [hl, hu] at sound

/-- Limits that make no range leave nothing between them. -/
theorem admits_of_fault? (ordered : OrderedBy key) {fault : RangeFault}
    (bounded : lower.value?.isSome ∨ upper.value?.isSome) (h : fault? lower upper = some fault)
    (a : α) : (lower.admits .gt a && upper.admits .lt a) = false := by
  cases lower with
  | unbounded => cases upper <;> simp [fault?, Limit.value?] at bounded h
  | closed lo | opened lo =>
    cases upper with
    | unbounded => simp [fault?, Limit.value?] at h
    | closed hi | opened hi =>
      simp only [fault?, Limit.value?, orderFault?] at h
      rw [Bool.eq_false_iff, ne_eq, Bool.and_eq_true]
      rintro ⟨above, below⟩
      simp only [Limit.admits_closed_gt ordered, Limit.admits_opened_gt ordered,
        Limit.admits_closed_lt ordered, Limit.admits_opened_lt ordered] at above below
      rcases lt_trichotomy (key lo) (key hi) with apart | beside | crossed
      · simp [(ordered.lt_iff lo hi).2 apart] at h
      · simp [(ordered.eq_iff lo hi).2 beside, Limit.isOpen] at h <;> order
      · order

/-! ## Intersection -/

theorem made_of_intersect? {overlap : Range α} (h : r.intersect? s = some overlap) :
    overlap.Made := made_of_make? (ok_of_toOption h)

theorem covers_intersect? (ordered : OrderedBy key) (made : r.Made) (s : Range α) (a : α) :
    covers (r.intersect? s) a = (r.contains a && s.contains a) := by
  rw [← admits_overlap ordered r s]
  unfold intersect? make?
  cases fault : fault? (tighter .gt r.lower s.lower) (tighter .lt r.upper s.upper) with
  | none => exact contains_eq _ a
  | some f =>
    exact (admits_of_fault? ordered (bounded_tighter made.bounded s) fault a).symm

/-- Meeting a range that may be missing. -/
theorem covers_bind_intersect? (ordered : OrderedBy key) {o : Option (Range α)}
    (made : ∀ q, o = some q → q.Made) (t : Range α) (a : α) :
    covers (o.bind (·.intersect? t)) a = (covers o a && t.contains a) := by
  cases o with
  | none => rfl
  | some q => exact covers_intersect? ordered (made q rfl) t a

theorem covers_intersect?_bind (ordered : OrderedBy key) (made : r.Made) (o : Option (Range α))
    (a : α) : covers (o.bind (r.intersect? ·)) a = (r.contains a && covers o a) := by
  cases o with
  | none => exact (Bool.and_false _).symm
  | some q => exact covers_intersect? ordered made q a

theorem intersect?_self (ordered : OrderedBy key) (made : r.Made) : r.intersect? r = some r := by
  unfold intersect?
  rw [Limit.tighter_self ordered, Limit.tighter_self ordered, made]
  rfl

/-- **Intersection is the intersection of sets.** A value is in the overlap of two ranges exactly if
it is in both, and if there is no overlap then no value is in both. So a range met with itself is
itself, and what an overlap covers depends neither on the order nor on the grouping of ranges. -/
theorem intersection_exact (ordered : OrderedBy key) (hr : r.Made) (hs : s.Made) (t : Range α) :
    (∀ overlap, r.intersect? s = some overlap →
      ∀ a, overlap.contains a = (r.contains a && s.contains a)) ∧
    (r.intersect? s = none → ∀ a, (r.contains a && s.contains a) = false) ∧
    r.intersect? r = some r ∧
    (∀ a, covers (r.intersect? s) a = covers (s.intersect? r) a) ∧
    ∀ a, covers ((r.intersect? s).bind (·.intersect? t)) a =
      covers ((s.intersect? t).bind (r.intersect? ·)) a := by
  refine ⟨fun overlap h a => ?_, fun h a => ?_, intersect?_self ordered hr, fun a => ?_,
    fun a => ?_⟩
  · rw [← covers_intersect? ordered hr, h]
    rfl
  · rw [← covers_intersect? ordered hr, h]
    rfl
  · rw [covers_intersect? ordered hr, covers_intersect? ordered hs, Bool.and_comm]
  · rw [covers_bind_intersect? ordered (fun _ => made_of_intersect?), covers_intersect? ordered hr,
      covers_intersect?_bind ordered hr, covers_intersect? ordered hs, Bool.and_assoc]

end Range
end

/-- One worth at several scales: `[1.0, 2.5)` and `(0, 1.00]` share what is worth one. -/
theorem Range.intersection_exact_scales :
    let tenths : NumberRange := ⟨.closed ⟨10, 1⟩, .opened ⟨25, 1⟩⟩
    let hundredths : NumberRange := ⟨.opened ⟨0, 0⟩, .closed ⟨100, 2⟩⟩
    OrderedBy Decimal.worth ∧ tenths.Made ∧ hundredths.Made ∧
      tenths.intersect? hundredths = some ⟨.closed ⟨10, 1⟩, .closed ⟨100, 2⟩⟩ ∧
      ∀ d, (⟨.closed ⟨10, 1⟩, .closed ⟨100, 2⟩⟩ : NumberRange).contains d =
        (tenths.contains d && hundredths.contains d) := by
  intro tenths hundredths
  have hr : tenths.Made := rfl
  have hs : hundredths.Made := rfl
  have overlap : tenths.intersect? hundredths = some ⟨.closed ⟨10, 1⟩, .closed ⟨100, 2⟩⟩ := rfl
  exact ⟨orderedBy_decimal, hr, hs, overlap,
    (intersection_exact orderedBy_decimal hr hs tenths).1 _ overlap⟩

end Isl

/-!
## Numbers in ranges

A range of numbers is an interval of the rationals, and an element that is a number is in it if what
the element is worth lies in the interval (`NumberRange.containsElement_exact`). Nothing else about
the element counts: not whether it is an int, a decimal or a float, nor its scale.
-/

namespace Isl

/-- The number that an element stands for: an int, a decimal or a finite float, and no null. -/
def Element.worth? (e : Element) : Option ℚ :=
  match e.value with
  | .int n => some n
  | .decimal d => some d.worth
  | .float x => x.worth?
  | _ => none

theorem Element.worth_decimal? (e : Element) : e.decimal?.map Decimal.worth = e.worth? := by
  unfold decimal? worth?
  cases e.value with
  | int n => exact congrArg some (Decimal.worth_ofInt n)
  | float x => exact x.worth_toDecimal
  | _ => rfl

namespace Limit

/-- The numbers above a lower limit. -/
def above : Limit Decimal → Set ℚ
  | unbounded => Set.univ
  | closed d => Set.Ici d.worth
  | opened d => Set.Ioi d.worth

/-- The numbers below an upper limit. -/
def below : Limit Decimal → Set ℚ
  | unbounded => Set.univ
  | closed d => Set.Iic d.worth
  | opened d => Set.Iio d.worth

variable {l : Limit Decimal} {d : Decimal}

theorem admits_gt_iff_above : l.admits .gt d = true ↔ d.worth ∈ l.above := by
  cases l with
  | unbounded => exact ⟨fun _ => trivial, fun _ => rfl⟩
  | closed c => exact admits_closed_gt orderedBy_decimal
  | opened c => exact admits_opened_gt orderedBy_decimal

theorem admits_lt_iff_below : l.admits .lt d = true ↔ d.worth ∈ l.below := by
  cases l with
  | unbounded => exact ⟨fun _ => trivial, fun _ => rfl⟩
  | closed c => exact admits_closed_lt orderedBy_decimal
  | opened c => exact admits_opened_lt orderedBy_decimal

end Limit

namespace NumberRange
variable {r : NumberRange} {e f : Element} {q : ℚ}

/-- The numbers between the ends. -/
def interval (r : NumberRange) : Set ℚ := r.lower.above ∩ r.upper.below

theorem contains_iff (r : NumberRange) (d : Decimal) :
    r.contains d = true ↔ d.worth ∈ r.interval := by
  rw [Range.contains_eq, Bool.and_eq_true, Limit.admits_gt_iff_above, Limit.admits_lt_iff_below]
  rfl

theorem containsElement_iff (r : NumberRange) (e : Element) :
    r.containsElement e = true ↔ ∃ q ∈ r.interval, e.worth? = some q := by
  rw [← e.worth_decimal?]
  unfold containsElement
  cases e.decimal? with
  | none => simp
  | some d => simp [contains_iff]

/-- **Numbers are compared by exact worth.** An element is in a range exactly if it is a number and
what it is worth lies between the ends, so two elements that are worth the same are in the same
ranges. A float of any pattern, and the decimal that it becomes, are worth what the pattern says,
and there is no such decimal if that is infinite or no number; and every float has a pattern. -/
theorem containsElement_exact (r : NumberRange) :
    (∀ e, r.containsElement e = true ↔ ∃ q ∈ r.interval, e.worth? = some q) ∧
    (∀ e f, e.worth? = f.worth? → r.containsElement e = r.containsElement f) ∧
    (∀ bits : UInt64,
      (Binary64.ofBits bits.toNat).worth? = Binary64.patternWorth? bits ∧
        (Binary64.ofBits bits.toNat).toDecimal.map Decimal.worth = Binary64.patternWorth? bits) ∧
    ∀ x : Binary64, ∃ bits : UInt64, Binary64.ofBits bits.toNat = x := by
  refine ⟨r.containsElement_iff, fun e f same => ?_, fun bits => ?_, fun x => ?_⟩
  · rw [Bool.eq_iff_iff, containsElement_iff, containsElement_iff, same]
  · rw [Binary64.worth_toDecimal, Binary64.worth_ofBits]
    exact ⟨rfl, rfl⟩
  · refine ⟨.ofNat x.toBits, ?_⟩
    rw [UInt64.toNat_ofNat_of_lt' x.toBits_lt, Binary64.ofBits_toBits]

/-- One is in a range as an int, as `1.00` and as a float alike. The float nearest to a tenth is
above the decimal `0.1`. -/
theorem containsElement_exact_tenth :
    let one : Element := ⟨[], .int 1⟩
    let hundredths : Element := ⟨["m"], .decimal ⟨100, 2⟩⟩
    let float : Element := ⟨[], .float (.ofBits 0x3ff0000000000000)⟩
    let nearTenth : Element := ⟨[], .float (.ofBits 0x3fb999999999999a)⟩
    let upToTenth : NumberRange := ⟨.unbounded, .closed ⟨1, 1⟩⟩
    one.worth? = some 1 ∧ hundredths.worth? = one.worth? ∧ float.worth? = one.worth? ∧
      (∀ r : NumberRange, r.containsElement hundredths = r.containsElement one ∧
        r.containsElement float = r.containsElement one) ∧
      upToTenth.containsElement nearTenth = false := by
  intro one hundredths float nearTenth upToTenth
  have ones : one.worth? = some 1 := congrArg some Int.cast_one
  have decimals : hundredths.worth? = one.worth? := by
    rw [ones]
    exact congrArg some (by norm_num [Decimal.worth])
  have floats : float.worth? = one.worth? := by
    rw [ones]
    have pattern : Binary64.patternWorth? 0x3ff0000000000000 =
      some ((-1 : ℚ) ^ 0 * (0x10000000000000 : Nat) * 2 ^ ((1023 : Nat) - 1075 : Int)) := rfl
    exact ((Binary64.worth_ofBits 0x3ff0000000000000).trans pattern).trans
      (congrArg some (by norm_num))
  refine ⟨ones, decimals, floats, fun r => ?_, ?_⟩
  · obtain ⟨-, same, -⟩ := containsElement_exact r
    exact ⟨same _ _ decimals, same _ _ floats⟩
  · rw [Bool.eq_false_iff, ne_eq, (containsElement_exact upToTenth).1 nearTenth]
    rintro ⟨q, ⟨-, below⟩, worth⟩
    have pattern : Binary64.patternWorth? 0x3fb999999999999a =
      some ((-1 : ℚ) ^ 0 * (0x1999999999999a : Nat) * 2 ^ ((1019 : Nat) - 1075 : Int)) := rfl
    have above := (Binary64.worth_ofBits 0x3fb999999999999a).trans pattern
    obtain rfl := Option.some_inj.1 (above.symm.trans worth)
    norm_num [upToTenth, Limit.below, Decimal.worth] at below

end NumberRange
end Isl
