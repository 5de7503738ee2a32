import Mathlib.Data.Prod.Lex
import Mathlib.Order.Interval.Set.Basic
import Mathlib.Tactic.Linarith
import Isl.Proofs.Number.Worth
import Isl.Proofs.Range
import Isl.Proofs.Timestamp
/-!
# Timestamps that are read are real

What is read has the fields and the precision that its text spells. They name a day of the calendar
and a time of day, so that its instant is counted from them, and an offset of less than a day; and
it is read back from the text that it is written as (`parse?_real`). Only the year may be none: a
year alone is taken as it stands, so `0000T` is read.
-/
namespace Isl.Timestamp

variable {t : Timestamp} {cs : List Char}

/-- What part of a second is known beyond the whole ones. -/
def fractionWorth (t : Timestamp) : ℚ :=
  match t.precision with
  | .fraction ds => Digits.ofDecimal ds / 10 ^ ds.length
  | _ => 0

/-- The instant of a real timestamp is counted from its fields. -/
theorem worth_epochMillis (real : t.InCalendar) :
    t.epochMillis.worth =
      1000 * (t.localSeconds - 60 * (t.offset.getD 0 : Int) + t.fractionWorth : ℚ) := by
  unfold epochMillis fractionWorth
  rw [if_pos real]
  cases t.precision with
  | fraction ds =>
    have fraction : (⟨Digits.ofDecimal ds * 1000, ds.length⟩ : Decimal).worth =
        Digits.ofDecimal ds * 1000 / 10 ^ ds.length := by
      rw [Decimal.worth, zpow_neg, zpow_natCast, ← div_eq_mul_inv]
      push_cast
      rfl
    simp only [Decimal.worth_add, Decimal.worth_ofInt, fraction]
    push_cast
    ring
  | _ =>
    simp only [Decimal.worth_ofInt]
    push_cast
    ring

theorem inCalendar_ofYear (year : Nat) : (ofYear year).InCalendar := by
  have days : 1 ≤ Calendar.daysInMonth year 1 := by
    rw [Calendar.daysInMonth, if_neg (by decide), if_neg (by decide)]
    decide
  exact ⟨⟨Nat.le_refl 1, Nat.le_add_left 1 11, Nat.le_refl 1, days⟩,
    show Calendar.IsTimeOfDay 0 0 0 by decide⟩

theorem Spelled.inCalendar (spelled : Spelled cs t) (accepted : t.Accepted) : t.InCalendar := by
  rcases accepted.known with alone | ⟨real, -⟩
  · cases spelled with
    | year y => exact inCalendar_ofYear _
    | month | day => cases alone
    | time y m d h min s => exact absurd alone s.ne_year
  · exact real

/-- The year stands in front, and if it is all that is known only a mark follows. -/
theorem Spelled.front (spelled : Spelled cs t) :
    ∃ ys tail, Row 4 ys t.year ∧ cs = ys ++ tail ∧ (t.precision = .year → tail = ['T']) := by
  cases spelled with
  | year y => exact ⟨_, _, y, rfl, fun _ => rfl⟩
  | month y m => exact ⟨_, _, y, rfl, nofun⟩
  | day y m d marked => exact ⟨_, _, y, rfl, nofun⟩
  | time y m d h min s => exact ⟨_, _, y, rfl, fun alone => absurd alone s.ne_year⟩

/-- Just four zeros and the mark of a year alone are read without there being such a year. -/
theorem Spelled.one_le_year_iff (spelled : Spelled cs t) (accepted : t.Accepted) :
    1 ≤ t.year ↔ cs ≠ ['0', '0', '0', '0', 'T'] := by
  obtain ⟨ys, tail, y, rfl, alone⟩ := spelled.front
  constructor
  · intro some same
    have zeros : ys = ['0', '0', '0', '0'] := List.append_inj_left same y.length
    have none : Digits.ofDecimal ys = 0 := by
      rw [zeros]
      rfl
    have year := y.worth
    omega
  · intro other
    by_contra none
    have zero : t.year = 0 := by omega
    rcases accepted.known with known | ⟨-, some, -⟩
    · apply other
      rw [zero] at y
      rw [y.zeros, alone known]
      rfl
    · omega

theorem Spelled.offset_inRange (spelled : Spelled cs t) : OffsetInRange t.offset := by
  cases spelled with
  | year | month | day => nofun
  | time y m d h min s =>
    cases s with
    | minute o | second s o | fraction s filled digits o => exact o.inRange

/-- **Only real timestamps are read.** A text is read exactly if it spells a timestamp that is a
year alone or lies in the calendar, in the years from 1 to 9999, with a fraction of fewer than
`2 ^ 32` digits. So what is read has the precision and the fields of its text, a real day and time
of day, an offset of less than a day, the instant that is counted from these, and a text that it is
read from again. Its year is one to 9999, unless the text is `0000T`. -/
theorem parse?_real (cs : List Char) (t : Timestamp) :
    (parse? cs = some t ↔ Spelled cs t ∧ t.Accepted) ∧
    (parse? cs = some t →
      t.year ≤ 9999 ∧ (1 ≤ t.year ↔ cs ≠ ['0', '0', '0', '0', 'T']) ∧
      Calendar.IsDate t.year t.month t.day ∧ Calendar.IsTimeOfDay t.hour t.minute t.second ∧
      (∀ minutes ∈ t.offset, minutes.natAbs ≤ 23 * 60 + 59) ∧
      t.epochMillis.worth =
        1000 * (t.localSeconds - 60 * (t.offset.getD 0 : Int) + t.fractionWorth : ℚ) ∧
      parse? t.toChars = some t) := by
  refine ⟨parse?_eq_some_iff, fun parsed => ?_⟩
  obtain ⟨spelled, accepted⟩ := spelled_of_parse? parsed
  obtain ⟨ys, tail, y, -⟩ := spelled.front
  have short := y.lt
  have real := spelled.inCalendar accepted
  refine ⟨by omega, spelled.one_le_year_iff accepted, real.1, real.2, ?_, worth_epochMillis real,
    parse?_toChars (parsed_of_parse? parsed)⟩
  intro minutes known
  have near := spelled.offset_inRange minutes known
  omega

/-- A leap day half a second before midnight, behind the offset of the clock; and the year zero. -/
theorem parse?_real_leap :
    let leap : Timestamp := ⟨2024, 2, 29, 23, 59, 59, .fraction ['5'], some (-90)⟩
    parse? "2024-02-29T23:59:59.5-01:30".toList = some leap ∧
      Calendar.IsDate 2024 2 29 ∧ parse? leap.toChars = some leap ∧
      leap.epochMillis.worth =
        1000 * (leap.localSeconds - 60 * (leap.offset.getD 0 : Int) + leap.fractionWorth : ℚ) ∧
      parse? "0000T".toList = some (ofYear 0) ∧ ¬ 1 ≤ (ofYear 0).year := by
  intro leap
  have parsed : parse? "2024-02-29T23:59:59.5-01:30".toList = some leap := by decide
  have zero : parse? "0000T".toList = some (ofYear 0) := by decide
  obtain ⟨-, -, date, -, -, instant, again⟩ := (parse?_real _ leap).2 parsed
  have none := ((parse?_real _ (ofYear 0)).2 zero).2.1
  exact ⟨parsed, date, again, instant, zero, fun some => none.1 some rfl⟩

end Isl.Timestamp

/-!
## Instants are ordered like clocks

A clock shows a date, a time of day and a part of a second. Days are counted one by one through
months and years of their lengths, so of two clocks with one offset the one that shows more is at
the later instant, and an offset moves the instant by its minutes (`instants_ordered`). Ranges of
timestamps are intervals of instants.

* `dayNumber_next`, `dayNumber_lt`: days are counted, and in the order of dates;
* `Timestamp.clock`, `clock_lt`: clocks that show less are at earlier local seconds;
* `Timestamp.instant`, `InstantRange.span`: exact instants, and those in a range.
-/

namespace Isl

/-! ### Days -/

namespace Calendar
variable {y y' m m' d d' : Nat}

/-- The day behind a date. -/
def next (y m d : Nat) : Nat × Nat × Nat :=
  if d < daysInMonth y m then (y, m, d + 1)
  else if m < 12 then (y, m + 1, 1)
  else (y + 1, 1, 1)

theorem one_le_daysInMonth (y m : Nat) : 1 ≤ daysInMonth y m := by
  unfold daysInMonth
  repeat' split
  all_goals omega

/-- The years divisible by `k + 1` before the next year: this one may be one more. -/
theorem multiples_succ (y k : Nat) :
    (y + 1 + k) / (k + 1) = (y + k) / (k + 1) + if y % (k + 1) = 0 then 1 else 0 := by
  have divides : k + 1 ∣ y + k + 1 ↔ y % (k + 1) = 0 := by
    rw [Nat.add_assoc, Nat.dvd_add_self_right, Nat.dvd_iff_mod_eq_zero]
  rw [Nat.add_right_comm, Nat.succ_div, if_congr divides rfl rfl]

theorem daysBeforeYear_succ (y : Nat) :
    daysBeforeYear (y + 1) = daysBeforeYear y + (if isLeap y then 366 else 365) := by
  have fewer : (y + 99) / 100 ≤ (y + 3) / 4 := by omega
  have nested : (y % 400 = 0 → y % 100 = 0) ∧ (y % 100 = 0 → y % 4 = 0) := by omega
  unfold daysBeforeYear isLeap
  rw [multiples_succ y 3, multiples_succ y 99, multiples_succ y 399]
  generalize (y + 3) / 4 = fours, (y + 99) / 100 = hundreds, (y + 399) / 400 = cycles at *
  by_cases cycle : y % 400 = 0
  · have hundred := nested.1 cycle
    simp [nested.2 hundred, hundred, cycle]
    omega
  · by_cases hundred : y % 100 = 0
    · simp [nested.2 hundred, hundred, cycle]
      omega
    · by_cases four : y % 4 = 0
      · simp [four, hundred, cycle]
        omega
      · simp [four, hundred, cycle]
        omega

theorem daysBeforeMonth_succ (y : Nat) (some : 1 ≤ m) :
    daysBeforeMonth y (m + 1) = daysBeforeMonth y m + daysInMonth y m := by
  obtain ⟨k, rfl⟩ := Nat.exists_eq_add_of_le' some
  rfl

theorem daysBeforeMonth_end (y : Nat) :
    daysBeforeMonth y 13 = if isLeap y then 366 else 365 := by
  cases leap : isLeap y <;> simp only [daysBeforeMonth, daysInMonth, leap] <;> rfl

theorem daysBeforeYear_mono (h : y ≤ y') : daysBeforeYear y ≤ daysBeforeYear y' := by
  induction h with
  | refl => exact Nat.le_refl _
  | step _ ih => exact ih.trans ((daysBeforeYear_succ _).symm ▸ Nat.le_add_right _ _)

theorem daysBeforeMonth_mono (y : Nat) (some : 1 ≤ m) (h : m ≤ m') :
    daysBeforeMonth y m ≤ daysBeforeMonth y m' := by
  induction h with
  | refl => exact Nat.le_refl _
  | step le ih =>
    exact ih.trans ((daysBeforeMonth_succ y (some.trans le)).symm ▸ Nat.le_add_right _ _)

/-- A date is not behind the end of its month, nor that behind the end of the year. -/
theorem IsDate.within (date : IsDate y m d) :
    daysBeforeMonth y m + d ≤ daysBeforeMonth y (m + 1) ∧
      daysBeforeYear y + daysBeforeMonth y (m + 1) ≤ daysBeforeYear (y + 1) := by
  obtain ⟨some, month, -, day⟩ := date
  rw [daysBeforeYear_succ, ← daysBeforeMonth_end]
  have rest := daysBeforeMonth_mono y (m := m + 1) (Nat.le_add_left 1 m) (Nat.succ_le_succ month)
  exact ⟨daysBeforeMonth_succ y some ▸ Nat.add_le_add_left day _, Nat.add_le_add_left rest _⟩

/-- Days are counted one by one. -/
theorem dayNumber_next (date : IsDate y m d) :
    IsDate (next y m d).1 (next y m d).2.1 (next y m d).2.2 ∧
      dayNumber (next y m d).1 (next y m d).2.1 (next y m d).2.2 = dayNumber y m d + 1 := by
  obtain ⟨some, month, first, day⟩ := date
  unfold next dayNumber
  split
  · dsimp only
    exact ⟨⟨some, month, by omega, by omega⟩, by omega⟩
  · obtain rfl : d = daysInMonth y m := by omega
    have full := daysBeforeMonth_succ y some
    split
    · dsimp only
      exact ⟨⟨by omega, by omega, Nat.le_refl 1, one_le_daysInMonth _ _⟩, by omega⟩
    · obtain rfl : m = 12 := by omega
      have full : daysBeforeMonth y 13 = _ := full
      have year := daysBeforeYear_succ y
      rw [← daysBeforeMonth_end] at year
      have none : daysBeforeMonth (y + 1) 1 = 0 := rfl
      dsimp only
      exact ⟨⟨by decide, by decide, Nat.le_refl 1, one_le_daysInMonth _ _⟩, by omega⟩

/-- Of two dates the earlier one has the smaller number. -/
theorem dayNumber_lt (date : IsDate y m d) (date' : IsDate y' m' d')
    (before : y < y' ∨ y = y' ∧ (m < m' ∨ m = m' ∧ d < d')) :
    dayNumber y m d < dayNumber y' m' d' := by
  obtain ⟨month, year⟩ := date.within
  have first := date'.2.2.1
  unfold dayNumber
  obtain earlier | ⟨rfl, earlier | ⟨rfl, earlier⟩⟩ := before
  · have passed := daysBeforeYear_mono (y := y + 1) earlier
    omega
  · have passed := daysBeforeMonth_mono y (Nat.le_add_left 1 m) earlier
    omega
  · omega

end Calendar

namespace Timestamp
variable {s t : Timestamp} {cs ds : List Char}

/-! ### Clocks -/

/-- Year, month, day, hour, minute, second and a part of a second, compared in this order. -/
abbrev Clock := Nat ×ₗ Nat ×ₗ Nat ×ₗ Nat ×ₗ Nat ×ₗ Nat ×ₗ ℚ

def Clock.of (year month day hour minute second : Nat) (fraction : ℚ) : Clock :=
  toLex (year, toLex (month, toLex (day, toLex (hour, toLex (minute, toLex (second, fraction))))))

/-- What a local clock shows. What is not known counts as its first value. -/
def clock (t : Timestamp) : Clock :=
  match t.precision with
  | .year => .of t.year 1 1 0 0 0 0
  | .month => .of t.year t.month 1 0 0 0 0
  | .day => .of t.year t.month t.day 0 0 0 0
  | .minute => .of t.year t.month t.day t.hour t.minute 0 0
  | .second => .of t.year t.month t.day t.hour t.minute t.second 0
  | .fraction ds =>
    .of t.year t.month t.day t.hour t.minute t.second (Digits.ofDecimal ds / 10 ^ ds.length)

/-- A text leaves out only what then has its first value. -/
theorem Spelled.clock_eq (spelled : Spelled cs t) :
    t.clock = .of t.year t.month t.day t.hour t.minute t.second t.fractionWorth := by
  cases spelled with
  | year | month | day => rfl
  | time y m d h min s => cases s <;> rfl

/-- A part of a second is less than a second. -/
theorem Spelled.fractionWorth_lt (spelled : Spelled cs t) :
    0 ≤ t.fractionWorth ∧ t.fractionWorth < 1 := by
  have part (ds : List Char) (digits : ∀ d ∈ ds, d.isDigit = true) :
      (0 : ℚ) ≤ Digits.ofDecimal ds / 10 ^ ds.length ∧
        (Digits.ofDecimal ds / 10 ^ ds.length : ℚ) < 1 := by
    have row : Row ds.length ds (Digits.ofDecimal ds) := ⟨rfl, digits, rfl⟩
    refine ⟨by positivity, (div_lt_one (by positivity)).2 ?_⟩
    exact_mod_cast row.lt
  cases spelled with
  | year | month | day => exact ⟨le_rfl, one_pos⟩
  | time y m d h min s =>
    cases s with
    | minute | second => exact ⟨le_rfl, one_pos⟩
    | fraction s filled digits o => exact part _ digits

theorem localSeconds_lt_of_day (real : s.InCalendar)
    (earlier : Calendar.dayNumber s.year s.month s.day < Calendar.dayNumber t.year t.month t.day) :
    s.localSeconds < t.localSeconds := by
  obtain ⟨-, hour, minute, second⟩ := real
  unfold localSeconds
  omega

/-- A clock that shows less shows an earlier second, or an earlier part of the same. -/
theorem clock_lt (real : s.InCalendar) (real' : t.InCalendar)
    (before : Clock.of s.year s.month s.day s.hour s.minute s.second s.fractionWorth <
      .of t.year t.month t.day t.hour t.minute t.second t.fractionWorth) :
    s.localSeconds < t.localSeconds ∨
      s.localSeconds = t.localSeconds ∧ s.fractionWorth < t.fractionWorth := by
  have days := Calendar.dayNumber_lt real.1 real'.1
  simp only [Clock.of, Prod.Lex.toLex_lt_toLex] at before
  obtain year | ⟨year, month | ⟨month, day | ⟨day, time⟩⟩⟩ := before
  · exact .inl (localSeconds_lt_of_day real (days (.inl year)))
  · exact .inl (localSeconds_lt_of_day real (days (.inr ⟨year, .inl month⟩)))
  · exact .inl (localSeconds_lt_of_day real (days (.inr ⟨year, .inr ⟨month, day⟩⟩)))
  · unfold localSeconds
    obtain ⟨-, -, minute, second⟩ := real
    rw [year, month, day]
    obtain hours | ⟨hours, minutes | ⟨minutes, seconds | ⟨seconds, part⟩⟩⟩ := time
    · left; omega
    · left; omega
    · left; omega
    · exact .inr ⟨by omega, part⟩

/-- Local clocks are ordered by how much time has passed on them. -/
theorem cmp_clock (hs : Spelled cs s) (ht : Spelled ds t) (real : s.InCalendar)
    (real' : t.InCalendar) :
    cmp (s.localSeconds + s.fractionWorth : ℚ) (t.localSeconds + t.fractionWorth) =
      cmp s.clock t.clock := by
  have shorter {a b : Timestamp} {as bs : List Char} (ha : Spelled as a) (hb : Spelled bs b)
      (reala : a.InCalendar) (realb : b.InCalendar) (before : a.clock < b.clock) :
      (a.localSeconds + a.fractionWorth : ℚ) < b.localSeconds + b.fractionWorth := by
    rw [ha.clock_eq, hb.clock_eq] at before
    obtain earlier | ⟨same, part⟩ := clock_lt reala realb before
    · have seconds : (a.localSeconds + 1 : ℚ) ≤ b.localSeconds := by exact_mod_cast earlier
      have part := ha.fractionWorth_lt
      have part' := hb.fractionWorth_lt
      linarith
    · rw [same]
      linarith
  rcases lt_trichotomy s.clock t.clock with before | same | behind
  · rw [(cmp_eq_lt_iff _ _).2 before, cmp_eq_lt_iff]
    exact shorter hs ht real real' before
  · rw [(cmp_eq_eq_iff _ _).2 same, cmp_eq_eq_iff]
    rw [hs.clock_eq, ht.clock_eq] at same
    simp only [Clock.of, toLex_inj, Prod.mk.injEq] at same
    obtain ⟨year, month, day, hour, minute, second, part⟩ := same
    simp only [localSeconds, year, month, day, hour, minute, second, part]
  · rw [(cmp_eq_gt_iff _ _).2 behind, cmp_eq_gt_iff]
    exact shorter ht hs real' real behind

/-! ### Instants -/

/-- Milliseconds from the epoch to the timestamp. An unknown offset counts as zero. -/
def instant (t : Timestamp) : ℚ :=
  1000 * (t.localSeconds - 60 * (t.offset.getD 0 : Int) + t.fractionWorth)

theorem inCalendar_of_parse? (parsed : parse? cs = some t) : t.InCalendar := by
  obtain ⟨spelled, accepted⟩ := spelled_of_parse? parsed
  exact spelled.inCalendar accepted

theorem cmp_instant (hs : Spelled cs s) (ht : Spelled ds t) (real : s.InCalendar)
    (real' : t.InCalendar) (same : s.offset.getD 0 = t.offset.getD 0) :
    cmp s.instant t.instant = cmp s.clock t.clock := by
  have moved (r : Timestamp) :
      r.instant = 1000 * (r.localSeconds + r.fractionWorth + -60 * (r.offset.getD 0 : Int)) := by
    unfold instant
    ring
  rw [← cmp_clock hs ht real real', moved, moved, same, cmp_mul_pos_left (by norm_num),
    cmp_add_right]

end Timestamp

namespace InstantRange
open Timestamp
variable {r : InstantRange} {t : Timestamp}

/-- The instants between the ends. -/
def span (r : InstantRange) : Set ℚ :=
  {q | (∀ s, r.lower = .closed s → s.instant ≤ q) ∧ (∀ s, r.lower = .opened s → s.instant < q) ∧
    (∀ s, r.upper = .closed s → q ≤ s.instant) ∧ ∀ s, r.upper = .opened s → q < s.instant}

theorem contains_iff (lower : ∀ s, r.lower.value? = some s → s.InCalendar)
    (upper : ∀ s, r.upper.value? = some s → s.InCalendar) (real : t.InCalendar) :
    r.contains t = true ↔ t.instant ∈ r.span := by
  obtain ⟨low, high⟩ := r
  have key {s : Timestamp} (h : s.InCalendar) : s.epochMillis.worth = s.instant :=
    worth_epochMillis h
  have above : low.admits .gt t = true ↔ (∀ s, low = .closed s → s.instant ≤ t.instant) ∧
      ∀ s, low = .opened s → s.instant < t.instant := by
    cases low with
    | unbounded => simp [Limit.admits]
    | closed s =>
      rw [Limit.admits_closed_gt orderedBy_timestamp, key real, key (lower s rfl)]
      simp
    | opened s =>
      rw [Limit.admits_opened_gt orderedBy_timestamp, key real, key (lower s rfl)]
      simp
  have below : high.admits .lt t = true ↔ (∀ s, high = .closed s → t.instant ≤ s.instant) ∧
      ∀ s, high = .opened s → t.instant < s.instant := by
    cases high with
    | unbounded => simp [Limit.admits]
    | closed s =>
      rw [Limit.admits_closed_lt orderedBy_timestamp, key real, key (upper s rfl)]
      simp
    | opened s =>
      rw [Limit.admits_opened_lt orderedBy_timestamp, key real, key (upper s rfl)]
      simp
  rw [Range.contains_eq, Bool.and_eq_true, above, below, and_assoc]
  rfl

end InstantRange

namespace Timestamp
variable {s t : Timestamp} {cs ds : List Char}

/-- **Instants are ordered like clocks.** Two timestamps that were read compare by their instants,
so with one offset they compare as what their clocks show; of two that show the same the instants
lie apart by the offsets, and moving an offset moves the instant back. A timestamp is in a range
whose ends were read exactly if its instant lies between theirs. The days of an instant are counted
one by one from the first of January 1970. -/
theorem instants_ordered (hs : parse? cs = some s) (ht : parse? ds = some t) :
    (s.offset.getD 0 = t.offset.getD 0 →
      s.epochMillis.compare t.epochMillis = cmp s.clock t.clock) ∧
    (s.clock = t.clock →
      s.epochMillis.worth = t.epochMillis.worth -
        60000 * (s.offset.getD 0 - t.offset.getD 0 : Int)) ∧
    (∀ (offset : Option Int) (minutes : Int), offset.getD 0 = t.offset.getD 0 + minutes →
      ({ t with offset } : Timestamp).epochMillis.worth =
        t.epochMillis.worth - 60000 * minutes) ∧
    s.epochMillis.compare t.epochMillis = cmp s.instant t.instant ∧
    (∀ r : InstantRange,
      (∀ e, r.lower.value? = some e ∨ r.upper.value? = some e → ∃ es, parse? es = some e) →
      (r.contains t = true ↔ t.instant ∈ r.span)) ∧
    Calendar.dayNumber 1970 1 1 = 0 ∧
    ∀ y m d, Calendar.IsDate y m d → ∃ y' m' d', Calendar.next y m d = (y', m', d') ∧
      Calendar.IsDate y' m' d' ∧ Calendar.dayNumber y' m' d' = Calendar.dayNumber y m d + 1 := by
  have real := inCalendar_of_parse? hs
  have real' := inCalendar_of_parse? ht
  obtain ⟨spelled, -⟩ := spelled_of_parse? hs
  obtain ⟨spelled', -⟩ := spelled_of_parse? ht
  have order : s.epochMillis.compare t.epochMillis = cmp s.instant t.instant := by
    rw [Decimal.compare_eq_cmp, worth_epochMillis real, worth_epochMillis real']
    rfl
  refine ⟨fun same => ?_, fun same => ?_, fun offset minutes moved => ?_, order, fun r ends => ?_,
    rfl, fun y m d date => ⟨_, _, _, rfl, Calendar.dayNumber_next date⟩⟩
  · rw [order, cmp_instant spelled spelled' real real' same]
  · have passed := cmp_clock spelled spelled' real real'
    rw [same, cmp_self_eq_eq, cmp_eq_eq_iff] at passed
    rw [worth_epochMillis real, worth_epochMillis real']
    push_cast
    linarith
  · have realMoved : ({ t with offset } : Timestamp).InCalendar := real'
    rw [worth_epochMillis realMoved, worth_epochMillis real', moved]
    simp only [localSeconds, fractionWorth]
    push_cast
    ring
  · have real_of (e : Timestamp) (h : ∃ es, parse? es = some e) : e.InCalendar :=
      inCalendar_of_parse? h.choose_spec
    exact InstantRange.contains_iff (fun e h => real_of e (ends e (.inl h)))
      (fun e h => real_of e (ends e (.inr h))) real'

/-- Half a second before the end of a leap day is before the day behind it by one clock, but not if
its clock is behind by an hour and a half. -/
theorem instants_ordered_leap :
    let leap : Timestamp := ⟨2024, 2, 29, 23, 59, 59, .fraction ['5'], some 0⟩
    let behind : Timestamp := { leap with offset := some (-90) }
    let day : Timestamp := ⟨2024, 3, 1, 0, 0, 0, .day, none⟩
    let fromDay : InstantRange := ⟨.closed day, .unbounded⟩
    parse? "2024-02-29T23:59:59.5Z".toList = some leap ∧
      parse? "2024-02-29T23:59:59.5-01:30".toList = some behind ∧
      parse? "2024-03-01T".toList = some day ∧
      leap.epochMillis.compare day.epochMillis = cmp leap.clock day.clock ∧
      behind.epochMillis.worth = leap.epochMillis.worth - 60000 * (-90) ∧
      (fromDay.contains leap = true ↔ leap.instant ∈ fromDay.span) ∧
      fromDay.contains leap = false ∧
      (fromDay.contains behind = true ↔ behind.instant ∈ fromDay.span) ∧
      fromDay.contains behind = true := by
  intro leap behind day fromDay
  have hleap : parse? "2024-02-29T23:59:59.5Z".toList = some leap := by decide
  have hbehind : parse? "2024-02-29T23:59:59.5-01:30".toList = some behind := by decide
  have hday : parse? "2024-03-01T".toList = some day := by decide
  have ends : ∀ e, fromDay.lower.value? = some e ∨ fromDay.upper.value? = some e →
      ∃ es, parse? es = some e := by
    rintro e (⟨⟨⟩⟩ | ⟨⟨⟩⟩)
    exact ⟨_, hday⟩
  obtain ⟨order, -⟩ := instants_ordered hleap hday
  obtain ⟨-, -, moved, -, within, -⟩ := instants_ordered hday hleap
  obtain ⟨-, -, -, -, within', -⟩ := instants_ordered hday hbehind
  refine ⟨hleap, hbehind, hday, order rfl, ?_, within fromDay ends, by decide,
    within' fromDay ends, by decide⟩
  exact_mod_cast moved (some (-90)) (-90) rfl

end Timestamp
end Isl
