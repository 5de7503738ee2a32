import Mathlib.Data.List.Induction
import Isl.Proofs.Number.Digits
import Isl.Timestamp
/-!
# Texts that spell timestamps

A text spells a timestamp if it shows the fields that are known, in rows of digits of fixed widths,
and the marks between them. So what a text leaves out tells the precision that it is written with.
Reading accepts exactly the texts that spell a timestamp of the calendar, in the years from 1 to
9999, and those that spell a year alone, whichever it is (`parse?_eq_some_iff`). A fraction may not
have more digits than are counted.

* `Row`: rows of digits; `takeDigits_eq_some_iff`;
* `OffsetSpelled`: offsets, read by `parseOffset?`;
* `SecondsSpelled`: what may follow the minutes, read by `parseSeconds?`;
* `Spelled`, `Accepted`: timestamps.
-/
namespace Isl.Timestamp

variable {t : Timestamp} {cs ds rest : List Char} {offset : Option Int} {n width acc : Nat}

/-! ## Rows of digits -/

/-- The text is a row of `width` digits that is worth `n`. -/
structure Row (width : Nat) (ds : List Char) (n : Nat) : Prop where
  length : ds.length = width
  digits : ∀ d ∈ ds, d.isDigit = true
  worth : Digits.ofDecimal ds = n

theorem takeDigits_append (digits : ∀ d ∈ ds, d.isDigit = true) (rest : List Char) :
    takeDigits ds.length (ds ++ rest) acc = some (Nat.ofDigitChars 10 ds acc, rest) := by
  induction ds generalizing acc with
  | nil => rfl
  | cons d ds ih =>
    obtain ⟨first, others⟩ := List.forall_mem_cons.1 digits
    simp only [List.length_cons, List.cons_append, takeDigits, first, if_true, ih others,
      Nat.ofDigitChars_cons, Nat.mul_comm]

theorem Row.taken (row : Row width ds n) (rest : List Char) :
    takeDigits width (ds ++ rest) 0 = some (n, rest) := by
  have taken : takeDigits ds.length (ds ++ rest) 0 = _ := takeDigits_append row.digits rest
  rwa [row.length, ← Digits.ofDecimal_eq, row.worth] at taken

/-- Without anything behind it. -/
theorem Row.taken_all (row : Row width ds n) : takeDigits width ds 0 = some (n, []) := by
  simpa using row.taken []

theorem split_of_takeDigits (taken : takeDigits width cs acc = some (n, rest)) :
    ∃ ds, ds.length = width ∧ (∀ d ∈ ds, d.isDigit = true) ∧ cs = ds ++ rest := by
  induction width generalizing cs acc with
  | zero =>
    cases taken
    exact ⟨[], rfl, nofun, rfl⟩
  | succ width ih =>
    cases cs with
    | nil => cases taken
    | cons c cs =>
      unfold takeDigits at taken
      split at taken
      · rename_i digit
        obtain ⟨ds, length, digits, rfl⟩ := ih taken
        exact ⟨c :: ds, congrArg (· + 1) length, List.forall_mem_cons.2 ⟨digit, digits⟩, rfl⟩
      · cases taken

/-- Just a row of that width is taken from the front. -/
theorem takeDigits_eq_some_iff :
    takeDigits width cs 0 = some (n, rest) ↔ ∃ ds, Row width ds n ∧ cs = ds ++ rest := by
  constructor
  · intro taken
    obtain ⟨ds, length, digits, rfl⟩ := split_of_takeDigits taken
    have row : Row width ds (Digits.ofDecimal ds) := ⟨length, digits, rfl⟩
    rw [row.taken] at taken
    cases taken
    exact ⟨ds, row, rfl⟩
  · rintro ⟨ds, row, rfl⟩
    exact row.taken rest

/-- What goes on behind digits has a row in front. -/
theorem row_of_bind {α : Type u} {next : Nat × List Char → Option α} {a : α}
    (h : (takeDigits width cs 0).bind next = some a) :
    ∃ ds n rest, Row width ds n ∧ cs = ds ++ rest ∧ next (n, rest) = some a := by
  obtain ⟨⟨n, rest⟩, taken, h⟩ := Option.bind_eq_some_iff.1 h
  obtain ⟨ds, row, split⟩ := takeDigits_eq_some_iff.1 taken
  exact ⟨ds, n, rest, row, split, h⟩

theorem Row.lt (row : Row width ds n) : n < 10 ^ width := by
  obtain ⟨rfl, digits, rfl⟩ := row
  induction ds using List.reverseRecOn with
  | nil => decide
  | append_singleton ds d ih =>
    rw [Digits.ofDecimal_snoc, List.length_append, List.length_singleton, Nat.pow_succ]
    have small : d.toNat - '0'.toNat < 10 :=
      Digits.forall_digit (P := fun c => c.toNat - '0'.toNat < 10) (by decide)
        (digits d (by simp))
    have front := ih fun c mem => digits c (List.mem_append_left _ mem)
    omega

/-- Only zeros are worth nothing. -/
theorem Row.zeros (row : Row width ds 0) : ds = List.replicate width '0' := by
  obtain ⟨rfl, digits, none⟩ := row
  refine List.eq_replicate_iff.2 ⟨rfl, ?_⟩
  induction ds using List.reverseRecOn with
  | nil => nofun
  | append_singleton ds d ih =>
    rw [Digits.ofDecimal_snoc] at none
    have last : d.toNat - '0'.toNat = 0 → d = '0' :=
      Digits.forall_digit (P := fun c => c.toNat - '0'.toNat = 0 → c = '0') (by decide)
        (digits d (by simp))
    have front := ih (fun c mem => digits c (List.mem_append_left _ mem)) (by omega)
    intro c mem
    rcases List.mem_append.1 mem with mem | mem
    · exact front c mem
    · rw [List.mem_singleton.1 mem]
      exact last (by omega)

/-! ## Offsets -/

/-- The text spells an offset. Behind a minus sign no hours and no minutes are the unknown one. -/
inductive OffsetSpelled : List Char → Option Int → Prop where
  | utc : OffsetSpelled ['Z'] (some 0)
  | ahead {hs ms : List Char} {hours minutes : Nat} (h : Row 2 hs hours) (m : Row 2 ms minutes)
      (early : hours ≤ 23) (short : minutes ≤ 59) :
      OffsetSpelled ('+' :: (hs ++ ':' :: ms)) (some (hours * 60 + minutes : Nat))
  | behind {hs ms : List Char} {hours minutes : Nat} (h : Row 2 hs hours) (m : Row 2 ms minutes)
      (early : hours ≤ 23) (short : minutes ≤ 59) (away : ¬ (hours = 0 ∧ minutes = 0)) :
      OffsetSpelled ('-' :: (hs ++ ':' :: ms)) (some (-(hours * 60 + minutes : Nat)))
  | unknown {hs ms : List Char} (h : Row 2 hs 0) (m : Row 2 ms 0) :
      OffsetSpelled ('-' :: (hs ++ ':' :: ms)) none

theorem OffsetSpelled.head (spelled : OffsetSpelled cs offset) :
    ∃ c tail, cs = c :: tail ∧ (c = 'Z' ∨ c = '+' ∨ c = '-') := by
  cases spelled with
  | utc => exact ⟨'Z', [], rfl, by decide⟩
  | ahead => exact ⟨'+', _, rfl, by decide⟩
  | behind | unknown => exact ⟨'-', _, rfl, by decide⟩

theorem spelled_of_parseOffset? (parsed : parseOffset? cs = some offset) :
    OffsetSpelled cs offset := by
  unfold parseOffset? at parsed
  split at parsed
  · cases parsed
    exact .utc
  · rename_i sign r _
    by_cases other : sign ≠ '+' ∧ sign ≠ '-'
    · rw [if_pos other] at parsed
      cases parsed
    · rw [if_neg other] at parsed
      replace parsed := row_of_bind parsed
      obtain ⟨hs, hours, r, h, rfl, parsed⟩ := parsed
      dsimp only at parsed
      split at parsed
      · replace parsed := row_of_bind parsed
        obtain ⟨ms, minutes, r, m, rfl, parsed⟩ := parsed
        dsimp only at parsed
        split at parsed
        · cases parsed
        · rename_i inRange
          obtain ⟨rfl, early, short⟩ : r = [] ∧ hours ≤ 23 ∧ minutes ≤ 59 := by
            simpa [not_or] using inRange
          rw [List.append_nil]
          split at parsed
          · rename_i minus
            subst minus
            split at parsed
            · rename_i nothing
              obtain ⟨rfl, rfl⟩ := nothing
              cases parsed
              exact .unknown h m
            · rename_i away
              cases parsed
              exact .behind h m early short away
          · rename_i plus
            obtain rfl : sign = '+' := Decidable.byContradiction fun wrong => other ⟨wrong, plus⟩
            cases parsed
            exact .ahead h m early short
      · cases parsed
  · cases parsed

theorem OffsetSpelled.parsed (spelled : OffsetSpelled cs offset) :
    parseOffset? cs = some offset := by
  cases spelled with
  | utc => rfl
  | ahead h m early short =>
    have inRange : ¬ (23 < _ ∨ 59 < _) := not_or.2 ⟨Nat.not_lt.2 early, Nat.not_lt.2 short⟩
    simp [parseOffset?, h.taken, m.taken_all, inRange]
  | behind h m early short away =>
    have inRange : ¬ (23 < _ ∨ 59 < _) := not_or.2 ⟨Nat.not_lt.2 early, Nat.not_lt.2 short⟩
    simp [parseOffset?, h.taken, m.taken_all, inRange, away]
  | unknown h m => simp [parseOffset?, h.taken, m.taken_all]

/-! ## Seconds -/

/-- What follows the minutes: seconds and their fraction, if they are known, and the offset. -/
inductive SecondsSpelled : List Char → Nat → Precision → Option Int → Prop where
  | minute {os : List Char} {offset : Option Int} (o : OffsetSpelled os offset) :
      SecondsSpelled os 0 .minute offset
  | second {ss os : List Char} {second : Nat} {offset : Option Int} (s : Row 2 ss second)
      (o : OffsetSpelled os offset) :
      SecondsSpelled (':' :: (ss ++ os)) second .second offset
  | fraction {ss ds os : List Char} {second : Nat} {offset : Option Int} (s : Row 2 ss second)
      (filled : ds ≠ []) (digits : ∀ d ∈ ds, d.isDigit = true) (o : OffsetSpelled os offset) :
      SecondsSpelled (':' :: (ss ++ '.' :: (ds ++ os))) second (.fraction ds) offset

theorem SecondsSpelled.ne_year {second : Nat} {precision : Precision}
    (spelled : SecondsSpelled cs second precision offset) : precision ≠ .year := by
  cases spelled <;> nofun

theorem checked?_eq_some_iff {s : Timestamp} :
    checked? s = some t ↔ s = t ∧ t.InCalendar ∧ 1 ≤ t.year ∧ t.year ≤ 9999 := by
  unfold checked?
  constructor
  · intro valid
    split at valid
    · rename_i fits
      cases valid
      exact ⟨rfl, fits⟩
    · cases valid
  · rintro ⟨rfl, fits⟩
    exact if_pos fits

/-- What is looked at before a timestamp is taken: how many digits its fraction has, and its fields
unless it is a year alone. -/
structure Accepted (t : Timestamp) : Prop where
  counted : t.fractionDigits < 0x100000000
  known : t.precision = .year ∨ t.InCalendar ∧ 1 ≤ t.year ∧ t.year ≤ 9999

theorem accepted_of_checked? {s : Timestamp} (valid : checked? s = some t)
    (counted : s.fractionDigits < 0x100000000) : s = t ∧ t.Accepted := by
  obtain ⟨rfl, fits⟩ := checked?_eq_some_iff.1 valid
  exact ⟨rfl, counted, .inr fits⟩

theorem Accepted.checked (accepted : t.Accepted) (timed : t.precision ≠ .year) :
    checked? t = some t :=
  checked?_eq_some_iff.2 ⟨rfl, accepted.known.resolve_left timed⟩

section
variable {year month day hour minute : Nat}

theorem spelled_of_parseSeconds?
    (parsed : parseSeconds? ⟨year, month, day, hour, minute, 0, .day, none⟩ cs = some t) :
    ∃ second precision offset, SecondsSpelled cs second precision offset ∧
      ⟨year, month, day, hour, minute, second, precision, offset⟩ = t ∧ t.Accepted := by
  unfold parseSeconds? at parsed
  simp only [Option.bind_eq_bind] at parsed
  split at parsed
  · replace parsed := row_of_bind parsed
    obtain ⟨ss, second, r, s, rfl, parsed⟩ := parsed
    dsimp only at parsed
    split at parsed
    · rename_i r
      split at parsed
      · cases parsed
      · rename_i counted
        obtain ⟨filled, counted⟩ := not_or.1 counted
        obtain ⟨offset, near, valid⟩ := Option.bind_eq_some_iff.1 parsed
        have spelled := SecondsSpelled.fraction s (by simpa using filled)
          (List.all_eq_true.1 List.all_takeWhile) (spelled_of_parseOffset? near)
        rw [List.takeWhile_append_dropWhile] at spelled
        exact ⟨_, _, _, spelled, accepted_of_checked? valid (Nat.not_le.1 counted)⟩
    · obtain ⟨offset, near, valid⟩ := Option.bind_eq_some_iff.1 parsed
      exact ⟨_, _, _, .second s (spelled_of_parseOffset? near),
        accepted_of_checked? valid (Nat.succ_pos _)⟩
  · obtain ⟨offset, near, valid⟩ := Option.bind_eq_some_iff.1 parsed
    exact ⟨_, _, _, .minute (spelled_of_parseOffset? near),
      accepted_of_checked? valid (Nat.succ_pos _)⟩

theorem SecondsSpelled.parsed {second : Nat} {precision : Precision}
    (spelled : SecondsSpelled cs second precision offset)
    (accepted :
      Accepted ⟨year, month, day, hour, minute, second, precision, offset⟩) :
    parseSeconds? ⟨year, month, day, hour, minute, 0, .day, none⟩ cs =
      some ⟨year, month, day, hour, minute, second, precision, offset⟩ := by
  have valid := accepted.checked spelled.ne_year
  cases spelled with
  | minute o =>
    have read := o.parsed
    obtain ⟨c, tail, rfl, mark⟩ := o.head
    rcases mark with rfl | rfl | rfl
    all_goals simp [parseSeconds?, read, valid]
  | second s o =>
    have read := o.parsed
    obtain ⟨c, tail, rfl, mark⟩ := o.head
    rcases mark with rfl | rfl | rfl
    all_goals simp [parseSeconds?, s.taken, read, valid]
  | @fraction ss ds os _ _ s filled digits o =>
    have stops : ∀ c, os.head? = some c → c.isDigit = false := by
      obtain ⟨c, tail, rfl, mark⟩ := o.head
      rcases mark with rfl | rfl | rfl
      all_goals simp
    obtain ⟨front, back⟩ := Digits.span_append digits stops
    have counted : ds.length < 0x100000000 := accepted.counted
    have fits : ¬ (ds.isEmpty = true ∨ 0x100000000 ≤ ds.length) :=
      not_or.2 ⟨by simpa using filled, Nat.not_le.2 counted⟩
    simp only [parseSeconds?, s.taken, front, back, if_neg fits, o.parsed, valid,
      Option.bind_eq_bind, Option.bind_some]

end

/-! ## Timestamps -/

/-- The text spells the timestamp: it shows its fields down to its precision. A day may be followed
by the mark of a time of day that is not there. -/
inductive Spelled : List Char → Timestamp → Prop where
  | year {ys : List Char} {year : Nat} (y : Row 4 ys year) : Spelled (ys ++ ['T']) (ofYear year)
  | month {ys ms : List Char} {year month : Nat} (y : Row 4 ys year) (m : Row 2 ms month) :
      Spelled (ys ++ '-' :: (ms ++ ['T'])) ⟨year, month, 1, 0, 0, 0, .month, none⟩
  | day {ys ms ds mark : List Char} {year month day : Nat} (y : Row 4 ys year)
      (m : Row 2 ms month) (d : Row 2 ds day) (marked : mark = [] ∨ mark = ['T']) :
      Spelled (ys ++ '-' :: (ms ++ '-' :: (ds ++ mark)))
        ⟨year, month, day, 0, 0, 0, .day, none⟩
  | time {ys ms ds hs mins tail : List Char} {year month day hour minute second : Nat}
      {precision : Precision} {offset : Option Int} (y : Row 4 ys year) (m : Row 2 ms month)
      (d : Row 2 ds day) (h : Row 2 hs hour) (min : Row 2 mins minute)
      (s : SecondsSpelled tail second precision offset) :
      Spelled (ys ++ '-' :: (ms ++ '-' :: (ds ++ 'T' :: (hs ++ ':' :: (mins ++ tail)))))
        ⟨year, month, day, hour, minute, second, precision, offset⟩

theorem Row.unmarked (row : Row width ds n) : ∀ c ∈ ds, c ≠ '_' := fun c mem =>
  (Digits.ne_mark (row.digits c mem)).2.2.1

theorem OffsetSpelled.unmarked (spelled : OffsetSpelled cs offset) : ∀ c ∈ cs, c ≠ '_' := by
  cases spelled with
  | utc => simp
  | ahead h m | behind h m | unknown h m =>
    simp only [List.forall_mem_cons, List.forall_mem_append]
    exact ⟨by decide, h.unmarked, by decide, m.unmarked⟩

theorem SecondsSpelled.unmarked {second : Nat} {precision : Precision}
    (spelled : SecondsSpelled cs second precision offset) : ∀ c ∈ cs, c ≠ '_' := by
  cases spelled with
  | minute o => exact o.unmarked
  | second s o =>
    simp only [List.forall_mem_cons, List.forall_mem_append]
    exact ⟨by decide, s.unmarked, o.unmarked⟩
  | fraction s filled digits o =>
    simp only [List.forall_mem_cons, List.forall_mem_append]
    exact ⟨by decide, s.unmarked, by decide,
      fun c mem => (Digits.ne_mark (digits c mem)).2.2.1, o.unmarked⟩

/-- No timestamp is spelled with underscores. -/
theorem Spelled.unmarked (spelled : Spelled cs t) : ∀ c ∈ cs, c ≠ '_' := by
  cases spelled with
  | year y =>
    simp only [List.forall_mem_cons, List.forall_mem_append]
    exact ⟨y.unmarked, by decide, by simp⟩
  | month y m =>
    simp only [List.forall_mem_cons, List.forall_mem_append]
    exact ⟨y.unmarked, by decide, m.unmarked, by decide, by simp⟩
  | day y m d marked =>
    simp only [List.forall_mem_cons, List.forall_mem_append]
    exact ⟨y.unmarked, by decide, m.unmarked, by decide, d.unmarked,
      by rcases marked with rfl | rfl <;> simp⟩
  | time y m d h min s =>
    simp only [List.forall_mem_cons, List.forall_mem_append]
    exact ⟨y.unmarked, by decide, m.unmarked, by decide, d.unmarked, by decide, h.unmarked,
      by decide, min.unmarked, s.unmarked⟩

theorem spelled_of_parseTime? {ys ms ds : List Char} {year month day : Nat} (y : Row 4 ys year)
    (m : Row 2 ms month) (d : Row 2 ds day)
    (parsed : parseTime? ⟨year, month, day, 0, 0, 0, .day, none⟩ cs = some t) :
    Spelled (ys ++ '-' :: (ms ++ '-' :: (ds ++ 'T' :: cs))) t ∧ t.Accepted := by
  unfold parseTime? at parsed
  simp only [Option.bind_eq_bind] at parsed
  replace parsed := row_of_bind parsed
  obtain ⟨hs, hour, r, h, rfl, parsed⟩ := parsed
  dsimp only at parsed
  split at parsed
  · replace parsed := row_of_bind parsed
    obtain ⟨mins, minute, r, min, rfl, parsed⟩ := parsed
    obtain ⟨second, precision, offset, s, rfl, accepted⟩ := spelled_of_parseSeconds? parsed
    exact ⟨.time y m d h min s, accepted⟩
  · cases parsed

theorem spelled_of_parse? (parsed : parse? cs = some t) : Spelled cs t ∧ t.Accepted := by
  unfold parse? at parsed
  simp only [Option.bind_eq_bind] at parsed
  replace parsed := row_of_bind parsed
  obtain ⟨ys, year, r, y, rfl, parsed⟩ := parsed
  dsimp only at parsed
  split at parsed
  · cases parsed
    exact ⟨.year y, Nat.succ_pos _, .inl rfl⟩
  · replace parsed := row_of_bind parsed
    obtain ⟨ms, month, r, m, rfl, parsed⟩ := parsed
    dsimp only at parsed
    split at parsed
    · obtain ⟨rfl, accepted⟩ := accepted_of_checked? parsed (Nat.succ_pos _)
      exact ⟨.month y m, accepted⟩
    · replace parsed := row_of_bind parsed
      obtain ⟨ds, day, r, d, rfl, parsed⟩ := parsed
      dsimp only at parsed
      split at parsed
      · obtain ⟨rfl, accepted⟩ := accepted_of_checked? parsed (Nat.succ_pos _)
        exact ⟨.day y m d (.inl rfl), accepted⟩
      · obtain ⟨rfl, accepted⟩ := accepted_of_checked? parsed (Nat.succ_pos _)
        exact ⟨.day y m d (.inr rfl), accepted⟩
      · exact spelled_of_parseTime? y m d parsed
      · cases parsed
    · cases parsed
  · cases parsed

theorem Spelled.parsed (spelled : Spelled cs t) (accepted : t.Accepted) : parse? cs = some t := by
  cases spelled with
  | year y => simp [parse?, y.taken]
  | month y m =>
    have valid := accepted.checked nofun
    simp [parse?, ofYear, y.taken, m.taken, valid]
  | day y m d marked =>
    have valid := accepted.checked nofun
    rcases marked with rfl | rfl
    · simp [parse?, ofYear, y.taken, m.taken, d.taken_all, valid]
    · simp [parse?, ofYear, y.taken, m.taken, d.taken, valid]
  | time y m d h min s =>
    simp [parse?, parseTime?, ofYear, y.taken, m.taken, d.taken, h.taken, min.taken,
      s.parsed accepted]

/-- **Which texts are timestamps.** -/
theorem parse?_eq_some_iff : parse? cs = some t ↔ Spelled cs t ∧ t.Accepted :=
  ⟨spelled_of_parse?, fun ⟨spelled, accepted⟩ => spelled.parsed accepted⟩

end Isl.Timestamp

/-!
## Timestamps that are read back

A timestamp that was read has the fields of its precision and lies in the calendar, but for one
that is a year alone. Written, its fields are rows of digits of fixed widths, so what is written
spells the timestamp.

* `Parsed`, `parsed_of_parse?`: what reading can come to;
* `parse?_toChars`: each of these is read back from its text.
-/

namespace Isl.Timestamp

variable {t : Timestamp} {cs : List Char} {offset : Option Int} {n width : Nat}

/-- Hours and minutes that an offset can be written with. -/
def OffsetInRange (offset : Option Int) : Prop := ∀ minutes ∈ offset, minutes.natAbs < 24 * 60

/-- The timestamps that there is text for, by precision. -/
inductive Parsed : Timestamp → Prop where
  | year (year : Nat) (short : year < 10000) : Parsed (ofYear year)
  | month (year month : Nat)
      (valid : checked? ⟨year, month, 1, 0, 0, 0, .month, none⟩ =
        some ⟨year, month, 1, 0, 0, 0, .month, none⟩) :
      Parsed ⟨year, month, 1, 0, 0, 0, .month, none⟩
  | day (year month day : Nat)
      (valid : checked? ⟨year, month, day, 0, 0, 0, .day, none⟩ =
        some ⟨year, month, day, 0, 0, 0, .day, none⟩) :
      Parsed ⟨year, month, day, 0, 0, 0, .day, none⟩
  | minute (year month day hour minute : Nat) (offset : Option Int)
      (near : OffsetInRange offset)
      (valid : checked? ⟨year, month, day, hour, minute, 0, .minute, offset⟩ =
        some ⟨year, month, day, hour, minute, 0, .minute, offset⟩) :
      Parsed ⟨year, month, day, hour, minute, 0, .minute, offset⟩
  | second (year month day hour minute second : Nat) (offset : Option Int)
      (near : OffsetInRange offset)
      (valid : checked? ⟨year, month, day, hour, minute, second, .second, offset⟩ =
        some ⟨year, month, day, hour, minute, second, .second, offset⟩) :
      Parsed ⟨year, month, day, hour, minute, second, .second, offset⟩
  | fraction (year month day hour minute second : Nat) (ds : List Char) (offset : Option Int)
      (filled : ds ≠ []) (digits : ∀ d ∈ ds, d.isDigit = true)
      (counted : ds.length < 0x100000000) (near : OffsetInRange offset)
      (valid : checked? ⟨year, month, day, hour, minute, second, .fraction ds, offset⟩ =
        some ⟨year, month, day, hour, minute, second, .fraction ds, offset⟩) :
      Parsed ⟨year, month, day, hour, minute, second, .fraction ds, offset⟩

/-! ### What reading comes to -/

theorem OffsetSpelled.inRange (spelled : OffsetSpelled cs offset) : OffsetInRange offset := by
  unfold OffsetInRange
  cases spelled with
  | utc => simp
  | ahead h m early short | behind h m early short away =>
    simp only [Option.mem_def, Option.some.injEq, forall_eq']
    omega
  | unknown h m => nofun

theorem parsed_of_parse? (parsed : parse? cs = some t) : Parsed t := by
  obtain ⟨spelled, accepted⟩ := spelled_of_parse? parsed
  have valid := accepted.checked
  cases spelled with
  | year y => exact .year _ y.lt
  | month y m => exact .month _ _ (valid nofun)
  | day y m d marked => exact .day _ _ _ (valid nofun)
  | time y m d h min s =>
    cases s with
    | minute o => exact .minute _ _ _ _ _ _ o.inRange (valid nofun)
    | second s o => exact .second _ _ _ _ _ _ _ o.inRange (valid nofun)
    | fraction s filled digits o =>
      exact .fraction _ _ _ _ _ _ _ _ filled digits accepted.counted o.inRange (valid nofun)

/-! ### Rows of digits -/

theorem isDigit_of_mem_padded {c : Char} (h : c ∈ padded width n) : c.isDigit = true := by
  simp only [padded, List.mem_append, List.mem_replicate] at h
  obtain ⟨-, rfl⟩ | digit := h
  · rfl
  · exact Digits.isDigit_of_mem_decimal digit

theorem length_padded (wide : 0 < width) (short : n < 10 ^ width) :
    (padded width n).length = width := by
  have count := (Decimal.digitCount_le_iff wide).2 short
  unfold Decimal.digitCount at count
  simp only [padded, List.length_append, List.length_replicate]
  omega

theorem row_padded (wide : 0 < width) (short : n < 10 ^ width) : Row width (padded width n) n := by
  refine ⟨length_padded wide short, fun _ => isDigit_of_mem_padded, ?_⟩
  rw [padded, Digits.ofDecimal_zeros, Digits.ofDecimal_decimal]

theorem two_digits (short : n < 100) : Row 2 (padded 2 n) n := row_padded (by decide) short

/-! ### Written and read -/

/-- Each field of a timestamp that was checked fits its width. -/
theorem bounds_of_checked? {s : Timestamp} (valid : checked? s = some t) :
    s.year < 10000 ∧ s.month < 100 ∧ s.day < 100 ∧ s.hour < 100 ∧ s.minute < 100 ∧
      s.second < 100 := by
  unfold checked? at valid
  split at valid
  · rename_i fits
    obtain ⟨⟨⟨-, month, -, day⟩, hour, minute, second⟩, -, year⟩ := fits
    have days : Calendar.daysInMonth s.year s.month ≤ 31 := by
      unfold Calendar.daysInMonth
      repeat' split
      all_goals omega
    omega
  · cases valid

theorem offsetSpelled_chars (near : OffsetInRange offset) :
    OffsetSpelled (offsetChars offset) offset := by
  cases offset with
  | none => exact .unknown (two_digits (n := 0) (by decide)) (two_digits (n := 0) (by decide))
  | some minutes =>
    have size : minutes.natAbs < 24 * 60 := near minutes rfl
    have h := two_digits (show minutes.natAbs / 60 < 100 by omega)
    have m := two_digits (show minutes.natAbs % 60 < 100 by omega)
    have early : minutes.natAbs / 60 ≤ 23 := by omega
    have short : minutes.natAbs % 60 ≤ 59 := by omega
    unfold offsetChars
    dsimp only
    by_cases zero : minutes = 0
    · subst zero
      exact .utc
    · by_cases negative : minutes < 0
      · have spelled := OffsetSpelled.behind h m early short (by omega)
        rw [if_neg zero, if_pos negative]
        rwa [show (-(minutes.natAbs / 60 * 60 + minutes.natAbs % 60 : Nat) : Int) = minutes by
          omega] at spelled
      · have spelled := OffsetSpelled.ahead h m early short
        rw [if_neg zero, if_neg negative]
        rwa [show ((minutes.natAbs / 60 * 60 + minutes.natAbs % 60 : Nat) : Int) = minutes by
          omega] at spelled

/-- What is written spells the timestamp. -/
theorem spelled_toChars (parsed : Parsed t) : Spelled t.toChars t := by
  cases parsed with
  | year year short => exact .year (row_padded (by decide) short)
  | month year month valid =>
    obtain ⟨y, m, -⟩ := bounds_of_checked? valid
    have spelled := Spelled.month (row_padded (by decide) y) (two_digits m)
    simpa [toChars] using spelled
  | day year month day valid =>
    obtain ⟨y, m, d, -⟩ := bounds_of_checked? valid
    have spelled := Spelled.day (row_padded (by decide) y) (two_digits m) (two_digits d) (.inl rfl)
    simpa [toChars] using spelled
  | minute year month day hour minute offset near valid =>
    obtain ⟨y, m, d, h, min, -⟩ := bounds_of_checked? valid
    have spelled := Spelled.time (row_padded (by decide) y) (two_digits m) (two_digits d)
      (two_digits h) (two_digits min) (.minute (offsetSpelled_chars near))
    simpa [toChars] using spelled
  | second year month day hour minute second offset near valid =>
    obtain ⟨y, m, d, h, min, s⟩ := bounds_of_checked? valid
    have spelled := Spelled.time (row_padded (by decide) y) (two_digits m) (two_digits d)
      (two_digits h) (two_digits min) (.second (two_digits s) (offsetSpelled_chars near))
    simpa [toChars] using spelled
  | fraction year month day hour minute second ds offset filled digits counted near valid =>
    obtain ⟨y, m, d, h, min, s⟩ := bounds_of_checked? valid
    have spelled := Spelled.time (row_padded (by decide) y) (two_digits m) (two_digits d)
      (two_digits h) (two_digits min)
      (.fraction (two_digits s) filled digits (offsetSpelled_chars near))
    simpa [toChars] using spelled

theorem accepted_of_parsed (parsed : Parsed t) : t.Accepted := by
  cases parsed with
  | year => exact ⟨Nat.succ_pos _, .inl rfl⟩
  | month _ _ valid | day _ _ _ valid | minute _ _ _ _ _ _ _ valid | second _ _ _ _ _ _ _ _ valid =>
    exact (accepted_of_checked? valid (Nat.succ_pos _)).2
  | fraction _ _ _ _ _ _ _ _ _ _ counted _ valid => exact (accepted_of_checked? valid counted).2

theorem parse?_toChars (parsed : Parsed t) : parse? t.toChars = some t :=
  (spelled_toChars parsed).parsed (accepted_of_parsed parsed)

/-- The year stands in front, in four digits. -/
theorem toChars_front (parsed : Parsed t) :
    t.year < 10000 ∧ ∃ mark tail, t.toChars = padded 4 t.year ++ mark :: tail ∧
      (mark = '-' ∨ mark = 'T') := by
  cases parsed with
  | year year short => exact ⟨short, 'T', [], rfl, .inr rfl⟩
  | month year month valid =>
    exact ⟨(bounds_of_checked? valid).1, '-', _, by simp [toChars]; rfl, .inl rfl⟩
  | day year month day valid =>
    exact ⟨(bounds_of_checked? valid).1, '-', _, by simp [toChars]; rfl, .inl rfl⟩
  | minute year month day hour minute offset near valid =>
    exact ⟨(bounds_of_checked? valid).1, '-', _, by simp [toChars]; rfl, .inl rfl⟩
  | second year month day hour minute second offset near valid =>
    exact ⟨(bounds_of_checked? valid).1, '-', _, by simp [toChars]; rfl, .inl rfl⟩
  | fraction year month day hour minute second ds offset filled digits counted near valid =>
    exact ⟨(bounds_of_checked? valid).1, '-', _, by simp [toChars]; rfl, .inl rfl⟩

end Isl.Timestamp
