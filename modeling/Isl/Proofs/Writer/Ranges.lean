import Isl.Proofs.Range.Integer
import Isl.Proofs.Reader.Accepted
import Isl.Writer
/-!
# Ranges that are written read back

A range is written as the list of its limits, or as its only value. Either is read as the same
range:

* `limits_rangeElement`: both limits, for any kind of bound that reads back alone;
* `intRange_intRangeElement`, `occursRange_occursElement`, `numberRange_numberRangeElement`,
  `instantRange_instantRangeElement`, `precisionRange_precisionRangeElement`: whole ranges, if they
  come from a reader.
-/
namespace Isl.Writer
open Reader

theorem isNull_eq_false {e : Element} (h : ∀ t, e.value ≠ .null t) : e.isNull = false := by
  unfold Element.isNull
  split
  · rename_i t null
    exact absurd null (h t)
  · rfl

theorem symbol?_ne {e : Element} {word : String} (h : e.value ≠ .symbol word) :
    (e.symbol? == some word) = false := by
  unfold Element.symbol?
  split
  · rename_i s symbol
    have other : s ≠ word := fun same => h (same ▸ symbol)
    simpa using other
  · rfl

/-- Values of one kind are written as bounds that the reader of that kind takes. -/
structure Bounds {α : Type} (value : α → Value) (bound? : Element → Check (Option α)) : Prop where
  notNull : ∀ a t, value a ≠ .null t
  notUnbounded : ∀ a (side : Side), value a ≠ .symbol side.unbounded
  back : ∀ a names, bound? ⟨names, value a⟩ = .ok (some a)

section
variable {α : Type} {value : α → Value} {bound? : Element → Check (Option α)}

theorem limit_limitElement (bounds : Bounds value bound?) (range : Element) (expected : String)
    (side : Side) (l : Limit α) :
    limit range expected bound? side
      (limitElement side.unbounded (fun a => .ofValue (value a)) l) = .ok l := by
  cases l with
  | unbounded => simp [limit, limitElement, Element.symbol, Element.ofValue, Element.symbol?,
      require, bind, Except.bind]
  | closed a =>
    have word := symbol?_ne (e := ⟨[], value a⟩) (bounds.notUnbounded a side)
    have null := isNull_eq_false (e := ⟨[], value a⟩) (bounds.notNull a)
    simp [limit, limitElement, Element.ofValue, word, null, bounds.back, require, onlyAnnotated,
      Element.isAnnotated, bind, Except.bind]
  | opened a =>
    have word := symbol?_ne (e := ⟨["exclusive"], value a⟩) (bounds.notUnbounded a side)
    have null := isNull_eq_false (e := ⟨["exclusive"], value a⟩) (bounds.notNull a)
    simp [limit, limitElement, Element.ofValue, Element.annotated, word, null, bounds.back,
      require, onlyAnnotated, Element.isAnnotated, bind, Except.bind]

theorem limits_rangeElement (bounds : Bounds value bound?) (expected : String)
    (lower upper : Limit α) :
    limits (rangeElement (fun a => .ofValue (value a)) lower upper) expected bound? =
      .ok (lower, upper) := by
  have low := limit_limitElement bounds
    (rangeElement (fun a => .ofValue (value a)) lower upper) expected .lower lower
  have high := limit_limitElement bounds
    (rangeElement (fun a => .ofValue (value a)) lower upper) expected .upper upper
  simp only [Side.unbounded] at low high
  unfold limits
  simp only [rangeElement, Element.annotated, Element.list, Element.ofValue, Element.list?]
  simp only [rangeElement, Element.annotated, Element.list, Element.ofValue] at low high
  simp [low, high, require, bind, Except.bind]

end

/-! ## Integers -/

theorem int64?_int (names : List String) (n : Int64) :
    (⟨names, .int n.toInt⟩ : Element).int64? = some n := by
  have low := n.minValue_le_toInt
  have high := n.toInt_le
  simp only [Element.int64?, Element.int?, Option.bind_some]
  rw [if_pos ⟨low, high⟩, Int64.ofInt_toInt]

theorem bounds_int : Bounds (fun n : Int64 => .int n.toInt) intBound? where
  notNull := by simp
  notUnbounded := by simp
  back n names := by
    have int : (⟨names, .int n.toInt⟩ : Element).int? = some n.toInt := rfl
    simp [intBound?, intBound, int, int64?_int, Except.map]

theorem singleton?_eq_some {r : IntRange} {n : Int64} (h : r.singleton? = some n) :
    r = .singleton n := by
  obtain ⟨⟨lower, upper⟩⟩ := r
  unfold IntRange.singleton? at h
  split at h
  · rename_i a b lowerEq upperEq
    split at h
    · rename_i same
      injection h with h
      simp only [IntRange.lower, IntRange.upper] at lowerEq upperEq
      subst lowerEq upperEq same h
      rfl
    · cases h
  · cases h

theorem made_of_intRange {e : Element} {r : IntRange} (h : intRange e = .ok r) : r.Made := by
  unfold intRange at h
  split at h
  · obtain ⟨_, _, h⟩ := check_bind_eq_ok_iff.1 h
    obtain ⟨_, _, h⟩ := check_bind_eq_ok_iff.1 h
    obtain ⟨n, _, rfl⟩ := check_map_eq_ok_iff.1 h
    exact IntRange.make?_singleton n
  · obtain ⟨⟨lower, upper⟩, _, h⟩ := check_bind_eq_ok_iff.1 h
    exact IntRange.made_of_make? (ofRange_eq_ok_iff.1 h)

theorem intRange_int (n : Int64) : intRange (.int n.toInt) = .ok (.singleton n) := by
  have int := int64?_int [] n
  simp [intRange, Element.int, Element.ofValue, Element.type, Value.type, Element.isNull, require,
    intBound, int, bind, Except.bind, Except.map]

theorem intRange_rangeElement {r : IntRange} (made : r.Made) :
    intRange (rangeElement (fun n : Int64 => .int n.toInt) r.lower r.upper) = .ok r := by
  have limits := limits_rangeElement bounds_int "int" r.lower r.upper
  have list : (rangeElement (fun n : Int64 => .int n.toInt) r.lower r.upper).type = .list := rfl
  simp only [intRange, list]
  simp only [Element.int]
  rw [limits]
  exact ofRange_eq_ok_iff.2 made

/-- A range that a reader made is read from what it is written as, be that the bare integer. -/
theorem intRange_intRangeElement (bare : Int64 → Bool) {r : IntRange} (made : r.Made) :
    intRange (intRangeElement bare r) = .ok r := by
  unfold intRangeElement
  split
  · rename_i n only
    split
    · rw [singleton?_eq_some only]
      exact intRange_int n
    · exact intRange_rangeElement made
  · exact intRange_rangeElement made

/-! ## Occurrences -/

/-- The limits are those of a count: not below zero, and accepted as a range. -/
def Counts (r : IntRange) : Prop := IntRange.nonNegative? r.lower r.upper = .ok r

theorem Counts.made {r : IntRange} (h : Counts r) : r.Made := IntRange.make?_of_nonNegative? h

theorem counts_singleton {n : Int64} (positive : 0 ≤ n) : Counts (.singleton n) := by
  have least : ¬ n < 0 := Int64.not_lt.2 positive
  have made := IntRange.make?_singleton n
  unfold Counts IntRange.nonNegative?
  simp only [IntRange.firstNegative?, IntRange.singleton, Range.singleton, IntRange.lower,
    IntRange.upper, Limit.value?] at made ⊢
  simp [least, made]

theorem counts_optional : Counts .optional := rfl

theorem counts_of_nonNegative? {lower upper : Limit Int64} {r : IntRange}
    (h : IntRange.nonNegative? lower upper = .ok r) : Counts r := by
  obtain rfl := IntRange.eq_of_make? (IntRange.make?_of_nonNegative? h)
  exact h

theorem counts_of_nonNegativeRange {e : Element} {r : IntRange}
    (h : nonNegativeRange e = .ok r) : Counts r := by
  obtain ⟨_, _, h⟩ := check_bind_eq_ok_iff.1 h
  exact counts_of_nonNegative? (ofRange_eq_ok_iff.1 h)

theorem counts_of_occursRange {e : Element} {r : IntRange} (h : occursRange e = .ok r) :
    Counts r := by
  unfold occursRange at h
  split at h
  · split at h
    · injection h with h
      exact h ▸ counts_optional
    · cases h
  · split at h
    · injection h with h
      exact h ▸ counts_singleton (by decide)
    · cases h
  · cases h
  · rename_i n _
    split at h
    · rename_i positive
      simp only [Bool.and_eq_true, decide_eq_true_eq] at positive
      injection h with h
      exact h ▸ counts_singleton (Int64.le_of_lt positive.1)
    · cases h
  · split at h
    · cases hs : nonNegativeRange e with
      | error fault =>
        rw [hs] at h
        cases h
      | ok s =>
        rw [hs] at h
        injection h with h
        exact h ▸ counts_of_nonNegativeRange hs
    · cases h

theorem occursRange_int {n : Int64} (positive : 0 < n) :
    occursRange (.int n.toInt) = .ok (.singleton n) := by
  have word : (Element.int n.toInt).symbol? = none := rfl
  have int : (Element.int n.toInt).int64? = some n := int64?_int [] n
  have plain : (Element.int n.toInt).annotations.isEmpty := rfl
  unfold occursRange
  rw [word, int]
  simp [positive, plain]

theorem occursRange_rangeElement {r : IntRange} (counts : Counts r) :
    occursRange (rangeElement (fun n : Int64 => .int n.toInt) r.lower r.upper) = .ok r := by
  have read := intRange_rangeElement counts.made
  unfold Counts at counts
  have word : (rangeElement (fun n : Int64 => .int n.toInt) r.lower r.upper).symbol? = none := rfl
  have int : (rangeElement (fun n : Int64 => .int n.toInt) r.lower r.upper).int64? = none := rfl
  have list : (rangeElement (fun n : Int64 => .int n.toInt) r.lower r.upper).list?.isSome := rfl
  unfold occursRange
  rw [word, int]
  simp [list, nonNegativeRange, read, counts, bind, Except.bind]
  rfl

theorem occursRange_occursElement {r : IntRange} (counts : Counts r) :
    occursRange (occursElement r) = .ok r := by
  unfold occursElement intRangeElement
  split
  · rename_i n only
    split
    · rename_i positive
      rw [singleton?_eq_some only]
      exact occursRange_int (by simpa using positive)
    · exact occursRange_rangeElement counts
  · exact occursRange_rangeElement counts

/-! ## Numbers, instants, precisions -/

theorem bounds_number (range : Element) :
    Bounds (fun d : Decimal => .decimal d) (numberBound? range) where
  notNull := by simp
  notUnbounded := by simp
  back d names := by
    simp [numberBound?, isNumberType, Element.type, Value.type, Element.decimal?]

theorem bounds_instant :
    Bounds (fun t : Timestamp => .timestamp t) (fun item => .ok item.timestamp?) where
  notNull := by simp
  notUnbounded := by simp
  back _ _ := rfl

theorem bounds_precision (range : Element) :
    Bounds (fun p : NamedPrecision => .symbol p.name) (precisionBound? range) where
  notNull := by simp
  notUnbounded p side := by cases p <;> cases side <;> simp [NamedPrecision.name, Side.unbounded]
  back p names := by
    simp [precisionBound?, Element.type, Value.type, Element.symbol?, NamedPrecision.ofName?_name]

theorem numberRange_numberRangeElement {r : NumberRange} (made : r.Made) :
    numberRange (numberRangeElement r) = .ok r := by
  have limits := limits_rangeElement (bounds_number (numberRangeElement r)) "number" r.lower
    r.upper
  simp only [numberRange]
  unfold numberRangeElement at limits ⊢
  rw [limits]
  exact ofRange_eq_ok_iff.2 made

theorem instantRange_instantRangeElement {r : InstantRange} (made : r.Made) :
    instantRange (instantRangeElement r) = .ok r := by
  have limits := limits_rangeElement bounds_instant "timestamp" r.lower r.upper
  simp only [instantRange]
  unfold instantRangeElement
  rw [limits]
  exact ofRange_eq_ok_iff.2 made

theorem eq_singleton_of_singleton? {r : PrecisionRange} {p : NamedPrecision} (made : r.Made)
    (h : r.singleton? = some p) :
    r = .singleton p := by
  obtain ⟨lower, upper, places⟩ := r
  unfold PrecisionRange.singleton? at h
  split at h
  · rename_i a b lowerEq upperEq
    split at h
    · rename_i same
      injection h with h
      simp only at lowerEq upperEq
      subst lowerEq upperEq same h
      exact Except.ok.inj (made.symm.trans (PrecisionRange.make?_singleton _))
    · cases h
  · cases h

theorem precisionRange_symbol (p : NamedPrecision) :
    precisionRange (.symbol p.name) = .ok (.singleton p) := by
  have word : (Element.symbol p.name).symbol? = some p.name := rfl
  have type : (Element.symbol p.name).type = .symbol := rfl
  have notNull : (Element.symbol p.name).isNull = false := rfl
  have plain : (Element.symbol p.name).annotations.isEmpty := rfl
  simp [precisionRange, word, type, notNull, plain, require, bind, Except.bind,
    NamedPrecision.ofName?_name]

theorem precisionRange_precisionRangeElement {r : PrecisionRange} (made : r.Made) :
    precisionRange (precisionRangeElement r) = .ok r := by
  unfold precisionRangeElement
  split
  · rename_i p only
    rw [eq_singleton_of_singleton? made only]
    exact precisionRange_symbol p
  · have limits := limits_rangeElement
      (bounds_precision (rangeElement (fun p : NamedPrecision => .symbol p.name) r.lower r.upper))
      "symbol" r.lower r.upper
    have type : (rangeElement (fun p : NamedPrecision => .symbol p.name) r.lower r.upper).type =
      .list := rfl
    simp only [precisionRange, type]
    simp only [Element.symbol] at limits ⊢
    rw [limits]
    exact ofRange_eq_ok_iff.2 made

theorem made_of_precisionRange {e : Element} {r : PrecisionRange} (h : precisionRange e = .ok r) :
    r.Made := by
  unfold precisionRange at h
  split at h
  · obtain ⟨_, _, h⟩ := check_bind_eq_ok_iff.1 h
    obtain ⟨_, _, h⟩ := check_bind_eq_ok_iff.1 h
    split at h
    · rename_i p _
      injection h with h
      exact h ▸ PrecisionRange.make?_singleton p
    · cases h
  · obtain ⟨⟨lower, upper⟩, _, h⟩ := check_bind_eq_ok_iff.1 h
    exact PrecisionRange.made_of_make? (ofRange_eq_ok_iff.1 h)

/-! What readers of these ranges give was made from its limits. -/

theorem made_of_limits {α : Type} [Comparable α] [Shown α] {r : Range α}
    {read : Check (Limit α × Limit α)}
    (h : (do let (lower, upper) ← read; ofRange (Range.make? lower upper)) = .ok r) : r.Made := by
  obtain ⟨⟨lower, upper⟩, _, h⟩ := check_bind_eq_ok_iff.1 h
  exact Range.made_of_make? (ofRange_eq_ok_iff.1 h)

theorem made_of_numberRange {e : Element} {r : NumberRange} (h : numberRange e = .ok r) : r.Made :=
  made_of_limits h

theorem made_of_instantRange {e : Element} {r : InstantRange} (h : instantRange e = .ok r) :
    r.Made :=
  made_of_limits h

end Isl.Writer
