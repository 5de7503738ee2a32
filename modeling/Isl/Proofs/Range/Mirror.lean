import Isl.Proofs.Range.Integer
/-!
# Mirrored ranges of integers

Negation turns the sign of both limits and has them change sides. Every limit has a mirror image but
one at the least integer, and the images leave as many integers between them as the limits do. So
what `IntRange.make?` has made once it makes again (`IntRange.make?_mirror`), and a range and its
mirror image contain each other's negated integers (`IntRange.negate_mirrors`).
-/
namespace Isl

theorem Int64.toInt_neg_of_ne_minValue {n : Int64} (h : n ≠ Int64.minValue) :
    (-n).toInt = -n.toInt := by
  have low := n.minValue_le_toInt
  have high := n.toInt_le
  have other : n.toInt ≠ Int64.minValue.toInt := fun same => h (Int64.toInt_inj.1 same)
  rw [Int64.toInt_minValue] at low other
  rw [Int64.toInt_maxValue] at high
  rw [Int64.toInt_neg]
  apply Int.bmod_eq_of_le <;> omega

theorem Int64.neg_ne_minValue {n : Int64} (h : n ≠ Int64.minValue) : -n ≠ Int64.minValue := by
  intro least
  apply h
  rw [← Int64.neg_neg (a := n), least]
  rfl

/-! ## Limits -/

namespace Limit
variable {l : Limit Int64} {n : Int64}

/-- The limit on the other side of zero. -/
def mirror (l : Limit Int64) : Limit Int64 := l.map (-·)

/-- The limit is at the least integer, whose negation is no integer of 64 bits. -/
def AtLeast (l : Limit Int64) : Prop := l.value? = some Int64.minValue

@[simp] theorem value?_mirror (l : Limit Int64) : l.mirror.value? = l.value?.map (-·) := by
  cases l <;> rfl

@[simp] theorem isOpen_mirror (l : Limit Int64) : l.mirror.isOpen = l.isOpen := by
  cases l <;> rfl

@[simp] theorem mirror_mirror (l : Limit Int64) : l.mirror.mirror = l := by
  cases l with
  | unbounded => rfl
  | closed n => exact congrArg closed Int64.neg_neg
  | opened n => exact congrArg opened Int64.neg_neg

theorem not_atLeast_mirror (h : ¬ l.AtLeast) : ¬ l.mirror.AtLeast := by
  unfold AtLeast at h ⊢
  rw [value?_mirror]
  cases hv : l.value? with
  | none => nofun
  | some m =>
    have other : m ≠ Int64.minValue := fun least => h (hv.trans (congrArg some least))
    exact fun least => Int64.neg_ne_minValue other (Option.some_inj.1 least)

/-- The image of an upper limit is a lower limit, for the images of the integers below. -/
theorem admits_mirror_gt (h : ¬ l.AtLeast) (hn : n ≠ Int64.minValue) :
    l.mirror.admits .gt n = l.admits .lt (-n) := by
  cases l with
  | unbounded => rfl
  | closed m | opened m =>
    have other : m ≠ Int64.minValue := fun least => h (congrArg some least)
    rw [Bool.eq_iff_iff]
    simp only [mirror, map, admits_closed_gt orderedBy_int64, admits_opened_gt orderedBy_int64,
      admits_closed_lt orderedBy_int64, admits_opened_lt orderedBy_int64,
      Int64.toInt_neg_of_ne_minValue other, Int64.toInt_neg_of_ne_minValue hn]
    omega

theorem admits_mirror_lt (h : ¬ l.AtLeast) (hn : n ≠ Int64.minValue) :
    l.mirror.admits .lt n = l.admits .gt (-n) := by
  have back := admits_mirror_gt (not_atLeast_mirror h) (Int64.neg_ne_minValue hn)
  rw [mirror_mirror, Int64.neg_neg] at back
  exact back.symm

end Limit

/-! ## Ranges -/

namespace IntRange
variable {lower upper : Limit Int64} {r mirrored : IntRange} {fault : RangeFault}

/-- The mirror images of limits that make a range make a range. -/
theorem make?_mirror (low : ¬ lower.AtLeast) (high : ¬ upper.AtLeast)
    (made : make? lower upper = .ok r) :
    make? upper.mirror lower.mirror = .ok ⟨⟨upper.mirror, lower.mirror⟩⟩ := by
  obtain rfl := eq_of_make? made
  have bounded : lower.value?.isSome ∨ upper.value?.isSome := (made_of_make? made).bounded
  by_cases half : lower.value? = none ∨ upper.value? = none
  · apply make?_half
    · simpa using bounded.symm
    · simpa using half.symm
  · obtain ⟨⟨lo, hlo⟩, ⟨hi, hhi⟩⟩ :
        (∃ lo, lower.value? = some lo) ∧ ∃ hi, upper.value? = some hi := by
      simpa [not_or, Option.ne_none_iff_exists'] using half
    have kept := make?_eq_ok_iff.1 made
    have lo' : lo ≠ Int64.minValue := fun least => low (hlo.trans (congrArg some least))
    have hi' : hi ≠ Int64.minValue := fun least => high (hhi.trans (congrArg some least))
    have hlo' : lower.mirror.value? = some (-lo) := by rw [Limit.value?_mirror, hlo]; rfl
    have hhi' : upper.mirror.value? = some (-hi) := by rw [Limit.value?_mirror, hhi]; rfl
    rw [ne_eq, make?_refuses_ends_iff hlo hhi] at kept
    rw [make?_eq_ok_iff, ne_eq, make?_refuses_ends_iff hhi' hlo',
      Int64.toInt_neg_of_ne_minValue lo', Int64.toInt_neg_of_ne_minValue hi',
      Limit.isOpen_mirror, Limit.isOpen_mirror, Bool.or_comm]
    rintro (crossed | ⟨out, beside⟩)
    · exact kept (.inl (by omega))
    · exact kept (.inr ⟨out, by omega⟩)

theorem negateLimit_least {l : Limit Int64} (h : l.AtLeast) :
    negateLimit l = .error .cannotNegate := if_pos h

theorem negateLimit_mirror {l : Limit Int64} (h : ¬ l.AtLeast) : negateLimit l = .ok l.mirror :=
  if_neg h

theorem negate_least (h : r.lower.AtLeast ∨ r.upper.AtLeast) :
    r.negate = .error .cannotNegate := by
  unfold negate
  by_cases high : r.upper.AtLeast
  · rw [negateLimit_least high]
    rfl
  · rw [negateLimit_mirror high, negateLimit_least (h.resolve_right high)]
    rfl

theorem negate_made (made : r.Made) (low : ¬ r.lower.AtLeast) (high : ¬ r.upper.AtLeast) :
    r.negate = .ok ⟨⟨r.upper.mirror, r.lower.mirror⟩⟩ := by
  unfold negate
  rw [negateLimit_mirror high, negateLimit_mirror low]
  exact make?_mirror low high made

/-- **Negation mirrors a range.** It fails exactly if an end is the least integer. What it gives
otherwise contains an integer, that one apart, if the range contains its negation; and negated again
it is the range. -/
theorem negate_mirrors (built : r.Built) :
    (∀ fault, r.negate = .error fault ↔
      fault = .cannotNegate ∧
        (r.lower.value? = some Int64.minValue ∨ r.upper.value? = some Int64.minValue)) ∧
    ∀ mirrored, r.negate = .ok mirrored →
      (∀ n, n ≠ Int64.minValue → mirrored.contains n = r.contains (-n)) ∧
        mirrored.negate = .ok r := by
  by_cases least : r.lower.AtLeast ∨ r.upper.AtLeast
  · have refused := negate_least least
    rw [refused]
    refine ⟨fun fault => ?_, nofun⟩
    constructor
    · intro same
      cases same
      exact ⟨rfl, least⟩
    · rintro ⟨rfl, -⟩
      rfl
  · obtain ⟨low, high⟩ := not_or.1 least
    have negated := negate_made built.isMade low high
    rw [negated]
    constructor
    · intro fault
      constructor
      · nofun
      · rintro ⟨-, h⟩
        exact absurd h least
    · intro mirrored same
      cases same
      constructor
      · intro n hn
        rw [contains_eq, contains_eq, Bool.and_comm]
        exact congrArg₂ _ (Limit.admits_mirror_lt low hn) (Limit.admits_mirror_gt high hn)
      · have again := negate_made (Built.negated negated).isMade
          (Limit.not_atLeast_mirror high) (Limit.not_atLeast_mirror low)
        simpa [lower, upper] using again

/-- `(-3, 5]` becomes `[-5, 3)`, and comes back. What reaches down to the least integer has no
mirror image. -/
theorem negate_mirrors_ends :
    let between : IntRange := ⟨⟨.opened (-3), .closed 5⟩⟩
    let least : IntRange := ⟨⟨.closed Int64.minValue, .closed 0⟩⟩
    between.Built ∧ least.Built ∧
      between.negate = .ok ⟨⟨.closed (-5), .opened 3⟩⟩ ∧
      (∀ n, n ≠ Int64.minValue →
        (⟨⟨.closed (-5), .opened 3⟩⟩ : IntRange).contains n = between.contains (-n)) ∧
      negate ⟨⟨.closed (-5), .opened 3⟩⟩ = .ok between ∧
      least.negate = .error .cannotNegate := by
  intro between least
  have hb : between.Built := .made (show make? (.opened (-3)) (.closed 5) = .ok between from rfl)
  have hl : least.Built :=
    .made (show make? (.closed Int64.minValue) (.closed 0) = .ok least from rfl)
  have negated : between.negate = .ok ⟨⟨.closed (-5), .opened 3⟩⟩ := rfl
  obtain ⟨contains, back⟩ := (negate_mirrors hb).2 _ negated
  exact ⟨hb, hl, negated, contains, back, ((negate_mirrors hl).1 _).2 ⟨rfl, .inl rfl⟩⟩

end IntRange
end Isl
