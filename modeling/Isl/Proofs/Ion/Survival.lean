import Isl.Proofs.Ion.RoundTrip
/-!
# Binary values that survive being written

A value with clobs and blobs in it is read back from its text just when every clob in it is ASCII
and no blob in it is written with two slashes in front. With any other blob the text is not read at
all; any other clob is read as one that is longer.

* `Value.clobWeight_of_same`: equal values have clobs of the same length in all;
* `Value.reread?_scalars`: which scalars a value is read with;
* `parse_toText_iff`: what survives.
-/
namespace Isl

/-- A scalar as it is read, if it is. -/
def Value.rewritten : Value → Value
  | .clob bytes => .clob (Ion.clobBytes bytes)
  | v => v

def Value.clobLength : Value → Nat
  | .clob bytes => bytes.length
  | _ => 0

/-- How many bytes the clobs have in all. -/
def clobWeight (scalars : List Value) : Nat := (scalars.map Value.clobLength).sum

theorem clobWeight_append (as bs : List Value) :
    clobWeight (as ++ bs) = clobWeight as + clobWeight bs := by
  simp [clobWeight]

/-! ## Equal values -/

mutual

/-- Equal values have clobs of the same length in all, wherever the fields of a struct stand. -/
theorem Value.clobWeight_of_same {v w : Value} (h : v.same w = true) :
    clobWeight v.scalars = clobWeight w.scalars := by
  rw [Value.same.eq_def] at h
  split at h
  -- what holds no clobs weighs nothing
  all_goals try rfl
  · rw [eq_of_beq h]
  · exact Element.clobWeight_of_sameAll h
  · exact Element.clobWeight_of_sameAll h
  · rw [Bool.and_eq_true] at h
    exact Field.clobWeight_of_takesAll h.2 (eq_of_beq h.1)
  · cases h

theorem Element.clobWeight_of_same {a b : Element} (h : a.same b = true) :
    clobWeight a.scalars = clobWeight b.scalars := by
  cases a with
  | mk names v =>
    obtain ⟨names', w⟩ := b
    simp only [Element.same, Bool.and_eq_true] at h
    exact Value.clobWeight_of_same h.2

theorem Element.clobWeight_of_sameAll {as bs : List Element} (h : Element.sameAll as bs = true) :
    clobWeight (Element.scalarsAll as) = clobWeight (Element.scalarsAll bs) := by
  cases as with
  | nil =>
    cases bs with
    | nil => rfl
    | cons b bs => simp [Element.sameAll] at h
  | cons a as =>
    cases bs with
    | nil => simp [Element.sameAll] at h
    | cons b bs =>
      simp only [Element.sameAll, Bool.and_eq_true] at h
      rw [Element.scalarsAll, Element.scalarsAll, clobWeight_append, clobWeight_append,
        Element.clobWeight_of_same h.1, Element.clobWeight_of_sameAll h.2]

theorem Field.clobWeight_of_same {f g : Field} (h : f.same g = true) :
    clobWeight f.value.scalars = clobWeight g.value.scalars := by
  cases f with
  | mk name e =>
    simp only [Field.same, Bool.and_eq_true] at h
    exact Element.clobWeight_of_same h.2

theorem Field.clobWeight_of_takesAll {fs gs : List Field} (h : Field.takesAll fs gs = true)
    (length : fs.length = gs.length) :
    clobWeight (Field.scalarsAll fs) = clobWeight (Field.scalarsAll gs) := by
  cases fs with
  | nil =>
    obtain rfl := List.length_eq_zero_iff.1 length.symm
    rfl
  | cons f fs =>
    rw [Field.takesAll] at h
    split at h
    · rename_i taken
      obtain ⟨l, g, r, rfl, rfl, same⟩ := exists_of_removeFirst? taken
      have first := Field.clobWeight_of_same same
      have others := Field.clobWeight_of_takesAll h (by
        simp only [List.length_cons, List.length_append] at length ⊢
        omega)
      rw [Field.scalarsAll_eq] at others ⊢
      rw [Field.scalarsAll_eq, List.flatMap_append] at others ⊢
      simp only [List.flatMap_cons, clobWeight_append] at others ⊢
      omega
    · cases h

end

/-! ## What is read -/

mutual

/-- A value that is read has the scalars that it was written with, as they are read, and no blob of
it was taken for a comment. -/
theorem Value.reread?_scalars {v w : Value} (read : v.reread? = some w) :
    w.scalars = v.scalars.map Value.rewritten ∧
      ∀ bytes, .blob bytes ∈ v.scalars → Base64.opensComment bytes = false := by
  cases v with
  | list es =>
    rw [Value.reread?, Option.map_eq_some_iff] at read
    obtain ⟨es', read, rfl⟩ := read
    exact Element.rereadAll?_scalars read
  | sexp es =>
    rw [Value.reread?, Option.map_eq_some_iff] at read
    obtain ⟨es', read, rfl⟩ := read
    exact Element.rereadAll?_scalars read
  | struct fs =>
    rw [Value.reread?, Option.map_eq_some_iff] at read
    obtain ⟨fs', read, rfl⟩ := read
    exact Field.rereadAll?_scalars read
  | blob bytes =>
    rw [Value.reread?] at read
    split at read
    · cases read
    · rename_i closed
      cases read
      simpa [Value.scalars, Value.rewritten] using closed
  | _ =>
    simp only [Value.reread?, Option.some.injEq] at read
    subst read
    simp [Value.scalars, Value.rewritten]

theorem Element.reread?_scalars {a b : Element} (read : a.reread? = some b) :
    b.scalars = a.scalars.map Value.rewritten ∧
      ∀ bytes, .blob bytes ∈ a.scalars → Base64.opensComment bytes = false := by
  cases a with
  | mk names v =>
    rw [Element.reread?, Option.map_eq_some_iff] at read
    obtain ⟨w, read, rfl⟩ := read
    exact Value.reread?_scalars read

theorem Element.rereadAll?_scalars {as bs : List Element} (read : Element.rereadAll? as = some bs) :
    Element.scalarsAll bs = (Element.scalarsAll as).map Value.rewritten ∧
      ∀ bytes, .blob bytes ∈ Element.scalarsAll as → Base64.opensComment bytes = false := by
  cases as with
  | nil =>
    cases read
    simp [Element.scalarsAll]
  | cons a as =>
    rw [Element.rereadAll?, Option.bind_eq_some_iff] at read
    obtain ⟨b, first, read⟩ := read
    obtain ⟨bs, others, rfl⟩ := Option.map_eq_some_iff.1 read
    obtain ⟨front, closed⟩ := Element.reread?_scalars first
    obtain ⟨back, closed'⟩ := Element.rereadAll?_scalars others
    simp only [Element.scalarsAll, List.map_append, List.mem_append, front, back, true_and]
    rintro bytes (mem | mem)
    · exact closed bytes mem
    · exact closed' bytes mem

theorem Field.rereadAll?_scalars {fs gs : List Field} (read : Field.rereadAll? fs = some gs) :
    Field.scalarsAll gs = (Field.scalarsAll fs).map Value.rewritten ∧
      ∀ bytes, .blob bytes ∈ Field.scalarsAll fs → Base64.opensComment bytes = false := by
  cases fs with
  | nil =>
    cases read
    simp [Field.scalarsAll]
  | cons f fs =>
    cases f with
    | mk name e =>
      rw [Field.rereadAll?, Option.bind_eq_some_iff] at read
      obtain ⟨b, first, read⟩ := read
      obtain ⟨gs, others, rfl⟩ := Option.map_eq_some_iff.1 read
      obtain ⟨front, closed⟩ := Element.reread?_scalars first
      obtain ⟨back, closed'⟩ := Field.rereadAll?_scalars others
      simp only [Field.scalarsAll, List.map_append, List.mem_append, front, back, true_and]
      rintro bytes (mem | mem)
      · exact closed bytes mem
      · exact closed' bytes mem

end

theorem Value.clobLength_le_rewritten (v : Value) : v.clobLength ≤ v.rewritten.clobLength := by
  cases v with
  | clob bytes => exact Ion.length_le_clobBytes bytes
  | _ => exact Nat.le_refl _

theorem clobWeight_le_rewritten (scalars : List Value) :
    clobWeight scalars ≤ clobWeight (scalars.map Value.rewritten) := by
  induction scalars with
  | nil => exact Nat.le_refl _
  | cons v scalars ih =>
    simp only [clobWeight, List.map_cons, List.sum_cons] at ih ⊢
    exact Nat.add_le_add v.clobLength_le_rewritten ih

theorem Value.survives_of_clobLength {v : Value}
    (closed : ∀ bytes, v = .blob bytes → Base64.opensComment bytes = false)
    (same : v.rewritten.clobLength = v.clobLength) : v.Survives := by
  cases v with
  | clob bytes => exact Ion.small_of_length_clobBytes same
  | blob bytes => exact closed bytes rfl
  | _ => trivial

/-- Clobs that are no longer than they were are what they were. -/
theorem survives_of_clobWeight {scalars : List Value}
    (closed : ∀ bytes, .blob bytes ∈ scalars → Base64.opensComment bytes = false)
    (same : clobWeight (scalars.map Value.rewritten) = clobWeight scalars) :
    ∀ s ∈ scalars, s.Survives := by
  induction scalars with
  | nil => simp
  | cons v scalars ih =>
    have front := v.clobLength_le_rewritten
    have back := clobWeight_le_rewritten scalars
    simp only [clobWeight, List.map_cons, List.sum_cons] at same back ih
    refine List.forall_mem_cons.2 ⟨Value.survives_of_clobLength ?_ (by omega), ih ?_ (by omega)⟩
    · rintro bytes rfl
      exact closed bytes (List.mem_cons_self ..)
    · exact fun bytes mem => closed bytes (List.mem_cons_of_mem _ mem)

namespace Ion

/-- The text of a value that is read as nothing is at fault. -/
theorem parse_toText_none {e : Element} (low : e.height ≤ defaultDepth)
    (legible : ∀ s ∈ e.scalars, s.Legible) (unread : e.reread? = none) :
    ∃ fault, parse e.toText = .error fault := by
  have item := itemReads_element ⟨defaultDepth, (elementChars e).length + 1⟩ defaultDepth e low
    legible false
  have comes := item.comes [] 0 boundary_nil (by simp) (by simp)
  rw [unread, List.append_nil] at comes
  obtain ⟨fault, failed⟩ := comes
  refine ⟨fault, ?_⟩
  rw [parse, parseWithin, Element.toText, String.toList_ofList]
  dsimp only
  rw [topLevel_item item.starts, failed]
  rfl

/-- **What survives being written.** The text of a value is read as one equal value just when all
its scalars survive. -/
theorem parse_toText_iff {e : Element} (low : e.height ≤ 1024)
    (legible : ∀ s ∈ e.scalars, s.Legible) :
    (∃ e', parse e.toText = .ok [e'] ∧ e'.same e = true) ↔ ∀ s ∈ e.scalars, s.Survives := by
  cases read : e.reread? with
  | none =>
    obtain ⟨fault, failed⟩ := parse_toText_none low legible read
    constructor
    · rintro ⟨e', parsed, -⟩
      rw [failed] at parsed
      cases parsed
    · intro survive
      rw [e.reread?_self survive] at read
      cases read
  | some r =>
    have parsed : parse e.toText = .ok [r] :=
      parse_of_laid (.one e) (List.forall_mem_singleton.2 low) (List.forall_mem_singleton.2 legible)
        (by simp [Element.rereadAll?, read])
    obtain ⟨scalars, closed⟩ := Element.reread?_scalars read
    constructor
    · rintro ⟨e', again, same⟩
      rw [parsed] at again
      cases again
      have weight := Element.clobWeight_of_same same
      rw [scalars] at weight
      exact survives_of_clobWeight closed weight
    · intro survive
      rw [e.reread?_self survive] at read
      cases read
      exact ⟨e, parsed, e.same_self⟩

/-- A blob of one byte survives beside an ASCII clob, a clob of that byte does not. -/
theorem parse_toText_iff_byte :
    (∃ e', parse (Element.ofValue (.list [.ofValue (.clob [0x61]), .ofValue (.blob [0xff])])).toText
        = .ok [e'] ∧
      e'.same (.ofValue (.list [.ofValue (.clob [0x61]), .ofValue (.blob [0xff])])) = true) ∧
    ¬ ∃ e', parse (Element.ofValue (.clob [0xff])).toText = .ok [e'] ∧
      e'.same (.ofValue (.clob [0xff])) = true := by
  constructor
  · refine (parse_toText_iff ?_ ?_).2 ?_
    · decide
    · simp [Element.ofValue, Element.scalars, Value.scalars, Element.scalarsAll, Value.Legible]
    · simp [Element.ofValue, Element.scalars, Value.scalars, Element.scalarsAll, Value.Survives]
      decide
  · refine fun survives => absurd ((parse_toText_iff ?_ ?_).1 survives) ?_
    · decide
    · simp [Element.ofValue, Element.scalars, Value.scalars, Value.Legible]
    · simp [Element.ofValue, Element.scalars, Value.scalars, Value.Survives]

end Ion
end Isl
