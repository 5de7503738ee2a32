import Isl.Proofs.Equality
import Isl.Proofs.Ion.Container
/-!
# Values that are read back from their text

The texts of any values, with gaps between them, are read as just these values, whatever their
annotations, names and nesting, as long as they hold no clobs and blobs.

* `Value.Survives`, `Element.reread?_self`: values that are read as themselves;
* `Laid`, `topLevel_laid`: texts with gaps between them, and what they are read as;
* `parse_laid`: that is what was written.
-/
namespace Isl

/-- A scalar that is read as itself: all but clobs that are not ASCII and blobs whose text begins
like a comment. -/
def Value.Survives : Value → Prop
  | .clob bytes => ∀ b ∈ bytes, b.toNat < 128
  | .blob bytes => Base64.opensComment bytes = false
  | _ => True

theorem Value.survives_of_not_isLob {v : Value} (h : v.isLob = false) : v.Survives := by
  cases v with
  | clob | blob => cases h
  | _ => trivial

mutual

theorem Value.reread?_self (v : Value) (survive : ∀ s ∈ v.scalars, s.Survives) :
    v.reread? = some v := by
  cases v with
  | list es => rw [Value.reread?, Element.rereadAll?_self es survive]; rfl
  | sexp es => rw [Value.reread?, Element.rereadAll?_self es survive]; rfl
  | struct fs => rw [Value.reread?, Field.rereadAll?_self fs survive]; rfl
  | clob bytes =>
    have ascii : ∀ b ∈ bytes, b.toNat < 128 := survive (.clob bytes) (by simp [Value.scalars])
    rw [Value.reread?, Ion.clobBytes_ascii ascii]
  | blob bytes =>
    have closed : Base64.opensComment bytes = false :=
      survive (.blob bytes) (by simp [Value.scalars])
    rw [Value.reread?, closed]
    rfl
  | _ => simp [Value.reread?]

theorem Element.reread?_self (e : Element) (survive : ∀ s ∈ e.scalars, s.Survives) :
    e.reread? = some e := by
  obtain ⟨names, v⟩ := e
  rw [Element.reread?, Value.reread?_self v survive]
  rfl

theorem Element.rereadAll?_self (es : List Element)
    (survive : ∀ s ∈ Element.scalarsAll es, s.Survives) : Element.rereadAll? es = some es := by
  cases es with
  | nil => rw [Element.rereadAll?]
  | cons e es =>
    rw [Element.scalarsAll, List.forall_mem_append] at survive
    rw [Element.rereadAll?, Element.reread?_self e survive.1, Element.rereadAll?_self es survive.2]
    rfl

theorem Field.rereadAll?_self (fs : List Field)
    (survive : ∀ s ∈ Field.scalarsAll fs, s.Survives) : Field.rereadAll? fs = some fs := by
  cases fs with
  | nil => rw [Field.rereadAll?]
  | cons f fs =>
    obtain ⟨name, e⟩ := f
    rw [Field.scalarsAll, List.forall_mem_append] at survive
    rw [Field.rereadAll?, Element.reread?_self e survive.1, Field.rereadAll?_self fs survive.2]
    rfl

end

namespace Ion

variable {item : Reader Element} {es es' : List Element} {text : List Char} {bound budget : Nat}

/-- The texts of values, with a gap between any two. -/
inductive Laid : List Element → List Char → Prop where
  | none : Laid [] []
  | one (e : Element) : Laid [e] (elementChars e)
  | more {e : Element} {es : List Element} {gap text : List Char} (between : Gap gap)
      (others : Laid es text) (filled : es ≠ []) : Laid (e :: es) (elementChars e ++ (gap ++ text))

theorem topLevel_skip {c c' : Cursor} (skipped : skipBlank c = .ok c')
    (stays : skipBlank c' = .ok c') (budget : Nat) (acc : List Element) :
    topLevel item (budget + 1) c acc = topLevel item (budget + 1) c' acc := by
  simp only [topLevel, bind, Except.bind, skipped, stays]

theorem topLevel_item (starts : Starts text) (budget n : Nat) (acc : List Element) :
    topLevel item (budget + 1) ⟨text, n⟩ acc = (do
      let (e, c) ← item ⟨text, n⟩
      topLevel item budget c (e :: acc)) := by
  have stays := starts.stays n
  obtain ⟨x, tail, rfl, -⟩ := starts
  rw [topLevel]
  simp only [bind, Except.bind, stays]

theorem topLevel_end (budget n : Nat) (acc : List Element) :
    topLevel item (budget + 1) ⟨[], n⟩ acc = .ok acc.reverse := by
  simp only [topLevel, bind, Except.bind, stays_nil n]

theorem Laid.starts (laid : Laid es text) (items : ∀ e ∈ es, ItemReads item bound e)
    (filled : es ≠ []) : Starts text := by
  cases laid with
  | none => exact absurd rfl filled
  | one e => exact (items e (List.mem_singleton_self e)).starts
  | more between others => exact (items _ (List.mem_cons_self ..)).starts.append _

/-- Values with gaps between them are read one after the other. -/
theorem topLevel_laid (laid : Laid es text) (items : ∀ e ∈ es, ItemReads item bound e)
    (read : Element.rereadAll? es = some es') (fits : text.length < bound)
    (enough : text.length < budget) (n : Nat) (acc : List Element) :
    topLevel item budget ⟨text, n⟩ acc = .ok (acc.reverse ++ es') := by
  obtain ⟨budget, rfl⟩ := Nat.exists_eq_add_one.2 (Nat.zero_lt_of_lt enough)
  induction laid generalizing es' budget n acc with
  | none =>
    cases read
    rw [topLevel_end, List.append_nil]
  | one e =>
    have first := items e (List.mem_singleton_self e)
    have starts := first.starts
    rw [Element.rereadAll?, Option.bind_eq_some_iff] at read
    obtain ⟨x, self, read⟩ := read
    cases read
    have comes := first.comes [] n boundary_nil (by simpa using fits) (by simp)
    rw [self, List.append_nil] at comes
    obtain ⟨m, step⟩ := comes
    have length := starts.length_pos
    obtain ⟨budget, rfl⟩ := Nat.exists_eq_add_one.2 (show 0 < budget by omega)
    rw [topLevel_item starts, step]
    simp only [bind, Except.bind, topLevel_end, List.reverse_cons]
  | @more e es gap text between others filled ih =>
    obtain ⟨first, items⟩ := List.forall_mem_cons.1 items
    have starts := others.starts items filled
    rw [Element.rereadAll?, Option.bind_eq_some_iff] at read
    obtain ⟨x, self, read⟩ := read
    obtain ⟨xs, reads, rfl⟩ := Option.map_eq_some_iff.1 read
    have comes := first.comes (gap ++ text) n (.of_starts between starts) fits (by simp [self])
    rw [self] at comes
    obtain ⟨m, step⟩ := comes
    obtain ⟨m', skipped⟩ := skipBlank_gap between text m
    rw [starts.stays m'] at skipped
    have length := first.starts.length_pos
    simp only [List.length_append] at fits enough
    obtain ⟨budget, rfl⟩ := Nat.exists_eq_add_one.2 (show 0 < budget by omega)
    have next := ih items reads (by omega) m' (x :: acc) budget (by omega)
    rw [topLevel_item (first.starts.append _), step]
    change topLevel item (budget + 1) ⟨gap ++ text, m⟩ (x :: acc) = _
    rw [topLevel_skip skipped (starts.stays m'), next]
    simp

/-- What a text of values is read as at the top. -/
theorem parse_of_laid (laid : Laid es text) (low : ∀ e ∈ es, e.height ≤ defaultDepth)
    (legible : ∀ e ∈ es, ∀ s ∈ e.scalars, s.Legible) (read : Element.rereadAll? es = some es') :
    parse (String.ofList text) = .ok es' := by
  have items : ∀ e ∈ es, _ := fun e mem =>
    itemReads_element ⟨defaultDepth, text.length + 1⟩ defaultDepth e (low e mem) (legible e mem)
      false
  have all := topLevel_laid laid items read (Nat.lt_succ_self _) (Nat.lt_succ_self _) 0 []
  rw [parse, parseWithin, String.toList_ofList]
  exact all

/-- **What is written is read back.** Values without clobs and blobs, with any gaps between their
texts, are read as the values that they were. -/
theorem parse_laid (laid : Laid es text) (low : ∀ e ∈ es, e.height ≤ 1024)
    (plain : ∀ e ∈ es, ∀ s ∈ e.scalars, s.isLob = false ∧ s.Legible) :
    parse (String.ofList text) = .ok es ∧ Element.sameAll es es = true := by
  have self : Element.rereadAll? es = some es := Element.rereadAll?_self es fun s mem => by
    rw [Element.scalarsAll_eq, List.mem_flatMap] at mem
    obtain ⟨e, inside, mem⟩ := mem
    exact Value.survives_of_not_isLob (plain e inside s mem).1
  exact ⟨parse_of_laid laid low (fun e inside s mem => (plain e inside s mem).2) self,
    Element.sameAll_self es⟩

/-- A keyword as a symbol, a decimal with its zeros, a name twice, comments in between. -/
theorem parse_laid_comment :
    parse "a::['true', 1.50, 2007T] // next\n+inf/**/\x7bx: 'b c', x: null.int\x7d" =
      .ok [⟨["a"], .list [.ofValue (.symbol "true"), .ofValue (.decimal ⟨150, 2⟩),
          .ofValue (.timestamp (.ofYear 2007))]⟩,
        .ofValue (.float (.infinite false)),
        .ofValue (.struct [⟨"x", .ofValue (.symbol "b c")⟩, ⟨"x", .ofValue (.null .int)⟩])] := by
  have last := Laid.one
    (.ofValue (.struct [⟨"x", .ofValue (.symbol "b c")⟩, ⟨"x", .ofValue (.null .int)⟩]))
  have two := Laid.more (e := .ofValue (.float (.infinite false))) (.one (.block [] (by decide)))
    last (by simp)
  have laid := Laid.more (e := ⟨["a"], .list [.ofValue (.symbol "true"),
      .ofValue (.decimal ⟨150, 2⟩), .ofValue (.timestamp (.ofYear 2007))]⟩)
    (.more (.blank ' ' (by decide)) (.one (.line " next".toList (by decide)))) two (by simp)
  refine (parse_laid laid ?_ ?_).1
  · simp [Element.height, Value.height, Element.heightAll, Field.heightAll, Element.ofValue]
  · simp [Element.scalars, Value.scalars, Element.scalarsAll, Field.scalarsAll, Element.ofValue,
      Value.isLob, Value.Legible]
    exact ⟨"2007T".toList, by decide⟩

end Ion
end Isl
