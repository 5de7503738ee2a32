import Isl.Proofs.Reader.Forms
import Isl.Proofs.Table
import Isl.Proofs.Writer.Ranges
/-!
# Constraints without types in them are written read back

What `LeafOf` says of a constraint is that it was read from some argument. Then it is also read
from what it is written as (`written_leaf`).
-/
namespace Isl.Writer
open Reader

/-- The constraint is read from this argument, which holds no types. -/
inductive LeafOf (version : IslVersion) (e : Element) : Constraint → Prop where
  | named {c : Constraint} {read : Element → Check Constraint}
      (known : leaf? version c.name = some read) (given : read e = .ok c) : LeafOf version e c
  | annotationList {c : Constraint} (v1 : version = .v1) (given : Reader.annotationList e = .ok c) :
      LeafOf version e c
  | annotationSet {c : Constraint} (v2 : version = .v2) (list : e.type = .list)
      (given : Reader.annotationSet e = .ok c) : LeafOf version e c

theorem accepted?_constraintOf_leaf {ctx : Context} {name : String}
    {read : Element → Check Constraint} (h : leaf? ctx.version name = some read) (path : TreePath)
    (e : Element) : accepted? (constraintOf ctx path name e) = (read e).toOption := by
  rw [constraintOf_leaf h, accepted?_lift]

/-! ## Measures, floats, patterns, precisions -/

theorem leaf?_measure (version : IslVersion) (m : Measure) :
    leaf? version m.name = some (measureRange m) := by
  simp [leaf?, Measure.ofName?_name]

theorem measureRange_ok {m : Measure} {e : Element} {c : Constraint}
    (h : measureRange m e = .ok c) :
    ∃ r : MeasureRange, c = .measure r ∧ r.measure = m ∧ r.range.Made ∧
      MeasureRange.make? m r.range = .ok r := by
  obtain ⟨range, read, h⟩ := check_bind_eq_ok_iff.1 h
  obtain ⟨r, given, rfl⟩ := check_map_eq_ok_iff.1 h
  have made := ofDefect_eq_ok_iff.1 given
  have parts : r = ⟨m, range⟩ := by
    unfold MeasureRange.make? at made
    split at made
    · split at made
      · cases made
      · injection made with made
        exact made.symm
    · injection made with made
      exact made.symm
  subst parts
  exact ⟨_, rfl, rfl, made_of_intRange read, made⟩

theorem measureRange_written {m : Measure} {r : MeasureRange} (range : r.range.Made)
    (made : MeasureRange.make? m r.range = .ok r) :
    measureRange m (intRangeElement (fun _ => true) r.range) = .ok (.measure r) := by
  simp [measureRange, intRange_intRangeElement _ range, made, Except.map, bind, Except.bind]

theorem floatFormat_ok {e : Element} {c : Constraint} (h : floatFormat e = .ok c) :
    ∃ f, c = .ieee754Float f := by
  unfold floatFormat at h
  split at h
  · cases h
  · split at h
    · rename_i f _
      injection h with h
      exact ⟨f, h.symm⟩
    · cases h

theorem floatFormat_symbol (f : FloatFormat) :
    floatFormat (.symbol f.name) = .ok (.ieee754Float f) := by
  have word : (Element.symbol f.name).symbol? = some f.name := rfl
  have plain : (Element.symbol f.name).annotations.isEmpty := rfl
  simp [floatFormat, word, plain, FloatFormat.ofName?_name]

theorem compile?_parts {version : IslVersion} {source : String} {i m : Bool} {p : Pattern}
    (h : Pattern.compile? version source i m = .ok p) :
    p.source = source ∧ p.ignoreCase = i ∧ p.multiline = m := by
  simp only [Pattern.compile?, bind, Except.bind] at h
  split at h
  · cases h
  · split at h
    · injection h with h
      subst h
      exact ⟨rfl, rfl, rfl⟩
    · cases h

theorem regexArgument_ok {version : IslVersion} {e : Element} {c : Constraint}
    (h : regexArgument version e = .ok c) :
    ∃ p : Pattern, c = .regex p ∧
      Pattern.compile? version p.source p.ignoreCase p.multiline = .ok p := by
  unfold regexArgument at h
  split at h
  · cases h
  · split at h
    · obtain ⟨p, given, rfl⟩ := check_map_eq_ok_iff.1 h
      have compiled := ofDefect_eq_ok_iff.1 given
      obtain ⟨source, i, m⟩ := compile?_parts compiled
      refine ⟨p, rfl, ?_⟩
      rw [source, i, m]
      exact compiled
    · cases h

theorem regexArgument_written {version : IslVersion} {p : Pattern}
    (compiled : Pattern.compile? version p.source p.ignoreCase p.multiline = .ok p) :
    regexArgument version ((Element.string p.source).annotated
      (flags [(p.ignoreCase, "i"), (p.multiline, "m")])) = .ok (.regex p) := by
  obtain ⟨source, i, m, regex⟩ := p
  simp only at compiled
  cases i <;> cases m <;>
    simp [regexArgument, flags, Element.annotated, Element.string, Element.ofValue,
      Element.string?, onlyAnnotated, Element.isAnnotated, compiled, Except.map]

/-! ## Annotations -/

theorem annotationList_ok {e : Element} {c : Constraint} (h : annotationList e = .ok c) :
    ∃ entries closed ordered, c = .annotationList entries closed ordered := by
  unfold annotationList at h
  split at h
  · cases h
  · split at h
    · split at h
      · injection h with h
        exact ⟨_, _, _, h.symm⟩
      · cases h
    · cases h

theorem listed?_listedElement (a : AnnotationEntry) :
    listed? false (listedElement a) = some a := by
  obtain ⟨text, required⟩ := a
  cases required <;>
    simp [listed?, listedElement, Element.annotated, Element.symbol, Element.ofValue,
      onlyAnnotated, Element.symbol?, Element.isAnnotated]

theorem mapM_listed? (entries : List AnnotationEntry) :
    (entries.map listedElement).mapM (listed? false) = some entries := by
  induction entries with
  | nil => rfl
  | cons a as ih => simp [List.mapM_cons, listed?_listedElement, ih]

theorem annotationList_written (entries : List AnnotationEntry) (closed ordered : Bool) :
    annotationList ((Element.list (entries.map listedElement)).annotated
      (flags [(ordered, "ordered"), (closed, "closed")])) =
        .ok (.annotationList entries closed ordered) := by
  have listed := mapM_listed? entries
  cases closed <;> cases ordered <;>
    simp [annotationList, flags, Element.annotated, Element.list, Element.ofValue, Element.list?,
      onlyAnnotated, Element.isAnnotated, listed]

theorem annotationSet_ok {e : Element} {c : Constraint} (h : annotationSet e = .ok c) :
    ∃ modifier names, c = .annotationSet modifier names ∧ Ascending names := by
  unfold annotationSet at h
  split at h
  · cases h
  · split at h
    · split at h
      · cases h
      · split at h
        · injection h with h
          exact ⟨_, _, h.symm, NameSet.ascending_ofList _⟩
        · cases h
    · cases h

theorem mapM_plainSymbol? (names : List String) :
    (names.map Element.symbol).mapM plainSymbol? = some names := by
  induction names with
  | nil => rfl
  | cons n ns ih =>
    have plain : plainSymbol? (.symbol n) = some n := rfl
    simp [List.mapM_cons, plain, ih]

theorem annotationSet_written (modifier : AnnotationsModifier) {names : NameSet}
    (ascending : Ascending names) :
    annotationSet ((Element.list (names.map .symbol)).annotated modifier.annotations) =
      .ok (.annotationSet modifier names) := by
  have listed := mapM_plainSymbol? names
  have set := NameSet.ofList_ascending ascending
  cases modifier <;>
    simp [annotationSet, AnnotationsModifier.annotations, AnnotationsModifier.isClosed,
      AnnotationsModifier.isRequired, Element.annotated, Element.list, Element.ofValue,
      Element.list?, onlyAnnotated, modifier?, Element.isAnnotated, listed, set]

/-! ## Valid values -/

/-- A listed value as readers give it: a plain value, or a range with a bound. -/
def ListedValue : ValidValue → Prop
  | .value e => e.annotations = []
  | .numbers r => Range.make? r.lower r.upper = .ok r
  | .instants r => Range.make? r.lower r.upper = .ok r

section
variable {α : Type} (value : α → Value) {type : IonType} {admits : IonType → Bool}

theorem type_limitElement (word : String) (typed : ∀ a, (value a).type = type) (l : Limit α) :
    (limitElement word (fun a => .ofValue (value a)) l).type =
      if l.value?.isSome then type else .symbol := by
  cases l with
  | unbounded => rfl
  | closed a => exact typed a
  | opened a => exact typed a

theorem hasBound_eq (typed : ∀ a, (value a).type = type) (lower upper : Limit α) :
    hasBound (rangeElement (fun a => .ofValue (value a)) lower upper) admits =
      (admits (if lower.value?.isSome then type else .symbol) ||
        admits (if upper.value?.isSome then type else .symbol)) := by
  have low := type_limitElement value "min" typed lower
  have high := type_limitElement value "max" typed upper
  simp only [hasBound, rangeElement, Element.annotated, Element.list, Element.ofValue,
    Element.list?, Option.getD_some, List.any_cons, List.any_nil, Bool.or_false]
  simp only [Element.ofValue] at low high
  rw [low, high]

/-- A written range with a bound has an item of the type of its bounds. -/
theorem hasBound_rangeElement (typed : ∀ a, (value a).type = type) (admitted : admits type = true)
    {lower upper : Limit α} (bounded : lower.value?.isSome ∨ upper.value?.isSome) :
    hasBound (rangeElement (fun a => .ofValue (value a)) lower upper) admits = true := by
  rw [hasBound_eq value typed]
  rcases bounded with h | h <;> simp [h, admitted]

theorem not_hasBound_rangeElement (typed : ∀ a, (value a).type = type)
    (refused : admits type = false) (symbol : admits .symbol = false) (lower upper : Limit α) :
    hasBound (rangeElement (fun a => .ofValue (value a)) lower upper) admits = false := by
  rw [hasBound_eq value typed]
  split <;> split <;> simp [refused, symbol]

end

theorem validRange_ok {e : Element} {v : ValidValue} (h : validRange e = .ok v) :
    ListedValue v := by
  unfold validRange at h
  split at h
  · obtain ⟨r, given, rfl⟩ := check_map_eq_ok_iff.1 h
    exact made_of_instantRange given
  · split at h
    · obtain ⟨r, given, rfl⟩ := check_map_eq_ok_iff.1 h
      exact made_of_numberRange given
    · cases h

theorem validValue_ok {e : Element} {v : ValidValue} (h : validValue e = .ok v) :
    ListedValue v := by
  unfold validValue at h
  split at h
  · exact validRange_ok h
  · split at h
    · rename_i plain
      injection h with h
      subst h
      exact List.isEmpty_iff.1 plain
    · cases h

theorem validRange_numberRangeElement {r : NumberRange} (made : r.Made) :
    validRange (numberRangeElement r) = .ok (.numbers r) := by
  have number : hasBound (numberRangeElement r) isNumberType = true :=
    hasBound_rangeElement (fun d => .decimal d) (fun _ => rfl) rfl made.bounded
  have noInstant : hasBound (numberRangeElement r) (· == .timestamp) = false :=
    not_hasBound_rangeElement (fun d => .decimal d) (fun _ => rfl) rfl rfl r.lower r.upper
  simp [validRange, number, noInstant, numberRange_numberRangeElement made, Except.map]

theorem validRange_instantRangeElement {r : InstantRange} (made : r.Made) :
    validRange (instantRangeElement r) = .ok (.instants r) := by
  have instant : hasBound (instantRangeElement r) (· == .timestamp) = true :=
    hasBound_rangeElement (fun t => .timestamp t) (fun _ => rfl) rfl made.bounded
  simp [validRange, instant, instantRange_instantRangeElement made, Except.map]

theorem validValue_validValueElement {v : ValidValue} (listed : ListedValue v) :
    validValue (validValueElement v) = .ok v := by
  cases v with
  | value e =>
    have plain : e.annotations = [] := listed
    simp [validValue, validValueElement, plain, Element.isAnnotated]
  | numbers r =>
    have list : (numberRangeElement r).type = .list := rfl
    have range : (numberRangeElement r).isAnnotated "range" = true := rfl
    simp [validValue, validValueElement, list, range, validRange_numberRangeElement listed]
  | instants r =>
    have list : (instantRangeElement r).type = .list := rfl
    have range : (instantRangeElement r).isAnnotated "range" = true := rfl
    simp [validValue, validValueElement, list, range, validRange_instantRangeElement listed]

/-- Checking each item of a list succeeds when each item is checked with success. -/
theorem mapM_eq_ok {α β : Type} {check : α → Check β} {element : β → α} {bs : List β}
    (h : ∀ b ∈ bs, check (element b) = .ok b) : (bs.map element).mapM check = .ok bs := by
  induction bs with
  | nil => rfl
  | cons b bs ih =>
    have first := h b (List.mem_cons_self ..)
    have rest := ih fun c hc => h c (List.mem_cons_of_mem _ hc)
    simp [List.mapM_cons, first, rest, bind, Except.bind, pure, Except.pure]

theorem nil_of_mapM {α β : Type} {check : α → Check β} {bs : List β}
    (given : [].mapM check = .ok bs) : bs = [] := by
  rw [List.mapM_nil] at given
  injection given with given
  exact given.symm

theorem cons_of_mapM {α β : Type} {check : α → Check β} {a : α} {as : List α} {bs : List β}
    (given : (a :: as).mapM check = .ok bs) :
    ∃ b rest, check a = .ok b ∧ as.mapM check = .ok rest ∧ bs = b :: rest := by
  rw [List.mapM_cons] at given
  obtain ⟨b, first, given⟩ := check_bind_eq_ok_iff.1 given
  obtain ⟨rest, others, given⟩ := check_bind_eq_ok_iff.1 given
  injection given with given
  exact ⟨b, rest, first, others, given.symm⟩

theorem forall_of_mapM {α β : Type} {check : α → Check β} {p : β → Prop}
    (h : ∀ a b, check a = .ok b → p b) {as : List α} {bs : List β}
    (given : as.mapM check = .ok bs) :
    ∀ b ∈ bs, p b := by
  induction as generalizing bs with
  | nil =>
    rw [nil_of_mapM given]
    exact List.forall_mem_nil p
  | cons a as ih =>
    obtain ⟨b, rest, first, others, rfl⟩ := cons_of_mapM given
    intro c hc
    rcases List.mem_cons.1 hc with rfl | hc
    · exact h a c first
    · exact ih others c hc

theorem validValues_ok {e : Element} {c : Constraint} (h : validValues e = .ok c) :
    ∃ vs, c = .validValues vs ∧ ∀ v ∈ vs, ListedValue v := by
  unfold validValues at h
  split at h
  · cases h
  · split at h
    · obtain ⟨v, given, rfl⟩ := check_map_eq_ok_iff.1 h
      exact ⟨[v], rfl, by simpa using validRange_ok given⟩
    · split at h
      · cases h
      · obtain ⟨vs, given, rfl⟩ := check_map_eq_ok_iff.1 h
        exact ⟨vs, rfl, forall_of_mapM (fun _ _ => validValue_ok) given⟩

theorem validValues_written {vs : List ValidValue} (listed : ∀ v ∈ vs, ListedValue v) :
    validValues (.list (vs.map validValueElement)) = .ok (.validValues vs) := by
  have items := mapM_eq_ok fun v hv => validValue_validValueElement (listed v hv)
  simp [validValues, Element.list, Element.ofValue, onlyAnnotated, Element.isAnnotated,
    Element.list?, items, Except.map]

/-- **Ranges come back.** Every range of integers, numbers, instants or precisions is read from what
it is written as, the same on both sides, be that only the one value it holds. A count is read as an
occurrence too, and in a list of valid values each range is taken for the kind that it was. -/
theorem ranges_reread :
    (∀ r : IntRange, r.Built → ∀ bare, intRange (intRangeElement bare r) = .ok r) ∧
    (∀ lower upper r, IntRange.nonNegative? lower upper = .ok r →
      occursRange (occursElement r) = .ok r) ∧
    (∀ r : NumberRange, r.Made → numberRange (numberRangeElement r) = .ok r) ∧
    (∀ r : InstantRange, r.Made → instantRange (instantRangeElement r) = .ok r) ∧
    (∀ r : PrecisionRange, r.Built → precisionRange (precisionRangeElement r) = .ok r) ∧
    ∀ vs : List ValidValue, (∀ v ∈ vs, ListedValue v) →
      validValues (.list (vs.map validValueElement)) = .ok (.validValues vs) := by
  refine ⟨fun r built bare => ?_, fun lower upper r made => ?_, fun r made => ?_, fun r made => ?_,
    fun r built => ?_, fun vs listed => ?_⟩
  · exact intRange_intRangeElement bare built.isMade
  · exact occursRange_occursElement (counts_of_nonNegative? made)
  · exact numberRange_numberRangeElement made
  · exact instantRange_instantRangeElement made
  · exact precisionRange_precisionRangeElement built.isMade
  · exact validValues_written listed

/-- A single integer and a single precision are written bare. Zero is a range where it is counted.
Of the valid values one is bounded from above, by a number, and one from below, by an instant. -/
theorem ranges_reread_sides :
    let one : IntRange := .singleton 1
    let zero : IntRange := .singleton 0
    let upToTenth : NumberRange := ⟨.unbounded, .opened ⟨1, 1⟩⟩
    let since : InstantRange := ⟨.opened (.ofYear 2000), .unbounded⟩
    let day : PrecisionRange := .singleton .day
    (intRangeElement (fun _ => true) one = .int 1 ∧ intRange (.int 1) = .ok one) ∧
    (occursElement zero = (Element.list [.int 0, .int 0]).annotated ["range"] ∧
      occursRange (occursElement zero) = .ok zero) ∧
    numberRange (numberRangeElement upToTenth) = .ok upToTenth ∧
    instantRange (instantRangeElement since) = .ok since ∧
    (precisionRangeElement day = .symbol "day" ∧ precisionRange (.symbol "day") = .ok day) ∧
    validValues (.list [numberRangeElement upToTenth, instantRangeElement since]) =
      .ok (.validValues [.numbers upToTenth, .instants since]) := by
  intro one zero upToTenth since day
  obtain ⟨integers, counts, numbers, instants, precisions, valid⟩ := ranges_reread
  have counted : IntRange.nonNegative? (.closed 0) (.closed 0) = .ok zero := rfl
  have number : upToTenth.Made := rfl
  have instant : since.Made := rfl
  have listed : ∀ v ∈ [ValidValue.numbers upToTenth, .instants since], ListedValue v := by
    simp only [List.mem_cons, List.not_mem_nil, or_false, forall_eq_or_imp, forall_eq]
    exact ⟨number, instant⟩
  exact ⟨⟨rfl, integers one (.singleton 1) fun _ => true⟩, ⟨rfl, counts _ _ zero counted⟩,
    numbers _ number, instants _ instant, ⟨rfl, precisions day (.singleton .day)⟩, valid _ listed⟩

/-! ## Offsets -/

/-- The offset comes from a text. -/
def ParsedOffset (o : OffsetValue) : Prop := ∃ text, OffsetValue.parse? text = .ok o

private theorem padded_digits : ∀ n < 60, (Timestamp.padded 2 n).length = 2 ∧
    (Timestamp.padded 2 n).all Char.isDigit ∧ Digits.ofDecimal (Timestamp.padded 2 n) = n := by
  decide +kernel

/-- Two digits are worth the number they were written for. -/
theorem padded_two {n : Nat} (h : n < 60) :
    ∃ a b, Timestamp.padded 2 n = [a, b] ∧ a.isDigit ∧ b.isDigit ∧
      Digits.ofDecimal [a, b] = n := by
  obtain ⟨length, digits, worth⟩ := padded_digits n h
  match two : Timestamp.padded 2 n, length with
  | [a, b], _ =>
    rw [two] at digits worth
    simp only [List.all_cons, List.all_nil, Bool.and_true, Bool.and_eq_true] at digits
    exact ⟨a, b, rfl, digits.1, digits.2, worth⟩

theorem parsedOffset_cases {o : OffsetValue} (parsed : ParsedOffset o) :
    o = .unknown ∨ ∃ n : Int, o = .minutes n ∧ n.natAbs < 1440 := by
  obtain ⟨text, h⟩ := parsed
  unfold OffsetValue.parse? at h
  split at h
  · dsimp only at h
    split at h
    · rename_i bounds
      obtain ⟨_, _, hours, mins⟩ := bounds
      split at h
      · injection h with h
        exact .inl h.symm
      · injection h with h
        refine .inr ⟨_, h.symm, ?_⟩
        split <;> omega
    · cases h
  · cases h

theorem parse?_chars {sign a b c d : Char} (signed : sign = '+' ∨ sign = '-')
    (digits : [a, b, c, d].all Char.isDigit) (hours : Digits.ofDecimal [a, b] ≤ 23)
    (mins : Digits.ofDecimal [c, d] ≤ 59) :
    OffsetValue.parse? (String.ofList [sign, a, b, ':', c, d]) =
      if sign = '-' ∧ Digits.ofDecimal [a, b] = 0 ∧ Digits.ofDecimal [c, d] = 0 then .ok .unknown
      else
        let total : Int := (Digits.ofDecimal [a, b] * 60 + Digits.ofDecimal [c, d] : Nat)
        .ok (.minutes (if sign = '-' then -total else total)) := by
  have bounds := And.intro signed (And.intro digits (And.intro hours mins))
  unfold OffsetValue.parse?
  rw [String.toList_ofList]
  exact if_pos bounds

theorem parse?_toText_minutes {n : Int} (small : n.natAbs < 1440) :
    OffsetValue.parse? (OffsetValue.minutes n).toText = .ok (.minutes n) := by
  obtain ⟨a, b, hours, aDigit, bDigit, hoursWorth⟩ := padded_two (show n.natAbs / 60 < 60 by omega)
  obtain ⟨c, d, mins, cDigit, dDigit, minsWorth⟩ := padded_two (show n.natAbs % 60 < 60 by omega)
  have digits : [a, b, c, d].all Char.isDigit := by simp [aDigit, bDigit, cDigit, dDigit]
  simp only [OffsetValue.toText, hours, mins]
  by_cases negative : n < 0
  · rw [if_pos negative]
    refine (parse?_chars (.inr rfl) digits (by omega) (by omega)).trans ?_
    rw [hoursWorth, minsWorth, if_neg (by omega)]
    dsimp only
    rw [if_pos rfl]
    congr 2
    omega
  · rw [if_neg negative]
    refine (parse?_chars (.inl rfl) digits (by omega) (by omega)).trans ?_
    rw [hoursWorth, minsWorth, if_neg (by simp)]
    dsimp only
    rw [if_neg (by decide)]
    congr 2
    omega

theorem parse?_toText {o : OffsetValue} (parsed : ParsedOffset o) :
    OffsetValue.parse? o.toText = .ok o := by
  rcases parsedOffset_cases parsed with rfl | ⟨n, rfl, small⟩
  · rfl
  · exact parse?_toText_minutes small

theorem offsetValue_ok {list item : Element} {o : OffsetValue}
    (h : offsetValue list item = .ok o) : ParsedOffset o := by
  unfold offsetValue at h
  split at h
  · cases h
  · rename_i text _
    exact ⟨text, ofDefect_eq_ok_iff.1 h⟩

theorem offsetValue_string (list : Element) {o : OffsetValue} (parsed : ParsedOffset o) :
    offsetValue list (.string o.toText) = .ok o := by
  have plain : plainString? (.string o.toText) = some o.toText := rfl
  simp [offsetValue, plain, parse?_toText parsed]

theorem length_of_mapM {α β : Type} {check : α → Check β} {as : List α} {bs : List β}
    (given : as.mapM check = .ok bs) : bs.length = as.length := by
  induction as generalizing bs with
  | nil =>
    rw [nil_of_mapM given]
    rfl
  | cons a as ih =>
    obtain ⟨b, rest, -, others, rfl⟩ := cons_of_mapM given
    rw [List.length_cons, List.length_cons, ih others]

theorem offsets_ok {e : Element} {c : Constraint} (h : offsets e = .ok c) :
    ∃ os, c = .timestampOffset os ∧ os ≠ [] ∧ ∀ o ∈ os, ParsedOffset o := by
  unfold offsets at h
  split at h
  · cases h
  · cases h
  · rename_i items some _
    split at h
    · obtain ⟨os, given, rfl⟩ := check_map_eq_ok_iff.1 h
      refine ⟨os, rfl, ?_, forall_of_mapM (fun _ _ => offsetValue_ok) given⟩
      intro empty
      have length := length_of_mapM given
      rw [empty] at length
      exact some (List.length_eq_zero_iff.1 length.symm ▸ rfl)
    · cases h

theorem offsets_written {os : List OffsetValue} (some : os ≠ [])
    (parsed : ∀ o ∈ os, ParsedOffset o) :
    offsets (.list (os.map fun o => .string o.toText)) = .ok (.timestampOffset os) := by
  have items := mapM_eq_ok fun o ho =>
    offsetValue_string (.list (os.map fun o => .string o.toText)) (parsed o ho)
  cases os with
  | nil => exact absurd rfl some
  | cons o os =>
    simp only [offsets, Element.list, Element.ofValue, Element.list?, List.map_cons] at items ⊢
    simp [items, Except.map]

/-! ## Any of them -/

theorem accepted?_annotationList {ctx : Context} (v1 : ctx.version = .v1) (path : TreePath)
    (e : Element) :
    accepted? (constraintOf ctx path "annotations" e) = (annotationList e).toOption := by
  cases e with
  | mk names v =>
    rw [constraintOf.eq_def]
    dsimp only
    rw [leaf?_annotations, v1]
    exact accepted?_lift _

theorem accepted?_annotationSet {ctx : Context} (v2 : ctx.version = .v2) {e : Element}
    (list : e.type = .list) (path : TreePath) :
    accepted? (constraintOf ctx path "annotations" e) = (annotationSet e).toOption := by
  cases e with
  | mk names v =>
    have type : v.type = .list := list
    rw [constraintOf.eq_def]
    dsimp only
    rw [leaf?_annotations, v2, type]
    exact accepted?_lift _

/-- Reads of the constraints without types, by the name they are stated under. -/
theorem written_named {version : IslVersion} {c : Constraint} {read : Element → Check Constraint}
    (known : leaf? version c.name = some read) {e : Element} (given : read e = .ok c) :
    ∃ e', constraintFields version c = [⟨c.name, e'⟩] ∧ read e' = .ok c := by
  cases c with
  | measure r =>
    rw [Constraint.name, leaf?_measure] at known
    injection known with known
    subst known
    obtain ⟨_, same, _, range, made⟩ := measureRange_ok given
    injection same with same
    subst same
    exact ⟨_, rfl, measureRange_written range made⟩
  | contains es =>
    injection known with known
    subst known
    exact ⟨_, rfl, rfl⟩
  | regex p =>
    injection known with known
    subst known
    obtain ⟨_, same, compiled⟩ := regexArgument_ok given
    injection same with same
    subst same
    exact ⟨_, rfl, regexArgument_written compiled⟩
  | validValues vs =>
    injection known with known
    subst known
    obtain ⟨_, same, listed⟩ := validValues_ok given
    injection same with same
    subst same
    exact ⟨_, rfl, validValues_written listed⟩
  | timestampPrecision r =>
    injection known with known
    subst known
    obtain ⟨range, read, same⟩ := check_map_eq_ok_iff.1 given
    injection same with same
    subst same
    refine ⟨_, rfl, ?_⟩
    dsimp only
    rw [precisionRange_precisionRangeElement (made_of_precisionRange read)]
    rfl
  | timestampOffset os =>
    injection known with known
    subst known
    obtain ⟨_, same, some, parsed⟩ := offsets_ok given
    injection same with same
    subst same
    exact ⟨_, rfl, offsets_written some parsed⟩
  | ieee754Float f =>
    injection known with known
    subst known
    exact ⟨_, rfl, floatFormat_symbol f⟩
  | _ => cases known

/-- A constraint that was read from an argument without types is written as one field, and read
from that field. -/
theorem written_leaf {version : IslVersion} {e : Element} {c : Constraint}
    (leaf : LeafOf version e c) :
    ∃ e', constraintFields version c = [⟨c.name, e'⟩] ∧
      ∀ (ctx : Context) (path : TreePath), ctx.version = version →
        accepted? (constraintOf ctx path c.name e') = some c := by
  cases leaf with
  | annotationList v1 given =>
    obtain ⟨entries, closed, ordered, rfl⟩ := annotationList_ok given
    refine ⟨_, rfl, fun ctx path same => ?_⟩
    rw [Constraint.name, accepted?_annotationList (same.trans v1), annotationList_written]
    rfl
  | annotationSet v2 list given =>
    obtain ⟨modifier, names, rfl, ascending⟩ := annotationSet_ok given
    refine ⟨_, rfl, fun ctx path same => ?_⟩
    rw [Constraint.name, accepted?_annotationSet (same.trans v2) rfl,
      annotationSet_written modifier ascending]
    rfl
  | @named read known given =>
    obtain ⟨e', field, again⟩ : ∃ e', constraintFields version c = [⟨c.name, e'⟩] ∧
        read e' = .ok c := written_named known given
    refine ⟨e', field, fun ctx path same => ?_⟩
    rw [accepted?_constraintOf_leaf (same ▸ known), again]
    rfl

end Isl.Writer
