import Isl.Proofs.Range.Integer
import Isl.Proofs.Reader.Fields
import Isl.Proofs.Reader.Forms
import Isl.Proofs.Reader.Reserved
/-!
# Measures and their minimum

Lengths count from zero and precisions from one. Whether a range keeps to that is decided by its
lower limit alone, which is enough: a range with an integer in it contains the least integer that
the limit admits (`IntRange.forall_le_iff`).

* `Measure.Possible`: the values that a measure can have;
* `MeasureRange.make?_eq_ok_iff`: the ranges of a measure;
* `SchemaReader.Returns`: the definitions that a reader hands out;
* `MeasureRange.minimum_exact`: no constraint that is read admits what the measure cannot be.
-/
namespace Isl

/-! ## The least integer of a range -/

theorem Int64.toInt_succ {n : Int64} (h : n ≠ Int64.maxValue) : (n + 1).toInt = n.toInt + 1 := by
  have low := n.minValue_le_toInt
  have high := n.toInt_le
  have other : n.toInt ≠ Int64.maxValue.toInt := fun same => h (Int64.toInt_inj.1 same)
  rw [Int64.toInt_minValue] at low
  rw [Int64.toInt_maxValue] at high other
  rw [Int64.toInt_add, Int64.toInt_one]
  apply Int.bmod_eq_of_le <;> omega

theorem Limit.least?_eq_some {l : Limit Int64} {n : Int64} (limited : l ≠ .unbounded)
    (least : l.least = n.toInt) : l.least? = some n := by
  cases l with
  | unbounded => contradiction
  | closed m => exact congrArg some (Int64.toInt_inj.1 least)
  | opened m =>
    have next : m.toInt + 1 = n.toInt := least
    -- With `n` behind it, the limit is not at the last integer, where the successor overflows.
    have before : m ≠ Int64.maxValue := by
      rintro rfl
      have last := n.toInt_le
      omega
    rw [Limit.least?, if_neg before]
    exact congrArg some (Int64.toInt_inj.1 ((Int64.toInt_succ before).trans next))

namespace IntRange
variable {r : IntRange}

/-- A range with an integer in it contains the least one that its lower limit admits. -/
theorem exists_least (inhabited : ∃ n, r.contains n = true) :
    ∃ n, r.contains n = true ∧ r.lower.least = n.toInt := by
  obtain ⟨m, inside⟩ := inhabited
  obtain ⟨above, below⟩ := (contains_iff r m).1 inside
  obtain ⟨n, same⟩ :=
    Int64.exists_toInt r.lower.minValue_le_least (Int.le_trans above m.toInt_le)
  exact ⟨n, (contains_iff r n).2 (by omega), same.symm⟩

/-- All integers of a range keep to a minimum exactly if the least one does. -/
theorem forall_le_iff (inhabited : ∃ n, r.contains n = true) (minimum : Int) :
    (∀ n, r.contains n = true → minimum ≤ n.toInt) ↔ minimum ≤ r.lower.least := by
  constructor
  · intro all
    obtain ⟨n, inside, least⟩ := exists_least inhabited
    rw [least]
    exact all n inside
  · intro low n inside
    exact Int.le_trans low ((contains_iff r n).1 inside).1

end IntRange

/-! ## Values of a measure -/

/-- Lengths count from zero and precisions from one. A scale or an exponent can be anything. -/
def Measure.Possible : Measure → Int → Prop
  | byteLength, n | codepointLength, n | containerLength, n | utf8ByteLength, n => 0 ≤ n
  | precision, n => 1 ≤ n
  | scale, _ | exponent, _ => True

theorem Measure.possible_iff (m : Measure) (n : Int) :
    m.Possible n ↔ ∀ minimum, m.minimum? = some minimum → minimum.toInt ≤ n := by
  cases m <;> simp [Possible, minimum?, isLength]

/-- No minimum is the least integer, so what is unbounded below goes below it. -/
theorem Measure.minValue_lt {m : Measure} {minimum : Int64} (known : m.minimum? = some minimum) :
    Int64.minValue.toInt < minimum.toInt := by
  cases m <;> cases known <;> decide

namespace MeasureRange
variable {m : Measure} {r : IntRange} {made : MeasureRange} {minimum : Int64}

/-- A range with an integer in it reaches below a minimum exactly if the least integer that its
lower limit admits does, whether or not there is a limit. -/
theorem reachesBelow_iff (inhabited : ∃ n, r.contains n = true)
    (known : m.minimum? = some minimum) :
    reachesBelow minimum r = true ↔ r.lower.least < minimum.toInt := by
  by_cases limited : r.lower = .unbounded
  · have below := Measure.minValue_lt known
    simpa [reachesBelow, limited, Limit.least?, Limit.least] using below
  · obtain ⟨n, _, least⟩ := IntRange.exists_least inhabited
    rw [reachesBelow, Limit.least?_eq_some limited least, least]
    simp [Int64.lt_iff_toInt_lt]

/-- A range with an integer in it is accepted, and kept as it is, exactly if it contains only
possible values. -/
theorem make?_eq_ok_iff (inhabited : ∃ n, r.contains n = true) :
    make? m r = .ok made ↔
      made = ⟨m, r⟩ ∧ ∀ n, r.contains n = true → m.Possible n.toInt := by
  rw [eq_comm (a := made)]
  unfold make?
  cases known : m.minimum? with
  | none => simp [Measure.possible_iff, known]
  | some minimum =>
    have possible : (∀ n, r.contains n = true → m.Possible n.toInt) ↔
        ¬ reachesBelow minimum r = true := by
      rw [reachesBelow_iff inhabited known, Int.not_lt, ← IntRange.forall_le_iff inhabited]
      simp [Measure.possible_iff, known]
    rw [possible]
    by_cases below : reachesBelow minimum r = true <;> simp [below]

/-- A refusal names the field, the least possible value and the range. -/
theorem make?_error {defect : Defect} (refused : make? m r = .error defect) :
    ∃ minimum, defect = .belowMinimum m.name minimum r.text ∧ ∀ n, m.Possible n ↔ minimum ≤ n := by
  unfold make? at refused
  split at refused
  · rename_i minimum known
    split at refused
    · cases refused
      exact ⟨minimum.toInt, rfl, fun n => by simp [Measure.possible_iff, known]⟩
    · cases refused
  · cases refused

/-- What was made of any range at all admits only possible values. -/
theorem possible_of_make? (h : make? m r = .ok made) {n : Int64} (inside : r.contains n = true) :
    m.Possible n.toInt :=
  ((make?_eq_ok_iff ⟨n, inside⟩).1 h).2 n inside

end MeasureRange

/-! ## Constraints that are read -/

namespace Reader
variable {ctx : Context} {path : TreePath} {d : TypeDefinition}

/-- Under the name of a measure, a range that is not empty is read exactly if it contains only
possible values. -/
theorem constraintOf_measure_iff {m : Measure} {e : Element} {r : IntRange}
    (range : intRange e = .ok r) (inhabited : ∃ n, r.contains n = true)
    {errors after : List ReadError} {c : Constraint} :
    constraintOf ctx path m.name e errors = .ok c after ↔
      after = errors ∧ c = .measure ⟨m, r⟩ ∧
        ∀ n, r.contains n = true → m.Possible n.toInt := by
  have reads : measureRange m e = (ofDefect (MeasureRange.make? m r)).map .measure := by
    rw [measureRange, range]
    rfl
  rw [constraintOf_leaf (Writer.leaf?_measure ctx.version m), lift_eq_ok_iff, reads,
    check_map_eq_ok_iff]
  simp only [ofDefect_eq_ok_iff, MeasureRange.make?_eq_ok_iff inhabited]
  refine and_congr_right fun _ => ?_
  constructor
  · rintro ⟨made, ⟨rfl, possible⟩, rfl⟩
    exact ⟨rfl, possible⟩
  · rintro ⟨rfl, possible⟩
    exact ⟨_, ⟨rfl, possible⟩, rfl⟩

/-- A constraint of a measure was made of its range. -/
theorem make?_of_readIn {made : MeasureRange} (h : ReadIn ctx d)
    (states : .measure made ∈ d.constraints) :
    MeasureRange.make? made.measure made.range = .ok made := by
  obtain ⟨path, fs, p, read, rfl⟩ := h
  have own : .measure made ∈ p.constraints := by
    rw [Parts.definition] at states
    dsimp only at states
    split at states
    · exact mem_of_closeFields rfl states
    · exact states
  obtain ⟨path, name, e, read⟩ := (parts_of_definitionParts read).1 _ own
  cases Writer.readAs_of_constraintOf read with
  | leaf named leaf =>
    cases leaf with
    | named known given =>
      rw [Constraint.name, Writer.leaf?_measure] at known
      cases known
      obtain ⟨_, same, _, _, sound⟩ := Writer.measureRange_ok given
      cases same
      exact sound
    | annotationList v1 given =>
      obtain ⟨_, _, _, same⟩ := Writer.annotationList_ok given
      cases same
    | annotationSet v2 list given =>
      obtain ⟨_, _, same, _⟩ := Writer.annotationSet_ok given
      cases same

end Reader

open Reader

/-- The definitions that a reader hands out: those of the types in a document, of a named type, and
of a type alone. -/
inductive SchemaReader.Returns (reader : SchemaReader) : TypeDefinition → Prop where
  | declared {values : List Element} {failFast : Bool} {document : SchemaDocument} {t : NamedType}
      (read : reader.readSchema values failFast = .ok document)
      (states : .type t ∈ document.items) : Returns reader t.definition
  | named {e : Element} {failFast : Bool} {t : NamedType}
      (read : reader.readNamedType e failFast = .ok t) : Returns reader t.definition
  | alone {e : Element} {failFast : Bool} {d : TypeDefinition}
      (read : reader.readType e failFast = .ok d) : Returns reader d

theorem SchemaReader.Returns.readIn {reader : SchemaReader} {d : TypeDefinition}
    (h : reader.Returns d) : ∃ ctx, ReadIn ctx d := by
  cases h with
  | declared read states =>
    obtain ⟨body, _, lays⟩ := lays_document read
    obtain ⟨e, item⟩ := exists_of_forall₂ lays.itemOf states
    cases item with
    | type own read => exact ⟨_, readIn_of_namedType read⟩
  | named read => exact ⟨_, readIn_of_namedType ((finish_eq_ok_iff _ _ _).1 read)⟩
  | alone read => exact ⟨_, readIn_of_anonymousType ((finish_eq_ok_iff _ _ _).1 read)⟩

/-- **The minimum of a measure is exact.** A range with an integer in it makes a range of a measure
exactly if no value in it is below zero, for a length, or below one, for a precision; a scale and an
exponent take every range, and a refusal names the minimum. Under the name of the measure a reader
takes just these ranges. So whatever a reader returns, no constraint at any depth admits a length
below zero or a precision below one. -/
theorem MeasureRange.minimum_exact :
    (∀ (m : Measure) (r : IntRange), (∃ n, r.contains n = true) →
      (∀ made, make? m r = .ok made ↔
        made = ⟨m, r⟩ ∧ ∀ n, r.contains n = true → m.Possible n.toInt) ∧
      ∀ defect, make? m r = .error defect →
        ∃ minimum, defect = .belowMinimum m.name minimum r.text ∧
          ∀ n, m.Possible n ↔ minimum ≤ n) ∧
    (∀ (m : Measure) (e : Element) (r : IntRange), intRange e = .ok r →
      (∃ n, r.contains n = true) → ∀ ctx path c errors after,
        constraintOf ctx path m.name e errors = .ok c after ↔
          after = errors ∧ c = .measure ⟨m, r⟩ ∧
            ∀ n, r.contains n = true → m.Possible n.toInt) ∧
    ∀ (reader : SchemaReader) (d inner : TypeDefinition) (made : MeasureRange), reader.Returns d →
      d.Contains inner → .measure made ∈ inner.constraints →
        ∀ n, made.range.contains n = true → made.measure.Possible n.toInt := by
  refine ⟨?_, ?_, ?_⟩
  · intro m r inhabited
    exact ⟨fun made => make?_eq_ok_iff inhabited, fun defect => make?_error⟩
  · intro m e r range inhabited ctx path c errors after
    exact constraintOf_measure_iff range inhabited
  · intro reader d inner made returned within states n inside
    obtain ⟨ctx, read⟩ := returned.readIn
    have sound := make?_of_readIn (readIn_contains read within) states
    exact possible_of_make? sound inside

/-- `$ion_schema_2_0
type::{ name: a, element: { codepoint_length: range::[exclusive::-1, 5] } }` -/
def measuredValues : List Element :=
  [.symbol "$ion_schema_2_0",
    ⟨["type"], .struct [⟨"name", .symbol "a"⟩,
      ⟨"element", .struct [⟨"codepoint_length",
        ⟨["range"], .list [⟨["exclusive"], .int (-1)⟩, .int 5]⟩⟩]⟩]⟩]

/-- An excluded end at minus one leaves zero as the least integer: possible for a length, and not
for a precision. -/
theorem MeasureRange.minimum_exact_successor :
    let fromZero : IntRange := ⟨⟨.opened (-1), .closed 5⟩⟩
    let e : Element := ⟨["range"], .list [⟨["exclusive"], .int (-1)⟩, .int 5]⟩
    let inner : TypeDefinition := ⟨[.measure ⟨.codepointLength, fromZero⟩], []⟩
    let outer : TypeDefinition := ⟨[.element (.inline inner .unmarked) false], []⟩
    fromZero.contains 0 = true ∧
      (∀ n, fromZero.contains n = true → 0 ≤ n.toInt) ∧
      make? .byteLength fromZero = .ok ⟨.byteLength, fromZero⟩ ∧
      (∀ made, make? .precision fromZero ≠ .ok made) ∧
      intRange e = .ok fromZero ∧
      (∀ ctx path errors, constraintOf ctx path "utf8_byte_length" e errors =
        .ok (.measure ⟨.utf8ByteLength, fromZero⟩) errors) ∧
      SchemaReader.standard.readSchema measuredValues false =
        .ok ⟨none, .v2, [.type ⟨"a", outer⟩]⟩ ∧
      SchemaReader.standard.Returns outer ∧ outer.Contains inner := by
  intro fromZero e inner outer
  have zero : fromZero.contains 0 = true := rfl
  have read : SchemaReader.standard.readSchema measuredValues false =
    .ok ⟨none, .v2, [.type ⟨"a", outer⟩]⟩ := rfl
  have returned : SchemaReader.standard.Returns outer := .declared read (List.mem_singleton_self _)
  have within : outer.Contains inner :=
    .argument (List.mem_singleton_self _) (List.mem_singleton_self _) (.self inner)
  have range : intRange e = .ok fromZero := rfl
  obtain ⟨ranges, reads, returns⟩ := minimum_exact
  have lengths : ∀ n, fromZero.contains n = true → 0 ≤ n.toInt :=
    returns _ outer inner _ returned within (List.mem_singleton_self _)
  refine ⟨zero, lengths, ?_, fun made accepted => ?_, range, fun ctx path errors => ?_, read,
    returned, within⟩
  · exact ((ranges .byteLength fromZero ⟨0, zero⟩).1 _).2 ⟨rfl, lengths⟩
  · have positive : 1 ≤ Int64.toInt 0 :=
      (((ranges .precision fromZero ⟨0, zero⟩).1 made).1 accepted).2 0 zero
    exact absurd positive (by decide)
  · exact (reads .utf8ByteLength e fromZero range ⟨0, zero⟩ ctx path _ errors errors).2
      ⟨rfl, rfl, lengths⟩

end Isl
