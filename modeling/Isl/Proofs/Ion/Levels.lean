import Isl.Proofs.Ion.Lob
/-!
# Values at any level

What is said of a value at any level is said of its `scalars`, and of the `height` of the
containers around them. `reread?` is what the text of a value is read as: the value itself, but for
its clobs and blobs.

* `comes_scalar`: a scalar is read as what `reread?` says;
* `lone_scalar`: and no annotation is;
* `newline_not_mem_scalar`: and its text has no newline in it.
-/
namespace Isl

/-! ## Levels -/

/-- Values that may hold others. -/
def Value.isContainer : Value → Bool
  | .list _ | .sexp _ | .struct _ => true
  | _ => false

/-- Binary values. A null is none, whatever its type. -/
def Value.isLob : Value → Bool
  | .clob _ | .blob _ => true
  | _ => false

/-- Values that only numeric tokens stand for; some floats have names. -/
def Value.isNumeral : Value → Bool
  | .int _ | .decimal _ | .timestamp _ => true
  | _ => false

mutual

/-- The values in a value that hold no others. -/
def Value.scalars : Value → List Value
  | .list es => Element.scalarsAll es
  | .sexp es => Element.scalarsAll es
  | .struct fs => Field.scalarsAll fs
  | v => [v]

def Element.scalars : Element → List Value
  | ⟨_, v⟩ => v.scalars

def Element.scalarsAll : List Element → List Value
  | [] => []
  | e :: es => e.scalars ++ Element.scalarsAll es

def Field.scalarsAll : List Field → List Value
  | [] => []
  | ⟨_, e⟩ :: fs => e.scalars ++ Field.scalarsAll fs

end

mutual

/-- How many containers stand in one another. -/
def Value.height : Value → Nat
  | .list es => Element.heightAll es + 1
  | .sexp es => Element.heightAll es + 1
  | .struct fs => Field.heightAll fs + 1
  | _ => 0

def Element.height : Element → Nat
  | ⟨_, v⟩ => v.height

def Element.heightAll : List Element → Nat
  | [] => 0
  | e :: es => max e.height (Element.heightAll es)

def Field.heightAll : List Field → Nat
  | [] => 0
  | ⟨_, e⟩ :: fs => max e.height (Field.heightAll fs)

end

mutual

/-- What the text of a value is read as, if it is read. -/
def Value.reread? : Value → Option Value
  | .clob bytes => some (.clob (Ion.clobBytes bytes))
  | .blob bytes => if Base64.opensComment bytes then none else some (.blob bytes)
  | .list es => (Element.rereadAll? es).map .list
  | .sexp es => (Element.rereadAll? es).map .sexp
  | .struct fs => (Field.rereadAll? fs).map .struct
  | v => some v

def Element.reread? : Element → Option Element
  | ⟨names, v⟩ => v.reread?.map (⟨names, ·⟩)

def Element.rereadAll? : List Element → Option (List Element)
  | [] => some []
  | e :: es => e.reread?.bind fun e => (Element.rereadAll? es).map (e :: ·)

def Field.rereadAll? : List Field → Option (List Field)
  | [] => some []
  | ⟨name, e⟩ :: fs => e.reread?.bind fun e => (Field.rereadAll? fs).map (⟨name, e⟩ :: ·)

end

theorem Element.scalarsAll_eq (es : List Element) :
    Element.scalarsAll es = es.flatMap Element.scalars := by
  induction es with
  | nil => rw [Element.scalarsAll, List.flatMap_nil]
  | cons e es ih => rw [Element.scalarsAll, ih, List.flatMap_cons]

theorem Field.scalarsAll_eq (fs : List Field) :
    Field.scalarsAll fs = fs.flatMap fun f => f.value.scalars := by
  induction fs with
  | nil => rw [Field.scalarsAll, List.flatMap_nil]
  | cons f fs ih =>
    obtain ⟨name, e⟩ := f
    rw [Field.scalarsAll, ih, List.flatMap_cons]

theorem Element.heightAll_le_iff {es : List Element} {n : Nat} :
    Element.heightAll es ≤ n ↔ ∀ e ∈ es, e.height ≤ n := by
  induction es with
  | nil => simp [Element.heightAll]
  | cons e es ih => rw [Element.heightAll, Nat.max_le, ih, List.forall_mem_cons]

theorem Field.heightAll_le_iff {fs : List Field} {n : Nat} :
    Field.heightAll fs ≤ n ↔ ∀ f ∈ fs, f.value.height ≤ n := by
  induction fs with
  | nil => simp [Field.heightAll]
  | cons f fs ih =>
    obtain ⟨name, e⟩ := f
    rw [Field.heightAll, Nat.max_le, ih, List.forall_mem_cons]

theorem Value.height_scalar {v : Value} (scalar : v.isContainer = false) : v.height = 0 := by
  cases v with
  | list | sexp | struct => cases scalar
  | _ => rfl

/-- Timestamps that were read, and decimals whose scale and its negative are numbers of 64 bits. -/
def Value.Legible : Value → Prop
  | .timestamp t => ∃ cs, Timestamp.parse? cs = some t
  | .decimal d => -0x8000000000000000 < d.scale ∧ d.scale < 0x8000000000000000
  | _ => True

namespace Ion

variable {rest : List Char} {limits : Limits} {container : Reader Value} {inSexp : Bool} {v : Value}

/-! ## Scalars -/

theorem ionChars_infinite (negative : Bool) :
    Binary64.ionChars (.infinite negative) = infinityChars negative := by
  cases negative <;> rfl

theorem reads_float (x : Binary64) (boundary : Boundary rest) :
    Reads (bareValue limits container inSexp) x.ionChars rest (.float x) := by
  cases x with
  | nan => exact reads_word 'n' ['a', 'n'] (by decide) (by decide) boundary rfl
  | infinite negative =>
    rw [ionChars_infinite]
    exact reads_infinity negative boundary
  | finite negative m e canonical => exact reads_written (written_float negative canonical) boundary

theorem lone_float (x : Binary64) (boundary : Boundary rest) : Lone (x.ionChars ++ rest) := by
  cases x with
  | nan =>
    exact lone_word 'n' ['a', 'n'] (by decide) (by decide)
      (fun _ => boundary.ident) boundary.clear
  | infinite negative =>
    rw [ionChars_infinite]
    exact lone_infinity negative rest
  | finite negative m e canonical => exact lone_written (written_float negative canonical) rest

theorem nullChars (t : IonType) (other : t ≠ .null) : valueChars (.null t) = typedNull t := by
  rw [valueChars, if_neg other]
  rfl

theorem reads_null (t : IonType) (boundary : Boundary rest) :
    Reads (bareValue limits container inSexp) (valueChars (.null t)) rest (.null t) := by
  by_cases plain : t = .null
  · subst plain
    exact reads_word 'n' ['u', 'l', 'l'] (by decide) (by decide) boundary rfl
  · rw [nullChars t plain]
    exact reads_typedNull t boundary

theorem lone_null (t : IonType) (boundary : Boundary rest) :
    Lone (valueChars (.null t) ++ rest) := by
  by_cases plain : t = .null
  · subst plain
    exact lone_word 'n' ['u', 'l', 'l'] (by decide) (by decide)
      (fun _ => boundary.ident) boundary.clear
  · rw [nullChars t plain]
    exact lone_typedNull t rest

theorem reads_bool (b : Bool) (boundary : Boundary rest) :
    Reads (bareValue limits container inSexp) (valueChars (.bool b)) rest (.bool b) := by
  cases b with
  | true => exact reads_word 't' ['r', 'u', 'e'] (by decide) (by decide) boundary rfl
  | false =>
    exact reads_word 'f' ['a', 'l', 's', 'e'] (by decide) (by decide) boundary rfl

theorem lone_bool (b : Bool) (boundary : Boundary rest) : Lone (valueChars (.bool b) ++ rest) := by
  cases b with
  | true =>
    exact lone_word 't' ['r', 'u', 'e'] (by decide) (by decide)
      (fun _ => boundary.ident) boundary.clear
  | false =>
    exact lone_word 'f' ['a', 'l', 's', 'e'] (by decide) (by decide)
      (fun _ => boundary.ident) boundary.clear

/-- A scalar is read back, or as what its bytes come to. -/
theorem comes_scalar (scalar : v.isContainer = false) (legible : v.Legible)
    (boundary : Boundary rest) (newline : v.reread? = none → '\n' ∉ rest) (n : Nat) :
    Comes (bareValue limits container inSexp ⟨valueChars v ++ rest, n⟩) rest v.reread? := by
  cases v with
  | null t => exact reads_null t boundary n
  | bool b => exact reads_bool b boundary n
  | int i => exact reads_written (written_int i) boundary n
  | float x => exact reads_float x boundary n
  | decimal d => exact reads_written (written_decimal legible.1 legible.2) boundary n
  | timestamp t =>
    obtain ⟨cs, parsed⟩ := legible
    exact reads_written (written_timestamp (Timestamp.parsed_of_parse? parsed)) boundary n
  | symbol s => exact reads_symbol s boundary n
  | string s => exact reads_string s rest n
  | clob bytes => exact reads_clob bytes rest n
  | blob bytes =>
    rw [Value.reread?] at newline ⊢
    exact comes_blob bytes (fun opens => newline (if_pos opens)) n
  | list | sexp | struct => cases scalar

/-- No scalar is taken for an annotation. -/
theorem lone_scalar (scalar : v.isContainer = false) (legible : v.Legible)
    (boundary : Boundary rest) : Lone (valueChars v ++ rest) := by
  cases v with
  | null t => exact lone_null t boundary
  | bool b => exact lone_bool b boundary
  | int n => exact lone_written (written_int n) rest
  | float x => exact lone_float x boundary
  | decimal d => exact lone_written (written_decimal legible.1 legible.2) rest
  | timestamp t =>
    obtain ⟨cs, parsed⟩ := legible
    exact lone_written (written_timestamp (Timestamp.parsed_of_parse? parsed)) rest
  | symbol s => exact lone_symbol s boundary
  | string s => exact lone_string s rest
  | clob bytes => exact lone_clob bytes rest
  | blob bytes => exact lone_blob bytes rest
  | list | sexp | struct => cases scalar

/-! ## No newlines -/

theorem Written.newline {text : List Char} (written : Written text v) : '\n' ∉ text := fun mem =>
  absurd (written.chars _ mem) (by decide)

theorem newline_not_mem_quoted {quote : Char} (h : IsQuote quote) (cs : List Char) :
    '\n' ∉ quoted quote cs := by
  have other : '\n' ≠ quote := by
    rcases h with rfl | rfl <;> decide
  have body : '\n' ∉ cs.flatMap (escapeChar quote) := by
    rw [List.mem_flatMap]
    rintro ⟨c, -, mem⟩
    obtain ⟨written, text, short, -⟩ | ⟨text, -, -, plain⟩ := escapeChar_cases h c
    · simp [text, short] at mem
    · simp [text, Ne.symm plain] at mem
  simp [quoted, other, body]

theorem newline_not_mem_symbol (s : String) : '\n' ∉ symbolChars s := by
  unfold symbolChars
  split
  · rename_i identifier
    obtain ⟨-, -, -, -, run, -⟩ := isIdentifier_spec identifier
    exact fun mem => absurd (run _ mem) (by decide)
  · exact newline_not_mem_quoted isQuote_single _

theorem newline_not_mem_annotations (names : List String) : '\n' ∉ annotationChars names := by
  rw [annotationChars, List.mem_flatMap]
  rintro ⟨name, -, mem⟩
  simp [newline_not_mem_symbol] at mem

theorem newline_not_mem_byte (b : UInt8) : '\n' ∉ clobByteChars b := by
  intro mem
  obtain ⟨written, text, short, -⟩ | ⟨text, -, -, plain⟩ := clobByteChars_cases b
  · simp [text, short] at mem
  · simp [text, Ne.symm plain] at mem

theorem newline_not_mem_scalar (scalar : v.isContainer = false) (legible : v.Legible) :
    '\n' ∉ valueChars v := by
  cases v with
  | null t => cases t <;> decide
  | bool b => cases b <;> decide
  | int n => exact (written_int n).newline
  | float x =>
    cases x with
    | nan => decide
    | infinite negative => cases negative <;> decide
    | finite negative m e canonical => exact (written_float negative canonical).newline
  | decimal d => exact (written_decimal legible.1 legible.2).newline
  | timestamp t =>
    obtain ⟨cs, parsed⟩ := legible
    exact (written_timestamp (Timestamp.parsed_of_parse? parsed)).newline
  | symbol s => exact newline_not_mem_symbol s
  | string s => exact newline_not_mem_quoted isQuote_double _
  | clob bytes => simp [valueChars, newline_not_mem_byte]
  | blob bytes =>
    simp [valueChars, newline_not_mem_encode]
  | list | sexp | struct => cases scalar

end Ion
end Isl
