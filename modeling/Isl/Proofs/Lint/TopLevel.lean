import Isl.Lint
import Isl.Proofs.Reader.Shape
/-!
# What a linter and a reader make of top-level values

A linter tells markers, headers, types and footers from open content by itself. It agrees with the
reader on all values but one kind: a symbol that is spelled like a version marker and annotated is
open content to the reader and a marker to the linter.

* `Lint.isSchemaItem_eq`: what the linter looks for, in the terms of the reader;
* `Lint.mem_ignoredFrom_iff`: which values the linter reports;
* `SchemaReader.readSchema_linted`: its reports on a document that reads, against the document.
-/
namespace Isl

theorem IslVersion.isMarkerLike_of_ofMarker? {s : String} {version : IslVersion}
    (h : ofMarker? s = some version) : isMarkerLike s = true := by
  unfold ofMarker? at h
  split at h
  · rename_i same
    rw [same]
    decide
  · split at h
    · rename_i same
      rw [same]
      decide
    · cases h

namespace Lint

/-- A symbol that is spelled like a marker, but annotated. -/
def isAnnotatedMarker (e : Element) : Bool :=
  !e.annotations.isEmpty && e.symbol?.any IslVersion.isMarkerLike

/-- A symbol that names a version, annotated or not. -/
def namesVersion (e : Element) : Bool := (e.symbol?.bind IslVersion.ofMarker?).isSome

/-- A struct that is a header, a type or a footer. -/
def isDeclaration (e : Element) : Bool :=
  Reader.isAnnotatedStruct e "schema_header" || Reader.isAnnotatedStruct e "type" ||
    Reader.isAnnotatedStruct e "schema_footer"

theorem isMarker_or_annotated (e : Element) :
    (Reader.isMarker e || isAnnotatedMarker e) = e.symbol?.any IslVersion.isMarkerLike := by
  rw [Reader.isMarker, isAnnotatedMarker]
  cases e.annotations.isEmpty <;> simp

theorem spelled_of_namesVersion {e : Element} (h : namesVersion e = true) :
    e.symbol?.any IslVersion.isMarkerLike = true := by
  unfold namesVersion at h
  cases symbol : e.symbol? with
  | none => simp [symbol] at h
  | some s =>
    rw [symbol, Option.bind_some] at h
    obtain ⟨version, names⟩ := Option.isSome_iff_exists.1 h
    exact IslVersion.isMarkerLike_of_ofMarker? names

theorem isSchemaItem_eq (e : Element) :
    isSchemaItem e = (Reader.isMarker e || isAnnotatedMarker e || isDeclaration e) := by
  rw [isMarker_or_annotated]
  unfold isSchemaItem
  cases symbol : e.symbol? with
  | some s =>
    have struct : e.struct? = none := by
      obtain ⟨names, v⟩ := e
      cases v <;> first | rfl | cases symbol
    simp [isDeclaration, Reader.isAnnotatedStruct, struct]
  | none =>
    simp only [isDeclaration, Reader.isAnnotatedStruct]
    cases e.struct?.isSome with
    | false => simp
    | true =>
      rw [Bool.eq_iff_iff]
      simp
      tauto

theorem mem_ignoredFrom_iff {file : String} {i k : Nat} {es : List Element} {e : Element} :
    (⟨file, TreePath.root.index k, .ignored e⟩ : Diagnostic) ∈ ignoredFrom file i es ↔
      i ≤ k ∧ es[k - i]? = some e ∧ isSchemaItem e = false := by
  induction es generalizing i with
  | nil => simp [ignoredFrom]
  | cons d es ih =>
    have here : (⟨file, TreePath.root.index k, .ignored e⟩ : Diagnostic) ∈
        (if isSchemaItem d then [] else [⟨file, TreePath.root.index i, .ignored d⟩]) ↔
        k = i ∧ e = d ∧ isSchemaItem d = false := by
      cases isSchemaItem d <;> simp [TreePath.index]
    rw [ignoredFrom, List.mem_append, here, ih]
    obtain before | rfl | after := Nat.lt_trichotomy k i
    · exact iff_of_false (by omega) (by omega)
    · simp only [Nat.le_refl, Nat.sub_self, List.getElem?_cons_zero, Option.some.injEq, true_and]
      constructor
      · rintro (⟨rfl, ignored⟩ | ⟨past, -⟩)
        · exact ⟨rfl, ignored⟩
        · omega
      · rintro ⟨rfl, ignored⟩
        exact .inl ⟨rfl, ignored⟩
    · obtain ⟨n, rfl⟩ := Nat.exists_eq_add_of_lt after
      have next : i + n + 1 - i = n + 1 := by omega
      have next' : i + n + 1 - (i + 1) = n := by omega
      rw [next, next', List.getElem?_cons_succ]
      have apart : i + n + 1 ≠ i := by omega
      simp [apart]
      omega

theorem noMarker_mem_iff {file : String} {values : List Element} :
    (⟨file, .root, .noMarker⟩ : Diagnostic) ∈ checkTopLevel file values ↔
      ∀ e ∈ values, namesVersion e = false := by
  have elsewhere (i : Nat) (es : List Element) :
      (⟨file, .root, .noMarker⟩ : Diagnostic) ∉ ignoredFrom file i es := by
    induction es generalizing i with
    | nil => simp [ignoredFrom]
    | cons e es ih =>
      rw [ignoredFrom, List.mem_append, not_or]
      refine ⟨?_, ih (i + 1)⟩
      cases isSchemaItem e <;> simp
  have marked : hasMarker values = values.any namesVersion := rfl
  rw [checkTopLevel, List.mem_append, or_iff_left (elsewhere 0 values), marked]
  cases any : values.any namesVersion with
  | true =>
    obtain ⟨e, mem, names⟩ := List.any_eq_true.1 any
    simp
    exact ⟨e, mem, names⟩
  | false => simpa using any

theorem ignored_mem_iff {file : String} {values : List Element} {i : Nat} {e : Element} :
    (⟨file, TreePath.root.index i, .ignored e⟩ : Diagnostic) ∈ checkTopLevel file values ↔
      values[i]? = some e ∧ isSchemaItem e = false := by
  have elsewhere : (⟨file, TreePath.root.index i, .ignored e⟩ : Diagnostic) ∉
      (if hasMarker values then [] else [⟨file, .root, .noMarker⟩]) := by
    cases hasMarker values <;> simp
  rw [checkTopLevel, List.mem_append, or_iff_right elsewhere, mem_ignoredFrom_iff]
  simp

end Lint

namespace Reader

/-- Where the schema begins: behind the first marker, or with the first value if there is none. -/
def start (values : List Element) : Nat := ((values.findIdx? isMarker).map (· + 1)).getD 0

theorem Body.eq_drop {values body : List Element} {version : IslVersion}
    (h : Body values version body) : body = values.drop (start values) := by
  cases h with
  | @marked front rest marker version before own names behind =>
    have first : (front ++ marker :: body).findIdx? isMarker = some front.length := by
      rw [List.findIdx?_append, List.findIdx?_eq_none_iff.2 before, List.findIdx?_cons, own]
      simp
    rw [start, first]
    simp
  | unmarked plain =>
    rw [start, List.findIdx?_eq_none_iff.2 plain]
    rfl

theorem Body.plain {values body : List Element} {version : IslVersion}
    (h : Body values version body) {e : Element} (mem : e ∈ body) : isMarker e = false := by
  cases h with
  | marked before own names behind => exact behind e mem
  | unmarked plain => exact plain e mem

theorem Body.version_of_unmarked {values body : List Element} {version : IslVersion}
    (h : Body values version body) (plain : ∀ e ∈ values, isMarker e = false) : version = .v1 := by
  cases h with
  | @marked front _ marker _ _ own _ _ =>
    have here := plain marker (by simp)
    rw [own] at here
    cases here
  | unmarked _ => rfl

/-- No value names a version exactly if none is a marker and no annotated symbol does. -/
theorem Body.unnamed_iff {values body : List Element} {version : IslVersion}
    (h : Body values version body) :
    (∀ e ∈ values, Lint.namesVersion e = false) ↔
      (∀ e ∈ values, isMarker e = false) ∧
        ∀ e ∈ values, Lint.isAnnotatedMarker e = true → Lint.namesVersion e = false := by
  constructor
  · intro none
    refine ⟨?_, fun e mem _ => none e mem⟩
    cases h with
    | @marked front _ marker version _ own names _ =>
      have named : Lint.namesVersion marker = true := by
        cases symbol : marker.symbol? with
        | none => simp [isMarker, symbol] at own
        | some s =>
          rw [symbol, Option.getD_some] at names
          simp [Lint.namesVersion, symbol, names]
      have here := none marker (by simp)
      rw [named] at here
      cases here
    | unmarked plain => exact plain
  · rintro ⟨plain, annotated⟩ e mem
    by_contra named
    rw [Bool.not_eq_false] at named
    have spelled := Lint.spelled_of_namesVersion named
    rw [← Lint.isMarker_or_annotated, plain e mem, Bool.false_or] at spelled
    rw [annotated e mem spelled] at named
    cases named

section
variable {vocabulary : Vocabulary} {failFast : Bool} {declared : ReservedFields}

theorem ItemOf.openContent_iff {e o : Element} {s : SchemaItem}
    (read : ItemOf vocabulary failFast declared e s) :
    s = .openContent o ↔ e = o ∧ Lint.isDeclaration o = false := by
  cases read with
  | header own _ =>
    refine iff_of_false nofun ?_
    rintro ⟨rfl, other⟩
    simp [Lint.isDeclaration, own] at other
  | type own _ =>
    refine iff_of_false nofun ?_
    rintro ⟨rfl, other⟩
    simp [Lint.isDeclaration, own] at other
  | footer own _ =>
    refine iff_of_false nofun ?_
    rintro ⟨rfl, other⟩
    simp [Lint.isDeclaration, own] at other
  | openContent noHeader noType noFooter =>
    rw [SchemaItem.openContent.injEq]
    constructor
    · rintro rfl
      exact ⟨rfl, by rw [Lint.isDeclaration, noHeader, noType, noFooter]; rfl⟩
    · exact And.left

/-- An item is open content exactly if its value is no header, type or footer. -/
theorem openContent_at_iff {body : List Element} {items : List SchemaItem}
    (read : List.Forall₂ (ItemOf vocabulary failFast declared) body items) {i : Nat}
    {e : Element} :
    items[i]? = some (.openContent e) ↔ body[i]? = some e ∧ Lint.isDeclaration e = false := by
  induction read generalizing i with
  | nil => simp
  | cons first _ ih =>
    cases i with
    | zero => simpa using first.openContent_iff
    | succ i => simpa using ih

end
end Reader

/-- What the linter reports on the top-level values of a document that reads, against what the
reader made of them. The linter misses a marker exactly if there is none, which makes the document
one of version 1.0, and no annotated symbol names a version; from the start of the schema on it
reports exactly the values that the reader keeps as open content and that are no annotated symbols
spelled like a marker. -/
theorem SchemaReader.readSchema_linted (r : SchemaReader) {values : List Element} {failFast : Bool}
    {document : SchemaDocument} (h : r.readSchema values failFast = .ok document) (file : String) :
    ((∀ e ∈ values, Reader.isMarker e = false) → document.version = .v1) ∧
      ((⟨file, .root, .noMarker⟩ : Diagnostic) ∈ Lint.checkTopLevel file values ↔
        (∀ e ∈ values, Reader.isMarker e = false) ∧
          ∀ e ∈ values, Lint.isAnnotatedMarker e = true → Lint.namesVersion e = false) ∧
      ∀ (i : Nat) (e : Element), Reader.start values ≤ i →
        ((⟨file, TreePath.root.index i, .ignored e⟩ : Diagnostic) ∈ Lint.checkTopLevel file values ↔
          document.items[i - Reader.start values]? = some (.openContent e) ∧
            Lint.isAnnotatedMarker e = false) := by
  obtain ⟨body, whole, lays⟩ := Reader.lays_document h
  refine ⟨whole.version_of_unmarked, Lint.noMarker_mem_iff.trans whole.unnamed_iff, ?_⟩
  intro i e behind
  have there : values[i]? = body[i - Reader.start values]? := by
    rw [whole.eq_drop, List.getElem?_drop, Nat.add_sub_cancel' behind]
  rw [Lint.ignored_mem_iff, Reader.openContent_at_iff lays.itemOf, there, Lint.isSchemaItem_eq,
    Bool.or_eq_false_iff, Bool.or_eq_false_iff]
  constructor
  · rintro ⟨here, ⟨-, noMarker⟩, other⟩
    exact ⟨⟨here, other⟩, noMarker⟩
  · rintro ⟨⟨here, other⟩, noMarker⟩
    exact ⟨here, ⟨whole.plain (List.mem_of_getElem? here), noMarker⟩, other⟩

/-- `note::$ion_schema_2_0 5 type::{ name: a }` -/
def annotatedMarkerValues : List Element :=
  [⟨["note"], .symbol "$ion_schema_2_0"⟩, .int 5, ⟨["type"], .struct [⟨"name", .symbol "a"⟩]⟩]

def annotatedMarkerDocument : SchemaDocument :=
  ⟨none, .v1, [.openContent ⟨["note"], .symbol "$ion_schema_2_0"⟩, .openContent (.int 5),
    .type ⟨"a", ⟨[], []⟩⟩]⟩

/-- There is no marker and the first two values are open content, but only the second one is
reported. -/
theorem readSchema_linted_annotated :
    SchemaReader.standard.readSchema annotatedMarkerValues true = .ok annotatedMarkerDocument ∧
      (∀ e ∈ annotatedMarkerValues, Reader.isMarker e = false) ∧
      (⟨"a.isl", .root, .noMarker⟩ : Diagnostic) ∉
        Lint.checkTopLevel "a.isl" annotatedMarkerValues ∧
      (⟨"a.isl", TreePath.root.index 0, .ignored ⟨["note"], .symbol "$ion_schema_2_0"⟩⟩ :
        Diagnostic) ∉ Lint.checkTopLevel "a.isl" annotatedMarkerValues ∧
      (⟨"a.isl", TreePath.root.index 1, .ignored (.int 5)⟩ : Diagnostic) ∈
        Lint.checkTopLevel "a.isl" annotatedMarkerValues := by
  have read : SchemaReader.standard.readSchema annotatedMarkerValues true =
    .ok annotatedMarkerDocument := rfl
  obtain ⟨-, marker, ignored⟩ := SchemaReader.standard.readSchema_linted read "a.isl"
  refine ⟨read, by decide, ?_, ?_, ?_⟩
  · intro missing
    exact absurd ((marker.1 missing).2 ⟨["note"], .symbol "$ion_schema_2_0"⟩ (.head _) rfl)
      (by decide)
  · intro reported
    exact absurd ((ignored 0 _ (Nat.zero_le _)).1 reported).2 (by decide)
  · exact (ignored 1 (.int 5) (by decide)).2 ⟨rfl, rfl⟩

end Isl
