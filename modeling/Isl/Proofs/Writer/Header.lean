import Isl.Proofs.Reader.Header
import Isl.Proofs.Writer.Type
/-!
# Headers are written to be read

A header that was read is written so that the reader gets the same header (`header_written`): same
imports, same declared words, same open content.
-/
namespace Isl.Writer
open Reader

/-! ## Imports -/

theorem headerImport_importElement (vocabulary : Vocabulary) (i : HeaderImport) :
    headerImport vocabulary (importElement i) = .ok i := by
  cases i with
  | wildcard id =>
    simp [headerImport, importElement, Element.struct, Element.ofValue, Element.struct?, require,
      Vocabulary.isImportKeyword, requiredField, optionalField, Field.getAll, Shape.admits,
      Element.string, Element.text?, textOf, bind, Except.bind]
  | single id typeName newName =>
    cases newName <;>
      simp [headerImport, importElement, Element.struct, Element.ofValue, Element.struct?, require,
        Vocabulary.isImportKeyword, requiredField, optionalField, Field.getAll, Shape.admits,
        Element.string, Element.symbol, Element.text?, Element.symbol?, textOf, bind, Except.bind]

theorem importsFrom_written (ctx : Context) (path : TreePath) (i : Nat) (is : List HeaderImport) :
    accepted? (importsFrom ctx path i (is.map importElement)) = some is := by
  induction is generalizing i with
  | nil => exact accepted?_pure _
  | cons h hs ih =>
    rw [List.map_cons, accepted?_importsFrom_cons, headerImport_importElement, ih]
    rfl

/-! ## Declared words -/

theorem getAll_append (fs gs : List Field) (name : String) :
    Field.getAll (fs ++ gs) name = Field.getAll fs name ++ Field.getAll gs name := by
  simp [Field.getAll]

theorem getAll_wordsField (own : String) (words : NameSet) (name : String) :
    Field.getAll (wordsField own words) name =
      if own = name ∧ words ≠ [] then [.list (words.map .symbol)] else [] := by
  cases words with
  | nil => simp [wordsField, Field.getAll]
  | cons w ws =>
    by_cases same : own = name <;> simp [wordsField, Field.getAll, same]

theorem foldlM_reservedWord (name : String) (isKeyword : String → Bool) (list : Element)
    {words : NameSet} (free : ∀ word ∈ words, isKeyword word = false) (start : NameSet) :
    (words.map Element.symbol).foldlM (reservedWord name isKeyword list) start =
      .ok (words.foldl NameSet.insert start) := by
  induction words generalizing start with
  | nil => rfl
  | cons w ws ih =>
    have own : reservedWord name isKeyword list start (.symbol w) = .ok (start.insert w) := by
      simp [reservedWord, Element.symbol, Element.ofValue, Element.symbol?,
        free w (List.mem_cons_self ..)]
    rw [List.map_cons, List.foldlM_cons, own, List.foldl_cons]
    exact ih (fun v hv => free v (List.mem_cons_of_mem _ hv)) _

/-- A list of declared words is read from the field that it is written in, or from its absence. -/
theorem reservedList_written {fs : List Field} {name : String} {isKeyword : String → Bool}
    {words : NameSet} (declared : DeclaredWords isKeyword words)
    (written : Field.getAll fs name = if words ≠ [] then [.list (words.map .symbol)] else []) :
    reservedList fs name isKeyword = .ok words := by
  by_cases none : words = []
  · subst none
    rw [if_neg (by simp)] at written
    simp [reservedList, optionalField, written, bind, Except.bind]
  · have shape : Shape.list.admits (.list (words.map .symbol)) = true := rfl
    have items : ((Element.list (words.map .symbol)).list?.getD []) = words.map .symbol := rfl
    rw [if_pos none] at written
    simp only [reservedList, optionalField, written, shape, if_true, bind, Except.bind, items]
    rw [foldlM_reservedWord _ _ _ declared.2]
    exact congrArg Except.ok (NameSet.ofList_ascending declared.1)

/-- The fields that declared words are written in. -/
def reservedSections (r : ReservedFields) : List Field :=
  wordsField "schema_header" r.header ++ wordsField "type" r.type ++
    wordsField "schema_footer" r.footer

theorem getAll_reservedSections (r : ReservedFields) (name : String) :
    Field.getAll (reservedSections r) name =
      (if "schema_header" = name ∧ r.header ≠ [] then [.list (r.header.map .symbol)] else []) ++
      (if "type" = name ∧ r.type ≠ [] then [.list (r.type.map .symbol)] else []) ++
      (if "schema_footer" = name ∧ r.footer ≠ [] then [.list (r.footer.map .symbol)] else []) := by
  simp only [reservedSections, getAll_append, getAll_wordsField]

theorem sections_known (r : ReservedFields) :
    (reservedSections r).all (fun f => ["schema_header", "type", "schema_footer"].contains f.name) =
      true := by
  rw [List.all_eq_true]
  intro f hf
  simp only [reservedSections, wordsField, List.mem_append] at hf
  rcases hf with (hf | hf) | hf <;> split at hf <;>
    first | (obtain rfl := List.mem_singleton.1 hf; rfl) | cases hf

theorem reservedFields_written {vocabulary : Vocabulary} {r : ReservedFields}
    (declared : DeclaredFields vocabulary r) {fs : List Field}
    (written : Field.getAll fs "user_reserved_fields" =
      if r.isEmpty then [] else [reservedElement r]) :
    reservedFields vocabulary fs = .ok r := by
  cases none : r.isEmpty with
  | true =>
    rw [none, if_pos rfl] at written
    have empty : r = .none := by
      obtain ⟨header, type, footer⟩ := r
      simpa [ReservedFields.isEmpty, ReservedFields.none, and_assoc] using none
    simp [reservedFields, optionalField, written, empty, bind, Except.bind]
  | false =>
    rw [none, if_neg (by decide)] at written
    have shape : Shape.struct.admits (reservedElement r) = true := rfl
    have sections : (reservedElement r).struct?.getD [] = reservedSections r := rfl
    have plain : (reservedElement r).annotations.isEmpty = true := rfl
    have header : reservedList (reservedSections r) "schema_header" vocabulary.isHeaderKeyword =
        .ok r.header := by
      refine reservedList_written declared.header ?_
      rw [getAll_reservedSections]
      simp
    have type : reservedList (reservedSections r) "type" vocabulary.isTypeKeyword = .ok r.type := by
      refine reservedList_written declared.type ?_
      rw [getAll_reservedSections]
      simp
    have footer : reservedList (reservedSections r) "schema_footer" vocabulary.isFooterKeyword =
        .ok r.footer := by
      refine reservedList_written declared.footer ?_
      rw [getAll_reservedSections]
      simp
    simp only [reservedFields, optionalField, written, shape, if_true, bind, Except.bind, sections,
      sections_known, require, plain, header, type, footer]

/-! ## Headers -/

/-- The fields that a header is written as, in front of its open content. -/
def headerFields (version : IslVersion) (h : SchemaHeader) : List Field :=
  (if h.imports.isEmpty then [] else [⟨"imports", .list (h.imports.map importElement)⟩]) ++
    (if version = .v2 ∧ !h.reserved.isEmpty then
      [⟨"user_reserved_fields", reservedElement h.reserved⟩]
    else [])

theorem headerElement_eq (version : IslVersion) (h : SchemaHeader) :
    headerElement version h =
      ⟨["schema_header"], .struct (headerFields version h ++ h.openContent)⟩ := rfl

theorem isHeaderKeyword_headerFields {vocabulary : Vocabulary} {h : SchemaHeader} {f : Field}
    (hf : f ∈ headerFields vocabulary.version h) : vocabulary.isHeaderKeyword f.name = true := by
  rw [headerFields, List.mem_append] at hf
  rcases hf with hf | hf
  · split at hf
    · cases hf
    · obtain rfl := List.mem_singleton.1 hf
      cases declares : vocabulary.declaresReserved <;>
        simp [Vocabulary.isHeaderKeyword, Vocabulary.headerKeywords, declares]
  · split at hf
    · rename_i shown
      obtain rfl := List.mem_singleton.1 hf
      simp [Vocabulary.isHeaderKeyword, Vocabulary.headerKeywords, Vocabulary.declaresReserved,
        shown.1]
    · cases hf

section
variable {vocabulary : Vocabulary} {h : SchemaHeader} (shape : HeaderShape vocabulary h)
include shape

theorem getAll_openContent {name : String} (keyword : vocabulary.isHeaderKeyword name = true) :
    Field.getAll h.openContent name = [] := by
  refine getAll_of_not_has ?_
  rw [Field.has, List.any_eq_false]
  intro f hf same
  have given := shape.openContent f hf
  rw [beq_iff_eq.1 same, opensHeader, keyword] at given
  cases given

theorem filter_openContent :
    (headerFields vocabulary.version h ++ h.openContent).filter
      (fun f => !vocabulary.isHeaderKeyword f.name) = h.openContent := by
  have front : (headerFields vocabulary.version h).filter
      (fun f => !vocabulary.isHeaderKeyword f.name) = [] := by
    rw [List.filter_eq_nil_iff]
    intro f hf
    simp [isHeaderKeyword_headerFields hf]
  have back : h.openContent.filter (fun f => !vocabulary.isHeaderKeyword f.name) =
      h.openContent := by
    rw [List.filter_eq_self]
    intro f hf
    have given := shape.openContent f hf
    rw [opensHeader, Bool.and_eq_true] at given
    exact given.1
  rw [List.filter_append, front, back, List.nil_append]

theorem undeclared_written (declares : vocabulary.declaresReserved = true) :
    undeclared vocabulary vocabulary.isHeaderKeyword h.reserved.header
      (headerFields vocabulary.version h ++ h.openContent) = [] := by
  rw [undeclared, List.filter_eq_nil_iff]
  intro name hname
  obtain ⟨f, hf, rfl⟩ := List.mem_map.1 hname
  rcases List.mem_append.1 hf with hf | hf
  · simp [isHeaderKeyword_headerFields hf]
  · have given := shape.openContent f hf
    simp only [opensHeader, declares, Bool.and_eq_true, Bool.not_true, Bool.false_or] at given
    cases reserved : vocabulary.isReserved f.name with
    | false => simp
    | true =>
      have known := given.2
      rw [reserved, Bool.not_true, Bool.false_or] at known
      simp only [known, Bool.not_true, Bool.and_false]
      decide

theorem declaredBy_written :
    declaredBy vocabulary (headerFields vocabulary.version h ++ h.openContent) =
      .ok h.reserved := by
  unfold declaredBy
  cases declares : vocabulary.declaresReserved with
  | false => rw [shape.declared.none declares]; rfl
  | true =>
    have v2 : vocabulary.version = .v2 := by
      rw [Vocabulary.declaresReserved, beq_iff_eq] at declares
      exact declares
    have keyword : vocabulary.isHeaderKeyword "user_reserved_fields" = true := by
      simp [Vocabulary.isHeaderKeyword, Vocabulary.headerKeywords, declares]
    rw [if_pos rfl]
    refine reservedFields_written shape.declared ?_
    rw [getAll_append, getAll_openContent shape keyword, List.append_nil, headerFields,
      getAll_append, v2]
    cases h.imports.isEmpty <;> cases h.reserved.isEmpty <;> simp [Field.getAll]

/-- The reader gets the same header from what it is written as. -/
theorem header_written (ctx : Context) (own : ctx.vocabulary = vocabulary) (path : TreePath) :
    ∃ d : HeaderDraft,
      accepted? (headerDraft ctx path (headerElement vocabulary.version h)) = some d ∧
        d.reserved = h.reserved ∧ d.close vocabulary = .ok h := by
  have keyword : vocabulary.isHeaderKeyword "imports" = true := by
    cases declares : vocabulary.declaresReserved <;>
      simp [Vocabulary.isHeaderKeyword, Vocabulary.headerKeywords, declares]
  have imports : accepted? (headerImports ctx path
      (headerFields vocabulary.version h ++ h.openContent)) = some h.imports := by
    have listed : Field.getAll (headerFields vocabulary.version h ++ h.openContent) "imports" =
        if h.imports = [] then [] else [.list (h.imports.map importElement)] := by
      have words : Field.getAll (if vocabulary.version = .v2 ∧ !h.reserved.isEmpty then
          [⟨"user_reserved_fields", reservedElement h.reserved⟩] else []) "imports" = [] := by
        split <;> rfl
      rw [getAll_append, getAll_openContent shape keyword, List.append_nil, headerFields,
        getAll_append, words, List.append_nil]
      cases h.imports <;> rfl
    rw [accepted?_headerImports, optionalField, listed]
    by_cases none : h.imports = []
    · rw [if_pos none, none]
      rfl
    · rw [if_neg none]
      exact importsFrom_written ctx _ 0 h.imports
  refine ⟨⟨headerElement vocabulary.version h,
    headerFields vocabulary.version h ++ h.openContent, h.imports, h.reserved⟩, ?_, rfl, ?_⟩
  · rw [headerElement_eq, accepted?_headerDraft rfl, if_pos (by rfl), imports, own,
      declaredBy_written shape]
    rfl
  · unfold HeaderDraft.close
    rw [filter_openContent shape]
    cases declares : vocabulary.declaresReserved with
    | false => rfl
    | true =>
      simp only [if_true, undeclared_written shape declares]
      rfl

end
end Isl.Writer
