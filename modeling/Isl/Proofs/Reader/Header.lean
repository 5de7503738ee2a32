import Isl.Proofs.Reader.Local
import Isl.Proofs.Table
import Isl.Reader.Header
/-!
# The headers that a read accepts

What a header that was read imports, declares and keeps: the words it declares are in order and no
keywords, and its open content has neither keywords nor reserved words that it does not declare
(`header_ok`, `header_shape`).
-/
namespace Isl.Reader

/-- What a header declares, if it can declare anything. -/
def declaredBy (vocabulary : Vocabulary) (fs : List Field) : Check ReservedFields :=
  if vocabulary.declaresReserved then reservedFields vocabulary fs else .ok .none

theorem headerDraft_struct {e : Element} {fs : List Field} (struct : e.struct? = some fs)
    (ctx : Context) (path : TreePath) :
    headerDraft ctx path e = (do
      lift (require (e.annotations == ["schema_header"]) .headerAnnotations)
      let imports ← headerImports ctx path fs
      let reserved ← lift (declaredBy ctx.vocabulary fs)
      pure ⟨e, fs, imports, reserved⟩) := by
  unfold headerDraft declaredBy
  rw [struct]
  cases ctx.vocabulary.declaresReserved <;> rfl

theorem accepted?_headerDraft {e : Element} {fs : List Field} (struct : e.struct? = some fs)
    (ctx : Context) (path : TreePath) :
    accepted? (headerDraft ctx path e) =
      if e.annotations == ["schema_header"] then
        (accepted? (headerImports ctx path fs)).bind fun imports =>
          (declaredBy ctx.vocabulary fs).toOption.map fun reserved => ⟨e, fs, imports, reserved⟩
      else none := by
  rw [headerDraft_struct struct, accepted?_bind fun _ =>
    steady_bind (steady_headerImports ctx path fs) fun _ =>
      steady_bind (steady_lift _) fun _ => steady_pure _, accepted?_lift]
  cases e.annotations == ["schema_header"] with
  | false => rfl
  | true =>
    simp only [require, if_true, Except.toOption, Option.bind_some]
    rw [accepted?_bind fun _ => steady_bind (steady_lift _) fun _ => steady_pure _]
    congr 1
    funext imports
    rw [accepted?_bind fun _ => steady_pure _, accepted?_lift]
    cases declaredBy ctx.vocabulary fs <;> rfl

/-- What there is to a draft that was read. -/
theorem of_headerDraft {ctx : Context} {path : TreePath} {e : Element} {draft : HeaderDraft}
    (h : accepted? (headerDraft ctx path e) = some draft) :
    e.struct? = some draft.fields ∧ e.annotations = ["schema_header"] ∧
      accepted? (headerImports ctx path draft.fields) = some draft.imports ∧
      declaredBy ctx.vocabulary draft.fields = .ok draft.reserved := by
  cases struct : e.struct? with
  | none =>
    unfold headerDraft at h
    rw [struct] at h
    cases h
  | some fs =>
    rw [accepted?_headerDraft struct] at h
    split at h
    · rename_i marked
      obtain ⟨imports, listed, h⟩ := Option.bind_eq_some_iff.1 h
      obtain ⟨reserved, declared, rfl⟩ := Option.map_eq_some_iff.1 h
      exact ⟨rfl, eq_of_beq marked, listed, toOption_eq_some_iff.1 declared⟩
    · cases h

theorem accepted?_headerImports (ctx : Context) (path : TreePath) (fs : List Field) :
    accepted? (headerImports ctx path fs) =
      (optionalField fs "imports" .list).toOption.bind fun list =>
        match list with
        | none => some []
        | some e =>
          if e.annotations.isEmpty then
            accepted? (importsFrom ctx (path.field "imports") 0 (e.list?.getD []))
          else none := by
  unfold headerImports
  rw [accepted?_bind, accepted?_lift]
  · congr 1
    funext list
    cases list with
    | none => rfl
    | some e =>
      dsimp only
      rw [accepted?_bind fun _ => steady_importsFrom ctx _ 0 _, accepted?_lift]
      cases e.annotations.isEmpty <;> rfl
  · intro list
    cases list with
    | none => exact steady_pure _
    | some e => exact steady_bind (steady_lift _) fun _ => steady_importsFrom ctx _ 0 _

theorem accepted?_importsFrom_cons (ctx : Context) (path : TreePath) (i : Nat) (e : Element)
    (es : List Element) :
    accepted? (importsFrom ctx path i (e :: es)) =
      (headerImport ctx.vocabulary e).toOption.bind fun first =>
        (accepted? (importsFrom ctx path (i + 1) es)).map (first :: ·) := by
  rw [importsFrom, accepted?_bind fun _ => steady_bind (steady_importsFrom ctx path (i + 1) es)
    fun _ => steady_pure _, accepted?_catching, accepted?_lift]
  cases (headerImport ctx.vocabulary e).toOption with
  | none => rfl
  | some first =>
    rw [Option.map_some, Option.bind_some, Option.bind_some, accepted?_bind fun _ => steady_pure _]
    cases accepted? (importsFrom ctx path (i + 1) es) <;> rfl

/-! ## Declared words -/

/-- Words in order, none of them a keyword. -/
def DeclaredWords (isKeyword : String → Bool) (words : NameSet) : Prop :=
  Ascending words ∧ ∀ word ∈ words, isKeyword word = false

theorem declaredWords_nil (isKeyword : String → Bool) : DeclaredWords isKeyword [] :=
  ⟨List.Pairwise.nil, fun _ h => (by cases h)⟩

theorem reservedWord_ok {name : String} {isKeyword : String → Bool} {list item : Element}
    {words more : NameSet} (h : reservedWord name isKeyword list words item = .ok more) :
    ∃ word, isKeyword word = false ∧ more = words.insert word := by
  unfold reservedWord at h
  split at h
  · rename_i word _
    split at h
    · cases h
    · split at h
      · cases h
      · rename_i free
        injection h with h
        exact ⟨word, by simpa using free, h.symm⟩
  · cases h

theorem declaredWords_of_foldlM {name : String} {isKeyword : String → Bool} {list : Element}
    {items : List Element} {words more : NameSet} (declared : DeclaredWords isKeyword words)
    (h : items.foldlM (reservedWord name isKeyword list) words = .ok more) :
    DeclaredWords isKeyword more := by
  induction items generalizing words with
  | nil =>
    injection h with h
    exact h ▸ declared
  | cons item items ih =>
    rw [List.foldlM_cons] at h
    obtain ⟨next, first, h⟩ := check_bind_eq_ok_iff.1 h
    obtain ⟨word, free, rfl⟩ := reservedWord_ok first
    refine ih ⟨NameSet.ascending_insert word declared.1, fun w hw => ?_⟩ h
    rcases NameSet.mem_insert.1 hw with rfl | hw
    · exact free
    · exact declared.2 w hw

theorem declaredWords_of_reservedList {fs : List Field} {name : String} {isKeyword : String → Bool}
    {words : NameSet} (h : reservedList fs name isKeyword = .ok words) :
    DeclaredWords isKeyword words := by
  obtain ⟨list, _, h⟩ := check_bind_eq_ok_iff.1 h
  cases list with
  | none =>
    injection h with h
    exact h ▸ declaredWords_nil isKeyword
  | some list => exact declaredWords_of_foldlM (declaredWords_nil isKeyword) h

/-- What a header may declare. -/
structure DeclaredFields (vocabulary : Vocabulary) (r : ReservedFields) : Prop where
  header : DeclaredWords vocabulary.isHeaderKeyword r.header
  type : DeclaredWords vocabulary.isTypeKeyword r.type
  footer : DeclaredWords vocabulary.isFooterKeyword r.footer
  none : vocabulary.declaresReserved = false → r = .none

theorem declaredFields_none (vocabulary : Vocabulary) : DeclaredFields vocabulary .none :=
  ⟨declaredWords_nil _, declaredWords_nil _, declaredWords_nil _, fun _ => rfl⟩

theorem declaredFields_of_declaredBy {vocabulary : Vocabulary} {fs : List Field}
    {r : ReservedFields} (h : declaredBy vocabulary fs = .ok r) : DeclaredFields vocabulary r := by
  unfold declaredBy at h
  cases declares : vocabulary.declaresReserved with
  | false =>
    rw [declares] at h
    injection h with h
    exact h ▸ declaredFields_none vocabulary
  | true =>
    rw [declares, if_pos rfl] at h
    obtain ⟨section?, _, h⟩ := check_bind_eq_ok_iff.1 h
    cases section? with
    | none =>
      injection h with h
      exact h ▸ declaredFields_none vocabulary
    | some e =>
      obtain ⟨_, _, h⟩ := check_bind_eq_ok_iff.1 h
      obtain ⟨_, _, h⟩ := check_bind_eq_ok_iff.1 h
      obtain ⟨header, headerRead, h⟩ := check_bind_eq_ok_iff.1 h
      obtain ⟨type, typeRead, h⟩ := check_bind_eq_ok_iff.1 h
      obtain ⟨footer, footerRead, h⟩ := check_bind_eq_ok_iff.1 h
      injection h with h
      subst h
      refine ⟨declaredWords_of_reservedList headerRead, declaredWords_of_reservedList typeRead,
        declaredWords_of_reservedList footerRead, fun none => ?_⟩
      rw [declares] at none
      cases none

/-! ## Headers -/

/-- A field that may be open content of a header that declares these words. -/
def opensHeader (vocabulary : Vocabulary) (declared : NameSet) (name : String) : Bool :=
  !vocabulary.isHeaderKeyword name &&
    (!vocabulary.declaresReserved || !vocabulary.isReserved name || declared.contains name)

structure HeaderShape (vocabulary : Vocabulary) (h : SchemaHeader) : Prop where
  declared : DeclaredFields vocabulary h.reserved
  openContent : ∀ f ∈ h.openContent, opensHeader vocabulary h.reserved.header f.name = true

theorem header_ok {vocabulary : Vocabulary} {d : HeaderDraft} {h : SchemaHeader}
    (declared : declaredBy vocabulary d.fields = .ok d.reserved)
    (closed : d.close vocabulary = .ok h) :
    HeaderShape vocabulary h ∧ h.reserved = d.reserved := by
  unfold HeaderDraft.close at closed
  cases declares : vocabulary.declaresReserved with
  | false =>
    simp only [declares, Bool.false_eq_true, if_false, bind, Except.bind] at closed
    injection closed with closed
    subst closed
    refine ⟨⟨declaredFields_of_declaredBy declared, fun f hf => ?_⟩, rfl⟩
    simp only [List.mem_filter, Bool.not_eq_true'] at hf
    simp [opensHeader, hf.2, declares]
  | true =>
    simp only [declares, if_true] at closed
    obtain ⟨_, none, closed⟩ := check_bind_eq_ok_iff.1 closed
    injection closed with closed
    subst closed
    refine ⟨⟨declaredFields_of_declaredBy declared, fun f hf => ?_⟩, rfl⟩
    simp only [List.mem_filter, Bool.not_eq_true'] at hf
    have free := require_eq_ok_iff.1 none
    simp only [undeclared, List.isEmpty_iff, List.filter_eq_nil_iff, List.mem_map] at free
    have own := free f.name ⟨f, hf.1, rfl⟩
    simp only [opensHeader, hf.2, declares]
    simp only [hf.2, Bool.not_false, Bool.true_and, Bool.and_eq_true, Bool.not_eq_true',
      not_and, Bool.not_eq_false] at own
    cases reserved : vocabulary.isReserved f.name with
    | false => rfl
    | true =>
      rw [own reserved]
      rfl

theorem accepted?_header (ctx : Context) (path : TreePath) (e : Element) :
    accepted? (header ctx path e) =
      (accepted? (headerDraft ctx path e)).bind fun draft =>
        (draft.close ctx.vocabulary).toOption := by
  rw [header, accepted?_bind fun _ => steady_lift _]
  simp only [accepted?_lift]

theorem header_shape {ctx : Context} {path : TreePath} {e : Element} {h : SchemaHeader}
    (read : accepted? (header ctx path e) = some h) : HeaderShape ctx.vocabulary h := by
  rw [accepted?_header] at read
  obtain ⟨draft, drafted, closed⟩ := Option.bind_eq_some_iff.1 read
  obtain ⟨_, _, _, declared⟩ := of_headerDraft drafted
  exact (header_ok declared (toOption_eq_some_iff.1 closed)).1

end Isl.Reader
