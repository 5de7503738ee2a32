import Mathlib.Data.List.Forall2
import Isl.Proofs.Writer.Document
/-!
# The shape of a document

A document that reads has one item for each value behind its marker, in the order of the values.
Nothing is dropped, and what is no header, type or footer is kept as it is.

* `Reader.Body`: the values that make up a document, and its version;
* `Reader.Lays`, `Reader.lays_itemsFrom`: the items that the values are read as, place by place;
* `Reader.Becomes`: which item a value becomes;
* `Reader.InOrder`: the order in which headers, types and footers stand;
* `SchemaReader.readSchema_shape`: every document that reads has this shape.
-/
namespace Isl.Reader

/-- The values that make up a document: those behind the only marker, which names the version, or
all of them in version 1.0 if there is none. -/
inductive Body : List Element → IslVersion → List Element → Prop where
  | marked {front rest : List Element} {marker : Element} {version : IslVersion}
      (before : ∀ e ∈ front, isMarker e = false) (own : isMarker marker = true)
      (names : IslVersion.ofMarker? (marker.symbol?.getD "") = some version)
      (behind : ∀ e ∈ rest, isMarker e = false) : Body (front ++ marker :: rest) version rest
  | unmarked {values : List Element} (plain : ∀ e ∈ values, isMarker e = false) :
      Body values .v1 values

theorem Body.markers {values body : List Element} {version : IslVersion}
    (h : Body values version body) : values.countP isMarker ≤ 1 := by
  have none : ∀ {es : List Element}, (∀ e ∈ es, isMarker e = false) → es.countP isMarker = 0 :=
    fun plain => List.countP_eq_zero.2 fun e mem => by simp [plain e mem]
  cases h with
  | marked before own names behind =>
    rw [List.countP_append, List.countP_cons, none before, none behind]
    split <;> omega
  | unmarked plain => rw [none plain]; exact Nat.zero_le 1

/-! ## Items, place by place -/

section
variable {vocabulary : Vocabulary} {failFast : Bool}

/-- What a value is read as: by itself, with the words that the header declares. -/
inductive ItemOf (vocabulary : Vocabulary) (failFast : Bool) (declared : ReservedFields)
    (e : Element) : SchemaItem → Prop where
  | header {path : TreePath} {h : SchemaHeader} (own : isAnnotatedStruct e "schema_header" = true)
      (read : accepted? (header ⟨vocabulary, failFast, .none⟩ path e) = some h) :
      ItemOf vocabulary failFast declared e (.header h)
  | type {path : TreePath} {t : NamedType} (own : isAnnotatedStruct e "type" = true)
      (read : accepted? (namedType ⟨vocabulary, failFast, declared⟩ path e) = some t) :
      ItemOf vocabulary failFast declared e (.type t)
  | footer {f : SchemaFooter} (own : isAnnotatedStruct e "schema_footer" = true)
      (read : footer ⟨vocabulary, failFast, declared⟩ e = .ok f) :
      ItemOf vocabulary failFast declared e (.footer f)
  | openContent (noHeader : isAnnotatedStruct e "schema_header" = false)
      (noType : isAnnotatedStruct e "type" = false)
      (noFooter : isAnnotatedStruct e "schema_footer" = false) :
      ItemOf vocabulary failFast declared e (.openContent e)

/-- The items that may stand in a place. -/
def Allows : Section → SchemaItem → Prop
  | .beforeHeader, _ => True
  | .types, .header _ => False
  | .types, _ => True
  | _, _ => False

/-- The place behind an item. -/
def placeAfter (place : Section) : SchemaItem → Section
  | .header _ | .type _ => .types
  | .footer _ => .afterFooter
  | .openContent _ => place

/-- The words that are declared behind an item. -/
def declaredAfter (declared : ReservedFields) : SchemaItem → ReservedFields
  | .header h => h.reserved
  | _ => declared

/-- The items that values are read as from a place on, where these words are declared. -/
inductive Lays (vocabulary : Vocabulary) (failFast : Bool) :
    Section → ReservedFields → List Element → List SchemaItem → Prop where
  | done (place : Section) (declared : ReservedFields) :
      Lays vocabulary failFast place declared [] []
  | item {place : Section} {declared : ReservedFields} {e : Element} {s : SchemaItem}
      {es : List Element} {items : List SchemaItem} (allowed : Allows place s)
      (read : ItemOf vocabulary failFast declared e s)
      (rest : Lays vocabulary failFast (placeAfter place s) (declaredAfter declared s) es items) :
      Lays vocabulary failFast place declared (e :: es) (s :: items)

end

/-! ## Reading one value -/

theorem isMarker_eq_false {e : Element} {name : String} (own : isAnnotatedStruct e name = true) :
    isMarker e = false := by
  rw [isAnnotatedStruct, Bool.and_eq_true, beq_iff_eq] at own
  rw [isMarker, own.2]
  rfl

/-- Where a header may still come, no words are declared yet. -/
def Fresh (p : Progress) : Prop := p.place = .beforeHeader → p.context.declared = .none

/-- A value is read as an item, which is added and moves the reader on. -/
structure Turn (p p' : Progress) (e : Element) (s : SchemaItem) : Prop where
  allowed : Allows p.place s
  read : ItemOf p.context.vocabulary p.context.failFast p.context.declared e s
  added : p'.items = p.items ++ [s]
  place : p'.place = placeAfter p.place s
  declared : p'.context.declared = declaredAfter p.context.declared s
  vocabulary : p'.context.vocabulary = p.context.vocabulary
  failFast : p'.context.failFast = p.context.failFast
  stopped : p'.stopped = p.stopped

section
variable {p p' : Progress} {path : TreePath} {e : Element} {s : SchemaItem}

theorem Turn.fresh (turn : Turn p p' e s) (fresh : Fresh p) : Fresh p' := by
  intro place
  rw [turn.place] at place
  cases s with
  | header h => cases place
  | type t => cases place
  | footer f => cases place
  | openContent o => exact turn.declared.trans (fresh place)

theorem Turn.behind (turn : Turn p p' e s) (behind : p.place ≠ .beforeMarker) :
    p'.place ≠ .beforeMarker := by
  rw [turn.place]
  cases s with
  | header h => exact nofun
  | type t => exact nofun
  | footer f => exact nofun
  | openContent o => exact behind

theorem allows_of_place (behind : p.place ≠ .beforeMarker) (within : p.place ≠ .afterFooter)
    (other : s.header? = none) : Allows p.place s := by
  cases place : p.place with
  | beforeMarker => exact absurd place behind
  | beforeHeader => trivial
  | types =>
    cases s with
    | header h => cases other
    | type t => trivial
    | footer f => trivial
    | openContent o => trivial
  | afterFooter => exact absurd place within

/-- Behind a header the words are in force that it declares. -/
theorem accepted?_bodyItem_declares (p : Progress) (path : TreePath)
    (own : isAnnotatedStruct e "schema_header" = true) :
    accepted? (bodyItem p path e) =
      if p.place = .beforeHeader then
        (accepted? (header p.context path e)).map fun h =>
          ⟨{ p.context with declared := h.reserved }, .types, p.items ++ [.header h], p.stopped⟩
      else none := by
  rw [accepted?_bodyItem_header p path own, accepted?_header]
  cases read : accepted? (headerDraft p.context path e) with
  | none => rfl
  | some draft =>
    rw [Option.bind_some, Option.bind_some]
    cases closed : draft.close p.context.vocabulary with
    | error fault => rfl
    | ok h =>
      obtain ⟨_, _, _, declared⟩ := of_headerDraft read
      have declares := (header_ok declared closed).2
      simp only [Except.toOption, Option.map_some, declares]

theorem turn_header (fresh : Fresh p) (own : isAnnotatedStruct e "schema_header" = true)
    (h : accepted? (bodyItem p path e) = some p') : ∃ s, Turn p p' e s := by
  rw [accepted?_bodyItem_declares p path own] at h
  split at h
  · rename_i place
    obtain ⟨k, read, rfl⟩ := Option.map_eq_some_iff.1 h
    have context : p.context = ⟨p.context.vocabulary, p.context.failFast, .none⟩ := by
      rw [← fresh place]
    refine ⟨.header k, ?_, .header own (context ▸ read), rfl, rfl, rfl, rfl, rfl, rfl⟩
    rw [place]
    trivial
  · cases h

/-- Every value that is accepted between the marker and the end of the footer is read as an item. -/
theorem turn_bodyItem (behind : p.place ≠ .beforeMarker) (within : p.place ≠ .afterFooter)
    (fresh : Fresh p) (h : accepted? (bodyItem p path e) = some p') : ∃ s, Turn p p' e s := by
  cases header : isAnnotatedStruct e "schema_header" with
  | true => exact turn_header fresh header h
  | false =>
    have allows : ∀ s : SchemaItem, s.header? = none → Allows p.place s :=
      fun _ => allows_of_place behind within
    cases type : isAnnotatedStruct e "type" with
    | true =>
      rw [accepted?_bodyItem_type p path header type] at h
      obtain ⟨t, read, rfl⟩ := Option.map_eq_some_iff.1 h
      exact ⟨.type t, allows _ rfl, .type type read, rfl, rfl, rfl, rfl, rfl, rfl⟩
    | false =>
      cases footer : isAnnotatedStruct e "schema_footer" with
      | true =>
        rw [accepted?_bodyItem_footer p path header type footer] at h
        obtain ⟨f, read, rfl⟩ := Option.map_eq_some_iff.1 h
        have read := toOption_eq_some_iff.1 read
        exact ⟨.footer f, allows _ rfl, .footer footer read, rfl, rfl, rfl, rfl, rfl, rfl⟩
      | false =>
        rw [accepted?_bodyItem_open p path header type footer] at h
        split at h
        · cases h
        · cases h
          exact ⟨.openContent e, allows _ rfl, .openContent header type footer, rfl, rfl, rfl, rfl,
            rfl, rfl⟩

theorem turn_item {d : Dialect} (behind : p.place ≠ .beforeMarker) (fresh : Fresh p)
    (h : accepted? (item d p path e) = some p') : isMarker e = false ∧ ∃ s, Turn p p' e s := by
  rw [accepted?_item behind] at h
  split at h
  · cases h
  · rename_i allowed
    simp only [Bool.or_eq_true, beq_iff_eq, not_or, Bool.not_eq_true] at allowed
    exact ⟨allowed.1, turn_bodyItem behind allowed.2 fresh h⟩

end

/-- Every value behind the marker is read as an item, and none of them is a marker. -/
theorem lays_itemsFrom {d : Dialect} {es : List Element} {p q : Progress} {i : Nat}
    (behind : p.place ≠ .beforeMarker) (running : p.stopped = false) (fresh : Fresh p)
    (h : accepted? (itemsFrom d i p es) = some q) :
    q.context.vocabulary = p.context.vocabulary ∧ (∀ e ∈ es, isMarker e = false) ∧
      ∃ items, q.items = p.items ++ items ∧
        Lays p.context.vocabulary p.context.failFast p.place p.context.declared es items := by
  induction es generalizing p i with
  | nil =>
    rw [accepted?_itemsFrom_nil] at h
    cases h
    exact ⟨rfl, nofun, [], by simp, .done _ _⟩
  | cons e es ih =>
    rw [accepted?_itemsFrom_cons] at h
    obtain ⟨p', first, h⟩ := Option.bind_eq_some_iff.1 h
    obtain ⟨noMarker, s, turn⟩ := turn_item behind fresh first
    have running' : p'.stopped = false := turn.stopped.trans running
    rw [running', if_neg (by decide)] at h
    obtain ⟨vocabulary, plain, items, added, lays⟩ :=
      ih (turn.behind behind) running' (turn.fresh fresh) h
    rw [turn.vocabulary, turn.failFast, turn.place, turn.declared] at lays
    refine ⟨vocabulary.trans turn.vocabulary, ?_, s :: items, ?_, .item turn.allowed turn.read lays⟩
    · intro f mem
      rcases List.mem_cons.1 mem with rfl | mem
      · exact noMarker
      · exact plain f mem
    · rw [added, turn.added, List.append_assoc]
      rfl

/-! ## What follows from the places -/

section
variable {vocabulary : Vocabulary} {failFast : Bool} {place : Section} {declared : ReservedFields}
  {es : List Element} {items : List SchemaItem}

theorem Lays.nil_of_afterFooter (h : Lays vocabulary failFast .afterFooter declared es items) :
    items = [] := by
  cases h with
  | done => rfl
  | item allowed _ _ => cases allowed

theorem placeAfter_ne_beforeHeader (past : place ≠ .beforeHeader) (s : SchemaItem) :
    placeAfter place s ≠ .beforeHeader := by
  cases s with
  | header h => exact nofun
  | type t => exact nofun
  | footer f => exact nofun
  | openContent o => exact past

/-- Once a header cannot come any more, there is none. -/
theorem Lays.headerless (h : Lays vocabulary failFast place declared es items)
    (past : place ≠ .beforeHeader) : ∀ s ∈ items, s.header? = none := by
  induction h with
  | done => exact nofun
  | @item place declared e s es items allowed _ _ ih =>
    intro t mem
    rcases List.mem_cons.1 mem with rfl | mem
    · cases t with
      | header k =>
        cases place with
        | beforeHeader => exact absurd rfl past
        | beforeMarker | types | afterFooter => cases allowed
      | type | footer | openContent => rfl
    · exact ih (placeAfter_ne_beforeHeader past s) t mem

/-- The order of the items: nothing stands behind a footer, and only open content in front of a
header. -/
def InOrder (items : List SchemaItem) : Prop :=
  items.Pairwise fun s t => s.footer? = none ∧ (t.header? = none ∨ ∃ e, s = .openContent e)

theorem Lays.inOrder (h : Lays vocabulary failFast place declared es items) : InOrder items := by
  induction h with
  | done => exact .nil
  | @item place declared e s es items allowed _ rest ih =>
    refine List.pairwise_cons.2 ⟨?_, ih⟩
    intro t mem
    cases s with
    | header k => exact ⟨rfl, .inl (rest.headerless nofun t mem)⟩
    | type k => exact ⟨rfl, .inl (rest.headerless nofun t mem)⟩
    | footer f =>
      rw [rest.nil_of_afterFooter] at mem
      cases mem
    | openContent o => exact ⟨rfl, .inr ⟨o, rfl⟩⟩

/-- The words that a header among the items declares, or else those that were declared before. -/
def declaredIn (declared : ReservedFields) (items : List SchemaItem) : ReservedFields :=
  ((items.findSome? SchemaItem.header?).map (·.reserved)).getD declared

theorem declaredIn_of_headerless (none : ∀ s ∈ items, s.header? = none) :
    declaredIn declared items = declared := by
  rw [declaredIn, List.findSome?_eq_none_iff.2 none]
  rfl

/-- Each value is read with the words that the header of the whole document declares. -/
theorem Lays.itemOf (h : Lays vocabulary failFast place declared es items) :
    List.Forall₂ (ItemOf vocabulary failFast (declaredIn declared items)) es items := by
  induction h with
  | done => exact .nil
  | @item place declared e s es items allowed read rest ih =>
    cases s with
    | header k =>
      have same : declaredIn declared (.header k :: items) = declaredIn k.reserved items := by
        rw [declaredIn_of_headerless (rest.headerless nofun)]
        rfl
      rw [same]
      refine .cons ?_ ih
      cases read with
      | header own read => exact .header own read
    | type t =>
      have settled : declaredIn declared items = declared :=
        declaredIn_of_headerless (rest.headerless nofun)
      have here : ItemOf vocabulary failFast (declaredIn declared items) e (.type t) := by
        rwa [settled]
      exact .cons here ih
    | footer f =>
      have settled : declaredIn declared items = declared :=
        declaredIn_of_headerless (rest.headerless nofun)
      have here : ItemOf vocabulary failFast (declaredIn declared items) e (.footer f) := by
        rwa [settled]
      exact .cons here ih
    | openContent o =>
      refine .cons ?_ ih
      cases read with
      | openContent noHeader noType noFooter => exact .openContent noHeader noType noFooter

/-- Which item a value of a document becomes: a header, type or footer exactly if it is a struct
with just that annotation, and otherwise the value itself. -/
structure Becomes (vocabulary : Vocabulary) (failFast : Bool) (declared : ReservedFields)
    (e : Element) (s : SchemaItem) : Prop where
  header : (∃ h, s = .header h) ↔ isAnnotatedStruct e "schema_header" = true
  type : (∃ t, s = .type t) ↔ isAnnotatedStruct e "type" = true
  footer : (∃ f, s = .footer f) ↔ isAnnotatedStruct e "schema_footer" = true
  kept : ∀ o, s = .openContent o → o = e
  read : ItemOf vocabulary failFast declared e s

/-- A value has only one list of annotations. -/
theorem isAnnotatedStruct_eq_false {e : Element} {name other : String} (apart : name ≠ other)
    (own : isAnnotatedStruct e name = true) : isAnnotatedStruct e other = false := by
  unfold isAnnotatedStruct at own ⊢
  simp only [Bool.and_eq_true, beq_iff_eq] at own
  simp [own.2, apart]

theorem ItemOf.becomes {e : Element} {s : SchemaItem}
    (read : ItemOf vocabulary failFast declared e s) :
    Becomes vocabulary failFast declared e s := by
  cases read with
  | header own made =>
    have noType : isAnnotatedStruct e "type" = false :=
      isAnnotatedStruct_eq_false (by decide) own
    have noFooter : isAnnotatedStruct e "schema_footer" = false :=
      isAnnotatedStruct_eq_false (by decide) own
    exact ⟨by simp [own], by simp [noType], by simp [noFooter], nofun, .header own made⟩
  | type own made =>
    have noHeader : isAnnotatedStruct e "schema_header" = false :=
      isAnnotatedStruct_eq_false (by decide) own
    have noFooter : isAnnotatedStruct e "schema_footer" = false :=
      isAnnotatedStruct_eq_false (by decide) own
    exact ⟨by simp [noHeader], by simp [own], by simp [noFooter], nofun, .type own made⟩
  | footer own made =>
    have noHeader : isAnnotatedStruct e "schema_header" = false :=
      isAnnotatedStruct_eq_false (by decide) own
    have noType : isAnnotatedStruct e "type" = false :=
      isAnnotatedStruct_eq_false (by decide) own
    exact ⟨by simp [noHeader], by simp [noType], by simp [own], nofun, .footer own made⟩
  | openContent noHeader noType noFooter =>
    refine ⟨by simp [noHeader], by simp [noType], by simp [noFooter], ?_,
      .openContent noHeader noType noFooter⟩
    rintro o ⟨⟩
    rfl

end

/-- Where headers and footers stand: a header in front of every type and of the footer, and a footer
behind everything else. There is at most one of each. -/
structure Ordered (items : List SchemaItem) : Prop where
  oneHeader : ∀ (i j : Nat) (h k : SchemaHeader), items[i]? = some (.header h) →
    items[j]? = some (.header k) → i = j
  headerFirst : ∀ (i j : Nat) (h : SchemaHeader) (s : SchemaItem), items[i]? = some (.header h) →
    items[j]? = some s → (∃ t, s = .type t) ∨ (∃ f, s = .footer f) → i < j
  oneFooter : ∀ (i j : Nat) (f g : SchemaFooter), items[i]? = some (.footer f) →
    items[j]? = some (.footer g) → i = j
  footerLast : ∀ (i : Nat) (f : SchemaFooter), items[i]? = some (.footer f) → i + 1 = items.length

theorem InOrder.at {items : List SchemaItem} (h : InOrder items) {i j : Nat} {s t : SchemaItem}
    (first : items[i]? = some s) (second : items[j]? = some t) (before : i < j) :
    s.footer? = none ∧ (t.header? = none ∨ ∃ e, s = .openContent e) := by
  obtain ⟨hi, rfl⟩ := List.getElem?_eq_some_iff.1 first
  obtain ⟨hj, rfl⟩ := List.getElem?_eq_some_iff.1 second
  exact List.pairwise_iff_getElem.1 h i j hi hj before

theorem InOrder.header_first {items : List SchemaItem} (h : InOrder items) {i j : Nat}
    {k : SchemaHeader} {s : SchemaItem} (header : items[i]? = some (.header k))
    (other : items[j]? = some s) (kind : ∀ e, s ≠ .openContent e) : ¬j < i := by
  intro before
  rcases (h.at other header before).2 with none | kept
  · cases none
  · obtain ⟨e, same⟩ := kept
    exact kind e same

theorem InOrder.footer_last {items : List SchemaItem} (h : InOrder items) {i : Nat}
    {f : SchemaFooter} (footer : items[i]? = some (.footer f)) : i + 1 = items.length := by
  obtain ⟨within, -⟩ := List.getElem?_eq_some_iff.1 footer
  by_contra more
  have next : items[i + 1]? = some items[i + 1] := List.getElem?_eq_getElem (by omega)
  cases (h.at footer next (Nat.lt_succ_self i)).1

theorem InOrder.ordered {items : List SchemaItem} (h : InOrder items) : Ordered items := by
  refine ⟨?_, ?_, ?_, fun i f => h.footer_last⟩
  · intro i j k l first second
    have above := h.header_first first second nofun
    have below := h.header_first second first nofun
    omega
  · intro i j k s header other kind
    have above : ¬j < i := by
      refine h.header_first header other ?_
      rcases kind with ⟨t, rfl⟩ | ⟨f, rfl⟩
      · exact nofun
      · exact nofun
    have apart : i ≠ j := by
      rintro rfl
      rw [header] at other
      cases other
      rcases kind with ⟨t, same⟩ | ⟨f, same⟩
      · cases same
      · cases same
    omega
  · intro i j f g first second
    have last := h.footer_last first
    have last' := h.footer_last second
    omega

end Isl.Reader

namespace Isl

/-- The words that the header of a document declares. -/
def SchemaDocument.declared (d : SchemaDocument) : ReservedFields :=
  (d.header?.map (·.reserved)).getD .none

namespace Reader

/-- Between the marker and the end, a document is what its values are read as. -/
theorem lays_document {d : Dialect} {values : List Element} {failFast : Bool}
    {doc : SchemaDocument} (h : document d values failFast = .ok doc) :
    ∃ body, Body values doc.version body ∧
      Lays (d.vocabulary doc.version) failFast .beforeHeader .none body doc.items := by
  obtain ⟨q, read, rfl⟩ := Writer.document_eq_ok_iff.1 h
  rw [beginning] at read
  split at read
  · rename_i marked
    obtain ⟨front, marker, version, j, rest, rfl, before, own, names, behind⟩ :=
      accepted?_itemsFrom_front marked read
    obtain ⟨vocabulary, plain, items, added, lays⟩ :=
      lays_itemsFrom (by simp) rfl (fun _ => rfl) behind
    have same : q.version = version := congrArg Vocabulary.version vocabulary
    refine ⟨rest, ?_, ?_⟩
    · exact same ▸ .marked before own names plain
    · rw [added, same]
      exact lays
  · rename_i unmarked
    obtain ⟨vocabulary, plain, items, added, lays⟩ :=
      lays_itemsFrom (by simp) rfl (fun _ => rfl) read
    have same : q.version = .v1 := congrArg Vocabulary.version vocabulary
    refine ⟨values, ?_, ?_⟩
    · exact same ▸ .unmarked plain
    · rw [added, same]
      exact lays

end Reader

/-- A document that reads keeps its shape and loses nothing. It has at most one version marker, and
one item for each value behind it, in the order of the values. A value becomes a header, type or
footer exactly if it is a struct with just that annotation, and is kept as it is otherwise. At most
one header stands in front of the types and the footer, and at most one footer behind everything. -/
theorem SchemaReader.readSchema_shape (r : SchemaReader) {values : List Element} {failFast : Bool}
    {document : SchemaDocument} (h : r.readSchema values failFast = .ok document) :
    values.countP Reader.isMarker ≤ 1 ∧
      (∃ body, Reader.Body values document.version body ∧
        List.Forall₂ (Reader.Becomes (r.dialect.vocabulary document.version) failFast
          document.declared) body document.items) ∧
      Reader.Ordered document.items := by
  obtain ⟨body, whole, lays⟩ := Reader.lays_document h
  refine ⟨whole.markers, ⟨body, whole, ?_⟩, lays.inOrder.ordered⟩
  exact lays.itemOf.imp fun _ _ read => read.becomes

/-- `"note" $ion_schema_2_0 "kept" schema_header::{} type::{ name: a } schema_footer::{}` -/
def markedValues : List Element :=
  [.string "note", .symbol "$ion_schema_2_0", .string "kept", ⟨["schema_header"], .struct []⟩,
    ⟨["type"], .struct [⟨"name", .symbol "a"⟩]⟩, ⟨["schema_footer"], .struct []⟩]

def markedDocument : SchemaDocument :=
  ⟨none, .v2, [.openContent (.string "kept"), .header ⟨[], .none, []⟩, .type ⟨"a", ⟨[], []⟩⟩,
    .footer ⟨[]⟩]⟩

/-- What stands in front of the marker is no part of the document, and open content behind it is. -/
theorem readSchema_shape_marked :
    SchemaReader.standard.readSchema markedValues true = .ok markedDocument ∧
      markedValues.countP Reader.isMarker ≤ 1 ∧
      (∃ body, Reader.Body markedValues .v2 body ∧
        List.Forall₂ (Reader.Becomes (SchemaReader.standard.dialect.vocabulary .v2) true .none) body
          markedDocument.items) ∧
      Reader.Ordered markedDocument.items := by
  have read : SchemaReader.standard.readSchema markedValues true = .ok markedDocument := rfl
  exact ⟨read, SchemaReader.standard.readSchema_shape read⟩

end Isl
