import Isl.Proofs.Reader.FailFast
import Isl.Proofs.Reader.Imports
import Isl.Proofs.Reader.Shape
/-!
# Headers and footers come back

A footer is written as the value that it was read from. A header is not: its imports, the words that
it declares and its open content are put in order. But it is read as the same header, and in its
place in a document the same words are in force behind it, so that the rest is read as before.

* `Reader.accepted?_header_at`: where a header stands makes no difference to what it is read as;
* `Reader.accepted?_itemsFrom_header`: values that are read as one header stand in for each other;
* `Writer.header_again`: what is written is read as the header that it was written for;
* `Reader.Lays.footer_last`: a footer is the last value of its document;
* `SchemaReader.ends_written`: headers and footers come back, alone and in a document.
-/
namespace Isl

namespace Reader

/-! ## Headers in any place -/

section
variable {ctx ctx' : Context} (same : ctx.vocabulary = ctx'.vocabulary) (path path' : TreePath)
include same

theorem accepted?_headerImports_at (fs : List Field) :
    accepted? (headerImports ctx path fs) = accepted? (headerImports ctx' path' fs) := by
  simp only [accepted?_headerImports, accepted?_importsFrom, same]

theorem accepted?_headerDraft_at (e : Element) :
    accepted? (headerDraft ctx path e) = accepted? (headerDraft ctx' path' e) := by
  cases struct : e.struct? with
  | none =>
    unfold headerDraft
    rw [struct]
  | some fs =>
    rw [accepted?_headerDraft struct, accepted?_headerDraft struct,
      accepted?_headerImports_at same path path', same]

/-- The vocabulary alone decides what a header is read as. -/
theorem accepted?_header_at (e : Element) :
    accepted? (header ctx path e) = accepted? (header ctx' path' e) := by
  rw [accepted?_header, accepted?_header, accepted?_headerDraft_at same path path', same]

end

/-! ## Headers in a document -/

section
variable {d : Dialect} {p : Progress} {e e' : Element}

/-- Headers in place of each other: they are read alike in one vocabulary. -/
structure OneHeader (vocabulary : Vocabulary) (e e' : Element) : Prop where
  left : isAnnotatedStruct e "schema_header" = true
  right : isAnnotatedStruct e' "schema_header" = true
  alike : ∀ (ctx : Context) (path : TreePath), ctx.vocabulary = vocabulary →
    accepted? (header ctx path e) = accepted? (header ctx path e')

theorem accepted?_item_header (one : OneHeader p.context.vocabulary e e')
    (behind : p.place ≠ .beforeMarker) (path : TreePath) :
    accepted? (item d p path e) = accepted? (item d p path e') := by
  rw [accepted?_item behind, accepted?_item behind, isMarker_eq_false one.left,
    isMarker_eq_false one.right, accepted?_bodyItem_declares p path one.left,
    accepted?_bodyItem_declares p path one.right, one.alike p.context path rfl]

/-- Behind the marker values that are one header stand in for each other, whatever is around. -/
theorem accepted?_itemsFrom_header (one : OneHeader p.context.vocabulary e e')
    (behind : p.place ≠ .beforeMarker) (fresh : Fresh p) (front rest : List Element) (i : Nat) :
    accepted? (itemsFrom d i p (front ++ e :: rest)) =
      accepted? (itemsFrom d i p (front ++ e' :: rest)) := by
  induction front generalizing p i with
  | nil =>
    rw [List.nil_append, List.nil_append, accepted?_itemsFrom_cons, accepted?_itemsFrom_cons,
      accepted?_item_header one behind]
  | cons x front ih =>
    rw [List.cons_append, List.cons_append, accepted?_itemsFrom_cons, accepted?_itemsFrom_cons]
    cases first : accepted? (item d p (TreePath.root.index i) x) with
    | none => rfl
    | some q =>
      obtain ⟨_, s, turn⟩ := turn_item behind fresh first
      rw [Option.bind_some, Option.bind_some,
        ih (turn.vocabulary ▸ one) (turn.behind behind) (turn.fresh fresh)]

end

/-! ## Footers in a document -/

theorem Lays.footer_last {vocabulary : Vocabulary} {failFast : Bool} {place : Section}
    {declared : ReservedFields} {es : List Element} {last : Element} {items : List SchemaItem}
    {f : SchemaFooter} (h : Lays vocabulary failFast place declared (es ++ [last]) items)
    (footer : .footer f ∈ items) :
    ∃ declared, Reader.footer ⟨vocabulary, failFast, declared⟩ last = .ok f := by
  induction es generalizing place declared items with
  | nil =>
    cases h with
    | item allowed read rest =>
      cases rest
      obtain rfl := List.mem_singleton.1 footer
      cases read with
      | footer own read => exact ⟨_, read⟩
  | cons e es ih =>
    cases h with
    | item allowed read rest =>
      rcases List.mem_cons.1 footer with rfl | behind
      · -- behind a footer nothing is read, and here something is
        cases es <;> cases rest <;> contradiction
      · exact ih rest behind

end Reader

namespace Writer
open Reader

theorem isAnnotatedStruct_headerElement (version : IslVersion) (h : SchemaHeader) :
    isAnnotatedStruct (headerElement version h) "schema_header" = true := by
  rw [headerElement_eq]
  rfl

/-- What a header is written as is read as the header. -/
theorem header_again {ctx : Context} {path : TreePath} {e : Element} {h : SchemaHeader}
    (read : accepted? (Reader.header ctx path e) = some h) {ctx' : Context}
    (same : ctx'.vocabulary = ctx.vocabulary) (path' : TreePath) :
    accepted? (Reader.header ctx' path' (headerElement ctx.version h)) = some h := by
  obtain ⟨d, written, _, close⟩ := header_written (header_shape read) ctx' same path'
  have written : accepted? (headerDraft ctx' path' (headerElement ctx.version h)) = some d :=
    written
  rw [accepted?_header, written, Option.bind_some, same, close]
  rfl

theorem own_of_header {ctx : Context} {path : TreePath} {e : Element} {h : SchemaHeader}
    (read : accepted? (Reader.header ctx path e) = some h) :
    isAnnotatedStruct e "schema_header" = true := by
  rw [accepted?_header] at read
  obtain ⟨draft, drafted, _⟩ := Option.bind_eq_some_iff.1 read
  obtain ⟨struct, marked, _, _⟩ := of_headerDraft drafted
  rw [isAnnotatedStruct, struct, marked]
  rfl

/-- A header and what it is written as stand in for each other. -/
theorem oneHeader_written {ctx : Context} {path : TreePath} {e : Element} {h : SchemaHeader}
    (read : accepted? (Reader.header ctx path e) = some h) :
    OneHeader ctx.vocabulary e (headerElement ctx.version h) := by
  refine ⟨own_of_header read, isAnnotatedStruct_headerElement _ _, fun ctx' path' same => ?_⟩
  rw [accepted?_header_at same path' path, read, header_again read same path']

/-- A header is replaced in a document, and nothing else changes. -/
theorem document_header {d : Dialect} {version : IslVersion} {e e' : Element}
    {front rest : List Element} {failFast : Bool} {doc : SchemaDocument}
    (one : OneHeader (d.vocabulary version) e e')
    (h : document d (.symbol version.marker :: (front ++ e :: rest)) failFast = .ok doc) :
    document d (.symbol version.marker :: (front ++ e' :: rest)) failFast = .ok doc := by
  obtain ⟨q, walked, rfl⟩ := document_marked_iff.1 h
  refine document_marked_iff.2 ⟨q, ?_, rfl⟩
  rw [← walked]
  exact (accepted?_itemsFrom_header one (by simp) (fun _ => rfl) front rest 1).symm

theorem mem_of_footer? {d : SchemaDocument} {f : SchemaFooter} (h : d.footer? = some f) :
    .footer f ∈ d.items := by
  obtain ⟨s, mem, own⟩ := List.exists_of_findSome?_eq_some h
  cases s with
  | footer g =>
    cases own
    exact mem
  | _ => cases own

/-- The footer of a document is written as the value that stands last. -/
theorem footerElement_last {d : Dialect} {version : IslVersion} {es : List Element}
    {last : Element} {failFast : Bool} {doc : SchemaDocument} {f : SchemaFooter}
    (h : document d (.symbol version.marker :: (es ++ [last])) failFast = .ok doc)
    (ends : doc.footer? = some f) : footerElement f = last := by
  obtain ⟨q, walked, rfl⟩ := document_marked_iff.1 h
  obtain ⟨_, _, items, added, lays⟩ := lays_itemsFrom (by simp) rfl (fun _ => rfl) walked
  have shown : SchemaItem.footer f ∈ items := by
    have mem := mem_of_footer? ends
    rwa [added, List.nil_append] at mem
  obtain ⟨declared, footer⟩ := lays.footer_last shown
  exact footerElement_eq footer

end Writer

/-- **Headers and footers come back.** A header that was read, in any version and with any reserved
words, is read as the same header from what it is written as. The footers that are accepted behind
it are accepted behind what is written for it, as the same footers from what they are written as:
with the words in force that the header declares, and in every document around both. -/
theorem SchemaReader.ends_written (r : SchemaReader) {e : Element} {h : SchemaHeader}
    {failFast : Bool} (read : r.readHeader e failFast = .ok h) (again : Bool) :
    r.readHeader (Writer.headerElement r.version h) again = .ok h ∧
    (∀ last f, Reader.footer { r.context failFast with declared := h.reserved } last = .ok f →
      Reader.footer { r.context again with declared := h.reserved } (Writer.footerElement f) =
        .ok f) ∧
    ∀ front between last d f,
      r.readSchema (.symbol r.version.marker :: (front ++ e :: between ++ [last])) failFast =
        .ok d →
      d.footer? = some f →
      r.readSchema (.symbol r.version.marker ::
        (front ++ Writer.headerElement r.version h :: between ++ [Writer.footerElement f])) again =
          .ok d := by
  have accepted : Reader.accepted? (Reader.header (r.context failFast) .root e) = some h :=
    (Reader.finish_eq_ok_iff _ _ _).1 read
  refine ⟨?_, fun last f footer => ?_, fun front between last d f document ends => ?_⟩
  · have same : (r.context again).vocabulary = (r.context failFast).vocabulary := rfl
    exact (Reader.finish_eq_ok_iff _ _ _).2 (Writer.header_again accepted same .root)
  · exact Writer.footer_written footer
  · have one : Reader.OneHeader (r.dialect.vocabulary r.version) e
        (Writer.headerElement r.version h) := Writer.oneHeader_written accepted
    rw [Writer.footerElement_last document ends]
    have whole := Reader.document_again document again
    rw [List.append_assoc, List.cons_append] at whole ⊢
    exact Writer.document_header one whole

/-- `schema_header::{ foo: 1, user_reserved_fields: { schema_footer: [bar], schema_header: [foo] },
imports: [{ as: u, type: t, id: "b.isl" }] }` -/
def declaringHeader : Element :=
  ⟨["schema_header"], .struct [⟨"foo", .int 1⟩,
    ⟨"user_reserved_fields", .struct [⟨"schema_footer", .list [.symbol "bar"]⟩,
      ⟨"schema_header", .list [.symbol "foo"]⟩]⟩,
    ⟨"imports", .list [.struct [⟨"as", .symbol "u"⟩, ⟨"type", .symbol "t"⟩,
      ⟨"id", .string "b.isl"⟩]]⟩]⟩

/-- What the header says in version 2.0. -/
def declaringRead : SchemaHeader :=
  ⟨[.single "b.isl" "t" (some "u")], ⟨["foo"], [], ["bar"]⟩, [⟨"foo", .int 1⟩]⟩

/-- `schema_footer::{ bar: 2 }` -/
def declaredFooter : Element := ⟨["schema_footer"], .struct [⟨"bar", .int 2⟩]⟩

/-- In version 2.0 the header declares what the footer keeps. In version 1.0 nothing is declared,
and the same field is open content. -/
theorem ends_written_declared :
    let v1 : SchemaReader := ⟨.standard, .v1⟩
    let v2 : SchemaReader := ⟨.standard, .v2⟩
    (∃ h, v1.readHeader declaringHeader true = .ok h ∧ h.reserved = .none ∧
      h.openContent.map (·.name) = ["foo", "user_reserved_fields"] ∧
      v1.readHeader (Writer.headerElement .v1 h) false = .ok h) ∧
    v2.readHeader declaringHeader true = .ok declaringRead ∧
      v2.readHeader (Writer.headerElement .v2 declaringRead) false = .ok declaringRead ∧
      Reader.footer { v2.context false with declared := declaringRead.reserved } declaredFooter =
        .ok ⟨[⟨"bar", .int 2⟩]⟩ ∧
      v2.readSchema [.symbol "$ion_schema_2_0", Writer.headerElement .v2 declaringRead,
        Writer.footerElement ⟨[⟨"bar", .int 2⟩]⟩] false =
          .ok ⟨none, .v2, [.header declaringRead, .footer ⟨[⟨"bar", .int 2⟩]⟩]⟩ := by
  intro v1 v2
  have undeclared : v1.readHeader declaringHeader true = .ok _ := rfl
  have read : v2.readHeader declaringHeader true = .ok declaringRead := rfl
  have footer : Reader.footer { v2.context true with declared := declaringRead.reserved }
      declaredFooter = .ok ⟨[⟨"bar", .int 2⟩]⟩ := rfl
  have whole : v2.readSchema [.symbol "$ion_schema_2_0", declaringHeader, declaredFooter] true =
      .ok ⟨none, .v2, [.header declaringRead, .footer ⟨[⟨"bar", .int 2⟩]⟩]⟩ := rfl
  obtain ⟨again, ends, document⟩ := v2.ends_written read false
  exact ⟨⟨_, undeclared, rfl, rfl, (v1.ends_written undeclared false).1⟩, read, again,
    ends _ _ footer, document [] [] _ _ _ whole rfl⟩

end Isl
