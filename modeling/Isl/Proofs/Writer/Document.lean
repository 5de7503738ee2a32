import Isl.Proofs.Reader.Document
import Isl.Proofs.Writer.Header
import Isl.Proofs.Writer.Read
/-!
# Documents are written to be read

Reading a document and reading what it is written as are walked side by side: at each item both
readers stand in the same place with the same words declared, and what is read again is an equal
item if the item lasts.

* `SchemaDocument.lasts`: no type of the document has a type in place that is taken for an import,
  and none loses a closed `fields` constraint;
* `SchemaReader.readSchema_written_iff`: exactly the documents that last come back equal.
-/
namespace Isl

def SchemaItem.lasts (version : IslVersion) : SchemaItem → Bool
  | .type t => t.definition.lasts version
  | _ => true

def SchemaItem.weight : SchemaItem → Nat
  | .type t => t.definition.weight
  | _ => 0

/-- The document comes back equal when it is written and read again. -/
def SchemaDocument.lasts (d : SchemaDocument) : Bool := d.items.all (SchemaItem.lasts d.version)

def itemGauge (version : IslVersion) : Gauge SchemaItem :=
  ⟨SchemaItem.lasts version, SchemaItem.same, SchemaItem.weight⟩

theorem SchemaItem.weight_of_same {s t : SchemaItem} (h : s.same t = true) :
    t.weight = s.weight := by
  cases s <;> cases t <;> simp only [SchemaItem.same, reduceCtorEq] at h
  case type.type s t =>
    rw [NamedType.same, Bool.and_eq_true] at h
    exact TypeDefinition.weight_of_same h.2
  all_goals rfl

theorem SchemaItem.weight_of_sameAll {ss ts : List SchemaItem}
    (h : SchemaItem.sameAll ss ts = true) :
    Gauge.weightEach SchemaItem.weight ts = Gauge.weightEach SchemaItem.weight ss := by
  induction ss generalizing ts with
  | nil =>
    cases ts with
    | nil => rfl
    | cons t ts => cases h
  | cons s ss ih =>
    cases ts with
    | nil => cases h
    | cons t ts =>
      rw [SchemaItem.sameAll, Bool.and_eq_true] at h
      rw [Gauge.weightEach, Gauge.weightEach, SchemaItem.weight_of_same h.1, ih h.2]

theorem sameAll_eq_sameEach (ss ts : List SchemaItem) :
    SchemaItem.sameAll ss ts = Gauge.sameEach SchemaItem.same ss ts :=
  (SchemaItem.sameAll_eq ss ts).trans (Gauge.sameEach_eq SchemaItem.same ss ts).symm

namespace Writer
open Reader

/-! ## Types -/

theorem namedType_returns {ctx : Context} {failFast : Bool} {path : TreePath} {e : Element}
    {t : NamedType} (h : accepted? (namedType { ctx with failFast } path e) = some t) :
    DefinitionReturns ctx t.definition := by
  cases struct : e.struct? with
  | none =>
    unfold namedType at h
    rw [struct] at h
    cases h
  | some fs =>
    rw [accepted?_namedType struct] at h
    split at h
    · obtain ⟨name, _, h⟩ := Option.bind_eq_some_iff.1 h
      obtain ⟨p, read, rfl⟩ := Option.map_eq_some_iff.1 h
      exact (returns_definitionParts path fs read).definition
    · cases h

/-- A type is read again under its name. -/
theorem namedType_written {ctx : Context} {t : NamedType}
    (returns : DefinitionReturns ctx t.definition) (path : TreePath) :
    ∃ again : Option NamedType,
      accepted? (namedType ctx path (namedTypeElement ctx.version t)) = again ∧
      (itemGauge ctx.version).Reread (.type t) (again.map .type) := by
  refine ⟨_, rfl, ?_⟩
  have fields : (namedTypeElement ctx.version t).struct? =
      some (⟨"name", .symbol t.name⟩ :: definitionFields ctx.version t.definition) := rfl
  have countless : Field.has (⟨"name", .symbol t.name⟩ ::
      definitionFields ctx.version t.definition) "occurs" = false := by
    rw [has_cons, returns.uncounted]
    rfl
  have named (owner : Element) : requiredField (⟨"name", .symbol t.name⟩ ::
      definitionFields ctx.version t.definition) "name" .symbol owner = .ok (.symbol t.name) := by
    have single : Field.getAll (⟨"name", .symbol t.name⟩ ::
        definitionFields ctx.version t.definition) "name" = [.symbol t.name] := by
      have none := getAll_of_not_has returns.unnamed
      simpa [Field.getAll] using none
    have shape : Shape.symbol.admits (.symbol t.name) = true := rfl
    simp [requiredField, optionalField, single, shape, bind, Except.bind]
  rw [accepted?_namedType fields, countless, if_pos (by rfl), named,
    accepted?_definitionParts_cons, accepted?_definitionField_skipped (.inl rfl)]
  have around := (returns.again path).map (h := itemGauge ctx.version)
    (fun d => .type ⟨t.name, d⟩) 0
    (by simp [itemGauge, definitionGauge, SchemaItem.lasts])
    (fun b => by simp [itemGauge, definitionGauge, SchemaItem.same, NamedType.same])
    (fun b => by simp [itemGauge, definitionGauge, SchemaItem.weight])
  have skipped : Parts.append .empty = id := funext Parts.empty_append
  rw [Option.map_map] at around
  simp only [Except.toOption, Option.bind_some, skipped, Option.map_id, id, Option.map_map]
  exact around

/-! ## Items -/

/-- A footer is its open content, so it is written as the value that it was read from. -/
theorem footerElement_eq {ctx : Context} {e : Element} {f : SchemaFooter}
    (h : Reader.footer ctx e = .ok f) : footerElement f = e := by
  unfold Reader.footer at h
  split at h
  · cases h
  · rename_i fs struct
    obtain ⟨_, marked, h⟩ := check_bind_eq_ok_iff.1 h
    obtain ⟨_, _, h⟩ := check_bind_eq_ok_iff.1 h
    injection h with h
    subst h
    have marked := eq_of_beq (require_eq_ok_iff.1 marked)
    obtain ⟨annotations, value⟩ := e
    cases value <;> cases struct
    exact congrArg (Element.mk · (.struct fs)) marked.symm

theorem footer_written {ctx : Context} {e : Element} {f : SchemaFooter}
    (h : Reader.footer ctx e = .ok f) : Reader.footer ctx (footerElement f) = .ok f := by
  rw [footerElement_eq h, h]

/-- The same place and the same declared words, with other items and another way to fail. -/
def beside (p : Progress) (failFast : Bool) (items : List SchemaItem) : Progress :=
  ⟨{ p.context with failFast }, p.place, items, p.stopped⟩

/-- What a step that adds an item leaves behind, and what comes of the item when a reader beside
reads it again. -/
structure Adds (p q : Progress) (s : SchemaItem) : Prop where
  items : q.items = p.items ++ [s]
  version : q.version = p.version
  behind : q.place ≠ .beforeMarker
  stopped : q.stopped = p.stopped
  plain : isMarker (itemElement p.version s) = false
  again : ∀ failFast before path, ∃ again : Option SchemaItem,
    accepted? (bodyItem (beside p failFast before) path (itemElement p.version s)) =
      again.map (fun t => beside q failFast (before ++ [t])) ∧
    (itemGauge p.version).Reread s again

theorem header_adds {p : Progress} {path : TreePath} {e : Element} {q : Progress}
    (header : isAnnotatedStruct e "schema_header" = true)
    (h : accepted? (bodyItem p path e) = some q) : ∃ s, Adds p q s := by
  rw [accepted?_bodyItem_header p path header] at h
  split at h
  · rename_i place
    obtain ⟨draft, read, h⟩ := Option.bind_eq_some_iff.1 h
    obtain ⟨k, closed, rfl⟩ := Option.map_eq_some_iff.1 h
    obtain ⟨_, _, _, declared⟩ := of_headerDraft read
    obtain ⟨shape, same⟩ := header_ok declared (toOption_eq_some_iff.1 closed)
    refine ⟨.header k, rfl, rfl, by simp, rfl, rfl, fun failFast before path' => ?_⟩
    obtain ⟨d, again, reserved, close⟩ := header_written shape
      { p.context with failFast } rfl path'
    refine ⟨some (.header k), ?_, Gauge.Reread.self rfl (by
      simpa [itemGauge, SchemaItem.same] using k.same_self)⟩
    rw [accepted?_bodyItem_header _ _ (by rfl), if_pos (by exact place)]
    have read : accepted? (headerDraft (beside p failFast before).context path'
      (itemElement p.version (.header k))) = some d := again
    have close : d.close (beside p failFast before).context.vocabulary = .ok k := close
    rw [read, Option.bind_some, close, reserved, same]
    rfl
  · cases h

theorem type_adds {p : Progress} {path : TreePath} {e : Element} {q : Progress}
    (noHeader : isAnnotatedStruct e "schema_header" = false)
    (type : isAnnotatedStruct e "type" = true)
    (h : accepted? (bodyItem p path e) = some q) : ∃ s, Adds p q s := by
  rw [accepted?_bodyItem_type p path noHeader type] at h
  obtain ⟨t, read, rfl⟩ := Option.map_eq_some_iff.1 h
  refine ⟨.type t, rfl, rfl, by simp, rfl, rfl, fun failFast before path' => ?_⟩
  have returns : DefinitionReturns { p.context with failFast } t.definition :=
    namedType_returns read
  obtain ⟨again, found, reread⟩ := namedType_written returns path'
  refine ⟨again.map .type, ?_, reread⟩
  rw [accepted?_bodyItem_type _ _ (by rfl) (by rfl)]
  have found : accepted? (namedType (beside p failFast before).context path'
    (itemElement p.version (.type t))) = again := found
  rw [found, Option.map_map]
  rfl

theorem footer_adds {p : Progress} {path : TreePath} {e : Element} {q : Progress}
    (noHeader : isAnnotatedStruct e "schema_header" = false)
    (noType : isAnnotatedStruct e "type" = false)
    (footer : isAnnotatedStruct e "schema_footer" = true)
    (h : accepted? (bodyItem p path e) = some q) : ∃ s, Adds p q s := by
  rw [accepted?_bodyItem_footer p path noHeader noType footer] at h
  obtain ⟨f, read, rfl⟩ := Option.map_eq_some_iff.1 h
  refine ⟨.footer f, rfl, rfl, by simp, rfl, rfl, fun failFast before path' => ?_⟩
  refine ⟨some (.footer f), ?_, Gauge.Reread.self rfl (by
    simpa [itemGauge, SchemaItem.same] using f.same_self)⟩
  rw [accepted?_bodyItem_footer _ _ (by rfl) (by rfl) (by rfl)]
  have read : Reader.footer (beside p failFast before).context
      (itemElement p.version (.footer f)) = .ok f := footer_written (toOption_eq_some_iff.1 read)
  rw [read]
  rfl

theorem open_adds {p : Progress} {path : TreePath} {e : Element} {q : Progress}
    (plain : isMarker e = false) (place : p.place ≠ .beforeMarker)
    (noHeader : isAnnotatedStruct e "schema_header" = false)
    (noType : isAnnotatedStruct e "type" = false)
    (noFooter : isAnnotatedStruct e "schema_footer" = false)
    (h : accepted? (bodyItem p path e) = some q) : ∃ s, Adds p q s := by
  rw [accepted?_bodyItem_open p path noHeader noType noFooter] at h
  split at h
  · cases h
  · rename_i unreserved
    injection h with h
    subst h
    refine ⟨.openContent e, rfl, rfl, place, rfl, plain, fun failFast before path' => ?_⟩
    refine ⟨some (.openContent e), ?_, Gauge.Reread.self rfl (by
      simpa [itemGauge, SchemaItem.same] using e.same_self)⟩
    rw [itemElement, accepted?_bodyItem_open _ _ noHeader noType noFooter,
      if_neg (by exact unreserved)]
    rfl

/-- Every item that is accepted behind the marker is added, and read again beside. -/
theorem item_adds {d : Dialect} {p q : Progress} {path : TreePath} {e : Element}
    (place : p.place ≠ .beforeMarker) (h : accepted? (item d p path e) = some q) :
    p.place ≠ .afterFooter ∧ ∃ s, Adds p q s := by
  rw [accepted?_item place] at h
  split at h
  · cases h
  · rename_i allowed
    simp only [Bool.or_eq_true, beq_iff_eq, not_or, Bool.not_eq_true] at allowed
    refine ⟨allowed.2, ?_⟩
    cases header : isAnnotatedStruct e "schema_header" with
    | true => exact header_adds header h
    | false =>
      cases type : isAnnotatedStruct e "type" with
      | true => exact type_adds header type h
      | false =>
        cases footer : isAnnotatedStruct e "schema_footer" with
        | true => exact footer_adds header type footer h
        | false => exact open_adds allowed.1 place header type footer h

/-! ## Documents -/

/-- The items behind a place are read again one by one by a reader beside. -/
theorem items_return {d : Dialect} {es : List Element} {p q : Progress} {i : Nat}
    (place : p.place ≠ .beforeMarker) (running : p.stopped = false)
    (h : accepted? (itemsFrom d i p es) = some q) :
    q.version = p.version ∧ ∃ ss, q.items = p.items ++ ss ∧
      ∀ failFast before j, ∃ again : Option (List SchemaItem),
        (accepted? (itemsFrom d j (beside p failFast before)
          (ss.map (itemElement p.version)))).map (fun r => (r.version, r.items)) =
            again.map (fun ts => (p.version, before ++ ts)) ∧
        (itemGauge p.version).list.Reread ss again := by
  induction es generalizing p i with
  | nil =>
    rw [accepted?_itemsFrom_nil] at h
    injection h with h
    subst h
    refine ⟨rfl, [], by simp, fun failFast before j => ⟨some [], ?_, Gauge.Reread.nil _⟩⟩
    rw [List.map_nil, accepted?_itemsFrom_nil]
    simp [beside, Progress.version, Context.version]
  | cons e es ih =>
    rw [accepted?_itemsFrom_cons] at h
    obtain ⟨p', first, h⟩ := Option.bind_eq_some_iff.1 h
    obtain ⟨noFooter, s, adds⟩ := item_adds place first
    have running' : p'.stopped = false := adds.stopped.trans running
    rw [running', if_neg (by decide)] at h
    obtain ⟨version, ss, items, returns⟩ := ih adds.behind running' h
    rw [adds.version] at version returns
    refine ⟨version, s :: ss, by rw [items, adds.items, List.append_assoc]; rfl,
      fun failFast before j => ?_⟩
    obtain ⟨again, read, reread⟩ := adds.again failFast before (TreePath.root.index j)
    have here : accepted? (item d (beside p failFast before) (TreePath.root.index j)
        (itemElement p.version s)) =
          again.map (fun t => beside p' failFast (before ++ [t])) := by
      rw [accepted?_item (by exact place), adds.plain, Bool.false_or,
        if_neg (by simpa [beside] using noFooter), read]
    have still (t : SchemaItem) : (beside p' failFast (before ++ [t])).stopped = false := running'
    rw [List.map_cons, accepted?_itemsFrom_cons, here]
    cases again with
    | none =>
      obtain ⟨rest, _, others⟩ := returns failFast before (j + 1)
      exact ⟨none, rfl, reread.cons others⟩
    | some t =>
      obtain ⟨rest, tail, others⟩ := returns failFast (before ++ [t]) (j + 1)
      refine ⟨rest.map (t :: ·), ?_, reread.cons others⟩
      rw [Option.map_some, Option.bind_some, still, if_neg (by decide), tail]
      cases rest <;> simp

theorem document_eq_ok_iff {d : Dialect} {values : List Element} {failFast : Bool}
    {doc : SchemaDocument} :
    document d values failFast = .ok doc ↔
      ∃ q, accepted? (itemsFrom d 0 (beginning d values failFast) values) = some q ∧
        doc = ⟨none, q.version, q.items⟩ := by
  unfold document
  constructor
  · intro h
    cases read : finish .root (itemsFrom d 0 (beginning d values failFast) values) with
    | error errors =>
      rw [read] at h
      cases h
    | ok q =>
      rw [read] at h
      injection h with h
      exact ⟨q, (finish_eq_ok_iff _ _ _).1 read, h.symm⟩
  · rintro ⟨q, read, rfl⟩
    rw [(finish_eq_ok_iff _ _ _).2 read]
    rfl

/-- Every document starts behind its marker, or without one in version 1.0. -/
theorem document_start {d : Dialect} {values : List Element} {failFast : Bool}
    {doc : SchemaDocument} (h : document d values failFast = .ok doc) :
    ∃ version j rest q, accepted? (itemsFrom d j
      ⟨d.context version failFast, .beforeHeader, [], false⟩ rest) = some q ∧
      doc = ⟨none, q.version, q.items⟩ := by
  obtain ⟨q, read, rfl⟩ := document_eq_ok_iff.1 h
  rw [beginning] at read
  split at read
  · rename_i marked
    obtain ⟨_, _, version, j, rest, -, -, -, -, behind⟩ := accepted?_itemsFrom_front marked read
    exact ⟨version, j, rest, q, behind, rfl⟩
  · exact ⟨.v1, 0, values, q, read, rfl⟩

theorem isMarker_marker (version : IslVersion) :
    isMarker (.symbol version.marker) = true := by
  cases version <;> decide +kernel

/-- Values behind the marker of a version are read in that version. -/
theorem document_marked_iff {d : Dialect} {version : IslVersion} {es : List Element}
    {failFast : Bool} {doc : SchemaDocument} :
    document d (.symbol version.marker :: es) failFast = .ok doc ↔
      ∃ q, accepted? (itemsFrom d 1 ⟨d.context version failFast, .beforeHeader, [], false⟩ es) =
        some q ∧ doc = ⟨none, q.version, q.items⟩ := by
  have marked : (Element.symbol version.marker :: es).any isMarker = true := by
    rw [List.any_cons, isMarker_marker, Bool.true_or]
  have name : (Element.symbol version.marker).symbol?.getD "" = version.marker := rfl
  rw [document_eq_ok_iff, beginning, if_pos marked, accepted?_itemsFrom_cons, item,
    if_pos (isMarker_marker _), markerItem, if_pos rfl, name, IslVersion.ofMarker?_marker]
  rfl

end Writer

/-- Writing is the inverse of reading for the documents that last, and for no others: what such a
document is written as is accepted by the reader that the document came from, and gives an equal
document. -/
theorem SchemaReader.readSchema_written_iff (r : SchemaReader) {values : List Element}
    {failFast : Bool} {d : SchemaDocument} (h : r.readSchema values failFast = .ok d)
    (failFast' : Bool) :
    (∃ e, r.readSchema (Writer.documentElements d) failFast' = .ok e ∧ d.same e = true) ↔
      d.lasts = true := by
  obtain ⟨version, j, rest, q, read, rfl⟩ := Writer.document_start h
  obtain ⟨own, ss, items, returns⟩ := Writer.items_return (by simp) rfl read
  obtain ⟨again, found, reread⟩ := returns failFast' [] 1
  have same : q.version = version := own
  rw [List.nil_append] at items
  subst same
  rw [items]
  have written (e : SchemaDocument) :
      r.readSchema (Writer.documentElements ⟨none, q.version, ss⟩) failFast' = .ok e ↔
        ∃ ts, again = some ts ∧ e = ⟨none, q.version, ts⟩ := by
    rw [readSchema, Writer.documentElements, Writer.document_marked_iff]
    constructor
    · rintro ⟨q', read', rfl⟩
      have whole := congrArg (Option.map fun p => (p.version, p.items)) read'
      obtain ⟨ts, rfl, pair⟩ := Option.map_eq_some_iff.1 (found.symm.trans whole)
      rw [Prod.mk.injEq] at pair
      exact ⟨ts, rfl, by rw [← pair.1, ← pair.2]; rfl⟩
    · rintro ⟨ts, rfl, rfl⟩
      obtain ⟨q', read', pair⟩ := Option.map_eq_some_iff.1 found
      rw [Prod.mk.injEq] at pair
      exact ⟨q', read', by rw [pair.1, pair.2]; rfl⟩
  constructor
  · rintro ⟨e, accepted, equal⟩
    obtain ⟨ts, rfl, rfl⟩ := (written e).1 accepted
    have alike : SchemaItem.sameAll ss ts = true := by
      simpa [SchemaDocument.same] using equal
    have weights := SchemaItem.weight_of_sameAll alike
    cases lasts : SchemaDocument.lasts ⟨none, q.version, ss⟩ with
    | true => rfl
    | false =>
      have less := reread.lighter lasts ts rfl
      simp only [Gauge.list, itemGauge, weights] at less
      exact absurd less (Nat.lt_irrefl _)
  · intro lasts
    obtain ⟨ts, rfl, alike, _⟩ := reread.equal lasts
    refine ⟨_, (written _).2 ⟨ts, rfl, rfl⟩, ?_⟩
    have all : SchemaItem.sameAll ss ts = true := (sameAll_eq_sameEach ss ts).trans alike
    simp [SchemaDocument.same, all]

/-- `type::{ name: a, ordered_elements: [{ type: t, occurs: optional }] }` -/
def optionalElement : List Element :=
  [⟨["type"], .struct [⟨"name", .symbol "a"⟩,
    ⟨"ordered_elements", .list [.struct [⟨"type", .symbol "t"⟩, ⟨"occurs", .symbol "optional"⟩]]⟩]⟩]

/-- `type::{ name: a, ordered_elements: [{ occurs: required, id: "b.isl", type: t }] }` -/
def markedElement : List Element :=
  [⟨["type"], .struct [⟨"name", .symbol "a"⟩,
    ⟨"ordered_elements", .list [.struct [⟨"occurs", .symbol "required"⟩, ⟨"id", .string "b.isl"⟩,
      ⟨"type", .symbol "t"⟩]]⟩]⟩]

/-- `type::{ name: a, fields: {}, fields: { x: int }, content: closed }` -/
def closedWithoutFields : List Element :=
  [⟨["type"], .struct [⟨"name", .symbol "a"⟩, ⟨"fields", .struct []⟩,
    ⟨"fields", .struct [⟨"x", .symbol "int"⟩]⟩, ⟨"content", .symbol "closed"⟩]⟩]

/-- An optional element comes back. One that has an open field `id` beside the occurrence that holds
by default does not, and neither does a closed constraint without fields in front of another. -/
theorem readSchema_written_cases :
    (∃ d, SchemaReader.standard.readSchema optionalElement true = .ok d ∧
      ∃ e, SchemaReader.standard.readSchema (Writer.documentElements d) true = .ok e ∧
        d.same e = true) ∧
    (∃ d, SchemaReader.standard.readSchema markedElement true = .ok d ∧
      ¬∃ e, SchemaReader.standard.readSchema (Writer.documentElements d) true = .ok e ∧
        d.same e = true) ∧
    (∃ d, SchemaReader.standard.readSchema closedWithoutFields true = .ok d ∧
      ¬∃ e, SchemaReader.standard.readSchema (Writer.documentElements d) true = .ok e ∧
        d.same e = true) := by
  have plain : SchemaReader.standard.readSchema optionalElement true =
      .ok ⟨none, .v1, [.type ⟨"a", ⟨[.orderedElements [⟨.optional,
        .inline ⟨[.type (.reference "t" .unmarked)], []⟩ .unmarked⟩]], []⟩⟩]⟩ := rfl
  have marked : SchemaReader.standard.readSchema markedElement true =
      .ok ⟨none, .v1, [.type ⟨"a", ⟨[.orderedElements [⟨.required,
        .inline ⟨[.type (.reference "t" .unmarked)], [⟨"id", .string "b.isl"⟩]⟩ .unmarked⟩]],
          []⟩⟩]⟩ := rfl
  have closed : SchemaReader.standard.readSchema closedWithoutFields true =
      .ok ⟨none, .v1, [.type ⟨"a", ⟨[.fields [] true,
        .fields [⟨"x", ⟨.optional, .reference "int" .unmarked⟩⟩] false], []⟩⟩]⟩ := rfl
  refine ⟨⟨_, plain, ?_⟩, ⟨_, marked, ?_⟩, ⟨_, closed, ?_⟩⟩
  · rw [SchemaReader.standard.readSchema_written_iff plain true]
    decide +kernel
  · rw [SchemaReader.standard.readSchema_written_iff marked true]
    decide +kernel
  · rw [SchemaReader.standard.readSchema_written_iff closed true]
    decide +kernel

end Isl
