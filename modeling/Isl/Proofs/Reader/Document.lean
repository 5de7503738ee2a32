import Mathlib.Data.List.Forall2
import Isl.Proofs.Reader.Header
import Isl.Proofs.Reader.Type
import Isl.Reader.Document
/-!
# The documents that a read accepts

Behind the marker every value that is accepted adds one item (`accepted?_bodyItem_header` and its
siblings, one for each kind). What stands in front of the marker adds nothing
(`accepted?_itemsFrom_front`).
-/
namespace Isl.Reader

/-! ## Named types -/

theorem accepted?_namedType {e : Element} {fs : List Field} (struct : e.struct? = some fs)
    (ctx : Context) (path : TreePath) :
    accepted? (namedType ctx path e) =
      if e.annotations == ["type"] && !Field.has fs "occurs" then
        (requiredField fs "name" .symbol e).toOption.bind fun name =>
          (accepted? (definitionParts ctx path fs)).map fun p => ⟨textOf name, p.definition⟩
      else none := by
  have rest (name : Element) : Steady (typeDefinition ctx path fs >>= fun d =>
      (pure ⟨textOf name, d⟩ : Read NamedType)) :=
    steady_bind (steady_typeDefinition ctx path fs) fun _ => steady_pure _
  unfold namedType
  rw [struct]
  dsimp only
  rw [accepted?_require_bind fun _ => steady_bind (steady_lift _) fun _ =>
      steady_bind (steady_lift _) fun name => rest name,
    accepted?_require_bind fun _ => steady_bind (steady_lift _) fun name => rest name,
    accepted?_lift_bind fun name => rest name]
  have parts (name : Element) : accepted? (typeDefinition ctx path fs >>= fun d =>
      (pure ⟨textOf name, d⟩ : Read NamedType)) =
      (accepted? (definitionParts ctx path fs)).map fun p => ⟨textOf name, p.definition⟩ := by
    rw [accepted?_bind_pure, typeDefinition, accepted?_bind_pure, Option.map_map]
    rfl
  simp only [parts]
  cases e.annotations == ["type"] <;> cases Field.has fs "occurs" <;> rfl

/-! ## Items -/

theorem steady_itemsFrom (d : Dialect) (i : Nat) (p : Progress) (es : List Element) :
    Steady (itemsFrom d i p es) := by
  induction es generalizing i p with
  | nil => exact steady_pure _
  | cons e es ih =>
    rw [itemsFrom]
    refine steady_bind (steady_item d p _ e) fun q => ?_
    split
    · exact steady_pure _
    · exact ih (i + 1) q

/-- What goes on behind an item. -/
theorem steady_others (d : Dialect) (i : Nat) (es : List Element) (q : Progress) :
    Steady (if q.stopped then pure q else itemsFrom d (i + 1) q es) := by
  split
  · exact steady_pure _
  · exact steady_itemsFrom d (i + 1) q es

theorem accepted?_itemsFrom_nil (d : Dialect) (i : Nat) (p : Progress) :
    accepted? (itemsFrom d i p []) = some p := by
  rw [itemsFrom, accepted?_pure]

theorem accepted?_itemsFrom_cons (d : Dialect) (i : Nat) (p : Progress) (e : Element)
    (es : List Element) :
    accepted? (itemsFrom d i p (e :: es)) =
      (accepted? (item d p (TreePath.root.index i) e)).bind fun q =>
        if q.stopped then some q else accepted? (itemsFrom d (i + 1) q es) := by
  rw [itemsFrom, accepted?_bind (steady_others d i es)]
  congr 1
  funext q
  split <;> rfl

/-- Reads that take alike steps over values that go together end alike, or both break off. -/
theorem rel_itemsFrom {R : Progress → Progress → Prop} {E : Element → Element → Prop} {d : Dialect}
    (step : ∀ {p q : Progress} {e e' : Element}, R p q → E e e' → ∀ path,
      Option.Rel R (accepted? (item d p path e)) (accepted? (item d q path e')))
    (stopped : ∀ {p q : Progress}, R p q → p.stopped = q.stopped) {es es' : List Element}
    (each : List.Forall₂ E es es') {p q : Progress} (start : R p q) (i : Nat) :
    Option.Rel R (accepted? (itemsFrom d i p es)) (accepted? (itemsFrom d i q es')) := by
  induction each generalizing i p q with
  | nil =>
    rw [accepted?_itemsFrom_nil, accepted?_itemsFrom_nil]
    exact .some start
  | cons first _ ih =>
    rw [accepted?_itemsFrom_cons, accepted?_itemsFrom_cons]
    have next := step start first (TreePath.root.index i)
    generalize accepted? (item d p _ _) = o, accepted? (item d q _ _) = o' at next
    cases next with
    | none => exact .none
    | some next =>
      rw [Option.bind_some, Option.bind_some, stopped next]
      split
      · exact .some next
      · exact ih next (i + 1)

theorem any_isMarker_of {E : Element → Element → Prop}
    (same : ∀ e e', E e e' → isMarker e = isMarker e') {es es' : List Element}
    (each : List.Forall₂ E es es') : es.any isMarker = es'.any isMarker := by
  induction each with
  | nil => rfl
  | cons first _ ih => rw [List.any_cons, List.any_cons, same _ _ first, ih]

theorem accepted?_report_bind {α : Type} (ctx : Context) (path : TreePath) (fault : ReadFault)
    (a : α) : accepted? (report ctx path fault >>= fun _ => pure a) = none := by
  rw [accepted?_bind_pure, accepted?_report]
  rfl

/-- Behind the marker neither a marker nor anything behind the footer is accepted. -/
theorem accepted?_item {d : Dialect} {p : Progress} (behind : p.place ≠ .beforeMarker)
    (path : TreePath) (e : Element) :
    accepted? (item d p path e) =
      if isMarker e || p.place == .afterFooter then none
      else accepted? (bodyItem p path e) := by
  unfold item
  cases marker : isMarker e with
  | true =>
    simp only [if_true, Bool.true_or]
    unfold markerItem
    rw [if_neg behind, accepted?_report_bind]
  | false =>
    cases place : p.place with
    | beforeMarker => exact absurd place behind
    | afterFooter => exact accepted?_report_bind _ _ _ _
    | _ => rfl

section
variable (p : Progress) (path : TreePath) {e : Element}

/-- A header stands in front of the types. -/
theorem accepted?_bodyItem_header (header : isAnnotatedStruct e "schema_header" = true) :
    accepted? (bodyItem p path e) =
      if p.place = .beforeHeader then
        (accepted? (headerDraft p.context path e)).bind fun draft =>
          (draft.close p.context.vocabulary).toOption.map fun h =>
            ⟨{ p.context with declared := draft.reserved }, .types, p.items ++ [.header h],
              p.stopped⟩
      else none := by
  unfold bodyItem
  rw [if_pos header]
  split
  · rw [accepted?_bind_pure]
    unfold headerItem
    rw [accepted?_bind, accepted?_catching]
    · cases accepted? (headerDraft p.context path e) with
      | none => rfl
      | some draft =>
        simp only [Option.map_some, Option.bind_some]
        rw [accepted?_bind_pure, accepted?_catching, accepted?_lift]
        cases (draft.close p.context.vocabulary).toOption <;> rfl
    · intro draft
      cases draft with
      | none => exact steady_pure _
      | some draft =>
        exact steady_bind (steady_catching _ _ (steady_lift _)) fun _ => steady_pure _
  · exact accepted?_report_bind _ _ _ _

theorem accepted?_bodyItem_type (noHeader : isAnnotatedStruct e "schema_header" = false)
    (type : isAnnotatedStruct e "type" = true) :
    accepted? (bodyItem p path e) =
      (accepted? (namedType p.context path e)).map fun t =>
        ⟨p.context, .types, p.items ++ [.type t], p.stopped⟩ := by
  unfold bodyItem
  rw [if_neg (by simp [noHeader]), if_pos type, accepted?_bind_pure, accepted?_catching]
  cases accepted? (namedType p.context path e) <;> rfl

theorem accepted?_bodyItem_footer (noHeader : isAnnotatedStruct e "schema_header" = false)
    (noType : isAnnotatedStruct e "type" = false)
    (footer : isAnnotatedStruct e "schema_footer" = true) :
    accepted? (bodyItem p path e) =
      (Reader.footer p.context e).toOption.map fun f =>
        ⟨p.context, .afterFooter, p.items ++ [.footer f], p.stopped⟩ := by
  unfold bodyItem
  rw [if_neg (by simp [noHeader]), if_neg (by simp [noType]), if_pos footer, accepted?_bind_pure,
    accepted?_catching, accepted?_lift]
  cases Reader.footer p.context e <;> rfl

theorem accepted?_bodyItem_open (noHeader : isAnnotatedStruct e "schema_header" = false)
    (noType : isAnnotatedStruct e "type" = false)
    (noFooter : isAnnotatedStruct e "schema_footer" = false) :
    accepted? (bodyItem p path e) =
      if e.annotations.any p.context.vocabulary.isReserved then none
      else some (p.add [.openContent e]) := by
  unfold bodyItem
  rw [if_neg (by simp [noHeader]), if_neg (by simp [noType]), if_neg (by simp [noFooter])]
  split
  · exact accepted?_report_bind _ _ _ _
  · rfl

end

/-- What stands in front of the marker is passed over, and what stands behind it is read in the
version that it names. -/
theorem accepted?_itemsFrom_front {d : Dialect} {ctx : Context} {i : Nat} {es : List Element}
    {q : Progress} (marked : es.any isMarker = true)
    (h : accepted? (itemsFrom d i ⟨ctx, .beforeMarker, [], false⟩ es) = some q) :
    ∃ front marker version j rest, es = front ++ marker :: rest ∧
      (∀ e ∈ front, isMarker e = false) ∧ isMarker marker = true ∧
      IslVersion.ofMarker? (marker.symbol?.getD "") = some version ∧
      accepted? (itemsFrom d j
        ⟨{ ctx with vocabulary := d.vocabulary version }, .beforeHeader, [], false⟩ rest) =
          some q := by
  induction es generalizing i with
  | nil => cases marked
  | cons e es ih =>
    rw [accepted?_itemsFrom_cons] at h
    obtain ⟨p, first, h⟩ := Option.bind_eq_some_iff.1 h
    unfold item at first
    cases marker : isMarker e with
    | true =>
      rw [marker, if_pos rfl] at first
      unfold markerItem at first
      rw [if_pos rfl] at first
      split at first
      · rename_i version names
        injection first with first
        subst first
        exact ⟨[], e, version, i + 1, es, rfl, nofun, marker, names, h⟩
      · rw [accepted?_report_bind] at first
        cases first
    | false =>
      rw [List.any_cons, marker, Bool.false_or] at marked
      rw [marker, if_neg (by decide)] at first
      injection first with first
      subst first
      obtain ⟨front, m, version, j, rest, rfl, none, own, names, behind⟩ := ih marked h
      refine ⟨e :: front, m, version, j, rest, rfl, ?_, own, names, behind⟩
      intro f mem
      rcases List.mem_cons.1 mem with rfl | mem
      · exact marker
      · exact none f mem

end Isl.Reader
