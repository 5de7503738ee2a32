import Mathlib.Data.List.Forall2
import Isl.Proofs.Table
import Isl.Reader.Type
/-!
# Fields in order

Fields are sorted by putting each in its place. Their names are ascending then
(`ascending_sortFields`), and fields whose names are ascending stay as they are
(`sortFields_ascending`). Fields with distinct names are sorted in one way only, whatever order they
come in (`sortFields_eq_of_perm`).
-/
namespace Isl.Reader

theorem map_insertField (f : FieldArgument) (fs : List FieldArgument) :
    (insertField f fs).map (·.name) = NameSet.insert (fs.map (·.name)) f.name := by
  induction fs with
  | nil => rfl
  | cons g gs ih =>
    cases order : compare f.name g.name with
    | lt => simp only [insertField, order, List.map_cons, NameSet.insert]
    | eq =>
      have same : f.name = g.name := Std.compare_eq_iff_eq.1 order
      simp only [insertField, order, List.map_cons, NameSet.insert]
      rw [same]
    | gt => simp only [insertField, order, List.map_cons, NameSet.insert, ih]

theorem map_foldl_insertField (fs sorted : List FieldArgument) :
    (fs.foldl (fun sorted f => insertField f sorted) sorted).map (·.name) =
      (fs.map (·.name)).foldl NameSet.insert (sorted.map (·.name)) := by
  induction fs generalizing sorted with
  | nil => rfl
  | cons f fs ih => rw [List.foldl_cons, ih, map_insertField, List.map_cons, List.foldl_cons]

theorem ascending_sortFields (fs : List FieldArgument) :
    Ascending ((sortFields fs).map (·.name)) := by
  rw [sortFields, map_foldl_insertField]
  exact NameSet.ascending_ofList _

theorem insertField_last {f : FieldArgument} {fs : List FieldArgument}
    (h : ∀ g ∈ fs, compare g.name f.name = .lt) : insertField f fs = fs ++ [f] := by
  induction fs with
  | nil => rfl
  | cons g gs ih =>
    have gt : compare f.name g.name = .gt :=
      Std.OrientedCmp.gt_iff_lt.2 (h g (List.mem_cons_self ..))
    simp only [insertField, gt, List.cons_append]
    rw [ih fun k hk => h k (List.mem_cons_of_mem _ hk)]

theorem foldl_insertField {sorted : List FieldArgument} (fs : List FieldArgument)
    (h : Ascending ((sorted ++ fs).map (·.name))) :
    fs.foldl (fun sorted f => insertField f sorted) sorted = sorted ++ fs := by
  induction fs generalizing sorted with
  | nil => simp
  | cons f fs ih =>
    have before : ∀ g ∈ sorted, compare g.name f.name = .lt := by
      intro g hg
      rw [List.map_append] at h
      exact (List.pairwise_append.1 h).2.2 g.name (List.mem_map_of_mem hg) f.name
        (List.mem_map_of_mem (List.mem_cons_self ..))
    rw [List.foldl_cons, insertField_last before, ih (by simpa using h), List.append_assoc]
    rfl

/-- Fields in order stay as they are. -/
theorem sortFields_ascending {fs : List FieldArgument} (h : Ascending (fs.map (·.name))) :
    sortFields fs = fs := foldl_insertField fs h

theorem mem_insertField {f g : FieldArgument} {fs : List FieldArgument}
    (h : g ∈ insertField f fs) : g = f ∨ g ∈ fs := by
  induction fs with
  | nil => simpa [insertField] using h
  | cons k ks ih =>
    unfold insertField at h
    split at h
    · rcases List.mem_cons.1 h with rfl | h
      · exact .inr (List.mem_cons_self ..)
      · exact (ih h).imp_right (List.mem_cons_of_mem _)
    · exact (List.mem_cons.1 h).imp_right (List.mem_cons_of_mem _)
    · exact List.mem_cons.1 h

theorem mem_sortFields {g : FieldArgument} {fs : List FieldArgument} (h : g ∈ sortFields fs) :
    g ∈ fs := by
  have folded : ∀ (fs sorted : List FieldArgument),
      g ∈ fs.foldl (fun sorted f => insertField f sorted) sorted → g ∈ sorted ∨ g ∈ fs := by
    intro fs
    induction fs with
    | nil => exact fun _ h => .inl h
    | cons f fs ih =>
      intro sorted h
      rcases ih _ h with h | h
      · rcases mem_insertField h with rfl | h
        · exact .inr (List.mem_cons_self ..)
        · exact .inl h
      · exact .inr (List.mem_cons_of_mem _ h)
  rcases folded fs [] h with h | h
  · cases h
  · exact h

theorem sortFields_ne_nil {fs : List FieldArgument} (h : fs ≠ []) : sortFields fs ≠ [] := by
  obtain ⟨front, last, rfl⟩ := List.eq_nil_or_concat fs |>.resolve_left h
  intro empty
  have names := map_insertField last (sortFields front)
  rw [sortFields, List.concat_eq_append, List.foldl_append, List.foldl_cons,
    List.foldl_nil] at empty
  rw [sortFields, empty] at names
  exact NameSet.insert_ne_nil _ _ names.symm

/-! ## Fields in another order -/

theorem insertField_perm {f : FieldArgument} {fs : List FieldArgument}
    (fresh : f.name ∉ fs.map (·.name)) : (insertField f fs).Perm (f :: fs) := by
  induction fs with
  | nil => exact .refl _
  | cons g gs ih =>
    rw [List.map_cons, List.mem_cons, not_or] at fresh
    unfold insertField
    split
    · exact ((ih fresh.2).cons g).trans (.swap f g gs)
    · rename_i same
      exact absurd (Std.compare_eq_iff_eq.1 same) fresh.1
    · exact .refl _

theorem foldl_insertField_perm {fs sorted : List FieldArgument}
    (distinct : ((sorted ++ fs).map (·.name)).Nodup) :
    (fs.foldl (fun sorted f => insertField f sorted) sorted).Perm (sorted ++ fs) := by
  induction fs generalizing sorted with
  | nil => rw [List.append_nil]; exact .refl _
  | cons f fs ih =>
    have front : (f :: (sorted ++ fs)).Perm (sorted ++ f :: fs) := List.perm_middle.symm
    have apart : ((f :: (sorted ++ fs)).map (·.name)).Nodup :=
      (front.map (·.name)).nodup_iff.2 distinct
    have fresh : f.name ∉ sorted.map (·.name) := fun mem =>
      (List.nodup_cons.1 apart).1 (List.map_append ▸ List.mem_append_left _ mem)
    have insert : (insertField f sorted ++ fs).Perm (f :: (sorted ++ fs)) :=
      (insertField_perm fresh).append_right fs
    exact (ih ((insert.map (·.name)).nodup_iff.2 apart)).trans (insert.trans front)

/-- Fields with distinct names are all kept. -/
theorem sortFields_perm {fs : List FieldArgument} (distinct : (fs.map (·.name)).Nodup) :
    (sortFields fs).Perm fs := foldl_insertField_perm distinct

/-- Fields with distinct names are sorted in one way only. -/
theorem sortFields_eq_of_perm {fs gs : List FieldArgument} (distinct : (fs.map (·.name)).Nodup)
    (perm : fs.Perm gs) : sortFields fs = sortFields gs := by
  have sorted (hs : List FieldArgument) :
      (sortFields hs).Pairwise fun f g => compare f.name g.name = .lt :=
    List.pairwise_map.1 (ascending_sortFields hs)
  have distinct' : (gs.map (·.name)).Nodup := (perm.map (·.name)).nodup_iff.1 distinct
  refine List.Perm.eq_of_pairwise ?_ (sorted fs) (sorted gs)
    ((sortFields_perm distinct).trans (perm.trans (sortFields_perm distinct').symm))
  intro f g _ _ lt gt
  rw [Std.OrientedCmp.gt_iff_lt.2 gt] at lt
  cases lt

theorem forall₂_sortFields {R : FieldArgument → FieldArgument → Prop}
    (named : ∀ f g, R f g → f.name = g.name) {fs gs : List FieldArgument}
    (each : List.Forall₂ R fs gs) : List.Forall₂ R (sortFields fs) (sortFields gs) := by
  have insert {f g : FieldArgument} (first : R f g) {fs gs : List FieldArgument}
      (each : List.Forall₂ R fs gs) : List.Forall₂ R (insertField f fs) (insertField g gs) := by
    induction each with
    | nil => exact .cons first .nil
    | cons head tail ih =>
      unfold insertField
      rw [named _ _ first, named _ _ head]
      split
      · exact .cons head ih
      · exact .cons first tail
      · exact .cons first (.cons head tail)
  have fold {sorted sorted' : List FieldArgument} (front : List.Forall₂ R sorted sorted') :
      List.Forall₂ R (fs.foldl (fun sorted f => insertField f sorted) sorted)
        (gs.foldl (fun sorted f => insertField f sorted) sorted') := by
    induction each generalizing sorted sorted' with
    | nil => exact front
    | cons first _ ih => exact ih (insert first front)
  exact fold .nil

/-! ## Names that occur again -/

/-- No name occurs again exactly if the names are distinct. -/
theorem duplicates_eq_nil_iff (names : List String) : duplicates names = [] ↔ names.Nodup := by
  have walk : ∀ (names seen again : List String),
      (names.foldl (fun (found : List String × List String) name =>
        if found.1.contains name then (found.1, name :: found.2)
        else (name :: found.1, found.2)) (seen, again)).2 = [] ↔
          again = [] ∧ names.Nodup ∧ ∀ name ∈ names, name ∉ seen := by
    intro names
    induction names with
    | nil => simp
    | cons n ns ih =>
      intro seen again
      rw [List.foldl_cons]
      dsimp only
      cases known : seen.contains n with
      | true =>
        rw [List.contains_iff_mem] at known
        rw [if_pos rfl, ih]
        simp [known]
      | false =>
        have new : n ∉ seen := by simpa using known
        rw [if_neg (by decide), ih]
        grind
  rw [duplicates, List.reverse_eq_nil_iff]
  exact (walk names [] []).trans (by simp)

end Isl.Reader
