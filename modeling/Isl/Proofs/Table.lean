import Isl.Table
/-!
# Names in order

Sets of names and tables keep their names ascending, so a set is determined by its members and
putting the names of a set in again, one after the other, gives the set.
-/
namespace Isl

/-- Every name comes before those behind it. -/
def Ascending (names : List String) : Prop := names.Pairwise fun m n => compare m n = .lt

theorem Ascending.nodup {names : List String} (h : Ascending names) : names.Nodup := by
  refine List.Pairwise.imp ?_ h
  intro m n lt same
  simp [Std.compare_eq_iff_eq.2 same] at lt

namespace NameSet

theorem mem_insert {s : NameSet} {name n : String} : n ∈ s.insert name ↔ n = name ∨ n ∈ s := by
  induction s with
  | nil => simp [insert]
  | cons m rest ih =>
    unfold insert
    split
    · simp
    · rename_i same
      obtain rfl : name = m := Std.compare_eq_iff_eq.1 same
      simp
    · simp only [List.mem_cons, ih]
      grind

theorem ascending_insert {s : NameSet} (name : String) (h : Ascending s) :
    Ascending (s.insert name) := by
  induction s with
  | nil => simp [insert, Ascending]
  | cons m rest ih =>
    obtain ⟨first, others⟩ := List.pairwise_cons.1 h
    unfold insert
    split
    · rename_i lt
      refine List.pairwise_cons.2 ⟨?_, h⟩
      intro n hn
      rcases List.mem_cons.1 hn with rfl | hn
      · exact lt
      · exact Std.TransCmp.lt_trans lt (first n hn)
    · exact h
    · rename_i gt
      refine List.pairwise_cons.2 ⟨?_, ih others⟩
      intro n hn
      rcases mem_insert.1 hn with rfl | hn
      · exact Std.OrientedCmp.gt_iff_lt.1 gt
      · exact first n hn

theorem ascending_foldl {s : NameSet} (names : List String) (h : Ascending s) :
    Ascending (names.foldl insert s) := by
  induction names generalizing s with
  | nil => exact h
  | cons n ns ih => exact ih (ascending_insert n h)

theorem ascending_ofList (names : List String) : Ascending (ofList names) :=
  ascending_foldl names List.Pairwise.nil

theorem insert_last {s : NameSet} {name : String} (h : ∀ m ∈ s, compare m name = .lt) :
    s.insert name = s ++ [name] := by
  induction s with
  | nil => rfl
  | cons m rest ih =>
    have gt : compare name m = .gt :=
      Std.OrientedCmp.gt_iff_lt.2 (h m (List.mem_cons_self ..))
    simp only [insert, gt, List.cons_append]
    rw [ih fun n hn => h n (List.mem_cons_of_mem _ hn)]

theorem foldl_insert {s : NameSet} (names : List String) (h : Ascending (s ++ names)) :
    names.foldl insert s = s ++ names := by
  induction names generalizing s with
  | nil => simp
  | cons n ns ih =>
    have before : ∀ m ∈ s, compare m n = .lt := by
      intro m hm
      exact (List.pairwise_append.1 h).2.2 m hm n (List.mem_cons_self ..)
    rw [List.foldl_cons, insert_last before, ih (by simpa using h), List.append_assoc]
    rfl

/-- Names in order, put in one after the other, are the set. -/
theorem ofList_ascending {names : List String} (h : Ascending names) : ofList names = names :=
  foldl_insert names h

theorem insert_ne_nil (s : NameSet) (name : String) : s.insert name ≠ [] := by
  intro empty
  have member : name ∈ s.insert name := mem_insert.2 (.inl rfl)
  rw [empty] at member
  cases member

end NameSet

namespace Table

variable {β : Type u}

theorem map_insertEntry (name : String) (b : β) (es : List (String × β)) :
    (insertEntry name b es).map (·.1) = NameSet.insert (es.map (·.1)) name := by
  induction es with
  | nil => rfl
  | cons e rest ih =>
    obtain ⟨n, c⟩ := e
    cases order : compare name n with
    | lt => simp only [insertEntry, order, List.map_cons, NameSet.insert]
    | eq =>
      obtain rfl : name = n := Std.compare_eq_iff_eq.1 order
      simp only [insertEntry, order, List.map_cons, NameSet.insert]
    | gt => simp only [insertEntry, order, List.map_cons, NameSet.insert, ih]

theorem ascending_insert {t : Table β} (name : String) (b : β) (h : Ascending t.names) :
    Ascending (t.insert name b).names := by
  simp only [names, insert, map_insertEntry]
  exact NameSet.ascending_insert name h

theorem find?_filter (t : Table β) (p : String → Bool) (key : String) :
    (Table.mk (t.entries.filter fun e => p e.1)).find? key =
      if p key then t.find? key else none := by
  obtain ⟨entries⟩ := t
  simp only [find?]
  induction entries with
  | nil => simp
  | cons e rest ih =>
    by_cases kept : p e.1 = true
    · rw [List.filter_cons_of_pos (p := fun e : String × β => p e.1) kept]
      by_cases at_key : e.1 = key
      · subst at_key
        simp [kept]
      · rw [List.find?_cons_of_neg (by simpa using at_key), ih,
          List.find?_cons_of_neg (by simpa using at_key)]
    · rw [List.filter_cons_of_neg (p := fun e : String × β => p e.1) kept, ih]
      by_cases at_key : e.1 = key
      · subst at_key
        simp [kept]
      · rw [List.find?_cons_of_neg (by simpa using at_key)]

theorem find?_erase (t : Table β) (name key : String) :
    (t.erase name).find? key = if name = key then none else t.find? key := by
  have kept := t.find?_filter (· != name) key
  rw [erase, kept]
  by_cases same : name = key
  · simp [same]
  · simp [same, Ne.symm same]

theorem mem_entries_of_find? {t : Table β} {name : String} {b : β} (h : t.find? name = some b) :
    (name, b) ∈ t.entries := by
  obtain ⟨e, found, rfl⟩ := Option.map_eq_some_iff.1 h
  have at_name : e.1 = name := by simpa using List.find?_some found
  subst at_name
  exact List.mem_of_find?_eq_some found

/-- The names of an ascending table are distinct, so each entry is the one that is found. -/
theorem find?_of_mem_entries {t : Table β} (h : Ascending t.names) {e : String × β}
    (mem : e ∈ t.entries) : t.find? e.1 = some e.2 := by
  have distinct : t.entries.Pairwise fun a b => a.1 ≠ b.1 := List.pairwise_map.1 h.nodup
  cases found : t.entries.find? (·.1 == e.1) with
  | none =>
    have differs := List.find?_eq_none.1 found e mem
    simp at differs
  | some a =>
    have at_name : a.1 = e.1 := by simpa using List.find?_some found
    have same : a = e := by
      have apart := List.pairwise_iff_getElem.1 distinct
      obtain ⟨i, hi, rfl⟩ := List.getElem_of_mem (List.mem_of_find?_eq_some found)
      obtain ⟨j, hj, rfl⟩ := List.getElem_of_mem mem
      rcases Nat.lt_trichotomy i j with lt | rfl | gt
      · exact absurd at_name (apart i j hi hj lt)
      · rfl
      · exact absurd at_name.symm (apart j i hj hi gt)
    simp [find?, found, same]

/-- Ascending tables with the same values under the same names are the same. -/
theorem entries_ext {t t' : Table β} (h : Ascending t.names) (h' : Ascending t'.names)
    (same : ∀ key, t.find? key = t'.find? key) : t.entries = t'.entries := by
  have sorted : ∀ {u : Table β}, Ascending u.names →
      u.entries.Pairwise fun a b => compare a.1 b.1 = .lt := fun hu => List.pairwise_map.1 hu
  have nodup : ∀ {u : Table β}, Ascending u.names → u.entries.Nodup := by
    intro u hu
    refine (sorted hu).imp ?_
    rintro a _ lt rfl
    simp at lt
  have member : ∀ {u : Table β}, Ascending u.names →
      ∀ e, e ∈ u.entries ↔ u.find? e.1 = some e.2 :=
    fun hu e => ⟨find?_of_mem_entries hu, mem_entries_of_find?⟩
  refine List.Perm.eq_of_pairwise ?_ (sorted h) (sorted h') ?_
  · intro a b _ _ lt gt
    have behind := Std.OrientedCmp.gt_iff_lt.2 gt
    rw [lt] at behind
    cases behind
  · refine (List.perm_ext_iff_of_nodup (nodup h) (nodup h')).2 ?_
    intro e
    rw [member h, member h', same]

theorem eq_of_find? {t t' : Table β} (h : Ascending t.names) (h' : Ascending t'.names)
    (same : ∀ key, t.find? key = t'.find? key) : t = t' := by
  obtain ⟨entries⟩ := t
  obtain ⟨entries'⟩ := t'
  exact congrArg Table.mk (entries_ext h h' same)

theorem ascending_filter {t : Table β} (h : Ascending t.names) (p : String → Bool) :
    Ascending (Table.mk (t.entries.filter fun e => p e.1)).names :=
  List.Pairwise.sublist (List.Sublist.map _ List.filter_sublist) h

theorem contains_iff {t : Table β} {name : String} :
    t.contains name = true ↔ ∃ b, t.find? name = some b := by
  simp [contains, Option.isSome_iff_exists]

end Table
end Isl
