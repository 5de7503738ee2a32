import Isl.Authority
/-!
# Files by their names

In a tree of files every step of a path is the name of an item, and leads to it. So the names from a
directory to a file below it, joined by slashes, are an id by which the authority that serves the
directory has what is in the file.

* `FilePath.steps_ofNames`: names can be told apart in the text of a path;
* `Disk.Tree.walk_names`: a walk along the names of a file comes to the file;
* `DirectoryAuthority.values_ofNames`: the authority has the values in the file, or its fault.
-/
namespace Isl

/-! ## Names in a path -/

/-- A step of a path that is a name. -/
structure IsPlain (name : String) : Prop where
  filled : name ≠ ""
  here : name ≠ "."
  up : name ≠ ".."
  plain : '/' ∉ name.toList

/-- What an item of a directory can be called. -/
structure IsName (name : String) : Prop where
  filled : name ≠ ""
  here : name ≠ "."
  up : name ≠ ".."
  plain : '/' ∉ name.toList
  short : name.utf8ByteSize ≤ Disk.nameLimit

theorem IsName.isPlain {name : String} (named : IsName name) : IsPlain name :=
  ⟨named.filled, named.here, named.up, named.plain⟩

namespace FilePath

variable {names : List String}

theorem splitChars_plain {cs : List Char} (plain : '/' ∉ cs) : splitChars cs = [cs] := by
  induction cs with
  | nil => rfl
  | cons c cs ih =>
    obtain ⟨first, rest⟩ : '/' ≠ c ∧ '/' ∉ cs := by simpa using plain
    simp [splitChars, Ne.symm first, ih rest]

theorem splitChars_slash {front back : List Char} (plain : '/' ∉ front) :
    splitChars (front ++ '/' :: back) = front :: splitChars back := by
  induction front with
  | nil => simp [splitChars]
  | cons c cs ih =>
    obtain ⟨first, rest⟩ : '/' ≠ c ∧ '/' ∉ cs := by simpa using plain
    simp [splitChars, Ne.symm first, ih rest]

theorem splitChars_intercalate {parts : List (List Char)} (nonempty : parts ≠ [])
    (plain : ∀ cs ∈ parts, '/' ∉ cs) : splitChars (['/'].intercalate parts) = parts := by
  induction parts with
  | nil => exact absurd rfl nonempty
  | cons cs parts ih =>
    have first := plain cs (List.mem_cons_self ..)
    cases parts with
    | nil => simpa using splitChars_plain first
    | cons ds parts =>
      rw [List.intercalate_cons_cons, List.append_assoc, List.singleton_append,
        splitChars_slash first, ih nofun fun es mem => plain es (List.mem_cons_of_mem _ mem)]

/-- Names without slashes can be told apart in the text of a path. -/
theorem steps_ofNames (nonempty : names ≠ []) (plain : ∀ n ∈ names, '/' ∉ n.toList) :
    steps (ofNames names) = names := by
  have split : splitChars (ofNames names).toList = names.map String.toList := by
    rw [ofNames, String.toList_intercalate]
    refine splitChars_intercalate (by simpa using nonempty) ?_
    intro cs mem
    obtain ⟨n, listed, rfl⟩ := List.mem_map.1 mem
    exact plain n listed
  rw [steps, split, List.map_map]
  simp

theorem not_isAbsolute {name : String} (named : IsPlain name) :
    isAbsolute (ofNames (name :: names)) = false := by
  rw [Bool.eq_false_iff, isAbsolute, Ne, String.startsWith_string_iff, ofNames,
    String.toList_intercalate]
  obtain ⟨c, cs, chars⟩ : ∃ c cs, name.toList = c :: cs := by
    cases chars : name.toList with
    | nil => exact absurd (by simpa using chars) named.filled
    | cons c cs => exact ⟨c, cs, rfl⟩
  have other : '/' ≠ c := by
    have plain := named.plain
    rw [chars] at plain
    exact fun same => plain (same ▸ List.mem_cons_self ..)
  have front :
      ∃ rest, ("/".toList).intercalate ((name :: names).map String.toList) = c :: rest := by
    cases names with
    | nil => exact ⟨cs, by simp [chars]⟩
    | cons m names =>
      rw [List.map_cons, List.map_cons, List.intercalate_cons_cons, chars]
      exact ⟨_, rfl⟩
  obtain ⟨rest, text⟩ := front
  rw [text]
  simp [other]

end FilePath

/-! ## Walks -/

namespace Disk

variable {d : Disk} {place names : List String} {name : String} {item : DiskItem}

/-- Every item has a name that is a step of a path, and is in a directory. -/
structure Tree (d : Disk) : Prop where
  named : ∀ place name item, d.find? (place ++ [name]) = some item → IsName name
  inside : ∀ place name item, d.find? (place ++ [name]) = some item →
    d.find? place = some .directory

theorem Tree.directory (tree : d.Tree) (found : d.find? (place ++ name :: names) = some item) :
    d.find? place = some .directory := by
  induction names generalizing place name with
  | nil => exact tree.inside _ _ _ found
  | cons next names ih =>
    rw [show place ++ name :: next :: names = (place ++ [name]) ++ next :: names by simp] at found
    exact tree.inside _ _ _ (ih found)

/-- On the way to an item there are directories. -/
theorem Tree.first (tree : d.Tree) (found : d.find? (place ++ name :: names) = some item) :
    names = [] ∧ d.find? (place ++ [name]) = some item ∨
      names ≠ [] ∧ d.find? (place ++ [name]) = some .directory := by
  cases names with
  | nil => exact .inl ⟨rfl, found⟩
  | cons next names =>
    rw [show place ++ name :: next :: names = (place ++ [name]) ++ next :: names by simp] at found
    exact .inr ⟨nofun, tree.directory found⟩

theorem Tree.isName (tree : d.Tree) (found : d.find? (place ++ names) = some item) :
    ∀ n ∈ names, IsName n := by
  induction names generalizing place with
  | nil => nofun
  | cons name names ih =>
    have named : IsName name := by
      obtain ⟨-, here⟩ | ⟨-, here⟩ := tree.first found
      · exact tree.named _ _ _ here
      · exact tree.named _ _ _ here
    rw [show place ++ name :: names = (place ++ [name]) ++ names by simp] at found
    exact List.forall_mem_cons.2 ⟨named, ih found⟩

theorem walk_name {new : Bool} {links : Nat} (named : IsName name) (rest : List String) :
    d.walk new links place (name :: rest) =
      match d.find? (place ++ [name]) with
      | none => if new && rest.isEmpty then .ok (place ++ [name]) else .error .missing
      | some (.file _) => if rest.isEmpty then .ok (place ++ [name]) else .error .notDirectory
      | some .directory => d.walk new links (place ++ [name]) rest
      | some (.link target) =>
        match links with
        | 0 => .error .tooManyLinks
        | links + 1 =>
          d.walk new links (if FilePath.isAbsolute target then [] else place)
            (FilePath.steps target ++ rest) := by
  have stays : ¬ (name.isEmpty || name == ".") = true := by simp [named.filled, named.here]
  have rises : ¬ (name == "..") = true := by simp [named.up]
  have long : ¬ nameLimit < name.utf8ByteSize := Nat.not_lt.2 named.short
  rw [walk]
  exact (if_neg stays).trans ((if_neg rises).trans (if_neg long))

/-- A walk along the names of a file comes to the file. -/
theorem Tree.walk_names (tree : d.Tree) {content : ByteArray} (new : Bool) (links : Nat)
    (found : d.find? (place ++ names) = some (.file content)) :
    d.walk new links place names = .ok (place ++ names) := by
  induction names generalizing place with
  | nil => rw [walk, List.append_nil]
  | cons name names ih =>
    have named := tree.isName found name (List.mem_cons_self ..)
    have next : place ++ name :: names = (place ++ [name]) ++ names := by simp
    rw [walk_name named]
    obtain ⟨rfl, here⟩ | ⟨-, here⟩ := tree.first found
    · simp [here]
    · rw [next] at found ⊢
      simp only [here]
      exact ih found

theorem tree_singleton (named : IsName name) (content : ByteArray) (home : List String) :
    (⟨[([name], .file content)], home⟩ : Disk).Tree := by
  have only : ∀ place next item, find? ⟨[([name], .file content)], home⟩ (place ++ [next]) =
      some item → place = [] ∧ next = name := by
    intro place next item found
    obtain ⟨listed, -⟩ : [name] = place ++ [next] ∧ _ := by
      simpa [find?] using found
    obtain ⟨top, same⟩ := List.append_inj' (show [] ++ [name] = _ from listed) rfl
    exact ⟨top.symm, (List.singleton_inj.1 same).symm⟩
  refine ⟨fun place next item found => ?_, fun place next item found => ?_⟩
  · obtain ⟨-, rfl⟩ := only _ _ _ found
    exact named
  · obtain ⟨rfl, -⟩ := only _ _ _ found
    rfl

theorem locate_relative {path : String} (ended : '\x00' ∉ path.toList) (filled : path ≠ "")
    (short : path.utf8ByteSize ≤ pathLimit) (relative : FilePath.isAbsolute path = false) :
    d.locate path = d.walk false linkLimit d.home (FilePath.steps path) := by
  have ended : path.contains '\x00' = false := by simpa [String.contains_char_eq] using ended
  simp [locate, resolve, ended, filled, Nat.not_lt.2 short, relative]

end Disk

/-! ## What the authority has -/

namespace DirectoryAuthority

variable {a : DirectoryAuthority} {names : List String} {content : ByteArray}

theorem normalizeFrom_names {front : List String} (named : ∀ n ∈ names, IsPlain n)
    (nonempty : front ++ names ≠ []) : normalizeFrom front names = .ok (front ++ names) := by
  induction names generalizing front with
  | nil =>
    rw [List.append_nil] at nonempty ⊢
    simp [normalizeFrom, nonempty]
  | cons n names ih =>
    obtain ⟨first, rest⟩ := List.forall_mem_cons.1 named
    have filled : n.isEmpty = false := by simpa using first.filled
    rw [show front ++ n :: names = (front ++ [n]) ++ names by simp] at nonempty ⊢
    simp only [normalizeFrom, filled, first.here, first.up, Bool.false_or, beq_iff_eq, if_false]
    exact ih rest nonempty

/-- The names of a file are an id in normal form. -/
theorem normalize_ofNames (named : ∀ n ∈ names, IsPlain n) (nonempty : names ≠ []) :
    normalize (FilePath.ofNames names) = .ok names := by
  have relative : FilePath.isAbsolute (FilePath.ofNames names) = false := by
    cases names with
    | nil => exact absurd rfl nonempty
    | cons n names => exact FilePath.not_isAbsolute (named n (List.mem_cons_self ..))
  rw [normalize, relative, FilePath.steps_ofNames nonempty fun n mem => (named n mem).plain]
  exact normalizeFrom_names named nonempty

/-- By the names of a file, the authority has what is in the file, or its fault. -/
theorem values_ofNames (tree : a.disk.Tree)
    (found : a.disk.find? (a.base ++ names) = some (.file content)) (nonempty : names ≠ []) :
    (Authority.directory a).values (FilePath.ofNames names) = a.valuesAt (a.base ++ names) := by
  have below : a.base.isPrefixOf (a.base ++ names) = true := by simp
  have normal := normalize_ofNames (fun n mem => (tree.isName found n mem).isPlain) nonempty
  have walked := tree.walk_names false Disk.linkLimit found
  simp only [Authority.values, Authority.elements, elements, normal, walked, found, below, if_true]
  rfl

end DirectoryAuthority
end Isl
