/-!
# Tables by name

Values under distinct names, and sets of names, both listed in the order of the names. `insert`
replaces what was under a name; the look-up after it is what one expects of a map.
-/
namespace Isl

structure Table (β : Type u) where
  entries : List (String × β)
deriving Repr

namespace Table

def empty {β : Type u} : Table β := ⟨[]⟩

instance {β : Type u} : Inhabited (Table β) := ⟨empty⟩

/-- Puts a value in its place among sorted entries. -/
def insertEntry {β : Type u} (name : String) (b : β) : List (String × β) → List (String × β)
  | [] => [(name, b)]
  | (n, c) :: rest =>
    match compare name n with
    | .lt => (name, b) :: (n, c) :: rest
    | .eq => (name, b) :: rest
    | .gt => (n, c) :: insertEntry name b rest

def insert {β : Type u} (t : Table β) (name : String) (b : β) : Table β :=
  ⟨insertEntry name b t.entries⟩

def find? {β : Type u} (t : Table β) (name : String) : Option β :=
  (t.entries.find? (·.1 == name)).map (·.2)

def contains {β : Type u} (t : Table β) (name : String) : Bool := (t.find? name).isSome

def erase {β : Type u} (t : Table β) (name : String) : Table β :=
  ⟨t.entries.filter (·.1 != name)⟩

def names {β : Type u} (t : Table β) : List String := t.entries.map (·.1)

def values {β : Type u} (t : Table β) : List β := t.entries.map (·.2)

def ofList {β : Type u} (entries : List (String × β)) : Table β :=
  entries.foldl (fun t e => t.insert e.1 e.2) empty

theorem find?_entries_insert {β : Type u} (name key : String) (b : β) (es : List (String × β)) :
    ((insertEntry name b es).find? (·.1 == key)).map (·.2) =
      if name = key then some b else (es.find? (·.1 == key)).map (·.2) := by
  induction es with
  | nil => by_cases h : name = key <;> simp [insertEntry, h]
  | cons e rest ih =>
    obtain ⟨n, c⟩ := e
    simp only [insertEntry]
    split
    · by_cases h : name = key <;> simp [h]
    · rename_i he
      obtain rfl : name = n := Std.compare_eq_iff_eq.1 he
      by_cases h : name = key <;> simp [h]
    · rename_i hg
      have ne : name ≠ n := fun h => by simp [Std.compare_eq_iff_eq.2 h] at hg
      by_cases hn : n = key
      · subst hn; simp [ne]
      · simpa [hn] using ih

theorem mem_values_of_find? {β : Type u} {t : Table β} {name : String} {b : β}
    (h : t.find? name = some b) : b ∈ t.values := by
  simp only [find?, Option.map_eq_some_iff] at h
  obtain ⟨e, he, rfl⟩ := h
  exact List.mem_map_of_mem (List.mem_of_find?_eq_some he)

/-- A table holds under a name what was last put there. -/
theorem find?_insert {β : Type u} (t : Table β) (name key : String) (b : β) :
    (t.insert name b).find? key = if name = key then some b else t.find? key :=
  find?_entries_insert name key b t.entries

theorem contains_insert {β : Type u} (t : Table β) (name key : String) (b : β) :
    (t.insert name b).contains key = (name == key || t.contains key) := by
  by_cases h : name = key <;> simp [contains, find?_insert, h]

end Table

/-- A set of names in their order, each once. -/
abbrev NameSet := List String

namespace NameSet

def insert (s : NameSet) (name : String) : NameSet :=
  match s with
  | [] => [name]
  | n :: rest =>
    match compare name n with
    | .lt => name :: n :: rest
    | .eq => n :: rest
    | .gt => n :: insert rest name

def ofList (names : List String) : NameSet := names.foldl insert []

end NameSet
end Isl
