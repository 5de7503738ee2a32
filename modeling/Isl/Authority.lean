import Isl.Authority.Directory
import Isl.Authority.Memory
/-!
# Authorities

An authority gives the values of a document for an id, and nothing for an id that it does not know.
Of several, the first that has values answers; if none has, their failures are the causes.
-/
namespace Isl

inductive Authority where
  | memory (m : MemoryAuthority)
  | directory (d : DirectoryAuthority)

namespace Authority

def elements : Authority → String → Except SchemaError ElementStream
  | memory m, id => m.elements id
  | directory d, id => d.elements id

/-- All the values of an id. -/
def values (a : Authority) (id : String) : Except SchemaError (List Element) := do
  (← a.elements id).toList

/-- The authority after it has been asked for an id. -/
def asked : Authority → String → Authority
  | memory m, id => memory (m.asked id)
  | directory d, _ => directory d

def hasAnswer (a : Authority) (id : String) : Bool :=
  match a.values id with
  | .ok values => !values.isEmpty
  | .error _ => false

def isUrl (source : String) : Bool :=
  source.startsWith "http://" || source.startsWith "https://"

/-- The authority that a source names: a directory. Nothing is fetched over a network. -/
def ofSource (disk : Disk) (source : String) : Except SchemaError Authority :=
  if isUrl source then .error (.fileNotFound source)
  else (DirectoryAuthority.open? disk source).map directory

/-- Asks one after the other, keeping the words of those that fail. -/
def fetchFrom (id : String) (causes : List String) :
    List Authority → Except SchemaError (List Element)
  | [] => .error (.schemaNotFound id causes)
  | a :: rest =>
    match a.values id with
    | .ok [] => fetchFrom id causes rest
    | .ok values => .ok values
    | .error e => fetchFrom id (causes ++ [e.message]) rest

def fetch (authorities : List Authority) (id : String) : Except SchemaError (List Element) :=
  fetchFrom id [] authorities

/-! The documents of an authority are finitely many, whatever ids it is asked for. -/

/-- The values of every document that an authority holds. -/
def contents : Authority → List (List Element)
  | memory m => m.entries.values.filterMap fun entry => entry.read.toOption
  | directory d => d.disk.items.filterMap fun item => (d.valuesAt item.1).toOption

theorem mem_contents {a : Authority} {id : String} {values : List Element}
    (h : a.values id = .ok values) (ne : values ≠ []) : values ∈ a.contents := by
  cases a with
  | memory m =>
    simp only [Authority.values, Authority.elements, MemoryAuthority.elements] at h
    cases found : m.entries.find? id with
    | none =>
      simp only [found, bind, Except.bind, ElementStream.empty, ElementStream.toList] at h
      injection h with h
      exact absurd h.symm ne
    | some entry =>
      simp only [found] at h
      cases hr : entry.read with
      | error e => simp [hr, bind, Except.bind, Except.map] at h
      | ok vs =>
        simp only [hr, bind, Except.bind, Except.map, ElementStream.ofList,
          ElementStream.toList] at h
        injection h with h
        subst h
        exact List.mem_filterMap.2
          ⟨entry, Table.mem_values_of_find? found, by simp [hr, Except.toOption]⟩
  | directory d =>
    have none_left : ∀ {vs : List Element},
        (Except.ok ElementStream.empty >>= fun s => s.toList : Except SchemaError _) = .ok vs →
          vs = [] := fun h => by
      simp only [bind, Except.bind, ElementStream.empty, ElementStream.toList] at h
      injection h with h
      exact h.symm
    simp only [Authority.values, Authority.elements, DirectoryAuthority.elements] at h
    split at h
    · simp [bind, Except.bind] at h
    · split at h
      · exact absurd (none_left h) ne
      · split at h
        · rename_i place _ _ content file
          split at h
          · simp only [bind, Except.bind, ElementStream.deferred, ElementStream.toList] at h
            have item : ∃ item ∈ d.disk.items, item.1 = place := by
              unfold Disk.find? at file
              split at file
              · cases file
              · obtain ⟨item, hi, _⟩ := Option.map_eq_some_iff.1 file
                exact ⟨item, List.mem_of_find?_eq_some hi,
                  by simpa using List.find?_some hi⟩
            obtain ⟨item, hm, rfl⟩ := item
            exact List.mem_filterMap.2 ⟨item, hm, by simp [h, Except.toOption]⟩
          · simp [bind, Except.bind] at h
        · exact absurd (none_left h) ne

theorem mem_contents_of_fetchFrom {id : String} {values : List Element} {as : List Authority}
    {causes : List String} (h : fetchFrom id causes as = .ok values) :
    values ∈ as.flatMap contents := by
  induction as generalizing causes with
  | nil => cases h
  | cons a rest ih =>
    simp only [fetchFrom] at h
    simp only [List.flatMap_cons, List.mem_append]
    split at h
    · exact .inr (ih h)
    · rename_i vs ne hv
      injection h with h
      subst h
      exact .inl (mem_contents hv ne)
    · exact .inr (ih h)

/-- The authorities after `fetch`, which asks up to the first that has an answer. -/
def afterFetch (id : String) : List Authority → List Authority
  | [] => []
  | a :: rest => a.asked id :: if a.hasAnswer id then rest else afterFetch id rest

end Authority
end Isl
