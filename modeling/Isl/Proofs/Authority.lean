import Isl.Authority
import Isl.System
/-!
# Authorities that have been asked

An authority keeps the values of a text that it has parsed. It answers as before, so a system finds
the same documents however often it has asked for them.

* `Authority.fetch_afterFetch`: a fetch finds what it would have found;
* `System.library_after`: a system that has loaded something has the same library.
-/
namespace Isl

theorem MemoryAuthority.elements_asked (m : MemoryAuthority) (id key : String) :
    (m.asked id).elements key = m.elements key := by
  unfold asked
  cases found : m.entries.find? id with
  | none => rfl
  | some entry =>
    simp only [elements, Table.find?_insert]
    by_cases same : id = key
    · subst same
      simp [found, MemoryEntry.read_kept]
    · simp [same]

namespace Authority

theorem values_asked (a : Authority) (id key : String) :
    (a.asked id).values key = a.values key := by
  cases a with
  | memory m => simp only [asked, values, elements, MemoryAuthority.elements_asked]
  | directory d => rfl

theorem fetchFrom_afterFetch (as : List Authority) (id key : String) (causes : List String) :
    fetchFrom key causes (afterFetch id as) = fetchFrom key causes as := by
  induction as generalizing causes with
  | nil => rfl
  | cons a rest ih =>
    simp only [afterFetch, fetchFrom, values_asked]
    split
    · split
      · rfl
      · exact ih causes
    · rfl
    · split
      · rfl
      · exact ih _

theorem fetch_afterFetch (as : List Authority) (id : String) :
    fetch (afterFetch id as) = fetch as := by
  funext key
  exact fetchFrom_afterFetch as id key []

theorem fetch_afterFetches (as : List Authority) (ids : List String) :
    fetch (ids.foldl (fun as id => afterFetch id as) as) = fetch as := by
  induction ids generalizing as with
  | nil => rfl
  | cons id ids ih => rw [List.foldl_cons, ih, fetch_afterFetch]

/-- Authorities that have no values of a schema have not found it, whatever went wrong. -/
theorem error_of_fetchFrom {id : String} {causes : List String} {as : List Authority}
    {e : SchemaError} (failed : fetchFrom id causes as = .error e) :
    ∃ causes, e = .schemaNotFound id causes := by
  induction as generalizing causes with
  | nil => exact ⟨causes, (Except.error.inj failed).symm⟩
  | cons a as ih =>
    unfold fetchFrom at failed
    split at failed
    · exact ih failed
    · cases failed
    · exact ih failed

end Authority

/-- Libraries that have the same documents are the same. -/
theorem Library.ext_document {lib other : Library} (same : lib.document = other.document) :
    lib = other := by
  obtain ⟨document, finite⟩ := lib
  obtain ⟨document', finite'⟩ := other
  cases same
  rfl

namespace System

theorem library_congr {s t : System} (settings : s.settings = t.settings)
    (answers : Authority.fetch s.authorities = Authority.fetch t.authorities) :
    s.library = t.library := by
  refine Library.ext_document ?_
  funext id
  show s.settings.fetch s.authorities id = t.settings.fetch t.authorities id
  simp only [Settings.fetch, settings, answers]

theorem settings_after (s : System) (cache : Cache Schema) (a : Attempt) :
    (s.after cache a).settings = s.settings := rfl

theorem library_after (s : System) (cache : Cache Schema) (a : Attempt) :
    (s.after cache a).library = s.library :=
  library_congr rfl (Authority.fetch_afterFetches s.authorities a.asked)

theorem library_invalidate (s : System) (id : String) : (s.invalidate id).library = s.library :=
  library_congr rfl rfl

end System
end Isl
