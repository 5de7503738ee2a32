import Isl.Proofs.System.Catalog
/-!
# Walks outside of a catalog

A walk along imports that comes upon a schema of a catalog reads nothing from there on that is not
in the catalog as well. Seen from outside, it does not matter whether such a schema is cached, or
how much of the catalog is: all walks from one root read the same documents, by the same chains of
imports, and fail in the same place.

* `Walk`: a walk as it is seen from outside of a catalog; `Walk.unique`: it takes one way only;
* `Gathers.walk`: every walk of a load is seen as one;
* `Gathers.stays`: a walk that stays in the catalog does not fail.
-/
namespace Isl

/-- An id that a catalog does not have. -/
def outside (known : String → Option Schema) (id : String) : Bool := (known id).isNone

theorem outside_eq_false_iff {known : String → Option Schema} {id : String} :
    outside known id = false ↔ ∃ σ, known id = some σ := by
  cases found : known id with
  | none => simp [outside, found]
  | some σ => simp [outside, found]

/-- What has been read outside of a catalog. -/
structure Frontier where
  document? : String → Option SchemaDocument
  chain? : String → Option (List String)

namespace Frontier

theorem ext {f g : Frontier} (documents : f.document? = g.document?)
    (chains : f.chain? = g.chain?) : f = g := by
  obtain ⟨document, chain⟩ := f
  obtain ⟨document', chain'⟩ := g
  cases documents
  cases chains
  rfl

def add (f : Frontier) (id : String) (chain : List String) (d : SchemaDocument) : Frontier :=
  ⟨fun key => if id = key then some d else f.document? key,
    fun key => if id = key then some chain else f.chain? key⟩

end Frontier

/-- A walk, seen from outside of a catalog. It fails with the schema that could not be read. -/
inductive Walk (lib : Library) (known : String → Option Schema) :
    Frontier → List Quest → Except (Quest × SchemaError) Frontier → Prop where
  | done (f : Frontier) : Walk lib known f [] (.ok f)
  | seen {f : Frontier} {q : Quest} {rest : List Quest}
      {r : Except (Quest × SchemaError) Frontier} {d : SchemaDocument}
      (old : f.document? q.id = some d) (later : Walk lib known f rest r) :
      Walk lib known f (q :: rest) r
  | failed {f : Frontier} {q : Quest} {rest : List Quest} {e : SchemaError}
      (new : f.document? q.id = none) (missing : lib.document q.id = .error e) :
      Walk lib known f (q :: rest) (.error (q, e))
  | read {f : Frontier} {q : Quest} {rest : List Quest}
      {r : Except (Quest × SchemaError) Frontier} {d : SchemaDocument}
      (new : f.document? q.id = none) (found : lib.document q.id = .ok d)
      (later : Walk lib known (f.add q.id q.chain d)
        ((Universe.questsOf q.chain d).filter (fun p => outside known p.id) ++ rest) r) :
      Walk lib known f (q :: rest) r

variable {lib : Library} {known : String → Option Schema}

theorem Walk.unique {f : Frontier} {todo : List Quest}
    {r r' : Except (Quest × SchemaError) Frontier} (h : Walk lib known f todo r)
    (h' : Walk lib known f todo r') : r = r' := by
  induction h with
  | done f =>
    cases h'
    rfl
  | seen old _ ih =>
    cases h' with
    | seen _ later => exact ih later
    | failed new _ | read new _ _ =>
      rw [old] at new
      cases new
  | failed new missing =>
    cases h' with
    | seen old _ =>
      rw [old] at new
      cases new
    | failed _ same =>
      rw [missing] at same
      cases same
      rfl
    | read _ found _ =>
      rw [missing] at found
      cases found
  | read new found _ ih =>
    cases h' with
    | seen old _ =>
      rw [old] at new
      cases new
    | failed _ missing =>
      rw [missing] at found
      cases found
    | read _ same later =>
      rw [found] at same
      cases same
      exact ih later

namespace Universe

variable {u : Universe} {id : String}

/-- What a world has read outside of a catalog. -/
def frontier (u : Universe) (known : String → Option Schema) : Frontier :=
  ⟨fun id => if outside known id then u.pending.find? id else none,
    fun id => if outside known id then u.chains.find? id else none⟩

/-- The result of a walk, seen from outside of a catalog. -/
def seenFrom (known : String → Option Schema) :
    Except GatherFault Universe → Except (Quest × SchemaError) Frontier
  | .ok v => .ok (v.frontier known)
  | .error fault => .error (fault.quest, fault.error)

theorem frontier_document (out : outside known id = true) :
    (u.frontier known).document? id = u.pending.find? id := by
  simp [frontier, out]

theorem frontier_addPending_known (inside : outside known id = false) (chain : List String)
    (d : SchemaDocument) : (u.addPending id chain d).frontier known = u.frontier known := by
  have other : ∀ key, outside known key = true → id ≠ key := by
    rintro key out rfl
    rw [inside] at out
    cases out
  refine Frontier.ext ?_ ?_
  · funext key
    by_cases out : outside known key = true
    · simp [frontier, addPending, Table.find?_insert, out, other key out]
    · simp [frontier, out]
  · funext key
    by_cases out : outside known key = true
    · simp [frontier, addPending, Table.find?_insert, out, other key out]
    · simp [frontier, out]

theorem frontier_addPending (out : outside known id = true) (chain : List String)
    (d : SchemaDocument) :
    (u.addPending id chain d).frontier known = (u.frontier known).add id chain d := by
  refine Frontier.ext ?_ ?_
  · funext key
    by_cases same : id = key
    · subst same
      simp [frontier, addPending, Frontier.add, Table.find?_insert, out]
    · simp [frontier, addPending, Frontier.add, Table.find?_insert, same]
  · funext key
    by_cases same : id = key
    · subst same
      simp [frontier, addPending, Frontier.add, Table.find?_insert, out]
    · simp [frontier, addPending, Frontier.add, Table.find?_insert, same]

/-! ## Schemas of the catalog -/

section
variable {settings : Settings} (catalog : Catalog settings lib known)
  (inside : outside known id = false)
include catalog inside

theorem document_of_inside : ∃ d, lib.document id = .ok d := by
  obtain ⟨σ, there⟩ := outside_eq_false_iff.1 inside
  exact ⟨σ.document, (catalog.bound id σ there).document⟩

theorem known_of_document {d : SchemaDocument} (found : lib.document id = .ok d) :
    ∃ σ, known id = some σ ∧ σ.document = d := by
  obtain ⟨σ, there⟩ := outside_eq_false_iff.1 inside
  have same := (catalog.bound id σ there).document
  rw [found] at same
  exact ⟨σ, there, (Except.ok.inj same).symm⟩

/-- Whatever a schema of the catalog imports is in the catalog. -/
theorem inside_of_mem_questsOf {d : SchemaDocument} (found : lib.document id = .ok d)
    {chain : List String} {p : Quest} (mem : p ∈ questsOf chain d) :
    outside known p.id = false := by
  obtain ⟨σ, there, rfl⟩ := known_of_document catalog inside found
  exact outside_eq_false_iff.2 (catalog.closed id σ there p.id (mem_questsOf mem))

theorem filter_questsOf_known {d : SchemaDocument} (found : lib.document id = .ok d)
    (chain : List String) :
    (questsOf chain d).filter (fun p => outside known p.id) = [] := by
  rw [List.filter_eq_nil_iff]
  intro p mem
  simp [inside_of_mem_questsOf catalog inside found mem]

end

/-! ## The walks of a load -/

variable {settings : Settings} {cached : String → Option Schema}

/-- A schema that was not read outside of the catalog is unknown there. -/
theorem frontier_new (new : u.contains id = false) : (u.frontier known).document? id = none := by
  simp only [contains, Bool.or_eq_false_iff, Table.contains, Option.isSome_eq_false_iff,
    Option.isNone_iff_eq_none] at new
  simp [frontier, new.1]

/-- Every walk of a load whose cached schemas are in the catalog is seen as a walk from outside. -/
theorem Gathers.walk (catalog : Catalog settings lib known)
    (covered : ∀ id σ, cached id = some σ → known id = some σ) {todo : List Quest}
    {r : Except GatherFault Universe} (h : Gathers lib cached u todo r)
    (held : ∀ id, u.cached.contains id = true → outside known id = false) :
    Walk lib known (u.frontier known) (todo.filter fun q => outside known q.id)
      (seenFrom known r) := by
  induction h with
  | done u => exact .done _
  | @seen u q rest r old _ ih =>
    cases side : outside known q.id with
    | false =>
      rw [List.filter_cons_of_neg (by simp [side])]
      exact ih held
    | true =>
      rw [List.filter_cons_of_pos (by simp [side])]
      rcases contains_iff.1 old with ⟨d, found⟩ | ⟨σ, there⟩
      · exact .seen ((frontier_document side).trans found) (ih held)
      · rw [held q.id (Table.contains_iff.2 ⟨σ, there⟩)] at side
        cases side
  | @held u q rest r σ new found _ ih =>
    have inside := outside_eq_false_iff.2 ⟨σ, covered q.id σ found⟩
    rw [List.filter_cons_of_neg (by simp [inside])]
    refine ih ?_
    intro key there
    simp only [addCached, Table.contains_insert, Bool.or_eq_true, beq_iff_eq] at there
    rcases there with rfl | earlier
    · exact inside
    · exact held key earlier
  | @failed u q rest e new free missing =>
    cases side : outside known q.id with
    | false =>
      obtain ⟨d, found⟩ := document_of_inside catalog side
      rw [found] at missing
      cases missing
    | true =>
      rw [List.filter_cons_of_pos (by simp [side])]
      exact .failed (frontier_new new) missing
  | @read u q rest r d new free found _ ih =>
    cases side : outside known q.id with
    | false =>
      rw [List.filter_cons_of_neg (by simp [side])]
      have later := ih held
      rwa [List.filter_append, filter_questsOf_known catalog side found, List.nil_append,
        frontier_addPending_known side] at later
    | true =>
      rw [List.filter_cons_of_pos (by simp [side])]
      refine .read (frontier_new new) found ?_
      have later := ih held
      rwa [List.filter_append, frontier_addPending side] at later

theorem frontier_gather {cached' : String → Option Schema} (catalog : Catalog settings lib known)
    (covered : ∀ id σ, cached id = some σ → known id = some σ)
    (covered' : ∀ id σ, cached' id = some σ → known id = some σ) (root : SchemaDocument) :
    seenFrom known (gather lib cached root) = seenFrom known (gather lib cached' root) := by
  have nothing : ∀ id, (ofRoot root).cached.contains id = true → outside known id = false := by
    intro id there
    rw [cached_ofRoot] at there
    cases there
  have one := (gathers_gather lib cached root).walk catalog covered nothing
  have other := (gathers_gather lib cached' root).walk catalog covered' nothing
  exact one.unique other

/-- A walk that begins in the catalog reads nothing outside of it, and does not fail. -/
theorem Gathers.stays (catalog : Catalog settings lib known) {todo : List Quest}
    {r : Except GatherFault Universe} (h : Gathers lib cached u todo r)
    (pending : ∀ id d, u.pending.find? id = some d → outside known id = false)
    (inside : ∀ q ∈ todo, outside known q.id = false) :
    ∃ v, r = .ok v ∧ ∀ id d, v.pending.find? id = some d → outside known id = false := by
  induction h with
  | done u => exact ⟨u, rfl, pending⟩
  | seen old _ ih => exact ih pending fun q hq => inside q (List.mem_cons_of_mem _ hq)
  | held new found _ ih => exact ih pending fun q hq => inside q (List.mem_cons_of_mem _ hq)
  | @failed u q rest e new free missing =>
    obtain ⟨d, found⟩ := document_of_inside catalog (inside q (List.mem_cons_self ..))
    rw [found] at missing
    cases missing
  | @read u q rest r d new free found _ ih =>
    have here := inside q (List.mem_cons_self ..)
    refine ih ?_ ?_
    · intro id e read
      simp only [addPending, Table.find?_insert] at read
      by_cases same : q.id = id
      · exact same ▸ here
      · rw [if_neg same] at read
        exact pending id e read
    · intro p mem
      rcases List.mem_append.1 mem with new | old
      · exact inside_of_mem_questsOf catalog here found new
      · exact inside p (List.mem_cons_of_mem _ old)

end Universe
end Isl

/-!
## The members of a load

The members are compiled in an order that depends on how they were reached, and the first that
fails decides the error. Members from a catalog never fail, and without them the order is the same
in every load of a root.

* `filter_mergeSort`: leaving out entries before or after they are sorted comes to the same;
* `mapM_filter`: those that succeed do not decide whether, and how, all of them fail;
* `Settings.members_outside`: the members outside of a catalog, in their order.
-/

namespace Isl

/-! ### Sorting and leaving out -/

section

variable {α : Type u} {le : α → α → Bool}

theorem filter_append_front {p : α → Bool} {front back : List α} (kept : ∀ a ∈ front, p a = true)
    (left : ∀ a ∈ back, p a = false) : (front ++ back).filter p = front := by
  rw [List.filter_append, List.filter_eq_self.2 kept,
    List.filter_eq_nil_iff.2 fun a mem => by simp [left a mem], List.append_nil]

theorem filter_mergeSort (trans : ∀ a b c, le a b = true → le b c = true → le a c = true)
    (total : ∀ a b, (le a b || le b a) = true) (p : α → Bool) (as : List α) :
    (as.mergeSort le).filter p = (as.filter p).mergeSort le := by
  induction as with
  | nil => simp
  | cons a as ih =>
    obtain ⟨front, back, whole, rest, before⟩ := List.mergeSort_cons trans total a as
    by_cases kept : p a = true
    · obtain ⟨front', back', whole', rest', before'⟩ :=
        List.mergeSort_cons trans total a (as.filter p)
      -- The place of `a` is the same: all in front are less, and none behind is.
      have behind : ∀ {xs ys zs : List α}, (a :: zs).mergeSort le = xs ++ a :: ys →
          ∀ b ∈ ys, le a b = true := by
        intro xs ys zs sorted b mem
        have pairwise := List.pairwise_mergeSort trans total (a :: zs)
        rw [sorted] at pairwise
        exact List.rel_of_pairwise_cons (List.pairwise_append.1 pairwise).2.1 mem
      have split : front.filter p ++ back.filter p = front' ++ back' := by
        rw [← List.filter_append, ← rest, ih, rest']
      have fronts : front.filter p = front' := by
        have less := congrArg (List.filter fun b => !le a b) split
        rwa [filter_append_front, filter_append_front before'] at less
        · intro b mem
          simp [behind whole' b mem]
        · intro b mem
          exact before b (List.mem_filter.1 mem).1
        · intro b mem
          simp [behind whole b (List.mem_filter.1 mem).1]
      have backs : back.filter p = back' := by
        rw [fronts] at split
        exact List.append_cancel_left split
      rw [whole, List.filter_append, List.filter_cons_of_pos kept, fronts, backs,
        List.filter_cons_of_pos kept, whole']
    · rw [whole, List.filter_append, List.filter_cons_of_neg kept, List.filter_cons_of_neg kept,
        ← List.filter_append, ← rest, ih]

theorem mergeSort_congr {le' : α → α → Bool} {as : List α}
    (same : ∀ a ∈ as, ∀ b ∈ as, le a b = le' a b) : as.mergeSort le = as.mergeSort le' := by
  have mapped := List.map_mergeSort (f := id) same
  rwa [List.map_id, List.map_id] at mapped

end

/-! ### Failures -/

section

variable {α β γ : Type} {f g : α → Except SchemaError β}

/-- Whether work on each of a list fails, and how, is decided by those that can fail. -/
theorem mapM_filter {p : α → Bool} {as : List α}
    (fine : ∀ a ∈ as, p a = false → ∃ b, f a = .ok b) (k : Except SchemaError γ) :
    (as.mapM f >>= fun _ => k) = ((as.filter p).mapM f >>= fun _ => k) := by
  induction as with
  | nil => rfl
  | cons a as ih =>
    have rest := ih fun x hx => fine x (List.mem_cons_of_mem _ hx)
    cases kept : p a with
    | false =>
      obtain ⟨b, made⟩ := fine a (List.mem_cons_self ..) kept
      rw [List.filter_cons_of_neg (by simp [kept]), ← rest]
      simp only [List.mapM_cons, made, bind_assoc, pure_bind]
      rfl
    | true =>
      rw [List.filter_cons_of_pos kept]
      simp only [List.mapM_cons, bind_assoc, pure_bind]
      congr 1
      funext b
      exact rest

theorem mapM_congr {as : List α} (same : ∀ a ∈ as, f a = g a) : as.mapM f = as.mapM g := by
  induction as with
  | nil => rfl
  | cons a as ih =>
    have rest := ih fun x hx => same x (List.mem_cons_of_mem _ hx)
    simp only [List.mapM_cons, same a (List.mem_cons_self ..), rest]

end

/-! ### Members outside of a catalog -/

namespace Settings

variable {known : String → Option Schema} {root : SchemaDocument} {u v : Universe}

/-- How many imports lead to a schema of a load. -/
def depth (u : Universe) (id : String) : Nat := ((u.chains.find? id).map (·.length)).getD 0

theorem members_eq (root : SchemaDocument) (u : Universe) :
    members root u = (u.pending.entries.filter fun e => root.id != some e.1).mergeSort
      fun a b => depth u b.1 ≤ depth u a.1 := rfl

theorem filter_members (root : SchemaDocument) (u : Universe)
    (p : String × SchemaDocument → Bool) :
    (members root u).filter p =
      ((u.pending.entries.filter p).filter fun e => root.id != some e.1).mergeSort
        fun a b => depth u b.1 ≤ depth u a.1 := by
  rw [members_eq, filter_mergeSort, List.filter_filter, List.filter_filter]
  · congr 2
    funext e
    exact Bool.and_comm ..
  · intro a b c first second
    simp only [decide_eq_true_eq] at first second ⊢
    omega
  · intro a b
    simp only [Bool.or_eq_true, decide_eq_true_eq]
    omega

/-- Loads that have read the same outside of a catalog compile that in the same order. -/
theorem members_outside (hu : Ascending u.pending.names) (hv : Ascending v.pending.names)
    (same : u.frontier known = v.frontier known) (root : SchemaDocument) :
    (members root u).filter (fun e => outside known e.1) =
      (members root v).filter fun e => outside known e.1 := by
  have entries : u.pending.entries.filter (fun e => outside known e.1) =
      v.pending.entries.filter fun e => outside known e.1 := by
    refine Table.entries_ext (Table.ascending_filter hu (outside known))
      (Table.ascending_filter hv (outside known)) ?_
    intro key
    rw [Table.find?_filter, Table.find?_filter]
    exact congrFun (congrArg Frontier.document? same) key
  have depths : ∀ id, outside known id = true → depth u id = depth v id := by
    intro id out
    have chain := congrFun (congrArg Frontier.chain? same) id
    simp only [Universe.frontier, out, if_true] at chain
    simp only [depth, chain]
  rw [filter_members, filter_members, entries]
  refine mergeSort_congr ?_
  intro a ha b hb
  have out : ∀ e, e ∈ (v.pending.entries.filter fun e => outside known e.1).filter
      (fun e => root.id != some e.1) → outside known e.1 = true := by
    intro e mem
    exact (List.mem_filter.1 (List.mem_filter.1 mem).1).2
  rw [depths a.1 (out a ha), depths b.1 (out b hb)]

end Settings
end Isl
