import Isl.Proofs.Table
import Isl.System.Universe
/-!
# Looking names up along imports

The search for a declaration does not ask a question again on the way to its own answer. It still
finds whatever a chain of imports leads to: a shortest chain asks no question twice.

* `KnowsWithin`, `Knows`: a schema of a load knows a name by a chain of imports;
* `origin?_isSome_iff`: the search finds a declaration exactly for the names that are known;
* `origin?_near`: a declaration that is not found through imports is in the schema itself.
-/
namespace Isl

theorem Table.mem_names_of_find? {β : Type u} {t : Table β} {name : String} {b : β}
    (h : t.find? name = some b) : name ∈ t.names :=
  List.mem_map.2 ⟨(name, b), mem_entries_of_find? h, rfl⟩

theorem declared?_eq_some {d : SchemaDocument} {name : String} {t : NamedType}
    (h : d.declared? name = some t) : t ∈ d.types ∧ t.name = name :=
  ⟨List.mem_of_find?_eq_some h, by simpa using List.find?_some h⟩

theorem declared?_of_mem {d : SchemaDocument} {t : NamedType} (h : t ∈ d.types) :
    ∃ first, d.declared? t.name = some first := by
  cases found : d.declared? t.name with
  | none =>
    have differs := List.find?_eq_none.1 found t h
    simp at differs
  | some first => exact ⟨first, rfl⟩

namespace Universe

variable {u : Universe} {id name : String}

/-- A schema of this load declares a type of this name. -/
def Declares (u : Universe) (id name : String) : Prop := ∃ t ∈ u.declaredTypes id, t.name = name

/-- A document that is still to be compiled. -/
def Reads (u : Universe) (id : String) (d : SchemaDocument) : Prop :=
  u.cached.find? id = none ∧ u.pending.find? id = some d

/-- A schema knows a name after a chain of at most so many imports. What a cached schema knows is
settled; the others know what they declare, what a schema declares that they import as a whole,
and what the schema of a single import knows by the name it is asked for. -/
inductive KnowsWithin (u : Universe) : Nat → String → String → Prop where
  | cached {k : Nat} {id name : String} {s : Schema} {o : Origin}
      (held : u.cached.find? id = some s) (known : s.origin? name = some o) :
      KnowsWithin u k id name
  | declared {k : Nat} {id name : String} {d : SchemaDocument} {t : NamedType}
      (read : u.Reads id d) (own : d.declared? name = some t) : KnowsWithin u k id name
  | wildcard {k : Nat} {id name other : String} {d : SchemaDocument} (read : u.Reads id d)
      (header : .wildcard other ∈ d.imports) (there : u.Declares other name) :
      KnowsWithin u (k + 1) id name
  | single {k : Nat} {id other typeName : String} {newName : Option String} {d : SchemaDocument}
      (read : u.Reads id d) (header : .single other typeName newName ∈ d.imports)
      (there : KnowsWithin u k other typeName) :
      KnowsWithin u (k + 1) id (newName.getD typeName)

/-- A schema knows a name by some chain of imports. -/
def Knows (u : Universe) (id name : String) : Prop := ∃ k, u.KnowsWithin k id name

theorem KnowsWithin.succ {k : Nat} (h : u.KnowsWithin k id name) :
    u.KnowsWithin (k + 1) id name := by
  induction h with
  | cached held known => exact .cached held known
  | declared read own => exact .declared read own
  | wildcard read header there => exact .wildcard read header there
  | single read header _ ih => exact .single read header ih

/-- What a schema declares is found there. -/
theorem Declares.cases (h : u.Declares id name) :
    (∃ s t, u.cached.find? id = some s ∧ s.declared? name = some t) ∨
      ∃ d t, u.Reads id d ∧ d.declared? name = some t := by
  obtain ⟨t, mem, rfl⟩ := h
  unfold declaredTypes at mem
  cases held : u.cached.find? id with
  | some s =>
    rw [held] at mem
    obtain ⟨first, found⟩ := declared?_of_mem (d := s.document) mem
    exact .inl ⟨s, first, rfl, found⟩
  | none =>
    rw [held] at mem
    cases read : u.pending.find? id with
    | none => simp [read] at mem
    | some d =>
      simp only [read, Option.map_some, Option.getD_some] at mem
      obtain ⟨first, found⟩ := declared?_of_mem mem
      exact .inr ⟨d, first, ⟨held, read⟩, found⟩

theorem Declares.knowsWithin (h : u.Declares id name) (k : Nat) : u.KnowsWithin k id name := by
  obtain ⟨s, t, held, found⟩ | ⟨d, t, read, found⟩ := h.cases
  · exact .cached held (o := ⟨s.id?.getD "", t, false⟩) (by simp [Schema.origin?, found])
  · exact .declared read found

theorem reads_of_pending {d : SchemaDocument}
    (apart : u.cached.contains id = true → u.pending.contains id = false)
    (found : u.pending.find? id = some d) : u.Reads id d := by
  refine ⟨?_, found⟩
  cases held : u.cached.find? id with
  | none => rfl
  | some s =>
    have absent := apart (Table.contains_iff.2 ⟨s, held⟩)
    rw [Table.contains_iff.2 ⟨d, found⟩] at absent
    cases absent

theorem Reads.unique {d e : SchemaDocument} (h : u.Reads id d) (h' : u.Reads id e) : d = e :=
  Option.some.inj (h.2.symm.trans h'.2)

theorem Reads.mem_ids {d : SchemaDocument} (read : u.Reads id d) :
    id ∈ u.pending.names ++ u.cached.names :=
  List.mem_append_left _ (Table.mem_names_of_find? read.2)

theorem declaredTypes_cached {s : Schema} (held : u.cached.find? id = some s) :
    u.declaredTypes id = s.types := by
  simp only [declaredTypes, held]

theorem declaredTypes_read {d : SchemaDocument} (read : u.Reads id d) :
    u.declaredTypes id = d.types := by
  simp only [declaredTypes, read.1, read.2, Option.map_some, Option.getD_some]

/-! ## One question -/

variable {questions : List (String × String)}

theorem mem_without {q question : String × String} :
    q ∈ without question questions ↔ q ∈ questions ∧ q ≠ question := by
  simp [without]

theorem originAmong_closed (closed : (id, name) ∉ questions) :
    u.originAmong questions id name = none := by
  rw [originAmong, dif_neg closed]

theorem originAmong_cached {s : Schema} (open_ : (id, name) ∈ questions)
    (held : u.cached.find? id = some s) : u.originAmong questions id name = s.origin? name := by
  rw [originAmong, dif_pos open_]
  simp only [held]

theorem originAmong_unread (open_ : (id, name) ∈ questions) (free : u.cached.find? id = none)
    (unread : u.pending.find? id = none) : u.originAmong questions id name = none := by
  rw [originAmong, dif_pos open_]
  simp only [free, unread]

theorem originAmong_declared {d : SchemaDocument} {t : NamedType} (open_ : (id, name) ∈ questions)
    (read : u.Reads id d) (own : d.declared? name = some t) :
    u.originAmong questions id name = some ⟨id, t, false⟩ := by
  rw [originAmong, dif_pos open_]
  simp only [read.1, read.2, own]

/-- What an import passes on of a search that leaves out a question. -/
def throughImport (u : Universe) (questions : List (String × String)) (name : String) :
    HeaderImport → Option Origin
  | .wildcard other => (u.originAmong questions other name).filter (!·.transitive)
  | .single other typeName newName =>
    if newName.getD typeName = name then u.originAmong questions other typeName else none

theorem originAmong_imports {d : SchemaDocument} (open_ : (id, name) ∈ questions)
    (read : u.Reads id d) (other : d.declared? name = none) :
    u.originAmong questions id name =
      (d.imports.findSome? (u.throughImport (without (id, name) questions) name)).map
        fun o => { o with transitive := true } := by
  rw [originAmong, dif_pos open_]
  simp only [read.1, read.2, other]
  congr 2

/-! ## What is found is known -/

/-- An answer is what a cached schema knows, a declaration, or passed on by an import. -/
theorem originAmong_cases {o : Origin} (found : u.originAmong questions id name = some o) :
    (∃ s, u.cached.find? id = some s ∧ s.origin? name = some o) ∨
      (∃ d t, u.Reads id d ∧ d.declared? name = some t ∧ o = ⟨id, t, false⟩) ∨
      ∃ d i o', u.Reads id d ∧ i ∈ d.imports ∧ (id, name) ∈ questions ∧
        u.throughImport (without (id, name) questions) name i = some o' ∧
        o = { o' with transitive := true } := by
  by_cases open_ : (id, name) ∈ questions
  · cases held : u.cached.find? id with
    | some s =>
      rw [originAmong_cached open_ held] at found
      exact .inl ⟨s, rfl, found⟩
    | none =>
      cases read : u.pending.find? id with
      | none =>
        rw [originAmong_unread open_ held read] at found
        cases found
      | some d =>
        cases own : d.declared? name with
        | some t =>
          rw [originAmong_declared open_ ⟨held, read⟩ own] at found
          cases found
          exact .inr (.inl ⟨d, t, ⟨held, read⟩, own, rfl⟩)
        | none =>
          rw [originAmong_imports open_ ⟨held, read⟩ own] at found
          obtain ⟨o', through, rfl⟩ := Option.map_eq_some_iff.1 found
          obtain ⟨i, header, passed⟩ := List.exists_of_findSome?_eq_some through
          exact .inr (.inr ⟨d, i, o', ⟨held, read⟩, header, open_, passed, rfl⟩)
  · rw [originAmong_closed open_] at found
    cases found

/-- A declaration that is not found through imports is in the schema itself. -/
theorem originAmong_near {o : Origin} (found : u.originAmong questions id name = some o)
    (near : o.transitive = false) :
    (∃ s t, u.cached.find? id = some s ∧ s.declared? name = some t ∧
        o = ⟨s.id?.getD "", t, false⟩) ∨
      ∃ d t, u.Reads id d ∧ d.declared? name = some t ∧ o = ⟨id, t, false⟩ := by
  obtain ⟨s, held, known⟩ | ⟨d, t, read, own, rfl⟩ | ⟨d, i, o', -, -, -, -, rfl⟩ :=
    originAmong_cases found
  · unfold Schema.origin? at known
    cases own : s.declared? name with
    | some t =>
      simp only [own, Option.some.injEq] at known
      exact .inl ⟨s, t, held, own, known.symm⟩
    | none =>
      simp only [own, Option.map_eq_some_iff] at known
      obtain ⟨i, -, rfl⟩ := known
      cases near
  · exact .inr ⟨d, t, read, own, rfl⟩
  · cases near

theorem declares_of_near {o : Origin} (found : u.originAmong questions id name = some o)
    (near : o.transitive = false) : u.Declares id name := by
  obtain ⟨s, t, held, own, -⟩ | ⟨d, t, read, own, -⟩ := originAmong_near found near
  · obtain ⟨mem, named⟩ := declared?_eq_some (d := s.document) own
    exact ⟨t, by rwa [declaredTypes_cached held], named⟩
  · obtain ⟨mem, named⟩ := declared?_eq_some own
    exact ⟨t, by rwa [declaredTypes_read read], named⟩

/-- The search takes ever fewer questions with it, so their number carries the induction. -/
theorem knows_of_originAmong (n : Nat) :
    ∀ {questions : List (String × String)} {id name : String} {o : Origin}, questions.length = n →
      u.originAmong questions id name = some o → u.Knows id name := by
  induction n using Nat.strongRecOn with
  | ind n ih =>
    intro questions id name o length found
    obtain ⟨s, held, known⟩ | ⟨d, t, read, own, -⟩ | ⟨d, i, o', read, header, open_, passed, -⟩ :=
      originAmong_cases found
    · exact ⟨0, .cached held known⟩
    · exact ⟨0, .declared read own⟩
    · cases i with
      | wildcard other =>
        obtain ⟨there, near⟩ := Option.filter_eq_some_iff.1 passed
        have declares := declares_of_near there (by simpa using near)
        exact ⟨1, .wildcard read header declares⟩
      | single other typeName newName =>
        by_cases named : newName.getD typeName = name
        · simp only [throughImport, if_pos named] at passed
          have fewer := length_without_lt open_
          obtain ⟨k, there⟩ := ih _ (length ▸ fewer) rfl passed
          exact ⟨k + 1, named ▸ .single read header there⟩
        · simp only [throughImport, if_neg named] at passed
          cases passed

/-! ## What is known is found -/

theorem originAmong_declares (open_ : (id, name) ∈ questions) (h : u.Declares id name) :
    ∃ o, u.originAmong questions id name = some o ∧ o.transitive = false := by
  obtain ⟨s, t, held, own⟩ | ⟨d, t, read, own⟩ := h.cases
  · refine ⟨⟨s.id?.getD "", t, false⟩, ?_, rfl⟩
    rw [originAmong_cached open_ held]
    simp only [Schema.origin?, own]
  · exact ⟨⟨id, t, false⟩, originAmong_declared open_ read own, rfl⟩

theorem KnowsWithin.mem_ids {k : Nat} (h : u.KnowsWithin k id name) :
    id ∈ u.pending.names ++ u.cached.names := by
  cases h with
  | cached held _ => exact List.mem_append_right _ (Table.mem_names_of_find? held)
  | declared read _ => exact List.mem_append_left _ (Table.mem_names_of_find? read.2)
  | wildcard read _ _ => exact List.mem_append_left _ (Table.mem_names_of_find? read.2)
  | single read _ _ => exact List.mem_append_left _ (Table.mem_names_of_find? read.2)

theorem mem_questions {first : String} :
    (id, name) ∈ u.questions first ↔
      id ∈ u.pending.names ++ u.cached.names ∧ name ∈ first :: u.importedNames := by
  simp only [questions, List.mem_flatMap, List.mem_map, Prod.mk.injEq]
  constructor
  · rintro ⟨i, hi, n, hn, rfl, rfl⟩
    exact ⟨hi, hn⟩
  · rintro ⟨hi, hn⟩
    exact ⟨id, hi, name, hn, rfl, rfl⟩

theorem mem_importedNames {d : SchemaDocument} {other typeName : String} {newName : Option String}
    (read : u.Reads id d) (header : .single other typeName newName ∈ d.imports) :
    typeName ∈ u.importedNames := by
  refine List.mem_flatMap.2 ⟨d, Table.mem_values_of_find? read.2, ?_⟩
  exact List.mem_filterMap.2 ⟨.single other typeName newName, header, rfl⟩

theorem originAmong_through {d : SchemaDocument} {i : HeaderImport} {o : Origin}
    (open_ : (id, name) ∈ questions) (read : u.Reads id d) (header : i ∈ d.imports)
    (passed : u.throughImport (without (id, name) questions) name i = some o) :
    ∃ o, u.originAmong questions id name = some o := by
  cases own : d.declared? name with
  | some t => exact ⟨_, originAmong_declared open_ read own⟩
  | none =>
    have some_ : (d.imports.findSome?
        (u.throughImport (without (id, name) questions) name)).isSome = true :=
      List.findSome?_isSome_iff.2 ⟨i, header, by simp [passed]⟩
    obtain ⟨o', found⟩ := Option.isSome_iff_exists.1 some_
    exact ⟨_, by rw [originAmong_imports open_ read own, found]; rfl⟩

/-- Whoever knows a name within so many imports finds it, as long as no such question is left out.
A question is left out only when it needs more imports than the questions that follow. -/
theorem originAmong_of_knowsWithin {first : String} (k : Nat) :
    ∀ {questions : List (String × String)} {id name : String}, u.KnowsWithin k id name →
      (id, name) ∈ u.questions first →
      (∀ q ∈ u.questions first, u.KnowsWithin k q.1 q.2 → q ∈ questions) →
      ∃ o, u.originAmong questions id name = some o := by
  induction k with
  | zero =>
    intro questions id name h asked open_
    have mine := open_ _ asked h
    cases h with
    | cached held known => exact ⟨_, (originAmong_cached mine held).trans known⟩
    | declared read own => exact ⟨_, originAmong_declared mine read own⟩
  | succ k ih =>
    intro questions id name h asked open_
    by_cases sooner : u.KnowsWithin k id name
    · exact ih sooner asked fun q hq hk => open_ q hq hk.succ
    · have mine := open_ _ asked h
      have later : ∀ q ∈ u.questions first, u.KnowsWithin k q.1 q.2 →
          q ∈ without (id, name) questions := by
        intro q hq hk
        refine mem_without.2 ⟨open_ q hq hk.succ, ?_⟩
        rintro rfl
        exact sooner hk
      obtain ⟨-, named⟩ := mem_questions.1 asked
      cases h with
      | cached held known => exact absurd (.cached held known) sooner
      | declared read own => exact absurd (.declared read own) sooner
      | @wildcard _ _ _ other d read header there =>
        have asked_there := mem_questions.2 ⟨(there.knowsWithin k).mem_ids, named⟩
        obtain ⟨o, found, near⟩ :=
          originAmong_declares (later _ asked_there (there.knowsWithin k)) there
        exact originAmong_through mine read header (o := o) (by simp [throughImport, found, near])
      | @single _ _ other typeName newName d read header there =>
        have asked_there := mem_questions.2
          ⟨there.mem_ids, List.mem_cons_of_mem first (mem_importedNames read header)⟩
        obtain ⟨o, found⟩ := ih there asked_there later
        exact originAmong_through mine read header (o := o) (by simp [throughImport, found])

/-- The search finds a declaration exactly for the names that a chain of imports leads to. -/
theorem origin?_isSome_iff : (∃ o, u.origin? id name = some o) ↔ u.Knows id name := by
  constructor
  · rintro ⟨o, found⟩
    exact knows_of_originAmong _ rfl found
  · rintro ⟨k, h⟩
    have asked := mem_questions.2 ⟨h.mem_ids, List.mem_cons_self (a := name)⟩
    exact originAmong_of_knowsWithin k h asked fun _ hq _ => hq

theorem origin?_eq_none_iff : u.origin? id name = none ↔ ¬u.Knows id name := by
  rw [← origin?_isSome_iff, Option.eq_none_iff_forall_ne_some]
  exact not_exists.symm

theorem Knows.cases_cached {s : Schema} (held : u.cached.find? id = some s) (h : u.Knows id name) :
    ∃ origin, s.origin? name = some origin := by
  obtain ⟨k, h⟩ := h
  cases h with
  | cached same known => exact ⟨_, Option.some.inj (held.symm.trans same) ▸ known⟩
  | declared read _ | wildcard read _ _ | single read _ _ =>
    rw [read.1] at held
    cases held

/-- What a document that was read knows, it declares or has an import for. -/
theorem Knows.cases_read {d : SchemaDocument} (read : u.Reads id d) (h : u.Knows id name) :
    (∃ t, d.declared? name = some t) ∨
      (∃ other, .wildcard other ∈ d.imports ∧ u.Declares other name) ∨
      ∃ other typeName newName, .single other typeName newName ∈ d.imports ∧
        newName.getD typeName = name ∧ u.Knows other typeName := by
  obtain ⟨k, h⟩ := h
  have same : ∀ {e : SchemaDocument}, u.Reads id e → e = d := fun other => other.unique read
  cases h with
  | cached held known =>
    rw [read.1] at held
    cases held
  | declared other own => exact .inl ⟨_, same other ▸ own⟩
  | wildcard other header there => exact .inr (.inl ⟨_, same other ▸ header, there⟩)
  | single other header there =>
    exact .inr (.inr ⟨_, _, _, same other ▸ header, rfl, _, there⟩)

theorem origin?_near {o : Origin} (found : u.origin? id name = some o)
    (near : o.transitive = false) :
    (∃ s t, u.cached.find? id = some s ∧ s.declared? name = some t ∧
        o = ⟨s.id?.getD "", t, false⟩) ∨
      ∃ d t, u.Reads id d ∧ d.declared? name = some t ∧ o = ⟨id, t, false⟩ :=
  originAmong_near found near

theorem origin?_declares (h : u.Declares id name) :
    ∃ o, u.origin? id name = some o ∧ o.transitive = false :=
  originAmong_declares
    (mem_questions.2 ⟨(h.knowsWithin 0).mem_ids, List.mem_cons_self (a := name)⟩) h

/-- A schema with a single import knows the type that it imports from a schema that declares it. -/
theorem origin?_relayed {d e : SchemaDocument} {other typeName : String} {newName : Option String}
    {t : NamedType} (read : u.Reads id d) (header : d.imports = [.single other typeName newName])
    (undeclared : d.declared? (newName.getD typeName) = none) (there : u.Reads other e)
    (own : e.declared? typeName = some t) (distinct : other ≠ id) :
    u.origin? id (newName.getD typeName) = some ⟨other, t, true⟩ := by
  have asked : (other, typeName) ∈ without (id, newName.getD typeName)
      (u.questions (newName.getD typeName)) := by
    refine mem_without.2 ⟨mem_questions.2 ⟨there.mem_ids, ?_⟩, fun same => distinct ?_⟩
    · exact List.mem_cons_of_mem _ (mem_importedNames read (header ▸ List.mem_cons_self ..))
    · exact congrArg Prod.fst same
  have first : (id, newName.getD typeName) ∈ u.questions (newName.getD typeName) :=
    mem_questions.2 ⟨read.mem_ids, List.mem_cons_self ..⟩
  rw [origin?, originAmong_imports first read undeclared, header]
  simp [throughImport, originAmong_declared asked there own]

end Universe
end Isl
