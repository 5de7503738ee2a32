import Isl.Proofs.System.Failure
import Isl.Proofs.System.Headers
import Isl.Proofs.System.Independence
/-!
# Loads of reordered documents

When documents list their header imports otherwise, a walk comes to the same schemas in another
order, and schemas that import the root back search other lists. A load on a fresh system still
comes to the same if transitive imports are disallowed.

* `Library.SameImports`: two libraries whose documents list the same imports;
* `Library.SameImports.knows`, `Library.SameImports.reaches`: their schemas know the same names and
  reach the same schemas;
* `Universe.agrees_of_sameImports`: worlds that are faithful to them agree;
* `System.load_sameImports`: loads from them both succeed, with the same imports and the same names
  in scope, or both fail.
-/
namespace Isl

/-- Both succeed, with results that are related, or both fail. -/
inductive Paired {α β : Type} (R : α → β → Prop) :
    Except SchemaError α → Except SchemaError β → Prop where
  | ok {a : α} {b : β} (related : R a b) : Paired R (.ok a) (.ok b)
  | error (e f : SchemaError) : Paired R (.error e) (.error f)

section

variable {α β : Type} {R : α → β → Prop} {r : Except SchemaError α} {r' : Except SchemaError β}

theorem Paired.forth (paired : Paired R r r') {a : α} (done : r = .ok a) :
    ∃ b, r' = .ok b ∧ R a b := by
  cases paired with
  | ok related =>
    cases done
    exact ⟨_, rfl, related⟩
  | error => cases done

theorem Paired.back (paired : Paired R r r') {b : β} (done : r' = .ok b) :
    ∃ a, r = .ok a ∧ R a b := by
  cases paired with
  | ok related =>
    cases done
    exact ⟨_, rfl, related⟩
  | error => cases done

theorem paired_of (forth : ∀ a, r = .ok a → ∃ b, r' = .ok b ∧ R a b)
    (back : ∀ b, r' = .ok b → ∃ a, r = .ok a) : Paired R r r' := by
  cases done : r with
  | ok a =>
    obtain ⟨b, done', related⟩ := forth a done
    exact done' ▸ .ok related
  | error e =>
    cases done' : r' with
    | ok b =>
      obtain ⟨a, other⟩ := back b done'
      cases done.symm.trans other
    | error f => exact .error e f

theorem Paired.bind {γ δ : Type} {S : γ → δ → Prop} {f : α → Except SchemaError γ}
    {g : β → Except SchemaError δ} (paired : Paired R r r')
    (next : ∀ a b, r = .ok a → r' = .ok b → R a b → Paired S (f a) (g b)) :
    Paired S (r >>= f) (r' >>= g) := by
  cases paired with
  | ok related => exact next _ _ rfl rfl related
  | error e f => exact .error e f

theorem Paired.map {γ δ : Type} {S : γ → δ → Prop} {f : α → γ} {g : β → δ}
    (paired : Paired R r r') (related : ∀ a b, R a b → S (f a) (g b)) :
    Paired S (r.map f) (r'.map g) := by
  cases paired with
  | ok start => exact .ok (related _ _ start)
  | error e f => exact .error e f

end

/-- Two libraries have documents under the same ids, which list the same imports. -/
def Library.SameImports (lib lib' : Library) : Prop :=
  ∀ id, Paired SchemaDocument.SameImports (lib.document id) (lib'.document id)

namespace SchemaDocument.SameImports

variable {d e : SchemaDocument}

theorem declared (same : d.SameImports e) (name : String) :
    d.declared? name = e.declared? name := by
  simp only [declared?, same.types]

theorem needs (same : d.SameImports e) {id : String} (needs : d.Needs id) : e.Needs id := by
  cases needs with
  | header mem => exact .header ((same.imports _).1 mem)
  | inPlace holds =>
    obtain ⟨t, declared, held⟩ := holds
    exact .inPlace ⟨t, same.types ▸ declared, held⟩

end SchemaDocument.SameImports

namespace Library.SameImports

variable {lib lib' : Library} {cached : String → Option Schema} {d root root' : SchemaDocument}
  {id name : String}

theorem document (same : lib.SameImports lib') (found : lib.document id = .ok d) :
    ∃ e, lib'.document id = .ok e ∧ d.SameImports e := (same id).forth found

theorem symm (same : lib.SameImports lib') : lib'.SameImports lib := by
  intro id
  refine paired_of (fun e there => ?_) fun d found => ?_
  · obtain ⟨d, found, listed⟩ := (same id).back there
    exact ⟨d, found, listed.symm⟩
  · obtain ⟨e, there, -⟩ := same.document found
    exact ⟨e, there⟩

/-- The schemas know the same names. -/
theorem knows (same : lib.SameImports lib') (known : lib.Knows id name) : lib'.Knows id name := by
  induction known with
  | declared found own =>
    obtain ⟨e, there, listed⟩ := same.document found
    exact .declared there (listed.declared _ ▸ own)
  | wildcard found header other own =>
    obtain ⟨e, there, listed⟩ := same.document found
    obtain ⟨f, there', listed'⟩ := same.document other
    exact .wildcard there ((listed.imports _).1 header) there' (listed'.declared _ ▸ own)
  | single found header _ ih =>
    obtain ⟨e, there, listed⟩ := same.document found
    exact .single there ((listed.imports _).1 header) ih

/-- Roots that list the same imports reach the same schemas. -/
theorem reaches (same : lib.SameImports lib') (roots : root.SameImports root')
    (reached : lib.Reaches cached root id) : lib'.Reaches cached root' id := by
  induction reached with
  | direct needs => exact .direct (roots.needs needs)
  | onward _ foreign free found needs ih =>
    obtain ⟨e, there, listed⟩ := same.document found
    exact .onward ih (roots.id ▸ foreign) free there (listed.needs needs)

/-- So both walks succeed, or none. -/
theorem gathers (same : lib.SameImports lib') (roots : root.SameImports root') {u : Universe}
    (gathered : Universe.gather lib cached root = .ok u) :
    ∃ v, Universe.gather lib' cached root' = .ok v := by
  refine Universe.gather_ok_iff.2 fun id reached foreign free => ?_
  have reached' := same.symm.reaches roots.symm reached
  obtain ⟨d, found⟩ := Universe.gather_ok_iff.1 ⟨u, gathered⟩ id reached' (roots.id ▸ foreign) free
  obtain ⟨e, there, -⟩ := same.document found
  exact ⟨e, there⟩

end Library.SameImports

/-- Worlds that are faithful to two such libraries agree. -/
theorem Universe.agrees_of_sameImports {u v : Universe} {lib lib' : Library} {id : String}
    (same : lib.SameImports lib') (hu : u.Faithful lib id) (hv : v.Faithful lib' id) :
    u.Agrees v id := by
  obtain ⟨d, found, types⟩ := hu.types
  obtain ⟨e, there, listed⟩ := same.document found
  refine ⟨?_, ?_, ?_⟩
  · obtain ⟨e', there', types'⟩ := hv.types
    obtain rfl := Except.ok.inj (there.symm.trans there')
    rw [types, types', listed.types]
  · intro name origin near
    rw [hu.near_iff near, hv.near_iff near, found, there]
    simp [listed.declared]
  · intro name
    have known : lib.Knows id name ↔ lib'.Knows id name := ⟨same.knows, same.symm.knows⟩
    rw [Option.eq_none_iff_forall_ne_some, Option.eq_none_iff_forall_ne_some, ← not_exists,
      ← not_exists, hu.knows, hv.knows, known]

namespace System

variable {s s' : System} {cache : Cache Schema} {root root' d e : SchemaDocument} {σ : Schema}
  {members : List Schema} {lib lib' : Library} {u v : Universe}

/-- A document compiles in one world exactly if the other one does in the other world. -/
theorem run_of_sameImports {settings : Settings} (strict : settings.allowTransitive = false)
    (same : lib.SameImports lib') (hu : u.Stocked lib) (hv : v.Stocked lib') (labelled : v.Labelled)
    (documents : d.SameImports e) (inU : ∀ i ∈ d.importIds, u.contains i = true)
    (inV : ∀ i ∈ e.importIds, v.contains i = true) (ran : (settings.compilation u d).run = .ok σ) :
    ∃ τ, (settings.compilation v e).run = .ok τ ∧ σ.SameImports τ := by
  have agree : ∀ i ∈ d.importIds, u.Agrees v i := by
    intro i mem
    have needs := documents.needs (SchemaDocument.mem_importIds_iff.1 mem)
    exact Universe.agrees_of_sameImports same (hu.faithful (inU i mem))
      (hv.faithful (inV i (SchemaDocument.mem_importIds_iff.2 needs)))
  have moved : (settings.compilation v d).run = .ok σ :=
    (Compilation.run_congr (c := settings.compilation u d) strict agree).trans ran
  have compiled := Compilation.run_sameImports (c := settings.compilation v d) strict labelled
    documents moved
  rw [Settings.compilation, documents.version] at compiled
  exact compiled

/-- What an attempt without cached schemas comes to. -/
theorem attempt_sameImports (strict : s.settings.allowTransitive = false)
    (policy : s.settings = s'.settings) (same : s.library.SameImports s'.library)
    (bare : ∀ id, cache.get? id = none) (roots : root.SameImports root')
    (source : ∀ id, root.id = some id → s.library.document id = .ok root)
    (source' : ∀ id, root'.id = some id → s'.library.document id = .ok root')
    (ended : (s.attempt cache root).outcome = .ok (σ, members)) :
    ∃ τ others, (s'.attempt cache root').outcome = .ok (τ, others) ∧ σ.SameImports τ := by
  obtain ⟨u, gathered, compiled⟩ := attempt_eq_ok_iff.1 ended
  obtain ⟨each, own⟩ := compile_eq_ok_iff.1 compiled
  obtain ⟨v, gathered'⟩ := same.gathers roots gathered
  have nothing : ∀ {lib : Library} id σ, cache.get? id = some σ → σ.Bound lib id := by
    intro lib id σ held
    rw [bare] at held
    cases held
  have hu := Universe.stocked_gather gathered source nothing
  have hv := Universe.stocked_gather gathered' source' nothing
  have labelled : v.Labelled := by
    refine Universe.labelled_of_bare fun id => ?_
    cases held : v.cached.find? id with
    | none => rfl
    | some σ =>
      have there := ((Universe.cached_gather_iff gathered').1 held).2.2
      rw [bare] at there
      cases there
  obtain ⟨τ, ran, result⟩ := run_of_sameImports strict same hu hv labelled roots
    (Universe.closed_gather gathered).1 (Universe.closed_gather gathered').1 own
  have compiles := (members_ok_iff (Universe.drawn_gather gathered)).1 ⟨members, each⟩
  have others : ∀ id e, root'.id ≠ some id → v.pending.find? id = some e →
      Compiles s.settings v e := by
    intro id e foreign read
    obtain own | ⟨reached, -, free, there⟩ := (Universe.pending_gather_iff gathered').1 read
    · exact absurd own.1 foreign
    · obtain ⟨d, found, listed⟩ := same.symm.document there
      have foreign' : root.id ≠ some id := roots.id ▸ foreign
      have read' := (Universe.pending_gather_iff gathered).2
        (.inr ⟨same.symm.reaches roots.symm reached, foreign', free, found⟩)
      obtain ⟨ρ, ran⟩ := compiles id d foreign' read'
      obtain ⟨ρ', ran', -⟩ := run_of_sameImports strict same hu hv labelled listed.symm
        (hu.closed id d read') (hv.closed id e read) ran
      exact ⟨ρ', ran'⟩
  obtain ⟨others, each'⟩ := (members_ok_iff (Universe.drawn_gather gathered')).2 others
  refine ⟨τ, others, attempt_eq_ok_iff.2 ⟨v, gathered', ?_⟩, result⟩
  rw [← policy]
  exact compile_eq_ok_iff.2 ⟨each', ran⟩

/-- Attempts without cached schemas both succeed, or none. -/
theorem paired_attempt (strict : s.settings.allowTransitive = false)
    (policy : s.settings = s'.settings) (same : s.library.SameImports s'.library)
    (bare : ∀ id, cache.get? id = none) (roots : root.SameImports root')
    (source : ∀ id, root.id = some id → s.library.document id = .ok root)
    (source' : ∀ id, root'.id = some id → s'.library.document id = .ok root') :
    Paired (fun r r' => r.1.SameImports r'.1) (s.attempt cache root).outcome
      (s'.attempt cache root').outcome := by
  refine paired_of (fun r ended => ?_) fun r' ended => ?_
  · obtain ⟨τ, others, ended', result⟩ :=
      attempt_sameImports strict policy same bare roots source source' ended
    exact ⟨(τ, others), ended', result⟩
  · obtain ⟨σ, members, ended', -⟩ := attempt_sameImports (policy ▸ strict) policy.symm same.symm
      bare roots.symm source' source ended
    exact ⟨(σ, members), ended'⟩

/-- Loads on fresh systems with such libraries both succeed, or none, and so do compilations of
values. -/
theorem load_sameImports {settings : Settings} (strict : settings.allowTransitive = false)
    {authorities authorities' : List Authority}
    (same : (settings.library authorities).SameImports (settings.library authorities')) :
    (∀ id, Paired Schema.SameImports
      (((fresh settings authorities).load id).2.map (·.schema))
      (((fresh settings authorities').load id).2.map (·.schema))) ∧
    ∀ values values', Paired SchemaDocument.SameImports (settings.read values)
        (settings.read values') →
      Paired Schema.SameImports ((fresh settings authorities).compileValues values).2
        ((fresh settings authorities').compileValues values').2 := by
  have attempts : ∀ {root root'}, root.SameImports root' →
      (∀ id, root.id = some id → (settings.library authorities).document id = .ok root) →
      (∀ id, root'.id = some id → (settings.library authorities').document id = .ok root') →
      Paired (fun r r' => r.1.SameImports r'.1)
        ((fresh settings authorities).attempt .empty root).outcome
        ((fresh settings authorities').attempt .empty root').outcome :=
    fun roots source source' => paired_attempt strict rfl same Cache.get?_empty roots source source'
  constructor
  · intro id
    rw [load_schema_attempted (idle_fresh settings authorities) (Cache.get?_empty id),
      load_schema_attempted (idle_fresh settings authorities') (Cache.get?_empty id),
      outcome_attemptId, outcome_attemptId]
    refine ((same id).bind fun root root' found found' roots => ?_).map fun _ _ result => result
    refine attempts roots ?_ ?_
    · intro key named
      have own := document_id (s := fresh settings authorities) found
      exact Option.some.inj (own.symm.trans named) ▸ found
    · intro key named
      have own := document_id (s := fresh settings authorities') found'
      exact Option.some.inj (own.symm.trans named) ▸ found'
  · intro values values' read
    rw [answer_compileValues, answer_compileValues]
    refine read.bind fun root root' found found' roots => ?_
    refine (attempts roots ?_ ?_).map fun _ _ result => result
    · intro key named
      cases (id_of_read found).symm.trans named
    · intro key named
      cases (id_of_read found').symm.trans named

/-! ## Values in another order -/

end System

namespace Settings

variable {settings : Settings} {values values' : List Element}

theorem read_relisted (settings : Settings) (relisted : values.Forall₂ Reader.Relisted values') :
    Paired SchemaDocument.SameImports (settings.read values) (settings.read values') := by
  unfold Settings.read
  obtain ⟨d, e, read, read', same⟩ | ⟨errors, errors', failed, failed'⟩ :=
    Reader.document_relisted settings.dialect relisted settings.failFast
  · rw [read, read']
    exact .ok same
  · rw [failed, failed']
    exact .error _ _

/-- Authorities that have the same ids, and values whose headers list imports in another order. -/
theorem library_relisted {authorities authorities' : List Authority}
    (fetched : ∀ id, Paired (List.Forall₂ Reader.Relisted) (Authority.fetch authorities id)
      (Authority.fetch authorities' id)) :
    (settings.library authorities).SameImports (settings.library authorities') := by
  intro id
  have found := fetched id
  simp only [library, fetch]
  generalize Authority.fetch authorities id = r, Authority.fetch authorities' id = r' at found
  cases found with
  | ok relisted => exact (settings.read_relisted relisted).map fun _ _ same => same.withId id
  | error e f => exact .error e f

end Settings

/-- The imports in a header are a set. If the values of any documents list theirs in another order,
then each load on a fresh system without transitive imports succeeds exactly if it did, and so does
each compilation of values. It records the same imports, and puts the same names into scope for the
same declarations. -/
theorem System.load_relisted {settings : Settings} (strict : settings.allowTransitive = false)
    {authorities authorities' : List Authority}
    (fetched : ∀ id, Paired (List.Forall₂ Reader.Relisted) (Authority.fetch authorities id)
      (Authority.fetch authorities' id)) :
    (∀ id, Paired Schema.SameImports
      (((fresh settings authorities).load id).2.map (·.schema))
      (((fresh settings authorities').load id).2.map (·.schema))) ∧
    ∀ values values', values.Forall₂ Reader.Relisted values' →
      Paired Schema.SameImports ((fresh settings authorities).compileValues values).2
        ((fresh settings authorities').compileValues values').2 := by
  obtain ⟨loads, compilations⟩ := load_sameImports strict (Settings.library_relisted fetched)
  exact ⟨loads, fun values values' relisted =>
    compilations values values' (settings.read_relisted relisted)⟩

/-! ## A root that is imported back -/

/-- `{ id: "b.isl" }`, `{ id: "c.isl", type: t, as: u }` -/
def frontImports : List Element :=
  [.struct [⟨"id", .string "b.isl"⟩],
    .struct [⟨"id", .string "c.isl"⟩, ⟨"type", .symbol "t"⟩, ⟨"as", .symbol "u"⟩]]

/-- `schema_header::{ imports: imports } type::{ name: x }` -/
def frontValues (imports : List Element) : List Element :=
  [⟨["schema_header"], .struct [⟨"imports", .list imports⟩]⟩,
    ⟨["type"], .struct [⟨"name", .symbol "x"⟩]⟩]

def frontDocument : SchemaDocument :=
  ⟨some "a.isl", .v1, [.header ⟨[.wildcard "b.isl", .single "c.isl" "t" (some "u")], .none, []⟩,
    .type ⟨"x", ⟨[], []⟩⟩]⟩

/-- `schema_header::{ imports: [{ id: "a.isl" }] } type::{ name: y }` -/
def backValues : List Element :=
  [⟨["schema_header"], .struct [⟨"imports", .list [.struct [⟨"id", .string "a.isl"⟩]]⟩]⟩,
    ⟨["type"], .struct [⟨"name", .symbol "y"⟩]⟩]

def backDocument : SchemaDocument :=
  ⟨some "b.isl", .v1, [.header ⟨[.wildcard "a.isl"], .none, []⟩, .type ⟨"y", ⟨[], []⟩⟩]⟩

/-- The root imports `b.isl` and a type of `c.isl`, and `b.isl` imports the root. -/
def frontAuthority (imports : List Element) : MemoryAuthority :=
  ((MemoryAuthority.empty.insertValues "b.isl" backValues).insertValues "c.isl"
    declaringValues).insertValues "a.isl" (frontValues imports)

theorem fetch_insertValues_of_ne (m : MemoryAuthority) {id key : String} (other : id ≠ key)
    (values : List Element) :
    Authority.fetch [.memory (m.insertValues id values)] key =
      Authority.fetch [.memory m] key := by
  have elements : (m.insertValues id values).elements key = m.elements key := by
    simp only [MemoryAuthority.elements, MemoryAuthority.insertValues, Table.find?_insert,
      if_neg other]
  simp only [Authority.fetch, Authority.fetchFrom, Authority.values, Authority.elements, elements]

theorem fetched_front (id : String) :
    Paired (List.Forall₂ Reader.Relisted)
      (Authority.fetch [.memory (frontAuthority frontImports)] id)
      (Authority.fetch [.memory (frontAuthority frontImports.reverse)] id) := by
  by_cases own : "a.isl" = id
  · subst own
    have header := @Reader.Relisted.header [] [] [] _ _ frontImports.reverse_perm.symm
    exact .ok (.cons header (.cons (.rest _) .nil))
  · rw [frontAuthority, frontAuthority, fetch_insertValues_of_ne _ own,
      fetch_insertValues_of_ne _ own]
    cases Authority.fetch _ id with
    | ok values => exact .ok (List.forall₂_same.2 fun e _ => .rest e)
    | error e => exact .error e e

def frontWorld : Universe :=
  ((Universe.ofRoot frontDocument).addPending "c.isl" ["c.isl"] farDocument).addPending "b.isl"
    ["b.isl"] backDocument

theorem gather_front :
    Universe.gather (Settings.standard.library [.memory (frontAuthority frontImports)])
      (Cache.empty : Cache Schema).get? frontDocument = .ok frontWorld :=
  Universe.gather_eq (.read rfl rfl rfl (.read rfl rfl rfl (.seen rfl (.done frontWorld))))

theorem run_front :
    System.Compiles .standard frontWorld frontDocument ∧
      System.Compiles .standard frontWorld backDocument ∧
        System.Compiles .standard frontWorld farDocument := by
  have found : frontWorld.origin? "c.isl" "t" = some ⟨"c.isl", ⟨"t", ⟨[], []⟩⟩, false⟩ :=
    Universe.origin?_declared ⟨rfl, rfl⟩ rfl
  have visible : (Settings.standard.compilation frontWorld frontDocument).exported "c.isl" "t" =
      .ok ⟨"c.isl", ⟨"t", ⟨[], []⟩⟩, false⟩ :=
    Compilation.exported_eq_ok_iff.2 ⟨found, nofun⟩
  let half : Bindings :=
    ⟨.ofList [("b.isl", ⟨true, .empty⟩)], .ofList [("y", ⟨"b.isl", ⟨"y", ⟨[], []⟩⟩⟩)]⟩
  have first : (Settings.standard.compilation frontWorld frontDocument).importOne .empty
      (.wildcard "b.isl") = .ok half := rfl
  obtain ⟨b, imported⟩ : ∃ b, (Settings.standard.compilation frontWorld frontDocument).importAll
      .empty frontDocument.imports = .ok b :=
    ⟨_, Compilation.importAll_cons_eq_ok_iff.2 ⟨half, first,
      Compilation.importAll_cons_eq_ok_iff.2 ⟨_, Compilation.importOne_single_eq_ok_iff.2
        ⟨by decide, _, visible, _, rfl, rfl⟩, rfl⟩⟩⟩
  exact ⟨⟨_, Compilation.run_eq_ok_iff.2 ⟨rfl, rfl, b, b, imported, rfl, rfl⟩⟩, ⟨_, rfl⟩, ⟨_, rfl⟩⟩

theorem load_front :
    ∃ loaded, ((System.fresh .standard [.memory (frontAuthority frontImports)]).load "a.isl").2 =
      .ok loaded := by
  refine (System.load_ok_iff (System.idle_fresh _ _) (Cache.get?_empty _) rfl).2
    (System.attempt_ok_iff.2 ⟨frontWorld, gather_front, run_front.1, ?_⟩)
  intro id d foreign found
  have listed := Table.mem_entries_of_find? found
  have entries : frontWorld.pending.entries =
      [("a.isl", frontDocument), ("b.isl", backDocument), ("c.isl", farDocument)] := rfl
  simp only [entries, List.mem_cons, Prod.mk.injEq, List.not_mem_nil, or_false] at listed
  obtain ⟨rfl, rfl⟩ | ⟨rfl, rfl⟩ | ⟨rfl, rfl⟩ := listed
  · exact absurd rfl foreign
  · exact run_front.2.1
  · exact run_front.2.2

/-- The load succeeds with both orders, though another schema imports the root. -/
theorem System.load_relisted_front :
    Settings.standard.allowTransitive = false ∧
      ∃ σ τ, ((fresh .standard [.memory (frontAuthority frontImports)]).load "a.isl").2.map
          (·.schema) = .ok σ ∧
        ((fresh .standard [.memory (frontAuthority frontImports.reverse)]).load "a.isl").2.map
          (·.schema) = .ok τ ∧ σ.SameImports τ := by
  refine ⟨rfl, ?_⟩
  obtain ⟨loaded, done⟩ := load_front
  obtain ⟨τ, done', same⟩ := Paired.forth ((load_relisted rfl fetched_front).1 "a.isl")
    (congrArg (Except.map Loaded.schema) done)
  exact ⟨loaded.schema, τ, congrArg (Except.map Loaded.schema) done, done', same⟩

end Isl
