import Isl.Proofs.System.Lookup
import Isl.Proofs.System.Permission
/-!
# Schemas before and after they are compiled

What a load finds in the document of a schema, a later load finds in the compiled schema, if the one
mirrors the other. Two kinds of names stand against this. A name may be in scope because a reference
alone asked for it, which no search through the header comes upon. And in a circle of imports a name
may lead to two declarations, of which the search and the compiled schema take one each. There is no
other kind, and neither of them comes up with transitive imports disallowed.

* `System.Reached`: what calls come to, while authorities come to hold other documents;
* `Universe.Mirrors`: the search gives what the compiled schema says;
* `Loads.mirrors_iff`, `Loads.mirrors_iff_covers`: when it does for every schema of a load;
* `System.lookups_agree`: what holds of one schema, after whatever was called before.
-/
namespace Isl

/-- The systems that calls lead to from one that has loaded nothing yet, whatever authorities come
to hold in between. -/
inductive System.Reached (settings : Settings) : System → Prop where
  | fresh (authorities : List Authority) : Reached settings (.fresh settings authorities)
  | call {s : System} (reached : Reached settings s) (c : Call) : Reached settings (s.call c)
  | supply {s : System} (reached : Reached settings s) (authorities : List Authority) :
      Reached settings { s with authorities }

/-- Cached schemas have the ids that they are cached under. -/
def System.Labelled (s : System) : Prop := ∀ key σ, s.cache.get? key = some σ → σ.id? = some key

namespace System.Reached

variable {settings : Settings} {s : System}

theorem idle (reached : Reached settings s) : s.cache.Idle := by
  induction reached with
  | fresh authorities => exact idle_fresh settings authorities
  | call _ c ih => exact idle_call ih c
  | supply _ _ ih => exact ih

theorem policy (reached : Reached settings s) : s.settings = settings := by
  induction reached with
  | fresh authorities => rfl
  | call earlier c ih => exact (settings_call earlier.idle c).trans ih
  | supply _ _ ih => exact ih

theorem labelled (reached : Reached settings s) : s.Labelled := by
  induction reached with
  | fresh authorities =>
    intro key σ found
    cases found
  | call earlier c ih =>
    intro key σ found
    obtain before | ⟨-, named⟩ := get?_call earlier.idle found
    · exact ih key σ before
    · exact named
  | supply _ _ ih => exact ih

end System.Reached

namespace Universe

variable {u v : Universe} {τ : Schema} {id name : String} {x : ImportedType}

/-- A search gives for every name what this compiled schema says. -/
def Mirrors (u : Universe) (τ : Schema) : Prop :=
  ∀ id, τ.id? = some id → ∀ name, u.origin? id name = τ.origin? name

/-- Every reference in a schema is to a built-in type, or to a type that the schema declares or
imports by its header. -/
def Covers (u : Universe) (settings : Settings) (τ : Schema) : Prop :=
  ∀ id, τ.id? = some id → ∀ name n, τ.document.Holds (.reference name n) →
    (settings.dialect.vocabulary τ.version).isBuiltinType name = true ∨ u.Knows id name

/-- No name of a schema leads to two declarations. -/
def Definite (u : Universe) (τ : Schema) : Prop :=
  ∀ id, τ.id? = some id → ∀ name x y, u.Points id name x → u.Points id name y → x = y

theorem Mirrors.same_of_has (mirrors : u.Mirrors τ) (named : τ.id? = some id)
    (free : τ.declared? name = none)
    (has : Bindings.Has ⟨τ.imports, τ.inScope⟩ name x.schemaId x.declaration.name) :
    ∃ o, u.origin? id name = some o ∧ o.target.Same x := by
  obtain ⟨target, bound, same⟩ := has
  exact ⟨_, (mirrors id named name).trans (Schema.origin?_of_inScope free bound), same⟩

end Universe

namespace System

variable {s : System} {c : Call} {root d : SchemaDocument} {world : Universe} {σ τ : Schema}
  {members : List Schema} {id name : String} {x y : ImportedType}

/-! ## A load from scratch -/

namespace Loads

theorem labelled (h : s.Loads c root world σ members) (bare : ∀ key, s.cache.get? key = none) :
    world.Labelled := Universe.labelled_of_bare (h.unheld bare)

theorem compiled_of_reads (h : s.Loads c root world σ members) (read : world.Reads id d) :
    ∃ τ ∈ s.compiled c, (s.settings.compilation world d).run = .ok τ ∧ τ.id? = some id ∧
      τ.document = d := by
  obtain ⟨τ, mem, ran⟩ := h.compiled_of_read read.2
  have same : τ.document = d := Compilation.document_of_run ran
  refine ⟨τ, mem, ran, ?_, same⟩
  rw [Schema.id?, same]
  exact document_id (h.document read.2)

/-- Where the schemas of a load say what the search gives, every chain of imports comes to what the
search finds. -/
theorem same_of_points (h : s.Loads c root world σ members)
    (mirrors : ∀ τ ∈ s.compiled c, world.Mirrors τ) (points : world.Points id name x) :
    ∃ o, world.origin? id name = some o ∧ o.target.Same x := by
  induction points with
  | cached held known => exact ⟨_, (Universe.origin?_cached held).trans known, rfl, rfl⟩
  | declared read own => exact ⟨_, Universe.origin?_declared read own, rfl, rfl⟩
  | wildcard read free header there =>
    obtain ⟨τ, mem, ran, named, rfl⟩ := h.compiled_of_reads read
    have has := (Compilation.run_brings ran header).has (.wildcard there)
    exact (mirrors τ mem).same_of_has named free has
  | single read free header there ih =>
    obtain ⟨τ, mem, ran, named, rfl⟩ := h.compiled_of_reads read
    obtain ⟨o, found, same⟩ := ih
    obtain ⟨-, origin, visible, has⟩ := Compilation.run_brings ran header
    obtain rfl := Option.some.inj (found.symm.trans (Compilation.exported_eq_ok_iff.1 visible).1)
    obtain ⟨o', found', same'⟩ := (mirrors τ mem).same_of_has (x := o.target) named free has
    exact ⟨o', found', same'.1.trans same.1, same'.2.trans same.2⟩

theorem definite_of_mirrors (h : s.Loads c root world σ members)
    (bare : ∀ key, s.cache.get? key = none) (mirrors : ∀ τ ∈ s.compiled c, world.Mirrors τ)
    (hx : world.Points id name x) (hy : world.Points id name y) : x = y := by
  obtain ⟨o, found, schemaId, named⟩ := h.same_of_points mirrors hx
  obtain ⟨o', found', schemaId', named'⟩ := h.same_of_points mirrors hy
  obtain rfl := Option.some.inj (found.symm.trans found')
  have unheld := h.unheld bare
  exact (hx.current unheld).ext (hy.current unheld)
    ⟨schemaId.symm.trans schemaId', named.symm.trans named'⟩

theorem covers_of_mirrors (h : s.Loads c root world σ members) (mem : τ ∈ s.compiled c)
    (mirrors : world.Mirrors τ) : world.Covers s.settings τ := by
  intro id named name n holds
  exact Compilation.covered_of_origin?_eq (h.run_own mem).1 (h.reads_own mem named)
    (mirrors id named) n holds

theorem mirrors_of_definite (h : s.Loads c root world σ members)
    (bare : ∀ key, s.cache.get? key = none) (mem : τ ∈ s.compiled c)
    (covers : world.Covers s.settings τ) (definite : world.Definite τ) : world.Mirrors τ := by
  intro id named name
  exact Compilation.origin?_eq (h.run_own mem).1 named (h.reads_own mem named) (h.labelled bare)
    (covers id named name) (definite id named name)

/-- The schemas of a load from scratch say what the search gives exactly if references ask only for
what is known without them, and no name leads to two declarations. -/
theorem mirrors_iff (h : s.Loads c root world σ members) (bare : ∀ key, s.cache.get? key = none) :
    (∀ τ ∈ s.compiled c, world.Mirrors τ) ↔
      ∀ τ ∈ s.compiled c, world.Covers s.settings τ ∧ world.Definite τ := by
  constructor
  · intro mirrors τ mem
    refine ⟨h.covers_of_mirrors mem (mirrors τ mem), ?_⟩
    intro id _ name x y hx hy
    exact h.definite_of_mirrors bare mirrors hx hy
  · intro conditions τ mem
    obtain ⟨covers, definite⟩ := conditions τ mem
    exact h.mirrors_of_definite bare mem covers definite

/-- The rank of a schema in a load without circles carries the induction. -/
theorem definite_of_layered (h : s.Loads c root world σ members)
    (bare : ∀ key, s.cache.get? key = none) {rank : String → Nat}
    (descends : ∀ a ∈ s.compiled c, ∀ id, a.id? = some id →
      ∀ i ∈ a.document.imports, rank i.schemaId < rank id) (n : Nat) :
    ∀ {τ : Schema} {id : String}, rank id = n → τ ∈ s.compiled c → τ.id? = some id →
      ∀ name x y, world.Points id name x → world.Points id name y → x = y := by
  induction n using Nat.strongRecOn with
  | ind n ih =>
    intro τ id ranked mem named name x y hx hy
    have labelled := h.labelled bare
    refine Compilation.eq_of_points (h.run_own mem).1 (h.reads_own mem named) labelled ?_
      (fun z points => points.current (h.unheld bare)) hx hy
    intro other typeName newName header origin visible z points
    have lower : rank other < n := ranked ▸ descends τ mem id named _ header
    obtain ⟨b, mem_b, named_b⟩ := h.imported bare mem header
    have found := (Compilation.exported_eq_ok_iff.1 visible).1
    exact ih _ lower rfl mem_b named_b typeName z origin.target points
      (Universe.points_of_origin? labelled found)

/-- Without circles, only references can ask for more than the search finds. -/
theorem mirrors_iff_covers (h : s.Loads c root world σ members)
    (bare : ∀ key, s.cache.get? key = none) (layered : Schema.Layered (s.compiled c)) :
    (∀ τ ∈ s.compiled c, world.Mirrors τ) ↔ ∀ τ ∈ s.compiled c, world.Covers s.settings τ := by
  refine ⟨fun mirrors τ mem => h.covers_of_mirrors mem (mirrors τ mem), fun covers τ mem => ?_⟩
  obtain ⟨rank, descends⟩ := layered
  refine h.mirrors_of_definite bare mem (covers τ mem) ?_
  intro id named
  exact h.definite_of_layered bare descends _ rfl mem named

end Loads

/-! ## After any calls -/

theorem id_of_pending {s : System} (drawn : world.Drawn s.library s.cache.get? root)
    (pending : world.pending.find? id = some d) : d.id = some id := by
  obtain ⟨named, rfl⟩ | ⟨document, -⟩ := drawn.pending id d pending
  · exact named
  · exact document_id document

/-- Two ways to look a name up in a schema `τ` that compiles as part of a load: a search through the
documents of the load, and what the compiled schema says. Whatever was called before, they agree

* on every name, with transitive imports disallowed;
* on a name that references have no need to bring into scope, if it does not lead to two
  declarations;

and where they agree on every name, references have no need to bring any into scope. A load that
finds `τ` in the cache goes by what it says, so importing from it means the same as before. For the
schemas of a load that found nothing in the cache these conditions are exact, and the second is met
where imports do not lead in a circle. -/
theorem lookups_agree {settings : Settings} (reached : s.Reached settings)
    (gathered : Universe.gather s.library s.cache.get? root = .ok world)
    (pending : world.pending.find? id = some d)
    (ran : (s.settings.compilation world d).run = .ok τ) :
    (settings.allowTransitive = false → ∀ name, world.origin? id name = τ.origin? name) ∧
    (∀ name, (∀ n, τ.document.Holds (.reference name n) →
        (settings.dialect.vocabulary τ.version).isBuiltinType name = true ∨ world.Knows id name) →
      (∀ x y, world.Points id name x → world.Points id name y → x = y) →
      world.origin? id name = τ.origin? name) ∧
    ((∀ name, world.origin? id name = τ.origin? name) → world.Covers settings τ) ∧
    (∀ later : Universe, later.cached.find? id = some τ →
      later.declaredTypes id = world.declaredTypes id ∧
        ∀ name, later.origin? id name = τ.origin? name) ∧
    ∀ c σ members, s.Loads c root world σ members → (∀ key, s.cache.get? key = none) →
      ((∀ τ ∈ s.compiled c, world.Mirrors τ) ↔
        ∀ τ ∈ s.compiled c, world.Covers settings τ ∧ world.Definite τ) ∧
      (Schema.Layered (s.compiled c) →
        ((∀ τ ∈ s.compiled c, world.Mirrors τ) ↔ ∀ τ ∈ s.compiled c, world.Covers settings τ)) := by
  obtain rfl := reached.policy
  have drawn := Universe.drawn_gather gathered
  have read : world.Reads id d := Universe.reads_of_pending (drawn.apart id) pending
  obtain rfl : τ.document = d := Compilation.document_of_run ran
  have named : τ.id? = some id := id_of_pending drawn pending
  have labelled : world.Labelled :=
    fun key σ held => reached.labelled key σ (drawn.cached key σ held)
  refine ⟨fun strict name => ?_, fun name covered definite => ?_, fun agrees other same => ?_,
    fun later held => ⟨?_, fun name => Universe.origin?_cached held⟩,
    fun c σ members loads bare => ⟨loads.mirrors_iff bare, loads.mirrors_iff_covers bare⟩⟩
  · exact Compilation.origin?_eq ran named read labelled
      (fun n => Compilation.covered_of_strict strict ran read n)
      fun x y => Compilation.definite_of_strict strict ran read labelled
  · exact Compilation.origin?_eq ran named read labelled covered definite
  · obtain rfl := Option.some.inj (same.symm.trans named)
    exact fun name n => Compilation.covered_of_origin?_eq ran read agrees n
  · rw [Universe.declaredTypes_cached held, Universe.declaredTypes_read read]
    rfl

end System

/-! ## A name that a reference brings -/

/-- `schema_header::{ imports: [{ id: "c.isl", type: t }] }` -/
def relayValues : List Element :=
  [⟨["schema_header"], .struct [⟨"imports", .list
    [.struct [⟨"id", .string "c.isl"⟩, ⟨"type", .symbol "t"⟩]]⟩]⟩]

def relayDocument : SchemaDocument :=
  ⟨some "b.isl", .v1, [.header ⟨[.single "c.isl" "t" none], .none, []⟩]⟩

def farDocument : SchemaDocument := ⟨some "c.isl", .v1, [.type ⟨"t", ⟨[], []⟩⟩]⟩

/-- A system that allows transitive imports. A schema refers to a type of the third one and imports
only the second one. -/
def relaySystem : System :=
  .fresh ⟨.standard, false, true⟩ [.memory (((MemoryAuthority.empty.insertValues "a.isl"
    usingValues).insertValues "b.isl" relayValues).insertValues "c.isl" declaringValues)]

def relayWorld : Universe :=
  ((Universe.ofRoot usingDocument).addPending "b.isl" ["b.isl"] relayDocument).addPending
    "c.isl" ["b.isl", "c.isl"] farDocument

def relaySchema : Schema :=
  ⟨usingDocument, .ofList [("b.isl", ⟨true, .empty⟩)],
    .ofList [("t", ⟨"c.isl", ⟨"t", ⟨[], []⟩⟩⟩)]⟩

theorem gather_relay :
    Universe.gather relaySystem.library relaySystem.cache.get? usingDocument = .ok relayWorld :=
  Universe.gather_eq (.read rfl rfl rfl (.read rfl rfl rfl (.done relayWorld)))

theorem reads_relay :
    relayWorld.Reads "a.isl" usingDocument ∧ relayWorld.Reads "b.isl" relayDocument ∧
      relayWorld.Reads "c.isl" farDocument := ⟨⟨rfl, rfl⟩, ⟨rfl, rfl⟩, rfl, rfl⟩

theorem origin_relay :
    relayWorld.origin? "b.isl" "t" = some ⟨"c.isl", ⟨"t", ⟨[], []⟩⟩, true⟩ :=
  Universe.origin?_relayed reads_relay.2.1 rfl rfl reads_relay.2.2 rfl (by decide)

theorem run_relay :
    (relaySystem.settings.compilation relayWorld usingDocument).run = .ok relaySchema := by
  have source : (relaySystem.settings.compilation relayWorld usingDocument).transitiveSource?
      ⟨relaySchema.imports, .empty⟩ "t" = some "b.isl" := by
    have entries : relaySchema.imports.entries = [("b.isl", ⟨true, .empty⟩)] := rfl
    have world :
        (relaySystem.settings.compilation relayWorld usingDocument).world = relayWorld := rfl
    simp [Compilation.transitiveSource?, entries, world, origin_relay]
  refine Compilation.run_eq_ok_iff.2 ⟨rfl, rfl, ⟨relaySchema.imports, .empty⟩,
    ⟨relaySchema.imports, relaySchema.inScope⟩, rfl, ?_, rfl⟩
  refine Compilation.checkMentions_cons_eq_ok_iff.2 ⟨_, [], ?_, rfl⟩
  refine Compilation.checkMention_name_eq_ok_iff.2 (.inr (.inr ⟨rfl, "b.isl", _, source,
    Compilation.exported_eq_ok_iff.2 ⟨origin_relay, fun _ => rfl⟩, rfl, rfl⟩))

theorem unknown_relay : ¬relayWorld.Knows "a.isl" "t" := by
  intro knows
  obtain ⟨readA, readB, -⟩ := reads_relay
  obtain ⟨t, own⟩ | ⟨other, header, t, declared, -⟩ | ⟨other, typeName, newName, header, -⟩ :=
    knows.cases_read readA
  · cases own
  · have imports : usingDocument.imports = [.wildcard "b.isl"] := rfl
    obtain rfl : other = "b.isl" := by simpa [imports] using header
    rw [Universe.declaredTypes_read readB] at declared
    exact nomatch (show t ∈ [] from declared)
  · have imports : usingDocument.imports = [.wildcard "b.isl"] := rfl
    simp [imports] at header

/-- The reference to `t` brings a name into scope that a search does not find. A schema whose
references stay with its own header mirrors its document. -/
theorem System.lookups_agree_relay :
    (relaySystem.settings.compilation relayWorld usingDocument).run = .ok relaySchema ∧
      relayWorld.origin? "a.isl" "t" = none ∧
      relaySchema.origin? "t" = some ⟨"c.isl", ⟨"t", ⟨[], []⟩⟩, true⟩ ∧
      relayWorld.origin? "a.isl" "x" = relaySchema.origin? "x" ∧
      ¬relayWorld.Covers relaySystem.settings relaySchema ∧
      (∀ name, smallWorld.origin? "b.isl" name = declaringSchema.origin? name) ∧
      ∀ τ ∈ smallSystem.compiled (.compileValues importingValues),
        smallWorld.Covers .standard τ ∧ smallWorld.Definite τ := by
  have reached : relaySystem.Reached ⟨.standard, false, true⟩ := .fresh _
  obtain ⟨-, pointwise, -, -, -⟩ :=
    System.lookups_agree reached gather_relay reads_relay.1.2 run_relay
  have nothing : relayWorld.origin? "a.isl" "t" = none :=
    Universe.origin?_eq_none_iff.2 unknown_relay
  have small : smallSystem.Reached .standard := .fresh _
  have pending : smallWorld.pending.find? "b.isl" = some declaringDocument := rfl
  have member : (smallSystem.settings.compilation smallWorld declaringDocument).run =
      .ok declaringSchema := rfl
  obtain ⟨strict, -, -, -, scratch⟩ := System.lookups_agree small gather_small pending member
  refine ⟨run_relay, nothing, rfl, ?_, ?_, strict rfl, ?_⟩
  · refine pointwise "x" (fun n holds => .inr ⟨0, .declared reads_relay.1 rfl⟩) ?_
    have labelled : relayWorld.Labelled := fun id τ held => nomatch (show none = some τ from held)
    have own : (relayWorld.declaredTypes "a.isl").find? (·.name == "x") =
        some ⟨"x", ⟨[.type (.reference "t" .unmarked)], []⟩⟩ := rfl
    intro y z hy hz
    rw [Universe.points_declared labelled own hy, Universe.points_declared labelled own hz]
  · intro all
    have listed : ⟨"x", ⟨[.type (.reference "t" .unmarked)], []⟩⟩ ∈ usingDocument.types :=
      List.mem_cons_self ..
    have holds : usingDocument.Holds (.reference "t" .unmarked) :=
      ⟨_, listed, .direct (List.mem_cons_self ..) (.type _)⟩
    rcases all "a.isl" rfl "t" .unmarked holds with builtin | knows
    · revert builtin
      decide
    · exact unknown_relay knows
  · have loads : smallSystem.Loads (.compileValues importingValues) importingDocument smallWorld
        importingSchema [declaringSchema] := ⟨compiled_small, gather_small, compile_small, .inl rfl⟩
    refine (scratch _ _ _ loads Cache.get?_empty).1.1 ?_
    intro τ mem id named name
    rw [compiled_small] at mem
    obtain rfl | rfl : τ = importingSchema ∨ τ = declaringSchema := by simpa using mem
    · exact nomatch (show none = some id from named)
    · obtain rfl : "b.isl" = id := Option.some.inj named
      exact strict rfl name

end Isl
