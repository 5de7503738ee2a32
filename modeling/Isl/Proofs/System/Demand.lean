import Isl.Proofs.System.Refusal
import Isl.Proofs.System.Shadowing
/-!
# Names that references demand

With transitive imports allowed, a reference may ask for a name that the header brings only behind
a schema that it imports as a whole. The first such schema, in the order of ids, decides what the
name stands for. The others are not asked: that they lead somewhere else does not keep the document
from compiling, while two header imports that lead to different declarations do.

* `Compilation.Offers`: the declarations that schemas imported as a whole lead to;
* `Compilation.Demands`: the names that only references ask for;
* `Compilation.run_demanded`: a demanded name stands for what the first schema leads to;
* `Compilation.run_succeeds_iff`: what a document needs to compile with transitive imports allowed;
* `Compilation.demands_first`: all of this, and when all schemas lead to one declaration.
-/
namespace Isl

namespace Compilation

variable {c : Compilation} {b b' : Bindings} {σ : Schema} {id name : String} {x : ImportedType}

/-- A schema that is imported as a whole leads from a name to a declaration. -/
def Offers (c : Compilation) (name id : String) (x : ImportedType) : Prop :=
  .wildcard id ∈ c.document.imports ∧ ∃ o, c.world.origin? id name = some o ∧ o.target = x

/-- A reference asks for a name that is no built-in type, and that neither the types nor the header
imports of the document have. -/
structure Demands (c : Compilation) (name : String) : Prop where
  mentioned : .name name ∈ c.document.mentions
  foreign : c.vocabulary.isBuiltinType name = false
  undeclared : c.document.declared? name = none
  unsupplied : ∀ i ∈ c.document.imports, ∀ x, ¬c.Supplies i name x

/-- The first schema, in the order of ids, that is imported as a whole and knows a name through its
own imports. -/
structure Leading (c : Compilation) (name id : String) (o : Origin) : Prop where
  header : .wildcard id ∈ c.document.imports
  found : c.world.origin? id name = some o
  far : o.transitive = true
  first : ∀ other p, .wildcard other ∈ c.document.imports →
    c.world.origin? other name = some p → p.transitive = true →
      id = other ∨ compare id other = .lt

/-- Bindings once the header imports have been looked at. -/
structure Ready (c : Compilation) (b : Bindings) : Prop where
  reasoned : c.Reasoned b
  records : ∀ i ∈ c.document.imports, Records b i
  brings : ∀ i ∈ c.document.imports, c.Brings b i

theorem ready_importAll (h : c.importAll .empty c.document.imports = .ok b) : c.Ready b where
  reasoned := reasoned_importAll c.reasoned_empty (fun _ mem => mem) h
  records _ mem := records_importAll h mem
  brings _ mem := importAll_brings h mem

theorem ready_checkMention {m : Mention} {unresolved unresolved' : NameSet} (ready : c.Ready b)
    (h : c.checkMention b unresolved m = .ok (b', unresolved')) : c.Ready b' where
  reasoned := reasoned_checkMention ready.reasoned h
  records i mem := (ready.records i mem).along (grows_checkMention h)
  brings i mem := (ready.brings i mem).extends (grows_checkMention h).extends

/-! ## The schema that is asked first -/

/-- The entry of a schema that is imported as a whole. -/
theorem Ready.entry (ready : c.Ready b) (header : .wildcard id ∈ c.document.imports) :
    ∃ i : SchemaImport, (id, i) ∈ b.imports.entries ∧ i.wildcard = true := by
  obtain ⟨i, found, whole⟩ := ready.records _ header
  exact ⟨i, Table.mem_entries_of_find? found, whole rfl⟩

theorem leading_of_transitiveSource? (ready : c.Ready b)
    (source : c.transitiveSource? b name = some id) : ∃ o, c.Leading name id o := by
  obtain ⟨header, o, found, far⟩ := transitiveSource_header ready.reasoned source
  refine ⟨o, header, found, far, ?_⟩
  intro other p header' found' far'
  obtain ⟨⟨key, i⟩, first, rfl⟩ := Option.map_eq_some_iff.1 source
  obtain ⟨-, before, after, split, earlier⟩ := List.find?_eq_some_iff_append.1 first
  obtain ⟨j, listed, whole⟩ := ready.entry header'
  have ascending : (b.imports.entries.map Prod.fst).Pairwise fun m n => compare m n = .lt :=
    ready.reasoned.ascending
  rw [split, List.map_append, List.map_cons] at ascending
  rw [split] at listed
  rcases List.mem_append.1 listed with sooner | later
  · -- An entry before the first one does not reach the name.
    have fails := earlier _ sooner
    simp [whole, found', far'] at fails
  · rcases List.mem_cons.1 later with same | later
    · exact .inl (congrArg Prod.fst same).symm
    · have behind := (List.pairwise_cons.1 (List.pairwise_append.1 ascending).2.1).1
      exact .inr (behind other (List.mem_map_of_mem later))

theorem near_of_transitiveSource? (ready : c.Ready b) (source : c.transitiveSource? b name = none)
    {o : Origin} (header : .wildcard id ∈ c.document.imports)
    (found : c.world.origin? id name = some o) : o.transitive = false := by
  obtain ⟨i, listed, whole⟩ := ready.entry header
  have fails := List.find?_eq_none.1 (Option.map_eq_none_iff.1 source) _ listed
  simpa [whole, found] using fails

/-- What a schema declares that is imported as a whole is supplied by that import. -/
theorem supplies_of_near {o : Origin} (found : c.world.origin? id name = some o)
    (near : o.transitive = false) : ∃ x, c.Supplies (.wildcard id) name x := by
  obtain ⟨t, listed, rfl⟩ := Universe.declares_of_near found near
  exact supplies_of_declared listed

/-- No schema that is imported as a whole declares a demanded name. -/
theorem Demands.far (demands : c.Demands name) {o : Origin}
    (header : .wildcard id ∈ c.document.imports) (found : c.world.origin? id name = some o) :
    o.transitive = true := by
  cases near : o.transitive with
  | true => rfl
  | false =>
    obtain ⟨x, supplies⟩ := supplies_of_near found near
    exact absurd supplies (demands.unsupplied _ header x)

/-! ## What a demanded name stands for -/

theorem checkMention_leading {m : Mention} {unresolved unresolved' : NameSet} (ready : c.Ready b)
    (h : c.checkMention b unresolved m = .ok (b', unresolved'))
    (found : b'.inScope.find? name = some x) :
    b.inScope.find? name = some x ∨ ∃ id o, c.Leading name id o ∧ o.target = x := by
  cases m with
  | name mentioned =>
    rcases checkMention_name_eq_ok_iff.1 h with
      ⟨-, rfl, -⟩ | ⟨-, -, rfl, -⟩ | ⟨-, id, origin, source, visible, bound, -⟩
    · exact .inl found
    · exact .inl found
    · obtain before | ⟨-, rfl, rfl⟩ := bind_scope bound found
      · exact .inl before
      · obtain ⟨o, leading⟩ := leading_of_transitiveSource? ready source
        have same := leading.found.symm.trans (exported_eq_ok_iff.1 visible).1
        cases same
        exact .inr ⟨id, origin, leading, rfl⟩
  | imported id typeName =>
    obtain ⟨-, -, rfl, -⟩ := checkMention_imported_eq_ok_iff.1 h
    exact .inl found

theorem checkMentions_leading {ms : List Mention} {unresolved unresolved' : NameSet}
    (ready : c.Ready b) (h : c.checkMentions b unresolved ms = .ok (b', unresolved'))
    (found : b'.inScope.find? name = some x) :
    b.inScope.find? name = some x ∨ ∃ id o, c.Leading name id o ∧ o.target = x := by
  induction ms generalizing b unresolved with
  | nil =>
    cases h
    exact .inl found
  | cons m ms ih =>
    obtain ⟨bound, left, first, rest⟩ := checkMentions_cons_eq_ok_iff.1 h
    obtain earlier | leading := ih (ready_checkMention ready first) rest
    · exact checkMention_leading ready first earlier
    · exact .inr leading

/-- A name in scope is supplied by a header import, or the first schema that leads to it decides. -/
theorem run_leading (h : c.run = .ok σ) (found : σ.inScope.find? name = some x) :
    (∃ i ∈ c.document.imports, c.Supplies i name x) ∨
      ∃ id o, c.Leading name id o ∧ o.target = x := by
  obtain ⟨-, -, b₀, b, imported, checked, rfl⟩ := run_eq_ok_iff.1 h
  obtain header | leading := checkMentions_leading (ready_importAll imported) checked found
  · obtain nothing | supplied := importAll_scope imported header
    · cases nothing
    · exact .inl supplied
  · exact .inr leading

/-- A name that is mentioned is built in or declared, or it is in scope for one of these reasons. -/
theorem mentioned_of_run (h : c.run = .ok σ) (mentioned : .name name ∈ c.document.mentions) :
    c.vocabulary.isBuiltinType name = true ∨ c.declares name = true ∨
      ∃ x, σ.inScope.find? name = some x ∧
        ((∃ i ∈ c.document.imports, c.Supplies i name x) ∨
          ∃ id o, c.Leading name id o ∧ o.target = x) := by
  have settled : c.isKnown ⟨σ.imports, σ.inScope⟩ name = true := run_settled h mentioned
  rcases isKnown_iff.1 settled with builtin | declared | bound
  · exact .inl builtin
  · exact .inr (.inl declared)
  · obtain ⟨x, found⟩ := Table.contains_iff.1 bound
    exact .inr (.inr ⟨x, found, run_leading h found⟩)

theorem run_demanded (h : c.run = .ok σ) (demands : c.Demands name) :
    ∃ id o, c.Leading name id o ∧ σ.inScope.find? name = some o.target := by
  obtain builtin | declared | ⟨x, found, reason⟩ := mentioned_of_run h demands.mentioned
  · rw [demands.foreign] at builtin
    cases builtin
  · rw [declares, demands.undeclared] at declared
    cases declared
  · obtain ⟨i, header, supplies⟩ | ⟨id, o, leading, rfl⟩ := reason
    · exact absurd supplies (demands.unsupplied i header x)
    · exact ⟨id, o, leading, found⟩

/-! ## What it takes to compile -/

/-- A mention leads to a type, whichever of several it is. -/
def Leads (c : Compilation) : Mention → Prop
  | .name name => c.vocabulary.isBuiltinType name = true ∨ c.declares name = true ∨
    (∃ i ∈ c.document.imports, ∃ x, c.Supplies i name x) ∨ ∃ id x, c.Offers name id x
  | .imported id typeName => c.document.id ≠ some id ∧ ∃ o, c.exported id typeName = .ok o

theorem leads_of_run (h : c.run = .ok σ) {m : Mention} (mem : m ∈ c.document.mentions) :
    c.Leads m := by
  cases m with
  | name name =>
    refine (mentioned_of_run h mem).imp_right fun known => known.imp_right ?_
    rintro ⟨x, -, ⟨i, header, supplies⟩ | ⟨id, o, leading, -⟩⟩
    · exact .inl ⟨i, header, x, supplies⟩
    · exact .inr ⟨id, o.target, leading.header, o, leading.found, rfl⟩
  | imported id typeName =>
    obtain ⟨foreign, visible, -⟩ := run_settled h mem
    exact ⟨foreign, visible⟩

/-- What header imports supply is known from then on. -/
theorem Ready.contains (ready : c.Ready b) {i : HeaderImport} (header : i ∈ c.document.imports)
    (supplies : c.Supplies i name x) : b.inScope.contains name = true := by
  obtain ⟨bound, found, -⟩ := (ready.brings i header).has supplies
  exact Table.contains_iff.2 ⟨bound, found⟩

/-- A name that is not known is bound without a clash. -/
theorem bind_of_unknown (unknown : c.isKnown b name = false) :
    c.bind b name x = .ok { b with inScope := b.inScope.insert name x } := by
  simp only [isKnown, Bool.or_eq_false_iff] at unknown
  obtain ⟨⟨-, undeclared⟩, unbound⟩ := unknown
  exact bind_eq_ok_iff.2 ⟨undeclared, .inl ⟨by simpa [Table.contains] using unbound, rfl⟩⟩

/-- A name that leads to a type and is not known yet has a first schema that leads to it. -/
theorem Ready.source (ready : c.Ready b) (unknown : c.isKnown b name = false)
    (leads : c.Leads (.name name)) :
    ∃ id o, c.transitiveSource? b name = some id ∧ c.Leading name id o := by
  simp only [isKnown, Bool.or_eq_false_iff] at unknown
  obtain ⟨⟨foreign, undeclared⟩, unbound⟩ := unknown
  have unsupplied : ∀ i ∈ c.document.imports, ∀ x, ¬c.Supplies i name x := by
    intro i header x supplies
    rw [ready.contains header supplies] at unbound
    cases unbound
  obtain builtin | declared | ⟨i, header, x, supplies⟩ | ⟨id, x, header, o, found, -⟩ := leads
  · rw [foreign] at builtin
    cases builtin
  · rw [undeclared] at declared
    cases declared
  · exact absurd supplies (unsupplied i header x)
  · cases source : c.transitiveSource? b name with
    | none =>
      have near := near_of_transitiveSource? ready source header found
      obtain ⟨x, supplies⟩ := supplies_of_near found near
      exact absurd supplies (unsupplied _ header x)
    | some first =>
      obtain ⟨p, leading⟩ := leading_of_transitiveSource? ready source
      exact ⟨first, p, rfl, leading⟩

/-- With transitive imports allowed, one schema that leads to a name is enough. -/
theorem checkMention_of_leads (allowed : c.allowTransitive = true) (ready : c.Ready b) {m : Mention}
    (leads : c.Leads m) : ∃ b', c.checkMention b [] m = .ok (b', []) := by
  cases m with
  | name name =>
    cases known : c.isKnown b name with
    | true => exact ⟨b, checkMention_name_eq_ok_iff.2 (.inl ⟨known, rfl, rfl⟩)⟩
    | false =>
      obtain ⟨id, o, source, leading⟩ := ready.source known leads
      have visible : c.exported id name = .ok o :=
        exported_eq_ok_iff.2 ⟨leading.found, fun _ => allowed⟩
      exact ⟨_, checkMention_name_eq_ok_iff.2
        (.inr (.inr ⟨known, id, o, source, visible, bind_of_unknown known, rfl⟩))⟩
  | imported id typeName =>
    obtain ⟨foreign, visible⟩ := leads
    exact ⟨_, checkMention_imported_eq_ok_iff.2 ⟨foreign, visible, rfl, rfl⟩⟩

theorem checkMentions_of_leads (allowed : c.allowTransitive = true) (ready : c.Ready b)
    {ms : List Mention} (leads : ∀ m ∈ ms, c.Leads m) :
    ∃ b', c.checkMentions b [] ms = .ok (b', []) := by
  induction ms generalizing b with
  | nil => exact ⟨b, rfl⟩
  | cons m ms ih =>
    obtain ⟨own, others⟩ := List.forall_mem_cons.1 leads
    obtain ⟨bound, first⟩ := checkMention_of_leads allowed ready own
    obtain ⟨b', rest⟩ := ih (ready_checkMention ready first) others
    exact ⟨b', checkMentions_cons_eq_ok_iff.2 ⟨bound, [], first, rest⟩⟩

/-- With transitive imports allowed, a document compiles if its header does and each mention leads
to some type. -/
theorem run_succeeds_iff (allowed : c.allowTransitive = true) :
    (∃ σ, c.run = .ok σ) ↔ c.checkDeclarations = .ok () ∧ c.checkEnds = .ok () ∧
      (∃ b, c.importAll .empty c.document.imports = .ok b) ∧
      ∀ m ∈ c.document.mentions, c.Leads m := by
  constructor
  · rintro ⟨σ, ran⟩
    obtain ⟨declarations, ends, b₀, -, imported, -⟩ := run_eq_ok_iff.1 ran
    exact ⟨declarations, ends, ⟨b₀, imported⟩, fun m mem => leads_of_run ran mem⟩
  · rintro ⟨declarations, ends, ⟨b₀, imported⟩, leads⟩
    obtain ⟨b, checked⟩ := checkMentions_of_leads allowed (ready_importAll imported) leads
    exact ⟨_, run_eq_ok_iff.2 ⟨declarations, ends, b₀, b, imported, checked, rfl⟩⟩

/-! ## Conflicts -/

theorem exported_ne_conflict {typeName first second : String} :
    c.exported id typeName ≠ .error (.duplicateImport name first second) := by
  intro h
  obtain e | e := exported_eq_error h
  · cases e
  · cases e

/-- A mention never meets a conflict: a name that could clash is known and not looked for. -/
theorem checkMention_ne_conflict {m : Mention} {unresolved : NameSet} {first second : String} :
    c.checkMention b unresolved m ≠ .error (.duplicateImport name first second) := by
  intro h
  cases m with
  | name mentioned =>
    cases known : c.isKnown b mentioned with
    | true => simp [checkMention, known, pure, Except.pure] at h
    | false =>
      cases source : c.transitiveSource? b mentioned with
      | none => simp [checkMention, known, source, pure, Except.pure] at h
      | some far =>
        simp only [checkMention, known, source, bind_of_unknown known, Bool.false_eq_true, if_false,
          SchemaError.bind_eq_error_iff] at h
        obtain failed | ⟨o, -, failed | ⟨_, -, failed⟩⟩ := h
        · exact exported_ne_conflict failed
        · cases failed
        · cases failed
  | imported far typeName =>
    simp only [checkMention, SchemaError.bind_eq_error_iff] at h
    obtain failed | ⟨_, -, failed | ⟨_, -, failed⟩⟩ := h
    · cases checkNotSelf_eq_error failed
    · exact exported_ne_conflict failed
    · cases failed

theorem checkMentions_ne_conflict {ms : List Mention} {unresolved : NameSet}
    {first second : String} :
    c.checkMentions b unresolved ms ≠ .error (.duplicateImport name first second) := by
  induction ms generalizing b unresolved with
  | nil => exact nofun
  | cons m ms ih =>
    intro h
    obtain failed | ⟨_, -, failed⟩ := SchemaError.bind_eq_error_iff.1 h
    · exact checkMention_ne_conflict failed
    · exact ih failed

/-- Only header imports can conflict. -/
theorem run_conflict_iff {first second : String} :
    c.run = .error (.duplicateImport name first second) ↔
      c.checkDeclarations = .ok () ∧ c.checkEnds = .ok () ∧
        c.importAll .empty c.document.imports = .error (.duplicateImport name first second) := by
  have declarations : c.checkDeclarations ≠ .error (.duplicateImport name first second) := by
    unfold checkDeclarations
    split <;> simp
  have ends : c.checkEnds ≠ .error (.duplicateImport name first second) := by
    unfold checkEnds
    split <;> simp
  simp only [run, SchemaError.bind_eq_error_iff, declarations, ends, false_or]
  constructor
  · rintro ⟨⟨⟩, declared, ⟨⟩, ended, conflict | ⟨b₀, -, failed | ⟨⟨b, unresolved⟩, -, failed⟩⟩⟩
    · exact ⟨declared, ended, conflict⟩
    · exact absurd failed checkMentions_ne_conflict
    · dsimp only at failed
      split at failed
      · cases failed
      · simp [throw, throwThe, MonadExceptOf.throw] at failed
  · rintro ⟨declared, ended, conflict⟩
    exact ⟨(), declared, (), ended, .inl conflict⟩

/-- Names that only references ask for are taken from the first schema that knows them, in the order
of ids, among those that are imported as a whole. All of these know such a name through imports of
their own. They may lead to different declarations. With transitive imports allowed, that does not
keep the document from compiling: it compiles if its header does and each mention leads to some
type. Only header imports can conflict, and no two of them do in a document that compiles. -/
theorem demands_first (c : Compilation) :
    (c.allowTransitive = true →
      ((∃ σ, c.run = .ok σ) ↔ c.checkDeclarations = .ok () ∧ c.checkEnds = .ok () ∧
        (∃ b, c.importAll .empty c.document.imports = .ok b) ∧
        ∀ m ∈ c.document.mentions, c.Leads m)) ∧
    (∀ name first second, c.run = .error (.duplicateImport name first second) ↔
      c.checkDeclarations = .ok () ∧ c.checkEnds = .ok () ∧
        c.importAll .empty c.document.imports = .error (.duplicateImport name first second)) ∧
    ∀ σ, c.run = .ok σ →
      (∀ i ∈ c.document.imports, ∀ j ∈ c.document.imports, ∀ name x y,
        c.Supplies i name x → c.Supplies j name y → x.Same y) ∧
      ∀ name, c.Demands name →
        ∃ id x, c.Offers name id x ∧ σ.inScope.find? name = some x ∧
          (∀ other y, c.Offers name other y → id = other ∨ compare id other = .lt) ∧
          (∀ other o, .wildcard other ∈ c.document.imports →
            c.world.origin? other name = some o → o.transitive = true) ∧
          ((∀ other y, c.Offers name other y → σ.inScope.find? name = some y) ↔
            ∀ a y b z, c.Offers name a y → c.Offers name b z → y = z) := by
  refine ⟨run_succeeds_iff, fun _ _ _ => run_conflict_iff, ?_⟩
  intro σ ran
  refine ⟨fun i hi j hj name x y => same_of_supplies ran hi hj, ?_⟩
  intro name demands
  obtain ⟨id, o, leading, bound⟩ := run_demanded ran demands
  have offers : c.Offers name id o.target := ⟨leading.header, o, leading.found, rfl⟩
  refine ⟨id, o.target, offers, bound, ?_, fun _ _ header found => demands.far header found, ?_⟩
  · rintro other y ⟨header, p, found, rfl⟩
    exact leading.first other p header found (demands.far header found)
  · constructor
    · intro same a y b z offersY offersZ
      exact Option.some.inj ((same a y offersY).symm.trans (same b z offersZ))
    · intro definite other y offered
      rw [bound, definite id o.target other y offers offered]

end Compilation

/-! ## Two schemas that lead to two declarations -/

/-- `schema_header::{ imports: [{ id: "e.isl", type: t }] }` -/
def detourValues : List Element :=
  [⟨["schema_header"], .struct [⟨"imports", .list
    [.struct [⟨"id", .string "e.isl"⟩, ⟨"type", .symbol "t"⟩]]⟩]⟩]

def detourDocument : SchemaDocument :=
  ⟨some "d.isl", .v1, [.header ⟨[.single "e.isl" "t" none], .none, []⟩]⟩

def fartherDocument : SchemaDocument := ⟨some "e.isl", .v1, [.type ⟨"t", ⟨[], []⟩⟩]⟩

/-- Both `b.isl` and `d.isl` import a type `t`, from `c.isl` and from `e.isl`. -/
def forkSystem : System :=
  .fresh ⟨.standard, false, true⟩ [.memory ((((MemoryAuthority.empty.insertValues "b.isl"
    relayValues).insertValues "c.isl" declaringValues).insertValues "d.isl"
    detourValues).insertValues "e.isl" declaringValues)]

/-- Imports both as a whole, and refers to `t`. -/
def forkDocument : SchemaDocument :=
  ⟨none, .v1, [.header ⟨[.wildcard "b.isl", .wildcard "d.isl"], .none, []⟩,
    .type ⟨"x", ⟨[.type (.reference "t" .unmarked)], []⟩⟩]⟩

/-- Imports `t` from both. -/
def clashDocument : SchemaDocument :=
  ⟨none, .v1, [.header ⟨[.single "b.isl" "t" none, .single "d.isl" "t" none], .none, []⟩]⟩

def forkWorld : Universe :=
  (((Universe.empty.addPending "d.isl" ["d.isl"] detourDocument).addPending "e.isl"
    ["d.isl", "e.isl"] fartherDocument).addPending "b.isl" ["b.isl"] relayDocument).addPending
    "c.isl" ["b.isl", "c.isl"] farDocument

theorem gather_fork :
    Universe.gather forkSystem.library forkSystem.cache.get? forkDocument = .ok forkWorld :=
  Universe.gather_eq (.read rfl rfl rfl (.read rfl rfl rfl (.read rfl rfl rfl (.read rfl rfl rfl
    (.done forkWorld)))))

theorem gather_clash :
    Universe.gather forkSystem.library forkSystem.cache.get? clashDocument = .ok forkWorld :=
  Universe.gather_eq (.read rfl rfl rfl (.read rfl rfl rfl (.read rfl rfl rfl (.read rfl rfl rfl
    (.done forkWorld)))))

theorem origin_fork :
    forkWorld.origin? "b.isl" "t" = some ⟨"c.isl", ⟨"t", ⟨[], []⟩⟩, true⟩ ∧
      forkWorld.origin? "d.isl" "t" = some ⟨"e.isl", ⟨"t", ⟨[], []⟩⟩, true⟩ := by
  have readB : forkWorld.Reads "b.isl" relayDocument := ⟨rfl, rfl⟩
  have readC : forkWorld.Reads "c.isl" farDocument := ⟨rfl, rfl⟩
  have readD : forkWorld.Reads "d.isl" detourDocument := ⟨rfl, rfl⟩
  have readE : forkWorld.Reads "e.isl" fartherDocument := ⟨rfl, rfl⟩
  exact ⟨Universe.origin?_relayed readB rfl rfl readC rfl (by decide),
    Universe.origin?_relayed readD rfl rfl readE rfl (by decide)⟩

theorem importAll_clash :
    (forkSystem.settings.compilation forkWorld clashDocument).importAll .empty
      clashDocument.imports = .error (.duplicateImport "t" "c.isl" "e.isl") := by
  let c := forkSystem.settings.compilation forkWorld clashDocument
  have near : c.exported "b.isl" "t" = .ok ⟨"c.isl", ⟨"t", ⟨[], []⟩⟩, true⟩ :=
    Compilation.exported_eq_ok_iff.2 ⟨origin_fork.1, fun _ => rfl⟩
  have other : c.exported "d.isl" "t" = .ok ⟨"e.isl", ⟨"t", ⟨[], []⟩⟩, true⟩ :=
    Compilation.exported_eq_ok_iff.2 ⟨origin_fork.2, fun _ => rfl⟩
  let half : Bindings := ⟨.ofList [("b.isl", ⟨false, .ofList [("t", "t")]⟩)],
    .ofList [("t", ⟨"c.isl", ⟨"t", ⟨[], []⟩⟩⟩)]⟩
  have first : c.importOne .empty (.single "b.isl" "t" none) = .ok half :=
    Compilation.importOne_single_eq_ok_iff.2 ⟨by decide, _, near, _, rfl, rfl⟩
  have second : c.importOne half (.single "d.isl" "t" none) =
      .error (.duplicateImport "t" "c.isl" "e.isl") := by
    refine SchemaError.bind_eq_error_iff.2 (.inr ⟨(), rfl, ?_⟩)
    exact SchemaError.bind_eq_error_iff.2 (.inr ⟨_, other, rfl⟩)
  refine SchemaError.bind_eq_error_iff.2 (.inr ⟨half, first, ?_⟩)
  exact SchemaError.bind_eq_error_iff.2 (.inl second)

/-- The reference to `t` is to the type of `c.isl`, which `b.isl` leads to, and `d.isl` is not
asked. A header that imports `t` from both is refused. -/
theorem Compilation.demands_first_fork :
    let c := forkSystem.settings.compilation forkWorld forkDocument
    let clash := forkSystem.settings.compilation forkWorld clashDocument
    let gather := Universe.gather forkSystem.library forkSystem.cache.get?
    gather forkDocument = .ok forkWorld ∧ gather clashDocument = .ok forkWorld ∧
      (∃ σ, c.run = .ok σ ∧ σ.inScope.find? "t" = some ⟨"c.isl", ⟨"t", ⟨[], []⟩⟩⟩) ∧
      c.Demands "t" ∧ c.Offers "t" "b.isl" ⟨"c.isl", ⟨"t", ⟨[], []⟩⟩⟩ ∧
      c.Offers "t" "d.isl" ⟨"e.isl", ⟨"t", ⟨[], []⟩⟩⟩ ∧
      clash.run = .error (.duplicateImport "t" "c.isl" "e.isl") := by
  intro c clash gather
  refine ⟨gather_fork, gather_clash, ?_⟩
  obtain ⟨succeeds, -, each⟩ := Compilation.demands_first c
  have imports : c.document.imports = [.wildcard "b.isl", .wildcard "d.isl"] := rfl
  have mentions : c.document.mentions = [.name "t"] := rfl
  have near : c.Offers "t" "b.isl" ⟨"c.isl", ⟨"t", ⟨[], []⟩⟩⟩ :=
    ⟨List.mem_cons_self .., _, origin_fork.1, rfl⟩
  have other : c.Offers "t" "d.isl" ⟨"e.isl", ⟨"t", ⟨[], []⟩⟩⟩ :=
    ⟨List.mem_cons_of_mem _ (List.mem_cons_self ..), _, origin_fork.2, rfl⟩
  have unsupplied : ∀ i ∈ c.document.imports, ∀ x, ¬c.Supplies i "t" x := by
    intro i header x supplies
    obtain rfl | rfl : i = .wildcard "b.isl" ∨ i = .wildcard "d.isl" := by
      simpa [imports] using header
    · cases supplies with
      | wildcard declared => cases declared
    · cases supplies with
      | wildcard declared => cases declared
  have demands : c.Demands "t" :=
    ⟨mentions ▸ List.mem_cons_self .., by decide, rfl, unsupplied⟩
  obtain ⟨σ, ran⟩ := (succeeds rfl).2 ⟨rfl, rfl, ⟨_, rfl⟩, by
    intro m mem
    obtain rfl : m = .name "t" := by simpa [mentions] using mem
    exact .inr (.inr (.inr ⟨_, _, near⟩))⟩
  obtain ⟨id, x, ⟨header, o, found, rfl⟩, bound, first, -, -⟩ := (each σ ran).2 "t" demands
  -- The first of the two in the order of ids is `b.isl`.
  obtain rfl | rfl : id = "b.isl" ∨ id = "d.isl" := by simpa [imports] using header
  · obtain rfl := Option.some.inj (origin_fork.1.symm.trans found)
    refine ⟨⟨σ, ran, bound⟩, demands, near, other, ?_⟩
    exact ((Compilation.demands_first clash).2.1 _ _ _).2 ⟨rfl, rfl, importAll_clash⟩
  · exact absurd (first "b.isl" _ near) (by decide)

end Isl
