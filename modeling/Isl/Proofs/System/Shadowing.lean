import Isl.Proofs.System.Closure
import Isl.Proofs.System.Mirror
/-!
# Names that several imports supply

More than one header import can supply a name, as long as all of them mean a type of the same name
in a schema of the same id. The name stands for what the first of them supplies. That is what each
of them supplies, unless one comes with a declaration that is out of date: a cached schema keeps the
types that it imported when it was compiled, even if the schema that declares them has been dropped
since, and declares them otherwise when it is read again.

* `Compilation.run_records`: each header import is recorded;
* `Compilation.keeps_iff`: each import finds its own declaration bound, if and only if no two of
  them supply two declarations under one name;
* `Universe.Grounded`: a property of all declarations that a load can come upon;
* `System.imports_unshadowed`: what happens to the names of the imports, and when none is shadowed.
-/
namespace Isl

namespace Compilation

variable {c : Compilation} {b b' : Bindings} {σ : Schema} {i : HeaderImport} {id name : String}
  {x y target : ImportedType}

/-! ## What is recorded -/

/-- An import is recorded, as one of the schema as a whole if it is. -/
def Records (b : Bindings) (i : HeaderImport) : Prop :=
  ∃ r, b.imports.find? i.schemaId = some r ∧ (i = .wildcard i.schemaId → r.wildcard = true)

theorem Records.of_imports (same : b'.imports = b.imports) (h : Records b i) : Records b' i := by
  unfold Records
  rwa [same]

theorem find?_recordImport (b : Bindings) (id : String) (f : SchemaImport → SchemaImport) :
    (b.recordImport id f).imports.find? id = some (f ((b.imports.find? id).getD .none)) := by
  simp [Bindings.recordImport, Table.find?_insert]

theorem Records.recordImport {f : SchemaImport → SchemaImport}
    (keeps : ∀ r, r.wildcard = true → (f r).wildcard = true) (h : Records b i) :
    Records (b.recordImport id f) i := by
  obtain ⟨r, found, marked⟩ := h
  by_cases same : id = i.schemaId
  · subst same
    have now := find?_recordImport b i.schemaId f
    rw [found, Option.getD_some] at now
    exact ⟨f r, now, fun whole => keeps r (marked whole)⟩
  · exact ⟨r, by simp [Bindings.recordImport, Table.find?_insert, same, found], marked⟩

theorem imports_bind (h : c.bind b name target = .ok b') : b'.imports = b.imports := by
  obtain ⟨-, ⟨-, rfl⟩ | ⟨_, -, -, -, rfl⟩⟩ := bind_eq_ok_iff.1 h
  · rfl
  · rfl

theorem imports_bindAll {ts : List NamedType} (h : c.bindAll id b ts = .ok b') :
    b'.imports = b.imports := by
  induction ts generalizing b with
  | nil =>
    cases h
    rfl
  | cons t ts ih =>
    obtain ⟨bound, first, rest⟩ := bindAll_cons_eq_ok_iff.1 h
    exact (ih rest).trans (imports_bind first)

theorem Records.along (grows : c.Grows b b') (h : Records b i) : Records b' i := by
  induction grows with
  | refl => exact h
  | tail _ adds ih =>
    cases adds with
    | bind bound => exact ih.of_imports (imports_bind bound)
    | record _ keeps => exact ih.recordImport keeps

theorem records_importOne (h : c.importOne b i = .ok b') : Records b' i := by
  cases i with
  | wildcard id =>
    obtain ⟨-, bound, all, rfl⟩ := importOne_wildcard_eq_ok_iff.1 h
    exact ⟨_, find?_recordImport bound id _, fun _ => rfl⟩
  | single id typeName newName =>
    obtain ⟨-, origin, -, bound, one, rfl⟩ := importOne_single_eq_ok_iff.1 h
    exact ⟨_, find?_recordImport bound id _, nofun⟩

theorem records_importAll {is : List HeaderImport} (h : c.importAll b is = .ok b') (mem : i ∈ is) :
    Records b' i := by
  induction is generalizing b with
  | nil => cases mem
  | cons j is ih =>
    obtain ⟨bound, first, rest⟩ := importAll_cons_eq_ok_iff.1 h
    rcases List.mem_cons.1 mem with rfl | mem
    · exact (records_importOne first).along (grows_importAll rest)
    · exact ih rest mem

/-- The schema of each header import is recorded, as one that is imported as a whole if and only if
some header import is of all its types. -/
theorem run_records (h : c.run = .ok σ) (header : i ∈ c.document.imports) :
    ∃ r, σ.imports.find? i.schemaId = some r ∧
      (r.wildcard = true ↔ .wildcard i.schemaId ∈ c.document.imports) := by
  have reasoned := run_reasoned h
  obtain ⟨-, -, b₀, b, imported, checked, rfl⟩ := run_eq_ok_iff.1 h
  have recorded : ∀ j ∈ c.document.imports, Records b j := fun j mem =>
    (records_importAll imported mem).along (grows_checkMentions checked)
  obtain ⟨r, found, -⟩ := recorded i header
  refine ⟨r, found, reasoned.wildcards _ _ found, fun whole => ?_⟩
  obtain ⟨r', found', marked⟩ := recorded _ whole
  obtain rfl := Option.some.inj (found.symm.trans found')
  exact marked rfl

/-! ## What is bound -/

/-- What a header import supplies under a name is what the name stands for. -/
def Keeps (c : Compilation) (σ : Schema) : Prop :=
  ∀ i ∈ c.document.imports, ∀ name target, c.Supplies i name target →
    σ.inScope.find? name = some target

/-- Under no name do two header imports supply two declarations. -/
def Unanimous (c : Compilation) : Prop :=
  ∀ i ∈ c.document.imports, ∀ j ∈ c.document.imports, ∀ name x y,
    c.Supplies i name x → c.Supplies j name y → x = y

/-- A name that is supplied stands for something that is supplied under it, and that is, but for
the content of the declaration, whatever is supplied under it. -/
theorem bound_of_supplies (h : c.run = .ok σ) (header : i ∈ c.document.imports)
    (supplies : c.Supplies i name target) :
    ∃ bound, σ.inScope.find? name = some bound ∧ bound.Same target ∧
      ∃ j ∈ c.document.imports, c.Supplies j name bound := by
  obtain ⟨bound, inScope, same⟩ := (run_brings h header).has supplies
  obtain supplied | ⟨-, -, alone⟩ := run_scope h inScope
  · exact ⟨bound, inScope, same, supplied⟩
  · exact absurd supplies (alone i header target)

theorem keeps_iff (h : c.run = .ok σ) : c.Keeps σ ↔ c.Unanimous := by
  constructor
  · intro keeps i hi j hj name x y suppliesX suppliesY
    exact Option.some.inj ((keeps i hi name x suppliesX).symm.trans (keeps j hj name y suppliesY))
  · intro unanimous i header name target supplies
    obtain ⟨bound, inScope, -, j, header', supplied⟩ := bound_of_supplies h header supplies
    rw [inScope, unanimous j header' i header name bound target supplied supplies]

/-- Header imports that supply one name mean a type of one name in schemas of one id. -/
theorem same_of_supplies (h : c.run = .ok σ) {j : HeaderImport} (hi : i ∈ c.document.imports)
    (hj : j ∈ c.document.imports) (suppliesX : c.Supplies i name x)
    (suppliesY : c.Supplies j name y) : x.Same y := by
  obtain ⟨bound, inScope, ⟨schemaX, namedX⟩, -⟩ := bound_of_supplies h hi suppliesX
  obtain ⟨bound', inScope', ⟨schemaY, namedY⟩, -⟩ := bound_of_supplies h hj suppliesY
  obtain rfl := Option.some.inj (inScope.symm.trans inScope')
  exact ⟨schemaX.symm.trans schemaY, namedX.symm.trans namedY⟩

/-- Header imports are unanimous if they supply declarations that can be told apart by their name
and the id of their schema. -/
theorem unanimous_of_ext {P : ImportedType → Prop} (ext : ∀ x y, P x → P y → x.Same y → x = y)
    (h : c.run = .ok σ)
    (each : ∀ i ∈ c.document.imports, ∀ name x, c.Supplies i name x → P x) : c.Unanimous := by
  intro i hi j hj name x y suppliesX suppliesY
  exact ext x y (each i hi name x suppliesX) (each j hj name y suppliesY)
    (same_of_supplies h hi hj suppliesX suppliesY)

/-- With transitive imports disallowed, imports supply only what the schemas of the load declare. -/
theorem Supplies.current (supplies : c.Supplies i name x) (strict : c.allowTransitive = false)
    (labelled : c.world.Labelled) : c.world.Current x := by
  cases supplies with
  | wildcard declared => exact Universe.current_of_find? declared
  | single visible =>
    obtain ⟨t, first, rfl⟩ := exported_declared strict labelled visible
    exact Universe.current_of_find? first

theorem unanimous_of_strict (strict : c.allowTransitive = false) (labelled : c.world.Labelled)
    (h : c.run = .ok σ) : c.Unanimous := by
  have ext : ∀ x y, c.world.Current x → c.world.Current y → x.Same y → x = y :=
    fun _ _ hx hy => hx.ext hy
  exact unanimous_of_ext ext h fun _ _ _ _ supplies => supplies.current strict labelled

end Compilation

/-! ## Declarations that a load comes upon -/

namespace Universe

variable {u : Universe} {P : ImportedType → Prop} {id name : String} {x : ImportedType}

/-- A property of what the schemas of a load declare, and of what the cached ones import. -/
structure Grounded (u : Universe) (P : ImportedType → Prop) : Prop where
  labelled : u.Labelled
  cached : ∀ id τ name o, u.cached.find? id = some τ → τ.origin? name = some o → P o.target
  read : ∀ id d name t, u.Reads id d → d.declared? name = some t → P ⟨id, t⟩

namespace Grounded

variable (grounded : u.Grounded P)

include grounded

theorem declared {t : NamedType} (first : (u.declaredTypes id).find? (·.name == name) = some t) :
    P ⟨id, t⟩ := by
  cases held : u.cached.find? id with
  | some τ =>
    rw [declaredTypes_cached held] at first
    have near := Schema.origin?_of_declared (σ := τ) first
    rw [grounded.labelled id τ held] at near
    exact grounded.cached id τ name _ held near
  | none =>
    cases pending : u.pending.find? id with
    | some d =>
      have read : u.Reads id d := ⟨held, pending⟩
      rw [declaredTypes_read read] at first
      exact grounded.read id d name t read first
    | none => simp [declaredTypes, held, pending] at first

theorem points (points : u.Points id name x) : P x := by
  induction points with
  | cached held known => exact grounded.cached _ _ _ _ held known
  | declared read own => exact grounded.read _ _ _ _ read own
  | wildcard _ _ _ there => exact grounded.declared there
  | single _ _ _ _ ih => exact ih

theorem exported {c : Compilation} (world : c.world = u) {o : Origin}
    (visible : c.exported id name = .ok o) : P o.target := by
  subst world
  exact grounded.points
    (points_of_origin? grounded.labelled (Compilation.exported_eq_ok_iff.1 visible).1)

theorem supplies {c : Compilation} (world : c.world = u) {i : HeaderImport}
    (supplies : c.Supplies i name x) : P x := by
  subst world
  cases supplies with
  | wildcard declared => exact grounded.declared declared
  | single visible => exact grounded.exported rfl visible

theorem inScope {c : Compilation} (world : c.world = u) {τ : Schema} (ran : c.run = .ok τ)
    (bound : τ.inScope.find? name = some x) : P x := by
  subst world
  obtain ⟨i, -, supplied⟩ | ⟨-, -, alone⟩ := Compilation.run_scope ran bound
  · exact grounded.supplies rfl supplied
  · cases Compilation.run_binds ran bound with
    | @wildcard source t header declared =>
      obtain ⟨first, supplied⟩ := Compilation.supplies_of_declared declared
      exact absurd supplied (alone _ header first)
    | @single source typeName newName o header visible =>
      exact (grounded.exported rfl visible : P o.target)
    | @demanded source name o header far visible =>
      exact (grounded.exported rfl visible : P o.target)

/-- So it holds of all that a compiled schema means by a name. -/
theorem origin {c : Compilation} (world : c.world = u) {τ : Schema} (ran : c.run = .ok τ)
    (named : τ.id? = some id) (reads : u.Reads id τ.document) {o : Origin}
    (known : τ.origin? name = some o) : P o.target := by
  cases own : τ.declared? name with
  | some t =>
    rw [Schema.origin?_of_declared own, named] at known
    cases known
    exact grounded.read id _ name t reads own
  | none =>
    cases bound : τ.inScope.find? name with
    | none =>
      rw [Schema.origin?_of_unbound own bound] at known
      cases known
    | some target =>
      rw [Schema.origin?_of_inScope own bound] at known
      cases known
      exact grounded.inScope world ran bound

end Grounded

end Universe

namespace System

variable {s : System} {c : Call} {root : SchemaDocument} {world : Universe} {σ τ : Schema}
  {members : List Schema} {settings : Settings} {P : ImportedType → Prop} {id name : String}

namespace Loads

theorem root_own (h : s.Loads c root world σ members) : σ.document = root :=
  Compilation.document_of_run (compile_eq_ok_iff.1 h.compiles).2

/-- Nothing is compiled for an id that is in the cache. -/
theorem absent_root (h : s.Loads c root world σ members) (named : root.id = some id) :
    s.cache.get? id = none := by
  have own : σ.id? = some id := by rw [Schema.id?, h.root_own, named]
  obtain ⟨a, made, ended⟩ := compiled_eq_cons_iff.1 h.compiled
  obtain ⟨key, -, absent, rfl⟩ | ⟨values, made⟩ := attempt?_cases made
  · obtain rfl := Option.some.inj ((id_of_attemptId ended).symm.trans own)
    exact absent
  · cases (anonymous_of_values made ended).symm.trans own

theorem absent (h : s.Loads c root world σ members) {d : SchemaDocument}
    (read : world.Reads id d) : s.cache.get? id = none := by
  obtain ⟨named, -⟩ | ⟨-, free⟩ := h.drawn.pending id d read.2
  · exact h.absent_root named
  · exact free

end Loads

/-! ## What calls keep -/

/-- The names of a cached schema are distinct. -/
theorem Reached.distinct (reached : s.Reached settings) :
    ∀ key τ, s.cache.get? key = some τ → ∀ t ∈ τ.types, τ.declared? t.name = some t := by
  induction reached with
  | fresh authorities =>
    intro key τ found
    cases found
  | call earlier c ih =>
    intro key τ found t mem
    obtain before | ⟨compiled, -⟩ := get?_call earlier.idle found
    · exact ih key τ before t mem
    · obtain ⟨root, world, σ, members, loads⟩ := loads_of_compiled compiled
      exact Compilation.declared?_of_mem (loads.run_own compiled).1 mem
  | supply _ _ ih => exact ih

/-- A property of all declarations that cached schemas have or import. -/
def Grounded (s : System) (P : ImportedType → Prop) : Prop :=
  ∀ key τ name o, s.cache.get? key = some τ → τ.origin? name = some o → P o.target

theorem Loads.grounded (h : s.Loads c root world σ members) (labelled : s.Labelled)
    (cached : s.Grounded P)
    (read : ∀ id d name t, world.Reads id d → d.declared? name = some t → P ⟨id, t⟩) :
    world.Grounded P :=
  ⟨fun key τ held => labelled key τ (h.held held),
    fun key τ name o held known => cached key τ name o (h.held held) known, read⟩

theorem grounded_call (idle : s.cache.Idle) (labelled : s.Labelled) (cached : s.Grounded P)
    (read : ∀ root world σ members, s.Loads c root world σ members →
      ∀ id d name t, world.Reads id d → d.declared? name = some t → P ⟨id, t⟩) :
    (s.call c).Grounded P := by
  intro key τ name o found known
  obtain before | ⟨mem, named⟩ := get?_call idle found
  · exact cached key τ name o before known
  · obtain ⟨root, world, σ, members, loads⟩ := loads_of_compiled mem
    have grounded := loads.grounded labelled cached (read _ _ _ _ loads)
    exact grounded.origin rfl (loads.run_own mem).1 named (loads.reads_own mem named) known

/-- While authorities hold the same, cached schemas import what the library declares. -/
theorem grounded_calls (settings : Settings) (authorities : List Authority) (cs : List Call) :
    let s := (fresh settings authorities).calls cs
    s.Grounded s.library.Declares := by
  have step : ∀ (s : System) (c : Call), s.cache.Idle → s.Coherent ∧ s.Grounded s.library.Declares →
      (s.call c).Coherent ∧ (s.call c).Grounded (s.call c).library.Declares := by
    rintro s c idle ⟨coherent, grounded⟩
    refine ⟨coherent_call idle coherent c, ?_⟩
    rw [library_call idle]
    refine grounded_call idle coherent.named grounded ?_
    intro root world σ members loads id d name t read own
    exact Library.declares_of_declared? (loads.document read.2) own
  have start : (fresh settings authorities).Grounded
      (fresh settings authorities).library.Declares := by
    intro key τ name o found
    cases found
  exact (calls_invariant step (idle_fresh settings authorities)
    ⟨coherent_fresh settings authorities, start⟩ cs).2

/-- What a cached schema declares. -/
def Holds (s : System) (x : ImportedType) : Prop :=
  ∃ τ, s.cache.get? x.schemaId = some τ ∧ τ.declared? x.declaration.name = some x.declaration

theorem Holds.ext {x y : ImportedType} (hx : s.Holds x) (hy : s.Holds y) (same : x.Same y) :
    x = y :=
  ImportedType.eq_of_same (f := fun id name => (s.cache.get? id).bind (·.declared? name))
    (Option.bind_eq_some_iff.2 hx) (Option.bind_eq_some_iff.2 hy) same

theorem holds_read (idle : s.cache.Idle) (h : s.Loads c root world σ members) {d : SchemaDocument}
    {t : NamedType} (read : world.Reads id d) (own : d.declared? name = some t) :
    (s.call c).Holds ⟨id, t⟩ := by
  obtain ⟨τ, mem, -, named, rfl⟩ := h.compiled_of_reads read
  obtain ⟨τ', found⟩ := get?_compiled idle mem named
  obtain before | ⟨mem', named'⟩ := get?_call idle found
  · cases (h.absent read).symm.trans before
  · have same : τ'.document = τ.document := (h.reads_own mem' named').unique read
    obtain ⟨-, rfl⟩ := declared?_eq_some own
    exact ⟨τ', found, by rw [Schema.declared?, same]; exact own⟩

theorem keeps_of_compiled (mem : τ ∈ s.compiled c) (id : String) : c ≠ .invalidate id := by
  rintro rfl
  simp [compiled, attempt?] at mem

theorem Grounded.call (idle : s.cache.Idle) (keeps : ∀ id, c ≠ .invalidate id)
    (grounded : s.Grounded s.Holds) : s.Grounded (s.call c).Holds := by
  intro key τ name o found known
  obtain ⟨τ', cached, own⟩ := grounded key τ name o found known
  obtain ⟨build, has⟩ := idle.has_of_get? cached
  exact ⟨τ', (has_call idle keeps has).get?, own⟩

/-- While no schema is dropped, cached schemas import what the cached schemas declare. -/
theorem Grown.grounded (grown : s.Grown settings) : s.Grounded s.Holds := by
  induction grown with
  | fresh authorities =>
    intro key τ name o found
    cases found
  | call grown c keeps ih =>
    have idle := grown.reached.idle
    refine grounded_call idle grown.reached.labelled (ih.call idle keeps) ?_
    intro root world σ members loads id d name t read own
    exact holds_read idle loads read own
  | supply _ _ ih => exact ih

/-! ## Shadowing -/

namespace Loads

theorem unanimous (h : s.Loads c root world σ members) (grounded : world.Grounded P)
    (ext : ∀ x y, P x → P y → x.Same y → x = y) (mem : τ ∈ s.compiled c) :
    (s.settings.compilation world τ.document).Unanimous :=
  Compilation.unanimous_of_ext ext (h.run_own mem).1
    fun _ _ _ _ supplies => grounded.supplies rfl supplies

theorem unanimous_of_calls {authorities : List Authority} {cs : List Call}
    (same : s = (fresh settings authorities).calls cs) (h : s.Loads c root world σ members)
    (mem : τ ∈ s.compiled c) : (s.settings.compilation world τ.document).Unanimous := by
  subst same
  have coherent := coherent_calls settings authorities cs
  have grounded := h.grounded coherent.named (grounded_calls settings authorities cs)
    fun id d name t read own => Library.declares_of_declared? (h.document read.2) own
  exact h.unanimous grounded (fun x y hx hy same => hx.ext hy same.1 same.2) mem

theorem unanimous_of_grown (grown : s.Grown settings) (h : s.Loads c root world σ members)
    (mem : τ ∈ s.compiled c) : (s.settings.compilation world τ.document).Unanimous := by
  have idle := grown.reached.idle
  have grounded := h.grounded grown.reached.labelled
    (grown.grounded.call idle (keeps_of_compiled mem))
    fun id d name t read own => holds_read idle h read own
  exact h.unanimous grounded (fun x y hx hy => hx.ext hy) mem

/-- Each type of a schema of the load is the one that the schema declares under its name. -/
theorem supplies_declared (reached : s.Reached settings) (h : s.Loads c root world σ members)
    (compilation : Compilation) (same : compilation.world = world) {t : NamedType}
    (declared : t ∈ world.declaredTypes id) :
    compilation.Supplies (.wildcard id) t.name ⟨id, t⟩ := by
  subst same
  refine .wildcard ?_
  cases held : compilation.world.cached.find? id with
  | some τ =>
    rw [Universe.declaredTypes_cached held] at declared ⊢
    exact reached.distinct id τ (h.held held) t declared
  | none =>
    cases pending : compilation.world.pending.find? id with
    | none => simp [Universe.declaredTypes, held, pending] at declared
    | some d =>
      have read : compilation.world.Reads id d := ⟨held, pending⟩
      obtain ⟨τ, -, ran, -, rfl⟩ := h.compiled_of_reads read
      rw [Universe.declaredTypes_read read] at declared ⊢
      exact Compilation.declared?_of_mem ran declared

/-- What a search finds in a schema is what the compiled schema says, if it was cached, or if it
mirrors its document. -/
theorem origin?_of_imported (h : s.Loads c root world σ members) (mem : τ ∈ s.compiled c)
    {i : HeaderImport} (header : i ∈ τ.document.imports) {b : Schema}
    (there : s.cache.get? i.schemaId = some b ∨ b.id? = some i.schemaId ∧ world.Mirrors b) :
    world.origin? i.schemaId name = b.origin? name := by
  rcases there with cached | ⟨named, mirrors⟩
  · have part := h.takesPart (h.run_own mem).2 (SchemaDocument.schemaId_mem_importIds header)
    rcases Universe.contains_iff.1 part with ⟨d, found⟩ | ⟨b', held⟩
    · cases (h.absent (h.reads found)).symm.trans cached
    · obtain rfl := Option.some.inj ((h.held held).symm.trans cached)
      exact Universe.origin?_cached held
  · exact mirrors _ named name

end Loads

/-- Whatever was called before, and whichever policy is in force, a schema `τ` that a call compiles

* declares distinct names, none of which an import brings as well;
* has a record of each header import, marked as one of the schema as a whole if it is one;
* is supplied by each import of a schema as a whole with every type that this schema declares, and
  by each single import with what the other schema means by the name;
* has each name that is supplied in scope for what one of the imports supplies, and all that others
  supply under the name has the same name in a schema of the same id.

What a name stands for is the very declaration that each import supplies under it, if and only if no
two imports supply two of them under one name. So it is with transitive imports disallowed, and so
it is on a system whose authorities have always held the same, or which has dropped no schema. -/
theorem imports_unshadowed (reached : s.Reached settings) (loads : s.Loads c root world σ members)
    (compiled : τ ∈ s.compiled c) :
    ((τ.types.map (·.name)).Nodup ∧
      ∀ name target, τ.inScope.find? name = some target → τ.declared? name = none) ∧
    (∀ i ∈ τ.document.imports, ∃ r, τ.imports.find? i.schemaId = some r ∧
      (r.wildcard = true ↔ .wildcard i.schemaId ∈ τ.document.imports)) ∧
    (∀ id, .wildcard id ∈ τ.document.imports → ∀ t ∈ world.declaredTypes id,
      (settings.compilation world τ.document).Supplies (.wildcard id) t.name ⟨id, t⟩) ∧
    (∀ id typeName newName, .single id typeName newName ∈ τ.document.imports →
      ∃ o, (settings.compilation world τ.document).Supplies (.single id typeName newName)
          (newName.getD typeName) o.target ∧
        world.origin? id typeName = some o ∧
        ∀ b, s.cache.get? id = some b ∨ b.id? = some id ∧ world.Mirrors b →
          b.origin? typeName = some o) ∧
    (∀ i ∈ τ.document.imports, ∀ name target,
      (settings.compilation world τ.document).Supplies i name target →
        ∃ bound, τ.inScope.find? name = some bound ∧ bound.Same target ∧
          ∃ j ∈ τ.document.imports,
            (settings.compilation world τ.document).Supplies j name bound) ∧
    ((settings.compilation world τ.document).Keeps τ ↔
      (settings.compilation world τ.document).Unanimous) ∧
    (settings.allowTransitive = false → (settings.compilation world τ.document).Unanimous) ∧
    (∀ authorities cs, s = (fresh settings authorities).calls cs →
      (settings.compilation world τ.document).Unanimous) ∧
    (s.Grown settings → (settings.compilation world τ.document).Unanimous) := by
  obtain rfl := reached.policy
  have ran := (loads.run_own compiled).1
  have labelled : world.Labelled := fun key τ held => reached.labelled key τ (loads.held held)
  refine ⟨⟨Compilation.distinct_of_run ran, fun _ _ bound => Compilation.run_undeclared ran bound⟩,
    fun i header => Compilation.run_records ran header,
    fun id _ t declared => loads.supplies_declared reached _ rfl declared,
    fun id typeName newName header => ?_,
    fun i header name target supplies => Compilation.bound_of_supplies ran header supplies,
    Compilation.keeps_iff ran, fun strict => Compilation.unanimous_of_strict strict labelled ran,
    fun authorities cs same => loads.unanimous_of_calls same compiled,
    fun grown => loads.unanimous_of_grown grown compiled⟩
  obtain ⟨-, o, visible, -⟩ := Compilation.run_brings ran header
  have found := (Compilation.exported_eq_ok_iff.1 visible).1
  refine ⟨o, .single visible, found, fun b there => ?_⟩
  rw [← found]
  exact (loads.origin?_of_imported compiled header there).symm

end System

/-! ## A declaration that is out of date -/

def renewedType : NamedType := ⟨"t", ⟨[.type (.reference "int" .unmarked)], []⟩⟩

/-- `type::{ name: t, type: int }` -/
def renewedValues : List Element :=
  [⟨["type"], .struct [⟨"name", .symbol "t"⟩, ⟨"type", .symbol "int"⟩]⟩]

def renewedDocument : SchemaDocument := ⟨some "c.isl", .v1, [.type renewedType]⟩

/-- `schema_header::{ imports: [{ id: "b.isl", type: t }, { id: "c.isl" }] }` -/
def bothValues : List Element :=
  [⟨["schema_header"], .struct [⟨"imports", .list
    [.struct [⟨"id", .string "b.isl"⟩, ⟨"type", .symbol "t"⟩],
      .struct [⟨"id", .string "c.isl"⟩]]⟩]⟩]

def bothDocument : SchemaDocument :=
  ⟨none, .v1, [.header ⟨[.single "b.isl" "t" none, .wildcard "c.isl"], .none, []⟩]⟩

/-- A schema that imports `t` from `c.isl` stays in the cache, while `c.isl` is dropped and comes to
declare `t` otherwise. -/
def staleSystem : System :=
  { (relaySystem.call (.load "b.isl")).call (.invalidate "c.isl") with
    authorities := [.memory (MemoryAuthority.empty.insertValues "c.isl" renewedValues)] }

def bringingWorld : Universe :=
  (Universe.ofRoot relayDocument).addPending "c.isl" ["c.isl"] farDocument

def bringingSchema : Schema :=
  ⟨relayDocument, .ofList [("c.isl", ⟨false, .ofList [("t", "t")]⟩)],
    .ofList [("t", ⟨"c.isl", ⟨"t", ⟨[], []⟩⟩⟩)]⟩

theorem reached_stale : staleSystem.Reached ⟨.standard, false, true⟩ :=
  .supply (.call (.call (.fresh _) _) _) _

/-- A root with one member. -/
theorem compile_pair {settings : Settings} {world : Universe} {root d : SchemaDocument}
    {σ τ : Schema} {id : String} (ran : (settings.compilation world root).run = .ok σ)
    (listed : (world.pending.entries.filter fun e => root.id != some e.1) = [(id, d)])
    (member : settings.compileMember world id d = .ok τ) :
    settings.compile world root = .ok (σ, [τ]) := by
  refine System.compile_eq_ok_iff.2 ⟨?_, ran⟩
  simp only [Settings.members, listed, List.mergeSort_singleton]
  simp [member, bind, Except.bind, pure, Except.pure]

theorem gather_bringing :
    Universe.gather relaySystem.library relaySystem.cache.get? relayDocument =
      .ok bringingWorld := by
  have found : relaySystem.library.document "c.isl" = .ok farDocument := rfl
  exact Universe.gather_eq (.read rfl rfl found (.done bringingWorld))

theorem run_bringing :
    (relaySystem.settings.compilation bringingWorld relayDocument).run = .ok bringingSchema := by
  have found : bringingWorld.origin? "c.isl" "t" = some ⟨"c.isl", ⟨"t", ⟨[], []⟩⟩, false⟩ :=
    Universe.origin?_declared ⟨rfl, rfl⟩ rfl
  have imported : (relaySystem.settings.compilation bringingWorld relayDocument).importOne .empty
      (.single "c.isl" "t" none) = .ok ⟨bringingSchema.imports, bringingSchema.inScope⟩ :=
    Compilation.importOne_single_eq_ok_iff.2 ⟨by decide, _,
      Compilation.exported_eq_ok_iff.2 ⟨found, fun _ => rfl⟩, _, rfl, rfl⟩
  exact Compilation.run_eq_ok_iff.2 ⟨rfl, rfl, _, _,
    Compilation.importAll_cons_eq_ok_iff.2 ⟨_, imported, rfl⟩, rfl, rfl⟩

theorem compiled_bringing :
    relaySystem.compiled (.load "b.isl") = [bringingSchema, ⟨farDocument, .empty, .empty⟩] := by
  have compiles := compile_pair run_bringing (rfl : _ = [("c.isl", farDocument)])
    (show _ = Except.ok ⟨farDocument, .empty, .empty⟩ from rfl)
  have document : relaySystem.library.document "b.isl" = .ok relayDocument := rfl
  have outcome := System.attemptId_eq_ok_iff.2 ⟨relayDocument, document,
    System.attempt_eq_ok_iff.2 ⟨bringingWorld, gather_bringing, compiles⟩⟩
  have made : relaySystem.attempt? (.load "b.isl") =
    some (relaySystem.attemptId relaySystem.cache "b.isl") := rfl
  exact System.compiled_eq_cons_iff.2 ⟨_, made, outcome⟩

theorem held_stale : staleSystem.cache.get? "b.isl" = some bringingSchema := by
  have idle : relaySystem.cache.Idle := Cache.idle_empty
  have mem : bringingSchema ∈ relaySystem.compiled (.load "b.isl") := by
    rw [compiled_bringing]
    exact List.mem_cons_self ..
  have named : bringingSchema.id? = some "b.isl" := rfl
  obtain ⟨τ, found⟩ := System.get?_compiled idle mem named
  have kept : staleSystem.cache.get? "b.isl" =
      (relaySystem.call (.load "b.isl")).cache.get? "b.isl" :=
    (Cache.get?_invalidate _ _ _).trans (if_neg (by decide))
  rw [kept, found]
  obtain before | ⟨compiled, named⟩ := System.get?_call idle found
  · cases before
  · rw [compiled_bringing] at compiled
    obtain rfl | rfl : τ = bringingSchema ∨ τ = ⟨farDocument, .empty, .empty⟩ := by
      simpa using compiled
    · rfl
    · exact absurd named (by decide)

theorem dropped_stale : staleSystem.cache.get? "c.isl" = none :=
  (Cache.get?_invalidate _ _ _).trans (if_pos rfl)

def staleWorld : Universe :=
  ((Universe.ofRoot bothDocument).addPending "c.isl" ["c.isl"] renewedDocument).addCached "b.isl"
    bringingSchema

def staleSchema : Schema :=
  ⟨bothDocument, .ofList [("b.isl", ⟨false, .ofList [("t", "t")]⟩), ("c.isl", ⟨true, .empty⟩)],
    .ofList [("t", ⟨"c.isl", ⟨"t", ⟨[], []⟩⟩⟩)]⟩

theorem gather_stale :
    Universe.gather staleSystem.library staleSystem.cache.get? bothDocument = .ok staleWorld := by
  have found : staleSystem.library.document "c.isl" = .ok renewedDocument := rfl
  exact Universe.gather_eq (.read rfl dropped_stale found (.held rfl held_stale (.done staleWorld)))

theorem exported_stale :
    (staleSystem.settings.compilation staleWorld bothDocument).exported "b.isl" "t" =
      .ok ⟨"c.isl", ⟨"t", ⟨[], []⟩⟩, true⟩ :=
  Compilation.exported_eq_ok_iff.2
    ⟨(Universe.origin?_cached rfl).trans (rfl : bringingSchema.origin? "t" = _), fun _ => rfl⟩

theorem run_stale :
    (staleSystem.settings.compilation staleWorld bothDocument).run = .ok staleSchema := by
  let half : Bindings := ⟨.ofList [("b.isl", ⟨false, .ofList [("t", "t")]⟩)], staleSchema.inScope⟩
  have first : (staleSystem.settings.compilation staleWorld bothDocument).importOne .empty
      (.single "b.isl" "t" none) = .ok half :=
    Compilation.importOne_single_eq_ok_iff.2 ⟨by decide, _, exported_stale, _, rfl, rfl⟩
  have second : (staleSystem.settings.compilation staleWorld bothDocument).importOne half
      (.wildcard "c.isl") = .ok ⟨staleSchema.imports, staleSchema.inScope⟩ := rfl
  exact Compilation.run_eq_ok_iff.2 ⟨rfl, rfl, _, _,
    Compilation.importAll_cons_eq_ok_iff.2 ⟨_, first,
      Compilation.importAll_cons_eq_ok_iff.2 ⟨_, second, rfl⟩⟩, rfl, rfl⟩

theorem loads_stale :
    staleSystem.Loads (.compileValues bothValues) bothDocument staleWorld staleSchema
      [⟨renewedDocument, .empty, .empty⟩] := by
  have compiles := compile_pair run_stale (rfl : _ = [("c.isl", renewedDocument)])
    (show _ = Except.ok ⟨renewedDocument, .empty, .empty⟩ from rfl)
  have made : staleSystem.attempt? (.compileValues bothValues) =
      some (staleSystem.attempt staleSystem.cache bothDocument) := rfl
  have outcome := System.attempt_eq_ok_iff.2 ⟨staleWorld, gather_stale, compiles⟩
  exact ⟨System.compiled_eq_cons_iff.2 ⟨_, made, outcome⟩, gather_stale, compiles, .inl rfl⟩

/-- The name `t` stands for what the first import supplies, and not for what `c.isl` declares. -/
theorem System.imports_unshadowed_stale :
    let c := staleSystem.settings.compilation staleWorld bothDocument
    staleSchema ∈ staleSystem.compiled (.compileValues bothValues) ∧
      staleSchema.inScope.find? "t" = some ⟨"c.isl", ⟨"t", ⟨[], []⟩⟩⟩ ∧
      c.Supplies (.wildcard "c.isl") "t" ⟨"c.isl", renewedType⟩ ∧
      ¬c.Keeps staleSchema ∧ ¬c.Unanimous ∧ ¬staleSystem.Grown ⟨.standard, false, true⟩ := by
  intro c
  have compiled : staleSchema ∈ staleSystem.compiled (.compileValues bothValues) := by
    rw [loads_stale.compiled]
    exact List.mem_cons_self ..
  obtain ⟨-, -, whole, -, -, keeps, -, -, grown⟩ :=
    System.imports_unshadowed reached_stale loads_stale compiled
  have header : .wildcard "c.isl" ∈ bothDocument.imports :=
    List.mem_cons_of_mem _ (List.mem_cons_self ..)
  have supplies : c.Supplies (.wildcard "c.isl") "t" ⟨"c.isl", renewedType⟩ :=
    whole "c.isl" header renewedType (List.mem_cons_self ..)
  have stale : staleSchema.inScope.find? "t" = some ⟨"c.isl", ⟨"t", ⟨[], []⟩⟩⟩ := rfl
  have shadowed : ¬c.Keeps staleSchema := by
    intro keeps
    have same := Option.some.inj (stale.symm.trans (keeps _ header _ _ supplies))
    simp [renewedType] at same
  exact ⟨compiled, stale, supplies, shadowed, fun unanimous => shadowed (keeps.2 unanimous),
    fun never => shadowed (keeps.2 (grown never))⟩

end Isl
