import Isl.Lint
import Isl.Proofs.Directory
import Isl.Proofs.Ion.RoundTrip
import Isl.Proofs.Reader.FailFast
import Isl.Proofs.System.Anonymous
import Isl.Proofs.System.Refusal
/-!
# Linting and loading

A file is linted without an id, and loaded by the id that leads to it. What the linter reports as an
error is what a load fails with, and no error goes without a report: reading never fails with an
empty list of errors, and compiling fails with a single one.

* `Tells`, `System.tells_compileValues`: whatever fails has something to tell;
* `Lint.checkSchema_iff`: the linter reports errors exactly if the values do not compile;
* `Lint.checkFile_iff_load`: and that is exactly if a load of the file fails.
-/
namespace Isl

/-! ## Errors that tell something -/

/-- If this is an error, it is not an empty list of read errors. -/
structure Tells {α : Type} (r : Except SchemaError α) : Prop where
  filled : r ≠ .error (.invalidIsl [])

theorem tells_ok {α : Type} (a : α) : Tells (.ok a : Except SchemaError α) := ⟨nofun⟩

theorem tells_error {α : Type} {e : SchemaError} (filled : e ≠ .invalidIsl []) :
    Tells (.error e : Except SchemaError α) :=
  ⟨fun empty => filled (Except.error.inj empty)⟩

theorem tells_bind {α β : Type} {r : Except SchemaError α} {f : α → Except SchemaError β}
    (first : Tells r) (next : ∀ a, r = .ok a → Tells (f a)) : Tells (r >>= f) := by
  cases r with
  | error e =>
    refine ⟨?_⟩
    rintro ⟨⟩
    exact first.filled rfl
  | ok a => exact next a rfl

theorem tells_map {α β : Type} {r : Except SchemaError α} {f : α → β} (h : Tells r) :
    Tells (r.map f) := by
  cases r with
  | error e =>
    refine ⟨?_⟩
    rintro ⟨⟩
    exact h.filled rfl
  | ok a => exact tells_ok (f a)

theorem tells_mapM {α β : Type} {f : α → Except SchemaError β} {as : List α}
    (each : ∀ a, Tells (f a)) : Tells (as.mapM f) := by
  induction as with
  | nil => exact tells_ok []
  | cons a as ih =>
    rw [List.mapM_cons]
    exact tells_bind (each a) fun _ _ => tells_bind ih fun _ _ => tells_ok _

theorem tells_importFailed {α : Type} {r : Except SchemaError α} (chain : List String)
    (h : Tells r) : Tells (r.mapError (Settings.importFailed chain)) := by
  cases r with
  | ok a => exact tells_ok a
  | error e =>
    cases chain with
    | nil => exact h
    | cons id ids => exact ⟨nofun⟩

theorem Compilation.tells_run {c : Compilation} : Tells c.run :=
  ⟨fun empty => nomatch Compilation.only_run.error _ empty⟩

namespace Settings

variable {settings : Settings}

theorem tells_read (values : List Element) : Tells (settings.read values) := by
  refine ⟨fun empty => ?_⟩
  have failed : Reader.document settings.dialect values settings.failFast = .error [] := by
    unfold read at empty
    cases outcome : Reader.document settings.dialect values settings.failFast with
    | ok d => simp [outcome, Except.mapError] at empty
    | error errors => simpa [outcome, Except.mapError] using empty
  have both := Reader.firstOnly_document settings.dialect values
  cases fast : settings.failFast with
  | true =>
    rw [fast] at failed
    obtain ⟨d, given, -⟩ | ⟨first, later, given, -⟩ := both
    · cases failed.symm.trans given
    · cases failed.symm.trans given
  | false =>
    rw [fast] at failed
    obtain ⟨d, -, given⟩ | ⟨first, later, -, given⟩ := both
    · cases failed.symm.trans given
    · cases failed.symm.trans given

theorem tells_fetch (authorities : List Authority) (id : String) :
    Tells (settings.fetch authorities id) := by
  unfold fetch
  split
  · rename_i e failed
    obtain ⟨causes, rfl⟩ := Authority.error_of_fetchFrom failed
    exact ⟨by simp⟩
  · exact tells_map (tells_read _)

theorem tells_compile (world : Universe) (root : SchemaDocument) :
    Tells (settings.compile world root) :=
  tells_bind (tells_mapM fun _ => tells_importFailed _ Compilation.tells_run) fun _ _ =>
    tells_bind Compilation.tells_run fun _ _ => tells_ok _

end Settings

namespace System

variable {s : System}

theorem tells_attempt (cache : Cache Schema) (root : SchemaDocument) :
    Tells (s.attempt cache root).outcome := by
  unfold attempt
  cases gathered : Universe.gather s.library cache.get? root with
  | ok world => exact Settings.tells_compile world root
  | error fault =>
    obtain ⟨-, -, -, missing⟩ := Universe.missing_gather gathered
    have tells : Tells (s.settings.fetch s.authorities fault.quest.id) := Settings.tells_fetch _ _
    have fetched : s.settings.fetch s.authorities fault.quest.id = .error fault.error := missing
    rw [fetched] at tells
    have failed : Tells (.error fault.error : Except SchemaError (Schema × List Schema)) :=
      tells_error fun empty => tells.filled (by rw [empty])
    exact tells_importFailed fault.quest.chain failed

theorem tells_compileValues (values : List Element) : Tells (s.compileValues values).2 := by
  have read := s.settings.tells_read values
  unfold compileValues
  cases outcome : s.settings.read values with
  | error e =>
    rw [outcome] at read
    exact tells_error fun empty => read.filled (by rw [empty])
  | ok root => exact tells_map (tells_attempt s.cache root)

/-- A document that is not found is not loaded. -/
theorem load_of_missing {id : String} {e : SchemaError} (idle : s.cache.Idle)
    (free : s.cache.get? id = none) (missing : s.library.document id = .error e) :
    (s.load id).2 = .error e := by
  rw [load_attempted idle free]
  simp only [attemptId, missing, Except.map]

end System

/-! ## What the linter reports -/

/-- An authority serves the directory that it was opened for. -/
theorem DirectoryAuthority.open?_eq_ok {disk : Disk} {path : String} {d : DirectoryAuthority}
    (opened : open? disk path = .ok d) : d.disk = disk ∧ disk.find? d.base = some .directory := by
  unfold open? at opened
  split at opened
  · cases opened
  · split at opened
    · rename_i directory
      cases opened
      exact ⟨rfl, directory⟩
    · cases opened

namespace Lint

variable {disk : Disk} {base file : String} {values : List Element}

/-- No error is reported. -/
def Passes (ds : List Diagnostic) : Prop := ∀ x ∈ ds, x.severity ≠ .error

theorem passes_warning {path : TreePath} {finding : Finding} (warns : finding.severity = .warning) :
    Passes [⟨file, path, finding⟩] := by
  intro x mem
  rw [List.mem_singleton.1 mem, Diagnostic.severity, warns]
  nofun

theorem passes_append {ds es : List Diagnostic} : Passes (ds ++ es) ↔ Passes ds ∧ Passes es :=
  List.forall_mem_append

theorem passes_ignoredFrom (i : Nat) (es : List Element) : Passes (ignoredFrom file i es) := by
  induction es generalizing i with
  | nil => nofun
  | cons e es ih =>
    refine passes_append.2 ⟨?_, ih (i + 1)⟩
    split
    · nofun
    · exact passes_warning rfl

/-- What the linter says about the top level are warnings. -/
theorem passes_checkTopLevel : Passes (checkTopLevel file values) := by
  refine passes_append.2 ⟨?_, passes_ignoredFrom 0 values⟩
  split
  · nofun
  · exact passes_warning rfl

/-- Errors are reported exactly if the values do not compile. -/
theorem checkSchema_iff :
    Passes (checkSchema disk base file values) ↔
      ∃ σ, ((systemFor disk base).compileValues values).2 = .ok σ := by
  have tells := (systemFor disk base).tells_compileValues values
  unfold checkSchema
  cases outcome : ((systemFor disk base).compileValues values).2 with
  | ok σ =>
    refine ⟨fun _ => ⟨σ, rfl⟩, fun _ => ?_⟩
    show Passes (if σ.types.isEmpty then _ else _)
    split
    · exact passes_warning rfl
    · nofun
  | error e =>
    refine ⟨fun passes => ?_, nofun⟩
    exfalso
    cases e with
    | invalidIsl errors =>
      cases errors with
      | nil => exact tells.filled outcome
      | cons first later => exact passes ⟨file, _, .misread _⟩ (List.mem_cons_self ..) rfl
    | _ => exact passes ⟨file, .root, .uncompiled _⟩ (List.mem_singleton_self _) rfl

theorem systemFor_open {d : DirectoryAuthority}
    (opened : DirectoryAuthority.open? disk base = .ok d) :
    systemFor disk base = .ofAuthorities [.directory d] := by
  simp only [systemFor, opened]

/-- The linter and the authority take the same values from a file. -/
theorem parseFile_eq_ok_iff {d : DirectoryAuthority} {place : List String}
    (served : d.disk = disk) (located : disk.locate file = .ok place) :
    parseFile disk file = .ok values ↔ d.valuesAt place = .ok values := by
  subst served
  have text : d.disk.readText file = d.disk.textAt place := by
    simp [Disk.readText, located, bind, Except.bind]
  unfold parseFile DirectoryAuthority.valuesAt
  rw [text]
  cases d.disk.textAt place with
  | error fault => simp
  | ok source => rfl

theorem ne_nil_of_parseFile (parsed : parseFile disk file = .ok values)
    (filled : ∀ source, disk.readText file = .ok source → Ion.parse source ≠ .ok []) :
    values ≠ [] := by
  rintro rfl
  unfold parseFile at parsed
  cases text : disk.readText file with
  | error fault =>
    rw [text] at parsed
    cases parsed
  | ok source =>
    rw [text] at parsed
    cases outcome : Ion.parse source with
    | error e => simp [outcome, Except.mapError] at parsed
    | ok values =>
      simp only [outcome, Except.mapError, Except.ok.injEq] at parsed
      exact filled source text (parsed ▸ outcome)

theorem document_of_values {d : DirectoryAuthority} {id : String}
    (held : (Authority.directory d).values id = .ok values) (filled : values ≠ []) :
    (System.ofAuthorities [.directory d]).library.document id =
      (Settings.standard.read values).map (·.withId id) := by
  have fetched : Authority.fetch [.directory d] id = .ok values := by
    cases values with
    | nil => exact absurd rfl filled
    | cons e es => simp [Authority.fetch, Authority.fetchFrom, held]
  show Settings.standard.fetch [.directory d] id = _
  simp only [Settings.fetch, fetched]

/-- On a system that serves one directory, what is in a file compiles exactly if the file can be
loaded. -/
theorem compileValues_iff_load {d : DirectoryAuthority} {id : String}
    (held : (Authority.directory d).values id = .ok values) (filled : values ≠ []) :
    (∃ σ, ((System.ofAuthorities [.directory d]).compileValues values).2 = .ok σ) ↔
      ∃ loaded, ((System.ofAuthorities [.directory d]).load id).2 = .ok loaded := by
  have idle : (System.ofAuthorities [.directory d]).cache.Idle := Cache.idle_empty
  have document := document_of_values held filled
  cases read : Settings.standard.read values with
  | ok root =>
    rw [read] at document
    exact System.compileValues_iff_load idle rfl read document
  | error e =>
    rw [read] at document
    have compiled : ((System.ofAuthorities [.directory d]).compileValues values).2 = .error e := by
      simp [System.compileValues, System.ofAuthorities, read]
    simp [compiled, System.load_of_missing idle rfl document]

theorem load_of_unreadable {d : DirectoryAuthority} {id : String} {e : SchemaError}
    (held : (Authority.directory d).values id = .error e) :
    ∃ e', ((System.ofAuthorities [.directory d]).load id).2 = .error e' := by
  refine ⟨_, System.load_of_missing Cache.idle_empty rfl (e := .schemaNotFound id [e.message]) ?_⟩
  show Settings.standard.fetch [.directory d] id = _
  simp [Settings.fetch, Authority.fetch, Authority.fetchFrom, held]

/-- The linter reports no error on a file exactly if a load of the file succeeds, by the names that
lead to it from the base, on a new system that serves the base alone. A file without values is
left out: to authorities there is no such document. -/
theorem checkFile_iff_load {d : DirectoryAuthority} {names : List String} {content : ByteArray}
    (tree : disk.Tree) (opened : DirectoryAuthority.open? disk base = .ok d)
    (found : disk.find? (d.base ++ names) = some (.file content))
    (located : disk.locate file = .ok (d.base ++ names))
    (filled : ∀ source, disk.readText file = .ok source → Ion.parse source ≠ .ok []) :
    (∀ x ∈ checkFile disk base file, x.severity ≠ .error) ↔
      ∃ loaded,
        ((System.ofAuthorities [.directory d]).load (FilePath.ofNames names)).2 = .ok loaded := by
  obtain ⟨served, directory⟩ := DirectoryAuthority.open?_eq_ok opened
  have below : names ≠ [] := by
    rintro rfl
    rw [List.append_nil, directory] at found
    cases found
  have held : (Authority.directory d).values (FilePath.ofNames names) =
      d.valuesAt (d.base ++ names) :=
    DirectoryAuthority.values_ofNames (served ▸ tree) (served ▸ found) below
  have same : ∀ values, parseFile disk file = .ok values ↔
      d.valuesAt (d.base ++ names) = .ok values := fun _ => parseFile_eq_ok_iff served located
  cases parsed : parseFile disk file with
  | error e =>
    obtain ⟨e', unread⟩ : ∃ e', d.valuesAt (d.base ++ names) = .error e' := by
      cases read : d.valuesAt (d.base ++ names) with
      | error e' => exact ⟨e', rfl⟩
      | ok values => cases parsed.symm.trans ((same values).2 read)
    obtain ⟨e'', failed⟩ := load_of_unreadable (held.trans unread)
    rw [failed, checkFile, parsed]
    refine ⟨fun passes => ?_, nofun⟩
    exact absurd rfl (passes ⟨file, .root, .unparsed e⟩ (List.mem_singleton_self _))
  | ok values =>
    have read := held.trans ((same values).1 parsed)
    have checked : Passes (checkSchema disk base file values) ↔ _ := checkSchema_iff
    rw [← compileValues_iff_load read (ne_nil_of_parseFile parsed filled), ← systemFor_open opened,
      ← checked, checkFile, parsed]
    exact passes_append.trans ⟨And.right, fun passes => ⟨passes_checkTopLevel, passes⟩⟩

/-! ## A file that imports itself -/

/-- `schema_header::{ imports: [{ id: "a.isl" }] }` -/
def selfElement : Element :=
  ⟨["schema_header"], .struct [⟨"imports", .list [.struct [⟨"id", .string "a.isl"⟩]]⟩]⟩

def selfText : String := String.ofList (Ion.elementChars selfElement)

def selfDocument : SchemaDocument := ⟨none, .v1, [.header ⟨[.wildcard "a.isl"], .none, []⟩]⟩

def selfDisk : Disk := ⟨[(["a.isl"], .file selfText.toUTF8)], []⟩

def selfDirectory : DirectoryAuthority := ⟨selfDisk, []⟩

theorem parse_self : Ion.parse selfText = .ok [selfElement] := by
  refine Ion.parse_of_laid (.one selfElement) ?_ ?_ (Element.rereadAll?_self _ ?_)
  · simp [selfElement, Element.list, Element.struct, Element.string, Element.ofValue,
      Element.height, Value.height, Element.heightAll, Field.heightAll, Ion.defaultDepth]
  · simp [selfElement, Element.list, Element.struct, Element.string, Element.ofValue,
      Element.scalars, Value.scalars, Element.scalarsAll, Field.scalarsAll, Value.Legible]
  · simp [selfElement, Element.list, Element.struct, Element.string, Element.ofValue,
      Element.scalars, Value.scalars, Element.scalarsAll, Field.scalarsAll, Value.Survives]

theorem found_self :
    selfDirectory.disk.find? (selfDirectory.base ++ ["a.isl"]) = some (.file selfText.toUTF8) := rfl

theorem tree_self : selfDisk.Tree :=
  Disk.tree_singleton ⟨by decide, by decide, by decide, by decide, by decide⟩ _ _

theorem locate_self : selfDisk.locate "a.isl" = .ok ["a.isl"] := by
  have relative : FilePath.isAbsolute "a.isl" = false := by
    simp [FilePath.isAbsolute, String.startsWith_string_iff, Bool.eq_false_iff]
  rw [Disk.locate_relative (by decide) (by decide) (by decide) relative]
  exact tree_self.walk_names false Disk.linkLimit found_self

theorem open_self : DirectoryAuthority.open? selfDisk "." = .ok selfDirectory := by
  have relative : FilePath.isAbsolute "." = false := by
    simp [FilePath.isAbsolute, String.startsWith_string_iff, Bool.eq_false_iff]
  have steps : FilePath.steps "." = ["."] := rfl
  have located : selfDisk.locate "." = .ok [] := by
    rw [Disk.locate_relative (by decide) (by decide) (by decide) relative, steps]
    simp [Disk.walk, selfDisk]
  simp [DirectoryAuthority.open?, located, Disk.find?, selfDirectory]

theorem textAt_self : selfDisk.textAt ["a.isl"] = .ok selfText := by
  have decoded : String.fromUTF8? selfText.toUTF8 = some selfText :=
    dif_pos selfText.isValidUTF8
  have found : selfDisk.find? ["a.isl"] = some (.file selfText.toUTF8) := found_self
  simp only [Disk.textAt, found, Disk.decodeText, decoded]

theorem document_self :
    (System.ofAuthorities [.directory selfDirectory]).library.document "a.isl" =
      .ok (selfDocument.withId "a.isl") := by
  have held : (Authority.directory selfDirectory).values "a.isl" = .ok [selfElement] := by
    refine (DirectoryAuthority.values_ofNames tree_self found_self (by simp)).trans ?_
    simp [DirectoryAuthority.valuesAt, selfDirectory, textAt_self, parse_self, Except.mapError]
  have read : Settings.standard.read [selfElement] = .ok selfDocument := rfl
  rw [document_of_values held (by simp), read]
  rfl

/-- The import is refused when the file is loaded, so the linter reports an error. -/
theorem checkFile_iff_load_self : ∃ x ∈ checkFile selfDisk "." "a.isl", x.severity = .error := by
  have filled : ∀ source, selfDisk.readText "a.isl" = .ok source → Ion.parse source ≠ .ok [] := by
    intro source text
    have same : selfDisk.readText "a.isl" = .ok selfText := by
      simpa [Disk.readText, locate_self, bind, Except.bind] using textAt_self
    obtain rfl := Except.ok.inj (same.symm.trans text)
    simp [parse_self]
  have linted := checkFile_iff_load tree_self open_self found_self locate_self filled
  by_contra silent
  obtain ⟨⟨σ, members⟩, ended⟩ := (System.load_ok_iff Cache.idle_empty rfl document_self).1
    (linted.1 (by simpa using silent))
  obtain ⟨world, gathered, compiles⟩ := System.attempt_eq_ok_iff.1 ended
  have alone : Universe.gather (System.ofAuthorities [.directory selfDirectory]).library
      Cache.empty.get? (selfDocument.withId "a.isl") =
        .ok (.ofRoot (selfDocument.withId "a.isl")) :=
    Universe.gather_eq (.seen rfl (.done _))
  obtain rfl := Except.ok.inj (alone.symm.trans gathered)
  obtain ⟨-, ran⟩ := System.compile_eq_ok_iff.1 compiles
  cases ran

end Lint
end Isl
