import Isl.Lint.Diagnostic
import Isl.System
/-!
# Linting

Every schema file below a directory is read and compiled on its own, with imports looked up below
the directory, or beside the file if a single one is linted.
-/
namespace Isl.Lint

def isSchemaFile (name : String) : Bool := FilePath.extension? name == some "isl"

/-- The schema files below a directory, by the names that lead to them. Links to directories are
followed as long as the system follows them. -/
def collect (disk : Disk) (fuel : Nat) (path : String) (place : List String) : List (List String) :=
  match fuel with
  | 0 => []
  | fuel + 1 =>
    (disk.namesIn place).flatMap fun name =>
      let inner := FilePath.join path name
      match disk.locate inner with
      | .ok target =>
        match disk.find? target with
        | some .directory => (collect disk fuel inner target).map (name :: ·)
        | _ => if isSchemaFile name then [[name]] else []
      | .error _ => if isSchemaFile name then [[name]] else []

/-- No path is longer: it goes down at most once for each item between two links. -/
def collectLimit (disk : Disk) : Nat := (disk.items.length + 1) * (Disk.linkLimit + 1)

def compareNames : List String → List String → Ordering
  | [], [] => .eq
  | [], _ :: _ => .lt
  | _ :: _, [] => .gt
  | a :: as, b :: bs => (compare a b).then (compareNames as bs)

/-- A file to be linted: its path, and its path from the base. -/
structure Target where
  path : String
  relative : String

def targets (disk : Disk) (path : String) : List Target :=
  if disk.isFile path then
    let name := FilePath.name path
    if isSchemaFile name then [⟨path, name⟩] else []
  else
    match disk.locate path with
    | .error _ => []
    | .ok place =>
      let found := (collect disk (collectLimit disk) path place).mergeSort
        fun p q => compareNames p q != .gt
      found.map fun names => ⟨FilePath.join path (FilePath.ofNames names), FilePath.ofNames names⟩

/-- Where the imports of what is linted are looked up. -/
def base (disk : Disk) (path : String) : String :=
  if disk.isDirectory path then path else FilePath.parent path

/-- Whether a reader looks at a top-level value: a version marker, or a struct that is annotated as
a header, a type or a footer and nothing else. -/
def isSchemaItem (e : Element) : Bool :=
  match e.symbol? with
  | some s => IslVersion.isMarkerLike s
  | none =>
    e.struct?.isSome &&
      [["type"], ["schema_header"], ["schema_footer"]].contains e.annotations

def hasMarker (values : List Element) : Bool :=
  values.any fun e => (e.symbol?.bind IslVersion.ofMarker?).isSome

def ignoredFrom (file : String) (i : Nat) : List Element → List Diagnostic
  | [] => []
  | e :: es =>
    (if isSchemaItem e then [] else [⟨file, TreePath.root.index i, .ignored e⟩]) ++
      ignoredFrom file (i + 1) es

def checkTopLevel (file : String) (values : List Element) : List Diagnostic :=
  (if hasMarker values then [] else [⟨file, .root, .noMarker⟩]) ++ ignoredFrom file 0 values

/-- A system that looks imports up below a directory, if it is one. -/
def systemFor (disk : Disk) (base : String) : System :=
  match DirectoryAuthority.open? disk base with
  | .ok d => .ofAuthorities [.directory d]
  | .error _ => .ofAuthorities []

def checkSchema (disk : Disk) (base file : String) (values : List Element) : List Diagnostic :=
  match ((systemFor disk base).compileValues values).2 with
  | .ok schema => if schema.types.isEmpty then [⟨file, .root, .noTypes⟩] else []
  | .error (.invalidIsl errors) => errors.map fun e => ⟨file, e.path, .misread e.fault⟩
  | .error e => [⟨file, .root, .uncompiled e⟩]

def parseFile (disk : Disk) (file : String) : Except SchemaError (List Element) :=
  match disk.readText file with
  | .error fault => .error (.unreadable file fault)
  | .ok source => (Ion.parse source).mapError .malformedText

def checkFile (disk : Disk) (base file : String) : List Diagnostic :=
  match parseFile disk file with
  | .error e => [⟨file, .root, .unparsed e⟩]
  | .ok values => checkTopLevel file values ++ checkSchema disk base file values

end Lint

/-- Lints a file, or all schema files below a directory. -/
def lint (disk : Disk) (path : String) (strict : Bool) : LintReport :=
  let base := Lint.base disk path
  ⟨path, strict, (Lint.targets disk path).map fun t =>
    ⟨t.relative, Lint.checkFile disk base t.path⟩⟩

end Isl
