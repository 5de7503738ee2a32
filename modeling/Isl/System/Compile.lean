import Isl.System.Universe
import Isl.Vocabulary
/-!
# Compiling a schema

A document becomes a schema when its types have distinct names, its header and footer go together,
its imports bind their names without a clash, and every name it mentions leads to a type.
-/
namespace Isl

/-- A schema to be compiled, and what it is compiled against. -/
structure Compilation where
  world : Universe
  document : SchemaDocument
  vocabulary : Vocabulary
  /-- Types may be imported from a schema that only imports them itself. -/
  allowTransitive : Bool

/-- What the imports of a schema have bound so far. -/
structure Bindings where
  imports : Table SchemaImport
  inScope : Table ImportedType

namespace Bindings

def empty : Bindings := ⟨.empty, .empty⟩

/-- Records an import of a schema. -/
def recordImport (b : Bindings) (schemaId : String) (f : SchemaImport → SchemaImport) : Bindings :=
  { b with imports := b.imports.insert schemaId (f ((b.imports.find? schemaId).getD .none)) }

end Bindings

namespace Compilation

def declares (c : Compilation) (name : String) : Bool := (c.document.declared? name).isSome

/-- The first name that was there before. -/
def repeatedAfter (before : List String) : List String → Option String
  | [] => none
  | n :: ns => if n ∈ before then some n else repeatedAfter (before ++ [n]) ns

def checkDeclarations (c : Compilation) : Except SchemaError Unit :=
  match repeatedAfter [] (c.document.types.map (·.name)) with
  | some name => .error (.duplicateType name)
  | none => .ok ()

/-- In version 2.0, a header asks for a footer and a footer for a header. -/
def checkEnds (c : Compilation) : Except SchemaError Unit :=
  match c.document.version, c.document.header?, c.document.footer? with
  | .v2, some _, none => .error (.invalidSchema .headerWithoutFooter)
  | .v2, none, some _ => .error (.invalidSchema .footerWithoutHeader)
  | _, _, _ => .ok ()

def checkNotSelf (c : Compilation) (schemaId : String) : Except SchemaError Unit :=
  if c.document.id = some schemaId then .error (.selfImport schemaId) else .ok ()

/-- The declaration that another schema makes available under a name. -/
def exported (c : Compilation) (schemaId typeName : String) : Except SchemaError Origin :=
  match c.world.origin? schemaId typeName with
  | none => .error (.typeNotFound schemaId typeName)
  | some origin =>
    if origin.transitive && !c.allowTransitive then .error (.transitiveImport schemaId typeName)
    else .ok origin

/-- Binds a name to a declaration. It may be bound to the same one again. -/
def bind (c : Compilation) (b : Bindings) (name : String) (target : ImportedType) :
    Except SchemaError Bindings :=
  if c.declares name then .error (.duplicateType name)
  else match b.inScope.find? name with
    | none => .ok { b with inScope := b.inScope.insert name target }
    | some first =>
      if first.schemaId = target.schemaId ∧ first.declaration.name = target.declaration.name then
        .ok b
      else .error (.duplicateImport name first.schemaId target.schemaId)

/-- Binds every type that another schema declares. -/
def bindAll (c : Compilation) (schemaId : String) (b : Bindings) :
    List NamedType → Except SchemaError Bindings
  | [] => .ok b
  | t :: ts => do c.bindAll schemaId (← c.bind b t.name ⟨schemaId, t⟩) ts

def importOne (c : Compilation) (b : Bindings) (i : HeaderImport) :
    Except SchemaError Bindings := do
  c.checkNotSelf i.schemaId
  match i with
  | .wildcard id =>
    let b ← c.bindAll id b (c.world.declaredTypes id)
    return b.recordImport id fun i => { i with wildcard := true }
  | .single id typeName newName =>
    let origin ← c.exported id typeName
    let name := newName.getD typeName
    let b ← c.bind b name ⟨origin.schemaId, origin.declaration⟩
    return b.recordImport id fun i => { i with types := i.types.insert name typeName }

def importAll (c : Compilation) (b : Bindings) : List HeaderImport → Except SchemaError Bindings
  | [] => .ok b
  | i :: is => do c.importAll (← c.importOne b i) is

/-- The first wildcard import, by id, that reaches a name through imports of its own. -/
def transitiveSource? (c : Compilation) (b : Bindings) (name : String) : Option String :=
  (b.imports.entries.find? fun i =>
    i.2.wildcard && (c.world.origin? i.1 name).any (·.transitive)).map (·.1)

def isKnown (c : Compilation) (b : Bindings) (name : String) : Bool :=
  c.vocabulary.isBuiltinType name || c.declares name || b.inScope.contains name

/-- Makes sure that a mention leads to a type, or notes the name as one that does not. -/
def checkMention (c : Compilation) (b : Bindings) (unresolved : NameSet) :
    Mention → Except SchemaError (Bindings × NameSet)
  | .name name => do
    if c.isKnown b name then return (b, unresolved)
    match c.transitiveSource? b name with
    | none => return (b, unresolved.insert name)
    | some schemaId =>
      let origin ← c.exported schemaId name
      return (← c.bind b name ⟨origin.schemaId, origin.declaration⟩, unresolved)
  | .imported schemaId typeName => do
    c.checkNotSelf schemaId
    let _ ← c.exported schemaId typeName
    return (b.recordImport schemaId id, unresolved)

def checkMentions (c : Compilation) (b : Bindings) (unresolved : NameSet) :
    List Mention → Except SchemaError (Bindings × NameSet)
  | [] => .ok (b, unresolved)
  | m :: ms => do
    let (b, unresolved) ← c.checkMention b unresolved m
    c.checkMentions b unresolved ms

def run (c : Compilation) : Except SchemaError Schema := do
  c.checkDeclarations
  c.checkEnds
  let b ← c.importAll .empty c.document.imports
  let (b, unresolved) ← c.checkMentions b [] c.document.mentions
  if unresolved.isEmpty then return ⟨c.document, b.imports, b.inScope⟩
  else throw (.unresolvedReferences unresolved)

end Compilation
end Isl
