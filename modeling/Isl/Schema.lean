import Isl.Model.Document
/-!
# Compiled schemas

A document whose imports have been found and whose references all lead to a type, with the names
that its imports bind.
-/
namespace Isl

/-- What a schema takes from another one. -/
structure SchemaImport where
  /-- Every declared type of the other schema is visible. -/
  wildcard : Bool
  /-- Single types: local name to name there. -/
  types : Table String

def SchemaImport.none : SchemaImport := ⟨false, .empty⟩

/-- A declaration, and the id of the schema that it is in. -/
structure ImportedType where
  schemaId : String
  declaration : NamedType
deriving Inhabited

/-- Where a name that a schema knows is declared. -/
structure Origin where
  schemaId : String
  declaration : NamedType
  /-- Another schema declares it. -/
  transitive : Bool
deriving Inhabited

inductive Visibility where
  | declared (definition : TypeDefinition)
  /-- Through an import. -/
  | transitive (definition : TypeDefinition)
  | notVisible

def Visibility.isVisible : Visibility → Bool
  | notVisible => false
  | _ => true

def SchemaDocument.declared? (d : SchemaDocument) (name : String) : Option NamedType :=
  d.types.find? (·.name == name)

structure Schema where
  document : SchemaDocument
  imports : Table SchemaImport
  /-- The names that imports bind. -/
  inScope : Table ImportedType

namespace Schema

/-- Nothing for a schema that no authority was asked for. -/
def id? (s : Schema) : Option String := s.document.id

def version (s : Schema) : IslVersion := s.document.version

def types (s : Schema) : List NamedType := s.document.types

/-- A type that the schema declares. -/
def declared? (s : Schema) (name : String) : Option NamedType := s.document.declared? name

/-- Where the type is declared that the schema knows by this name. -/
def origin? (s : Schema) (name : String) : Option Origin :=
  match s.declared? name with
  | some t => some ⟨s.id?.getD "", t, false⟩
  | none => (s.inScope.find? name).map fun i => ⟨i.schemaId, i.declaration, true⟩

/-- The type that the schema declares or imports under this name. -/
def resolve? (s : Schema) (name : String) : Option TypeDefinition :=
  (s.origin? name).map (·.declaration.definition)

def visibility (s : Schema) (name : String) : Visibility :=
  match s.origin? name with
  | some o =>
    if o.transitive then .transitive o.declaration.definition
    else .declared o.declaration.definition
  | none => .notVisible

def findImport? (s : Schema) (id : String) : Option SchemaImport := s.imports.find? id

end Schema
end Isl
