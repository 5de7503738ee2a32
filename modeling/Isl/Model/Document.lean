import Isl.Model.Type
import Isl.Version
/-!
# Schema documents

The items of a document in order: at most one header with the imports, named types, at most one
footer, and whatever else was there.
-/
namespace Isl

inductive HeaderImport where
  /-- Every type that the schema declares. -/
  | wildcard (id : String)
  /-- One type, under a new name if there is one. -/
  | single (id typeName : String) (newName : Option String)
deriving DecidableEq, Repr

namespace HeaderImport

def schemaId : HeaderImport → String
  | wildcard id | single id _ _ => id

/-- The name that a single import goes by in the importing schema. -/
def localName? : HeaderImport → Option String
  | wildcard _ => none
  | single _ typeName newName => some (newName.getD typeName)

end HeaderImport

/-- Names that the author of a schema declares as open content, section by section. -/
structure ReservedFields where
  header : NameSet
  type : NameSet
  footer : NameSet
deriving DecidableEq, Repr

namespace ReservedFields

def none : ReservedFields := ⟨[], [], []⟩

instance : Inhabited ReservedFields := ⟨none⟩

def isEmpty (r : ReservedFields) : Bool := r.header.isEmpty && r.type.isEmpty && r.footer.isEmpty

end ReservedFields

structure SchemaHeader where
  imports : List HeaderImport
  reserved : ReservedFields
  openContent : List Field
deriving Inhabited

structure SchemaFooter where
  openContent : List Field
deriving Inhabited

structure NamedType where
  name : String
  definition : TypeDefinition
deriving Inhabited

inductive SchemaItem where
  | header (h : SchemaHeader)
  | type (t : NamedType)
  | footer (f : SchemaFooter)
  | openContent (e : Element)
deriving Inhabited

structure SchemaDocument where
  id : Option String
  version : IslVersion
  items : List SchemaItem
deriving Inhabited

namespace SchemaItem

def header? : SchemaItem → Option SchemaHeader
  | header h => some h
  | _ => none

def type? : SchemaItem → Option NamedType
  | type t => some t
  | _ => none

def footer? : SchemaItem → Option SchemaFooter
  | footer f => some f
  | _ => none

end SchemaItem

namespace SchemaDocument

def header? (d : SchemaDocument) : Option SchemaHeader := d.items.findSome? SchemaItem.header?

def footer? (d : SchemaDocument) : Option SchemaFooter := d.items.findSome? SchemaItem.footer?

def types (d : SchemaDocument) : List NamedType := d.items.filterMap SchemaItem.type?

def imports (d : SchemaDocument) : List HeaderImport := (d.header?.map (·.imports)).getD []

def withId (d : SchemaDocument) (id : String) : SchemaDocument := { d with id := some id }

end SchemaDocument

/-! ## Equality -/

def SchemaHeader.same (h k : SchemaHeader) : Bool :=
  h.imports == k.imports && h.reserved == k.reserved &&
    Bag.sameItems Field.same h.openContent k.openContent

def SchemaFooter.same (f g : SchemaFooter) : Bool :=
  Bag.sameItems Field.same f.openContent g.openContent

def NamedType.same (s t : NamedType) : Bool := s.name == t.name && s.definition.same t.definition

def SchemaItem.same : SchemaItem → SchemaItem → Bool
  | header h, header k => h.same k
  | type s, type t => s.same t
  | footer f, footer g => f.same g
  | openContent e, openContent f => e.same f
  | _, _ => false

def SchemaItem.sameAll : List SchemaItem → List SchemaItem → Bool
  | [], [] => true
  | a :: as, b :: bs => a.same b && sameAll as bs
  | _, _ => false

def SchemaDocument.same (d e : SchemaDocument) : Bool :=
  d.id == e.id && d.version == e.version && SchemaItem.sameAll d.items e.items

instance : BEq SchemaHeader := ⟨SchemaHeader.same⟩
instance : BEq SchemaFooter := ⟨SchemaFooter.same⟩
instance : BEq NamedType := ⟨NamedType.same⟩
instance : BEq SchemaDocument := ⟨SchemaDocument.same⟩

end Isl
