import Isl.Model.Document
/-!
# What documents mention

The type names and imports in a document, at any depth: once in the order of the text, and once the
ids of schemas alone in the order in which a load looks at them.
-/
namespace Isl

inductive Mention where
  /-- A type by a name that has to be known in the document. -/
  | name (name : String)
  /-- A type of another schema. -/
  | imported (schemaId typeName : String)
deriving DecidableEq, Repr

/-! ## In the order of the text -/

mutual

def TypeArgument.mentions : TypeArgument → List Mention
  | .reference name _ => [.name name]
  | .imported schemaId typeName _ => [.imported schemaId typeName]
  | .inline definition _ => definition.mentions

def TypeDefinition.mentions : TypeDefinition → List Mention
  | ⟨constraints, _⟩ => Constraint.mentionsAll constraints

def Constraint.mentionsAll : List Constraint → List Mention
  | [] => []
  | c :: cs => c.mentions ++ Constraint.mentionsAll cs

def Constraint.mentions : Constraint → List Mention
  | .allOf as | .anyOf as | .oneOf as => TypeArgument.mentionsAll as
  | .type a | .not a | .element a _ | .fieldNames a _ | .annotationType a => a.mentions
  | .fields fs _ => FieldArgument.mentionsAll fs
  | .orderedElements os => OccurringArgument.mentionsAll os
  | _ => []

def TypeArgument.mentionsAll : List TypeArgument → List Mention
  | [] => []
  | a :: as => a.mentions ++ TypeArgument.mentionsAll as

def OccurringArgument.mentions : OccurringArgument → List Mention
  | ⟨_, a⟩ => a.mentions

def OccurringArgument.mentionsAll : List OccurringArgument → List Mention
  | [] => []
  | o :: os => o.mentions ++ OccurringArgument.mentionsAll os

def FieldArgument.mentions : FieldArgument → List Mention
  | ⟨_, o⟩ => o.mentions

def FieldArgument.mentionsAll : List FieldArgument → List Mention
  | [] => []
  | f :: fs => f.mentions ++ FieldArgument.mentionsAll fs

end

def SchemaDocument.mentions (d : SchemaDocument) : List Mention :=
  d.types.flatMap (·.definition.mentions)

/-! ## Ids of schemas

A definition gives its own imports first; the types within it follow, the last one first. -/

/-- The schema that an argument imports from, unless it lies deeper. -/
def TypeArgument.importId? : TypeArgument → Option String
  | .imported schemaId _ _ => some schemaId
  | _ => none

mutual

def TypeArgument.deepImportIds : TypeArgument → List String
  | .inline definition _ => definition.importIds
  | _ => []

def TypeDefinition.importIds : TypeDefinition → List String
  | ⟨constraints, _⟩ =>
    constraints.flatMap (fun c => c.arguments.filterMap TypeArgument.importId?) ++
      Constraint.deepImportIdsAll constraints

def Constraint.deepImportIdsAll : List Constraint → List String
  | [] => []
  | c :: cs => Constraint.deepImportIdsAll cs ++ c.deepImportIds

def Constraint.deepImportIds : Constraint → List String
  | .allOf as | .anyOf as | .oneOf as => TypeArgument.deepImportIdsAll as
  | .type a | .not a | .element a _ | .fieldNames a _ | .annotationType a => a.deepImportIds
  | .fields fs _ => FieldArgument.deepImportIdsAll fs
  | .orderedElements os => OccurringArgument.deepImportIdsAll os
  | _ => []

def TypeArgument.deepImportIdsAll : List TypeArgument → List String
  | [] => []
  | a :: as => TypeArgument.deepImportIdsAll as ++ a.deepImportIds

def OccurringArgument.deepImportIds : OccurringArgument → List String
  | ⟨_, a⟩ => a.deepImportIds

def OccurringArgument.deepImportIdsAll : List OccurringArgument → List String
  | [] => []
  | o :: os => OccurringArgument.deepImportIdsAll os ++ o.deepImportIds

def FieldArgument.deepImportIds : FieldArgument → List String
  | ⟨_, o⟩ => o.deepImportIds

def FieldArgument.deepImportIdsAll : List FieldArgument → List String
  | [] => []
  | f :: fs => FieldArgument.deepImportIdsAll fs ++ f.deepImportIds

end

/-- The ids of the schemas that a document imports, those of its header first. -/
def SchemaDocument.importIds (d : SchemaDocument) : List String :=
  d.imports.map (·.schemaId) ++ d.types.reverse.flatMap (·.definition.importIds)

theorem SchemaDocument.importIds_withId (d : SchemaDocument) (id : String) :
    (d.withId id).importIds = d.importIds := rfl

end Isl
