import Isl.Reader.Leaf
/-!
# Reading types

A type definition is read field by field: constraints, open content, and in version 1.0 the note
that its content is closed. Each constraint, each listed argument and each field is a step of its
own, so one that is invalid does not hide the faults of the others.
-/
namespace Isl.Reader

/-- What the fields of a definition amount to. -/
structure Parts where
  constraints : List Constraint
  openContent : List Field
  contentClosed : Bool

namespace Parts

def empty : Parts := ⟨[], [], false⟩

def append (p q : Parts) : Parts :=
  ⟨p.constraints ++ q.constraints, p.openContent ++ q.openContent,
    p.contentClosed || q.contentClosed⟩

/-- Closes the first `fields` constraint, or adds an empty one that is closed. -/
def closeFields : List Constraint → List Constraint
  | [] => [.fields [] true]
  | .fields fs _ :: cs => .fields fs true :: cs
  | c :: cs => c :: closeFields cs

def definition (p : Parts) : TypeDefinition :=
  ⟨if p.contentClosed then closeFields p.constraints else p.constraints, p.openContent⟩

end Parts

/-- The annotation that marks a type argument as nullable, and what it means. -/
def nullMarker : IslVersion → String × Nullability
  | .v1 => ("nullable", .nullable)
  | .v2 => ("$null_or", .orNull)

def nullabilityOf (version : IslVersion) (e : Element) : Nullability :=
  if e.isAnnotated (nullMarker version).1 then (nullMarker version).2 else .unmarked

/-- `{ id: …, type: … }` -/
def inlineImport (version : IslVersion) (e : Element) (fs : List Field) : Check TypeArgument := do
  require (fs.all fun f => f.name == "id" || f.name == "type") (.inlineImportFields e)
  let id ← requiredField fs "id" .text e
  let typeName ← requiredField fs "type" .symbol e
  .ok (.imported (textOf id) (textOf typeName) (nullabilityOf version e))

def contentClosed (e : Element) : Check Unit :=
  require (e.symbol? == some "closed" && e.annotations.isEmpty) (.contentNotClosed e)

/-- The names that occur again after their first time. -/
def duplicates (names : List String) : List String :=
  (names.foldl (fun (seen, again) name =>
    if seen.contains name then (seen, name :: again) else (name :: seen, again))
    (([] : List String), ([] : List String))).2.reverse

/-- Checks what holds of a `fields` argument as a whole. -/
def fieldsShape (version : IslVersion) (e : Element) (fs : List Field) : Check Unit := do
  match version with
  | .v1 => if !e.annotations.isEmpty then badArgument "fields" .annotated e
  | .v2 =>
    if !onlyAnnotated e ["closed"] then badArgument "fields" .notClosed e
    if fs.isEmpty then badArgument "fields" .emptyStruct e
  let again := duplicates (fs.map (·.name))
  if !again.isEmpty then badArgument "fields" (.duplicateFields again) e

/-- The single `occurs` of an argument, with the checks that go before the rest of it. -/
def occursOf (e : Element) (fs : List Field) : Check IntRange := do
  require e.annotations.isEmpty (.occurringAnnotated e)
  let occurs ← match Field.getAll fs "occurs" with
    | [occurs] => occursRange occurs
    | _ => .error (.occursRepeated e)
  require (!Field.has fs "name") (.inlineName e)
  .ok occurs

/-- The annotations that are left for the argument once `distinct` is taken off. -/
def withoutDistinct (version : IslVersion) (names : List String) : List String :=
  match version with
  | .v1 => names
  | .v2 => names.filter (· != "distinct")

def distinctShape (version : IslVersion) (name : String) (e : Element) : Check Unit :=
  match version with
  | .v1 => .ok ()
  | .v2 =>
    if onlyAnnotated e ["distinct", "$null_or"] then .ok () else badArgument name .notDistinct e

def isDistinct (version : IslVersion) (names : List String) : Bool :=
  version == .v2 && names.contains "distinct"

/-- Puts an argument in its place among those sorted by name. -/
def insertField (f : FieldArgument) : List FieldArgument → List FieldArgument
  | [] => [f]
  | g :: gs =>
    match compare f.name g.name with
    | .gt => g :: insertField f gs
    | .eq => f :: gs
    | .lt => f :: g :: gs

def sortFields (fs : List FieldArgument) : List FieldArgument :=
  fs.foldl (fun sorted f => insertField f sorted) []

mutual

/-- A name, an import or a type in place, under these annotations. -/
def typeArgument (ctx : Context) (path : TreePath) (names : List String) :
    Value → Read TypeArgument
  | .struct fs => do
    let e : Element := ⟨names, .struct fs⟩
    lift (require (onlyAnnotated e [(nullMarker ctx.version).1]) (.markedArgument e))
    if Field.has fs "id" then lift (inlineImport ctx.version e fs)
    else
      lift (require (!Field.has fs "name") (.inlineName e))
      lift (require (!Field.has fs "occurs") (.inlineOccurs e))
      let parts ← definitionParts ctx path fs
      pure (.inline parts.definition (nullabilityOf ctx.version e))
  | v => do
    let e : Element := ⟨names, v⟩
    lift (require (onlyAnnotated e [(nullMarker ctx.version).1]) (.markedArgument e))
    match e.symbol? with
    | some name => pure (.reference name (nullabilityOf ctx.version e))
    | none => invalid (.notArgument e)

/-- Reads every field of a definition but `name` and `occurs`, which are checked elsewhere. -/
def definitionParts (ctx : Context) (path : TreePath) : List Field → Read Parts
  | [] => pure .empty
  | f :: fs => do
    let first ← definitionField ctx path f
    let rest ← definitionParts ctx path fs
    pure (first.append rest)

def definitionField (ctx : Context) (path : TreePath) : Field → Read Parts
  | ⟨name, e⟩ =>
    if name == "name" || name == "occurs" then pure .empty
    else if name == "content" && ctx.version == .v1 then do
      let closed ← catching ctx (path.field name) (lift (contentClosed e))
      pure { Parts.empty with contentClosed := closed.isSome }
    else if ctx.vocabulary.isConstraint name then do
      let constraint ← catching ctx (path.field name) (constraintOf ctx (path.field name) name e)
      pure { Parts.empty with constraints := constraint.toList }
    else if ctx.vocabulary.isReserved name && !ctx.declared.type.contains name then do
      report ctx (path.field name) (.unexpectedField name)
      pure .empty
    else pure { Parts.empty with openContent := [⟨name, e⟩] }

/-- The constraint under a name. -/
def constraintOf (ctx : Context) (path : TreePath) (name : String) : Element → Read Constraint
  | ⟨names, v⟩ =>
    let e : Element := ⟨names, v⟩
    match leaf? ctx.version name with
    | some read => lift (read e)
    | none =>
      match name with
      | "all_of" => do return .allOf (← listedArguments ctx path name names v)
      | "any_of" => do return .anyOf (← listedArguments ctx path name names v)
      | "one_of" => do return .oneOf (← listedArguments ctx path name names v)
      | "type" => do return .type (← typeArgument ctx path names v)
      | "not" => do return .not (← typeArgument ctx path names v)
      | "element" => do
        lift (distinctShape ctx.version name e)
        let argument ← typeArgument ctx path (withoutDistinct ctx.version names) v
        return .element argument (isDistinct ctx.version names)
      | "field_names" => do
        lift (distinctShape ctx.version name e)
        let argument ← typeArgument ctx path (withoutDistinct ctx.version names) v
        return .fieldNames argument (isDistinct ctx.version names)
      | "fields" => do
        let fields ← fieldArguments ctx path names v
        return .fields (sortFields fields) (e.isAnnotated "closed")
      | "ordered_elements" => do return .orderedElements (← orderedElements ctx path names v)
      | "annotations" =>
        match ctx.version, v.type with
        | .v1, _ => lift (annotationList e)
        | .v2, .list => lift (annotationSet e)
        | .v2, .struct | .v2, .symbol => do
          return .annotationType (← typeArgument ctx path names v)
        | .v2, _ => lift (badArgument name .notAnnotations e)
      | _ => invalid (.unknownConstraint name)

def listedArguments (ctx : Context) (path : TreePath) (name : String) (names : List String) :
    Value → Read (List TypeArgument)
  | .list items => do
    let _ ← lift (plainList name ⟨names, .list items⟩)
    argumentsFrom ctx path 0 items
  | v => lift (badArgument name .notList ⟨names, v⟩)

/-- Reads each item as a type argument, from this position on. -/
def argumentsFrom (ctx : Context) (path : TreePath) (i : Nat) :
    List Element → Read (List TypeArgument)
  | [] => pure []
  | ⟨names, v⟩ :: es => do
    let first ← catching ctx (path.index i) (typeArgument ctx (path.index i) names v)
    let rest ← argumentsFrom ctx path (i + 1) es
    pure (first.toList ++ rest)

def fieldArguments (ctx : Context) (path : TreePath) (names : List String) :
    Value → Read (List FieldArgument)
  | .struct fs => do
    lift (fieldsShape ctx.version ⟨names, .struct fs⟩ fs)
    fieldArgumentsFrom ctx path fs
  | v => lift (badArgument "fields" .notStruct ⟨names, v⟩)

def fieldArgumentsFrom (ctx : Context) (path : TreePath) : List Field → Read (List FieldArgument)
  | [] => pure []
  | ⟨name, e⟩ :: fs => do
    let first ← catching ctx (path.field name)
      (occurringArgument ctx (path.field name) .optional e)
    let rest ← fieldArgumentsFrom ctx path fs
    pure (first.toList.map (⟨name, ·⟩) ++ rest)

def orderedElements (ctx : Context) (path : TreePath) (names : List String) :
    Value → Read (List OccurringArgument)
  | .list items => do
    let _ ← lift (plainList "ordered_elements" ⟨names, .list items⟩)
    orderedElementsFrom ctx path 0 items
  | v => lift (badArgument "ordered_elements" .notList ⟨names, v⟩)

def orderedElementsFrom (ctx : Context) (path : TreePath) (i : Nat) :
    List Element → Read (List OccurringArgument)
  | [] => pure []
  | e :: es => do
    let first ← catching ctx (path.index i) (occurringArgument ctx (path.index i) .required e)
    let rest ← orderedElementsFrom ctx path (i + 1) es
    pure (first.toList ++ rest)

/-- A type argument that may say how often it occurs. -/
def occurringArgument (ctx : Context) (path : TreePath) (byDefault : IntRange) :
    Element → Read OccurringArgument
  | ⟨names, v⟩ =>
    if Field.has (Element.struct? ⟨names, v⟩ |>.getD []) "occurs" then
      occurringDefinition ctx path names v
    else do return ⟨byDefault, ← typeArgument ctx path names v⟩

/-- A type in place that says how often it occurs. It takes no annotations. -/
def occurringDefinition (ctx : Context) (path : TreePath) (names : List String) :
    Value → Read OccurringArgument
  | .struct fs => do
    let occurs ← lift (occursOf ⟨names, .struct fs⟩ fs)
    let parts ← definitionParts ctx path fs
    pure ⟨occurs, .inline parts.definition .unmarked⟩
  | v => invalid (.notArgument ⟨names, v⟩)

end

/-- Reads the fields of a definition. -/
def typeDefinition (ctx : Context) (path : TreePath) (fs : List Field) : Read TypeDefinition := do
  let parts ← definitionParts ctx path fs
  pure parts.definition

/-- `type::{ name: …, … }` -/
def namedType (ctx : Context) (path : TreePath) (e : Element) : Read NamedType := do
  match e.struct? with
  | none => invalid (.namedNotStruct e)
  | some fs =>
    lift (require (e.annotations == ["type"]) (.namedAnnotations e))
    lift (require (!Field.has fs "occurs") (.namedOccurs e))
    let name ← lift (requiredField fs "name" .symbol e)
    let definition ← typeDefinition ctx path fs
    pure ⟨textOf name, definition⟩

/-- A definition without a name. -/
def anonymousType (ctx : Context) (path : TreePath) (e : Element) : Read TypeDefinition := do
  match e.struct? with
  | none => invalid (.typeNotStruct e)
  | some fs =>
    lift (require (!Field.has fs "name") (.typeName e))
    lift (require (!Field.has fs "occurs") (.typeOccurs e))
    typeDefinition ctx path fs

end Isl.Reader
