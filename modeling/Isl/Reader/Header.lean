import Isl.Reader.Basic
/-!
# Reading headers and footers

A header lists imports and, in version 2.0, declares which reserved words its document uses as open
content. What it declares is in force as soon as it is read, even if the header itself is then
refused for a field of its own.
-/
namespace Isl.Reader

def headerImport (vocabulary : Vocabulary) (e : Element) : Check HeaderImport := do
  match e.struct? with
  | none => .error (.importNotStruct e)
  | some fs =>
    require (fs.all fun f => vocabulary.isImportKeyword f.name) (.importFields e)
    require e.annotations.isEmpty (.importAnnotated e)
    let id ← requiredField fs "id" .text e
    let typeName ← optionalField fs "type" .symbol
    let newName ← optionalField fs "as" .symbol
    match typeName, newName with
    | none, none => .ok (.wildcard (textOf id))
    | none, some _ => .error (.aliasWithoutType e)
    | some typeName, newName => .ok (.single (textOf id) (textOf typeName) (newName.map textOf))

/-- Adds one word to a list of declared words. -/
def reservedWord (name : String) (isKeyword : String → Bool) (list : Element) (words : NameSet)
    (item : Element) : Check NameSet :=
  match item.symbol? with
  | some word =>
    if !item.annotations.isEmpty then .error (.reservedWords name list)
    else if isKeyword word then .error (.reservedKeyword word)
    else .ok (words.insert word)
  | none => .error (.reservedWords name list)

def reservedList (fs : List Field) (name : String) (isKeyword : String → Bool) : Check NameSet := do
  match ← optionalField fs name .list with
  | none => .ok []
  | some list => (list.list?.getD []).foldlM (reservedWord name isKeyword list) []

def reservedFields (vocabulary : Vocabulary) (header : List Field) : Check ReservedFields := do
  match ← optionalField header "user_reserved_fields" .struct with
  | none => .ok .none
  | some e =>
    let fs := e.struct?.getD []
    require (fs.all fun f => ["schema_header", "type", "schema_footer"].contains f.name)
      (.reservedSections e)
    require e.annotations.isEmpty .reservedAnnotated
    let header ← reservedList fs "schema_header" vocabulary.isHeaderKeyword
    let type ← reservedList fs "type" vocabulary.isTypeKeyword
    let footer ← reservedList fs "schema_footer" vocabulary.isFooterKeyword
    .ok ⟨header, type, footer⟩

/-- A header whose own open content is not checked yet. -/
structure HeaderDraft where
  value : Element
  fields : List Field
  imports : List HeaderImport
  reserved : ReservedFields

/-- Reads each import as a step of its own, from this position on. -/
def importsFrom (ctx : Context) (path : TreePath) (i : Nat) :
    List Element → Read (List HeaderImport)
  | [] => pure []
  | e :: es => do
    let first ← catching ctx (path.index i) (lift (headerImport ctx.vocabulary e))
    let rest ← importsFrom ctx path (i + 1) es
    pure (first.toList ++ rest)

def headerImports (ctx : Context) (path : TreePath) (fs : List Field) :
    Read (List HeaderImport) := do
  match ← lift (optionalField fs "imports" .list) with
  | none => pure []
  | some e =>
    lift (require e.annotations.isEmpty .importsAnnotated)
    importsFrom ctx (path.field "imports") 0 (e.list?.getD [])

/-- Reads what a header imports and declares. -/
def headerDraft (ctx : Context) (path : TreePath) (e : Element) : Read HeaderDraft := do
  match e.struct? with
  | none => invalid (.headerNotStruct e)
  | some fs =>
    lift (require (e.annotations == ["schema_header"]) .headerAnnotations)
    let imports ← headerImports ctx path fs
    let reserved ←
      if ctx.vocabulary.declaresReserved then lift (reservedFields ctx.vocabulary fs)
      else pure .none
    pure ⟨e, fs, imports, reserved⟩

/-- Words that are reserved, neither keywords nor declared. -/
def undeclared (vocabulary : Vocabulary) (isKeyword : String → Bool) (declared : NameSet)
    (fs : List Field) : List String :=
  (fs.map (·.name)).filter fun name =>
    !isKeyword name && vocabulary.isReserved name && !declared.contains name

/-- Checks the open content of a header against what it declares itself. -/
def HeaderDraft.close (vocabulary : Vocabulary) (d : HeaderDraft) : Check SchemaHeader := do
  if vocabulary.declaresReserved then
    let unexpected := undeclared vocabulary vocabulary.isHeaderKeyword d.reserved.header d.fields
    require unexpected.isEmpty (.headerFields unexpected d.value)
  .ok ⟨d.imports, d.reserved, d.fields.filter fun f => !vocabulary.isHeaderKeyword f.name⟩

/-- `schema_header::{ … }` -/
def header (ctx : Context) (path : TreePath) (e : Element) : Read SchemaHeader := do
  let draft ← headerDraft ctx path e
  lift (draft.close ctx.vocabulary)

/-- `schema_footer::{ … }` -/
def footer (ctx : Context) (e : Element) : Check SchemaFooter := do
  match e.struct? with
  | none => .error (.footerNotStruct e)
  | some fs =>
    require (e.annotations == ["schema_footer"]) .footerAnnotations
    let illegal := undeclared ctx.vocabulary ctx.vocabulary.isFooterKeyword ctx.declared.footer fs
    require illegal.isEmpty (.footerFields illegal e)
    .ok ⟨fs⟩

end Isl.Reader
