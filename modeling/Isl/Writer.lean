import Isl.Ion.Printer
import Isl.Model.Document
/-!
# Writing schemas

The values that a document is read back from. What an argument would mean anyway is left out: the
occurrence that holds by default, sets of declared words that are empty. A range of one integer is
written as the integer.
-/
namespace Isl.Writer

def limitElement (unbounded : String) (bound : α → Element) : Limit α → Element
  | .unbounded => .symbol unbounded
  | .closed a => bound a
  | .opened a => (bound a).annotated ["exclusive"]

def rangeElement (bound : α → Element) (lower upper : Limit α) : Element :=
  (Element.list [limitElement "min" bound lower, limitElement "max" bound upper]).annotated
    ["range"]

/-- The bare integer stands for a range of one where `bare` allows it. -/
def intRangeElement (bare : Int64 → Bool) (r : IntRange) : Element :=
  let full := rangeElement (fun n : Int64 => .int n.toInt) r.lower r.upper
  match r.singleton? with
  | some n => if bare n then .int n.toInt else full
  | none => full

/-- Zero cannot be written bare: no argument occurs zero times. -/
def occursElement (r : IntRange) : Element := intRangeElement (0 < ·) r

def numberRangeElement (r : NumberRange) : Element :=
  rangeElement (fun d : Decimal => .ofValue (.decimal d)) r.lower r.upper

def instantRangeElement (r : InstantRange) : Element :=
  rangeElement (fun t : Timestamp => .ofValue (.timestamp t)) r.lower r.upper

def precisionRangeElement (r : PrecisionRange) : Element :=
  match r.singleton? with
  | some p => .symbol p.name
  | none => rangeElement (fun p : NamedPrecision => .symbol p.name) r.lower r.upper

def validValueElement : ValidValue → Element
  | .value e => e
  | .numbers r => numberRangeElement r
  | .instants r => instantRangeElement r

def listedElement (a : AnnotationEntry) : Element :=
  (Element.symbol a.text).annotated (if a.required then ["required"] else [])

/-- The words of the flags that are set. -/
def flags (settings : List (Bool × String)) : List String :=
  settings.filterMap fun (on, word) => if on then some word else none

def withMarker (n : Nullability) (e : Element) : Element :=
  match n.marker? with
  | some marker => e.annotated [marker]
  | none => e

def withDistinct (distinct : Bool) (e : Element) : Element :=
  if distinct then e.annotated ("distinct" :: e.annotations) else e

/-- The fields of a `fields` constraint. Version 1.0 states closed content beside it, and then
leaves out a constraint without fields. -/
def fieldsEntries (version : IslVersion) (members : List Field) (closed : Bool) : List Field :=
  match version, closed with
  | .v1, true =>
    ⟨"content", .symbol "closed"⟩ ::
      (if members.isEmpty then [] else [⟨"fields", .struct members⟩])
  | .v2, true => [⟨"fields", (Element.struct members).annotated ["closed"]⟩]
  | _, false => [⟨"fields", .struct members⟩]

mutual

def argumentElement (version : IslVersion) : TypeArgument → Element
  | .reference name n => withMarker n (.symbol name)
  | .imported id typeName n =>
    withMarker n (.struct [⟨"id", .string id⟩, ⟨"type", .symbol typeName⟩])
  | .inline d n => withMarker n (.struct (definitionFields version d))

def argumentElements (version : IslVersion) : List TypeArgument → List Element
  | [] => []
  | a :: as => argumentElement version a :: argumentElements version as

/-- The fields that a definition is written as. -/
def definitionFields (version : IslVersion) : TypeDefinition → List Field
  | ⟨constraints, content⟩ => constraintsFields version constraints ++ content

def constraintsFields (version : IslVersion) : List Constraint → List Field
  | [] => []
  | c :: cs => constraintFields version c ++ constraintsFields version cs

def constraintFields (version : IslVersion) : Constraint → List Field
  | .allOf as => [⟨"all_of", .list (argumentElements version as)⟩]
  | .anyOf as => [⟨"any_of", .list (argumentElements version as)⟩]
  | .oneOf as => [⟨"one_of", .list (argumentElements version as)⟩]
  | .type a => [⟨"type", argumentElement version a⟩]
  | .not a => [⟨"not", argumentElement version a⟩]
  | .element a distinct => [⟨"element", withDistinct distinct (argumentElement version a)⟩]
  | .fieldNames a distinct => [⟨"field_names", withDistinct distinct (argumentElement version a)⟩]
  | .fields fs closed => fieldsEntries version (memberFields version fs) closed
  | .orderedElements os => [⟨"ordered_elements", .list (occurringElements version os)⟩]
  | .annotationList as closed ordered =>
    [⟨"annotations", (Element.list (as.map listedElement)).annotated
      (flags [(ordered, "ordered"), (closed, "closed")])⟩]
  | .annotationSet modifier names =>
    [⟨"annotations", (Element.list (names.map .symbol)).annotated modifier.annotations⟩]
  | .annotationType a => [⟨"annotations", argumentElement version a⟩]
  | .contains es => [⟨"contains", .list es⟩]
  | .regex p =>
    [⟨"regex", (Element.string p.source).annotated
      (flags [(p.ignoreCase, "i"), (p.multiline, "m")])⟩]
  | .validValues vs => [⟨"valid_values", .list (vs.map validValueElement)⟩]
  | .timestampPrecision r => [⟨"timestamp_precision", precisionRangeElement r⟩]
  | .timestampOffset os => [⟨"timestamp_offset", .list (os.map fun o => .string o.toText)⟩]
  | .ieee754Float f => [⟨"ieee754_float", .symbol f.name⟩]
  | .measure r => [⟨r.measure.name, intRangeElement (fun _ => true) r.range⟩]

/-- An argument that occurs as it does by default is written alone, any other as a struct. -/
def occurringElement (version : IslVersion) (byDefault : IntRange) : OccurringArgument → Element
  | ⟨occurs, .inline d .unmarked⟩ =>
    if occurs = byDefault then .struct (definitionFields version d)
    else .struct (⟨"occurs", occursElement occurs⟩ :: definitionFields version d)
  | ⟨occurs, a⟩ =>
    if occurs = byDefault then argumentElement version a
    else .struct [⟨"occurs", occursElement occurs⟩, ⟨"type", argumentElement version a⟩]

def occurringElements (version : IslVersion) : List OccurringArgument → List Element
  | [] => []
  | o :: os => occurringElement version .required o :: occurringElements version os

def memberFields (version : IslVersion) : List FieldArgument → List Field
  | [] => []
  | ⟨name, o⟩ :: fs =>
    ⟨name, occurringElement version .optional o⟩ :: memberFields version fs

end

def typeElement (version : IslVersion) (d : TypeDefinition) : Element :=
  .struct (definitionFields version d)

def namedTypeElement (version : IslVersion) (t : NamedType) : Element :=
  (Element.struct (⟨"name", .symbol t.name⟩ :: definitionFields version t.definition)).annotated
    ["type"]

def importElement : HeaderImport → Element
  | .wildcard id => .struct [⟨"id", .string id⟩]
  | .single id typeName newName =>
    .struct ([⟨"id", .string id⟩, ⟨"type", .symbol typeName⟩] ++
      (newName.map fun a => Field.mk "as" (.symbol a)).toList)

/-- A list of words under a name, unless it is empty. -/
def wordsField (name : String) (words : NameSet) : List Field :=
  if words.isEmpty then [] else [⟨name, .list (words.map .symbol)⟩]

def reservedElement (r : ReservedFields) : Element :=
  .struct (wordsField "schema_header" r.header ++ wordsField "type" r.type ++
    wordsField "schema_footer" r.footer)

def headerElement (version : IslVersion) (h : SchemaHeader) : Element :=
  let imports : List Field :=
    if h.imports.isEmpty then [] else [⟨"imports", .list (h.imports.map importElement)⟩]
  let reserved : List Field :=
    if version = .v2 ∧ !h.reserved.isEmpty then
      [⟨"user_reserved_fields", reservedElement h.reserved⟩]
    else []
  (Element.struct (imports ++ reserved ++ h.openContent)).annotated ["schema_header"]

def footerElement (f : SchemaFooter) : Element :=
  (Element.struct f.openContent).annotated ["schema_footer"]

def itemElement (version : IslVersion) : SchemaItem → Element
  | .header h => headerElement version h
  | .type t => namedTypeElement version t
  | .footer f => footerElement f
  | .openContent e => e

/-- The version marker, then every item. -/
def documentElements (d : SchemaDocument) : List Element :=
  .symbol d.version.marker :: d.items.map (itemElement d.version)

/-- Each value on a line of its own. -/
def lines (es : List Element) : String := String.join (es.map fun e => e.toText ++ "\n")

end Isl.Writer
