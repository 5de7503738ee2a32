import Isl.Fault
import Isl.Ion.Printer
import Isl.Path
import Isl.Range.Instant
import Isl.Text.Listed
/-!
# Faults of a document

What a reader can hold against a value, and where. A fault is a cause; its words are made by
`ReadFault.message`.
-/
namespace Isl

/-- The shape that the value of a field must have. -/
inductive Shape where
  | symbol | text | list | struct
deriving DecidableEq, Repr

namespace Shape

def words : Shape → String
  | symbol => "a non-null symbol"
  | text => "a non-null string or symbol"
  | list => "a non-null list"
  | struct => "a non-null struct"

def admits (s : Shape) (e : Element) : Bool :=
  match s with
  | symbol => e.symbol?.isSome
  | text => e.text?.isSome
  | list => e.list?.isSome
  | struct => e.struct?.isSome

end Shape

/-- What is wrong with the argument of a constraint. -/
inductive ArgumentFault where
  | notList
  | annotated
  | notStruct
  | emptyStruct
  | notClosed
  | duplicateFields (names : List String)
  | notDistinct
  | notFormat
  | listAnnotations
  | listElements
  | setAnnotations
  | setUnmarked
  | setElements
  | notAnnotations
  | notString
  | regexAnnotations
  | notRange
  | notOnlyRange
  | noOffsets
  | offsetElements
deriving DecidableEq, Repr

def ArgumentFault.message : ArgumentFault → String
  | notList => "must be a non-null list"
  | annotated => "must not have annotations"
  | notStruct => "must be a non-null struct"
  | emptyStruct => "must be a non-empty struct"
  | notClosed => "argument may only be annotated with 'closed'"
  | duplicateFields names => s!"field names must be unique, found duplicates of {Text.listed names}"
  | notDistinct => "type argument may only be annotated with 'distinct' or '$null_or'"
  | notFormat => "must be one of 'binary16', 'binary32', 'binary64'"
  | listAnnotations => "list may only be annotated with 'required', 'ordered' and 'closed'"
  | listElements => "elements must be symbols annotated with nothing, 'required' or 'optional'"
  | setAnnotations => "list may only be annotated with 'closed' and 'required'"
  | setUnmarked => "list must be annotated with 'closed' or 'required'"
  | setElements => "list elements must be non-null, unannotated symbols"
  | notAnnotations => "must be a type argument (symbol or struct) or a list of valid annotations"
  | notString => "must be a non-null string"
  | regexAnnotations => "regex pattern may only be annotated with 'i' and 'm'"
  | notRange => "Not a valid range"
  | notOnlyRange => "annotations not permitted except for range"
  | noOffsets => "must be a non-null, non-empty list"
  | offsetElements => "elements must be non-null, unannotated strings"

/-- The sides of a range. -/
inductive Side where
  | lower | upper
deriving DecidableEq, Repr

namespace Side

def name : Side → String
  | lower => "Lower"
  | upper => "Upper"

/-- The symbol that leaves this side open. -/
def unbounded : Side → String
  | lower => "min"
  | upper => "max"

end Side

/-- Where a document reader stands among the items. -/
inductive Section where
  | beforeMarker | beforeHeader | types | afterFooter
deriving DecidableEq, Repr

def Section.words : Section → String
  | beforeMarker => "before version marker"
  | beforeHeader => "before schema header"
  | types => "while reading types"
  | afterFooter => "after schema footer"

inductive ReadFault where
  | argument (constraint : String) (fault : ArgumentFault) (value : Element)
  | defect (defect : Defect)
  /- documents -/
  | misplacedMarker (place : Section)
  | unsupportedVersion (marker : String)
  | afterFooter (value : Element)
  | misplacedHeader (place : Section)
  | topLevel (place : Section) (value : Element)
  /- fields -/
  | repeatedField (name : String)
  | fieldShape (name : String) (shape : Shape) (value : Element)
  | missingField (name : String) (owner : Element)
  /- headers and footers -/
  | headerNotStruct (value : Element)
  | headerAnnotations
  | importsAnnotated
  | headerFields (names : List String) (value : Element)
  | importNotStruct (value : Element)
  | importFields (value : Element)
  | importAnnotated (value : Element)
  | aliasWithoutType (value : Element)
  | reservedSections (value : Element)
  | reservedAnnotated
  | reservedWords (sectionName : String) (list : Element)
  | reservedKeyword (word : String)
  | footerNotStruct (value : Element)
  | footerAnnotations
  | footerFields (names : List String) (value : Element)
  /- types -/
  | namedNotStruct (value : Element)
  | namedAnnotations (value : Element)
  | namedOccurs (value : Element)
  | typeNotStruct (value : Element)
  | typeName (value : Element)
  | typeOccurs (value : Element)
  | contentNotClosed (value : Element)
  | unexpectedField (name : String)
  | markedArgument (value : Element)
  | inlineImportFields (value : Element)
  | inlineName (value : Element)
  | inlineOccurs (value : Element)
  | notArgument (value : Element)
  | occurs (value : Element)
  | occursRange (value : Element) (reason : ReadFault)
  | occurringAnnotated (value : Element)
  | occursRepeated (value : Element)
  | unknownConstraint (name : String)
  /- ranges -/
  | rangeNotList (value : Element)
  | rangeSize (value : Element)
  | unmarkedRange (value : Element)
  | unboundedAnnotated (side : Side) (value : Element)
  | markedBound (side : Side) (value : Element)
  | boundType (side : Side) (expected : String)
  | nullRange
  | measureAnnotated
  | intTooLarge (value : Element)
  | notReal (value : Element)
  | nullPrecision (value : Element)
  | precisionAnnotated
  | precisionName (value : Element)

namespace ReadFault

private def occursWords (value : Element) : String :=
  "Invalid 'occurs' value; must be 'optional', 'required', a positive int, or a " ++
    s!"non-negative int range: {value.toText}"

def message : ReadFault → String
  | argument name fault value =>
    s!"Illegal argument for '{name}' constraint; {fault.message}: {value.toText}"
  | defect d => d.message
  | misplacedMarker place => s!"unexpected version marker {place.words}"
  | unsupportedVersion marker => s!"unsupported Ion Schema version: {marker}"
  | afterFooter value => s!"value encountered {Section.afterFooter.words}: {value.toText}"
  | misplacedHeader place => s!"schema header encountered {place.words}"
  | topLevel place value => s!"invalid top level value {place.words}: {value.toText}"
  | repeatedField name => s!"'{name}' must only appear 0 or 1 times"
  | fieldShape name shape value => s!"'{name}' must be {shape.words}; was: {value.toText}"
  | missingField name owner => s!"missing required field '{name}': {owner.toText}"
  | headerNotStruct value => s!"schema_header must be a non-null struct; was: {value.toText}"
  | headerAnnotations => "schema_header may not have extra annotations"
  | importsAnnotated => "'imports' list may not be annotated"
  | headerFields names value =>
    let listed := ", ".intercalate names
    s!"Found unexpected field names [{listed}] in schema header: {value.toText}"
  | importNotStruct value => s!"header import must be a non-null struct; was: {value.toText}"
  | importFields value =>
    s!"header import may only have the fields 'id', 'type' and 'as': {value.toText}"
  | importAnnotated value => s!"import struct may not have any annotations: {value.toText}"
  | aliasWithoutType value => s!"'as' only allowed when 'type' is present: {value.toText}"
  | reservedSections value =>
    "'user_reserved_fields' may only have the fields 'schema_header', 'type' and " ++
      s!"'schema_footer': {value.toText}"
  | reservedAnnotated => "'user_reserved_fields' may not have any annotations"
  | reservedWords name list =>
    s!"'{name}' in 'user_reserved_fields' must be a list of unannotated symbols: {list.toText}"
  | reservedKeyword word =>
    s!"Ion Schema 2.0 keyword '{word}' may not be declared as a user reserved field"
  | footerNotStruct value => s!"schema_footer must be a non-null struct; was: {value.toText}"
  | footerAnnotations => "schema_footer may not have extra annotations"
  | footerFields names value =>
    let listed := ", ".intercalate names
    s!"Found illegal field names [{listed}] in schema footer: {value.toText}"
  | namedNotStruct value =>
    s!"Named type definitions must be a non-null struct; was: {value.toText}"
  | namedAnnotations value =>
    s!"Named type definitions must be annotated with 'type' and nothing else: {value.toText}"
  | namedOccurs value => s!"Named type definitions may not have an 'occurs' field: {value.toText}"
  | typeNotStruct value => s!"Type definitions must be a non-null struct; was: {value.toText}"
  | typeName value => s!"Anonymous type definitions may not have a 'name' field: {value.toText}"
  | typeOccurs value =>
    s!"Anonymous type definitions may not have an 'occurs' field: {value.toText}"
  | contentNotClosed value => s!"'content' must be the symbol 'closed'; was: {value.toText}"
  | unexpectedField name => s!"Found unexpected field name '{name}' in type definition"
  | markedArgument value =>
    s!"Invalid constraint; illegal annotation on type argument: {value.toText}"
  | inlineImportFields value =>
    s!"inline imports may only have the fields 'id' and 'type': {value.toText}"
  | inlineName value => s!"Inline type definitions may not have a 'name' field: {value.toText}"
  | inlineOccurs value => s!"Inline type definitions may not have an 'occurs' field: {value.toText}"
  | notArgument value => s!"Invalid constraint; not a valid type argument: {value.toText}"
  | occurs value => occursWords value
  | occursRange value reason => s!"{occursWords value}; {reason.message}"
  | occurringAnnotated value =>
    s!"Variably occurring type arguments may not be annotated: {value.toText}"
  | occursRepeated value => s!"'occurs' must only appear once: {value.toText}"
  | unknownConstraint name => s!"'{name}' is not a known constraint"
  | rangeNotList value => s!"Invalid range; not an ion list: {value.toText}"
  | rangeSize value => s!"Invalid range; size of list must be 2: {value.toText}"
  | unmarkedRange value => s!"Invalid range; missing 'range' annotation: {value.toText}"
  | unboundedAnnotated side value =>
    s!"Invalid range; '{side.unbounded}' may not be annotated: {value.toText}"
  | markedBound side value =>
    s!"Invalid range; illegal annotation on {side.name} bound: {value.toText}"
  | boundType side expected =>
    s!"Invalid range; {side.name} boundary of range must be '{side.unbounded}' or " ++
      s!"a non-null {expected}"
  | nullRange => "Range cannot be a null value"
  | measureAnnotated => "Constraint may not be annotated"
  | intTooLarge value => s!"Invalid range; int bound is out of range: {value.toText}"
  | notReal value =>
    s!"Invalid number range; range bounds must be real numbers: {value.toText}"
  | nullPrecision value => s!"Timestamp precision value cannot be null; was: {value.toText}"
  | precisionAnnotated => "Timestamp precision value may not have annotations"
  | precisionName value =>
    let names := ", ".intercalate (NamedPrecision.all.map (·.name))
    s!"Invalid timestamp precision range; range bounds must be {names}, min, or max: {value.toText}"

end ReadFault

/-- A fault and the path of the value that it was found in. -/
structure ReadError where
  path : TreePath
  fault : ReadFault

namespace ReadError

def message (e : ReadError) : String := e.fault.message

def toText (e : ReadError) : String := e.path.toText ++ ": " ++ e.message

end ReadError
end Isl
