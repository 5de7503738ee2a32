import Isl.Reader.Ranges
/-!
# Reading constraints without types in them

Arguments that hold no type argument are read at once; the first fault in them is the only one.
-/
namespace Isl.Reader

def badArgument (name : String) (fault : ArgumentFault) (e : Element) : Check α :=
  .error (.argument name fault e)

def plainList (name : String) (e : Element) : Check (List Element) :=
  match e.list? with
  | none => badArgument name .notList e
  | some items => if e.annotations.isEmpty then .ok items else badArgument name .annotated e

def measureRange (m : Measure) (e : Element) : Check Constraint := do
  let r ← intRange e
  (ofDefect (MeasureRange.make? m r)).map .measure

def containsArgument (e : Element) : Check Constraint :=
  (plainList "contains" e).map .contains

def floatFormat (e : Element) : Check Constraint :=
  if !e.annotations.isEmpty then badArgument "ieee754_float" .annotated e
  else match e.symbol?.bind FloatFormat.ofName? with
    | some f => .ok (.ieee754Float f)
    | none => badArgument "ieee754_float" .notFormat e

def regexArgument (version : IslVersion) (e : Element) : Check Constraint :=
  match e.string? with
  | none => badArgument "regex" .notString e
  | some source =>
    if onlyAnnotated e ["i", "m"] then
      (ofDefect (Pattern.compile? version source (e.isAnnotated "i") (e.isAnnotated "m"))).map
        .regex
    else badArgument "regex" .regexAnnotations e

/-! ## Annotations -/

/-- One item of a version 1.0 list. What is neither required nor optional follows the list. -/
def listed? (byDefault : Bool) (item : Element) : Option AnnotationEntry :=
  if onlyAnnotated item ["required", "optional"] then
    item.symbol?.map fun text =>
      ⟨text, item.isAnnotated "required" || (!item.isAnnotated "optional" && byDefault)⟩
  else none

/-- `ordered::closed::required::[a, optional::b]` -/
def annotationList (e : Element) : Check Constraint :=
  match e.list? with
  | none => badArgument "annotations" .notList e
  | some items =>
    if onlyAnnotated e ["required", "ordered", "closed"] then
      match items.mapM (listed? (e.isAnnotated "required")) with
      | some annotations =>
        .ok (.annotationList annotations (e.isAnnotated "closed") (e.isAnnotated "ordered"))
      | none => badArgument "annotations" .listElements e
    else badArgument "annotations" .listAnnotations e

def modifier? (e : Element) : Option AnnotationsModifier :=
  match e.isAnnotated "closed", e.isAnnotated "required" with
  | true, true => some .closedAndRequired
  | true, false => some .closed
  | false, true => some .required
  | false, false => none

def plainSymbol? (e : Element) : Option String :=
  if e.annotations.isEmpty then e.symbol? else none

/-- `closed::required::[a, b]` -/
def annotationSet (e : Element) : Check Constraint :=
  match e.list? with
  | none => badArgument "annotations" .notList e
  | some items =>
    if onlyAnnotated e ["closed", "required"] then
      match modifier? e with
      | none => badArgument "annotations" .setUnmarked e
      | some modifier =>
        match items.mapM plainSymbol? with
        | some names => .ok (.annotationSet modifier (NameSet.ofList names))
        | none => badArgument "annotations" .setElements e
    else badArgument "annotations" .setAnnotations e

/-! ## Valid values -/

/-- A range with a timestamp in it is one of instants, else one with a number is one of numbers. -/
def validRange (e : Element) : Check ValidValue :=
  if hasBound e (· == .timestamp) then (instantRange e).map .instants
  else if hasBound e isNumberType then (numberRange e).map .numbers
  else badArgument "valid_values" .notRange e

def validValue (e : Element) : Check ValidValue :=
  if e.type == .list && e.isAnnotated "range" then validRange e
  else if e.annotations.isEmpty then .ok (.value e)
  else badArgument "valid_values" .notOnlyRange e

def validValues (e : Element) : Check Constraint :=
  if !onlyAnnotated e ["range"] then badArgument "valid_values" .notOnlyRange e
  else if e.isAnnotated "range" then (validRange e).map fun v => .validValues [v]
  else match e.list? with
    | none => badArgument "valid_values" .notList e
    | some items => (items.mapM validValue).map .validValues

/-! ## Offsets -/

def plainString? (e : Element) : Option String :=
  if e.annotations.isEmpty then e.string? else none

def offsetValue (list : Element) (item : Element) : Check OffsetValue :=
  match plainString? item with
  | none => badArgument "timestamp_offset" .offsetElements list
  | some text => ofDefect (OffsetValue.parse? text)

def offsets (e : Element) : Check Constraint :=
  match e.list? with
  | none | some [] => badArgument "timestamp_offset" .noOffsets e
  | some items =>
    if e.annotations.isEmpty then (items.mapM (offsetValue e)).map .timestampOffset
    else badArgument "timestamp_offset" .annotated e

/-! ## Occurrences -/

/-- How often an argument may occur. -/
def occursRange (e : Element) : Check IntRange :=
  match e.symbol?, e.int64? with
  | some "optional", _ => if e.annotations.isEmpty then .ok .optional else .error (.occurs e)
  | some "required", _ => if e.annotations.isEmpty then .ok .required else .error (.occurs e)
  | some _, _ => .error (.occurs e)
  | none, some n =>
    if 0 < n && e.annotations.isEmpty then .ok (.singleton n) else .error (.occurs e)
  | none, none =>
    if e.list?.isSome then (nonNegativeRange e).mapError (.occursRange e)
    else .error (.occurs e)

/-! ## Constraints by name -/

/-- The constraints of a name whose arguments hold no types. -/
def leaf? (version : IslVersion) (name : String) : Option (Element → Check Constraint) :=
  match Measure.ofName? name with
  | some m => some (measureRange m)
  | none =>
    match name with
    | "contains" => some containsArgument
    | "regex" => some (regexArgument version)
    | "valid_values" => some validValues
    | "timestamp_precision" => some fun e => (precisionRange e).map .timestampPrecision
    | "timestamp_offset" => some offsets
    | "ieee754_float" => some floatFormat
    | _ => none

end Isl.Reader
