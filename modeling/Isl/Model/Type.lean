import Isl.Model.Measure
import Isl.Model.Offset
import Isl.Pattern
import Isl.Range.Instant
import Isl.Range.Number
import Isl.Table
/-!
# Types

A type is a bag of constraints beside open content. Where a constraint takes a type, it takes an
argument: a name, an import, or a type written in place.
-/
namespace Isl

/-- How a type argument treats nulls. -/
inductive Nullability where
  | unmarked
  /-- Version 1.0: any null, or a null of the argument's type. -/
  | nullable
  /-- Version 2.0: the argument or any null. -/
  | orNull
deriving DecidableEq, Repr, Inhabited

def Nullability.marker? : Nullability → Option String
  | unmarked => none
  | nullable => some "nullable"
  | orNull => some "$null_or"

/-- The format that floats must fit. -/
inductive FloatFormat where
  | binary16 | binary32 | binary64
deriving DecidableEq, Repr

namespace FloatFormat

def name : FloatFormat → String
  | binary16 => "binary16" | binary32 => "binary32" | binary64 => "binary64"

def ofName? (s : String) : Option FloatFormat := [binary16, binary32, binary64].find? (·.name == s)

theorem ofName?_name (f : FloatFormat) : ofName? f.name = some f := by cases f <;> rfl

end FloatFormat

/-- An annotation of a version 1.0 list of annotations. -/
structure AnnotationEntry where
  text : String
  required : Bool
deriving DecidableEq, Repr

/-- What a version 2.0 list of annotations demands. -/
inductive AnnotationsModifier where
  /-- No annotation but these. -/
  | closed
  /-- Each of these. -/
  | required
  | closedAndRequired
deriving DecidableEq, Repr

namespace AnnotationsModifier

def isClosed : AnnotationsModifier → Bool
  | required => false
  | _ => true

def isRequired : AnnotationsModifier → Bool
  | closed => false
  | _ => true

/-- The annotations of the list that state it. -/
def annotations (m : AnnotationsModifier) : List String :=
  (if m.isClosed then ["closed"] else []) ++ (if m.isRequired then ["required"] else [])

end AnnotationsModifier

/-- An entry of a list of valid values. -/
inductive ValidValue where
  | value (e : Element)
  | numbers (r : NumberRange)
  | instants (r : InstantRange)

/-- Whether a value is this value or lies in this range. Annotations of the value do not count. -/
def ValidValue.accepts (v : ValidValue) (e : Element) : Bool :=
  match v with
  | value expected => expected == e.bare
  | numbers r => r.containsElement e
  | instants r =>
    match e.timestamp? with
    | some t => r.contains t
    | none => false

def ValidValue.same : ValidValue → ValidValue → Bool
  | value a, value b => a == b
  | numbers r, numbers s => r.same s
  | instants r, instants s => r.same s
  | _, _ => false

mutual

inductive TypeArgument where
  /-- A type that is built in, declared or imported under this name. -/
  | reference (name : String) (nullability : Nullability)
  /-- A type of another schema. -/
  | imported (schemaId typeName : String) (nullability : Nullability)
  | inline (definition : TypeDefinition) (nullability : Nullability)

structure TypeDefinition where
  constraints : List Constraint
  openContent : List Field

inductive Constraint where
  | allOf (arguments : List TypeArgument)
  | anyOf (arguments : List TypeArgument)
  | oneOf (arguments : List TypeArgument)
  | type (argument : TypeArgument)
  | not (argument : TypeArgument)
  | element (argument : TypeArgument) (distinct : Bool)
  | fieldNames (argument : TypeArgument) (distinct : Bool)
  /-- Fields in the order of their names. -/
  | fields (fields : List FieldArgument) (closed : Bool)
  | orderedElements (arguments : List OccurringArgument)
  | annotationList (annotations : List AnnotationEntry) (closed ordered : Bool)
  | annotationSet (modifier : AnnotationsModifier) (annotations : NameSet)
  /-- The annotations, as a list of symbols, must match a type. -/
  | annotationType (argument : TypeArgument)
  | contains (values : List Element)
  | regex (pattern : Pattern)
  | validValues (values : List ValidValue)
  | timestampPrecision (range : PrecisionRange)
  | timestampOffset (offsets : List OffsetValue)
  | ieee754Float (format : FloatFormat)
  | measure (range : MeasureRange)

/-- A type argument and how often it may occur. -/
structure OccurringArgument where
  occurs : IntRange
  argument : TypeArgument

structure FieldArgument where
  name : String
  argument : OccurringArgument

end

deriving instance Inhabited for TypeArgument, TypeDefinition, Constraint, OccurringArgument,
  FieldArgument

namespace TypeArgument

def nullability : TypeArgument → Nullability
  | reference _ n | imported _ _ n | inline _ n => n

end TypeArgument

namespace Constraint

/-- The field that the constraint is stated under. -/
def name : Constraint → String
  | allOf _ => "all_of" | anyOf _ => "any_of" | oneOf _ => "one_of"
  | type _ => "type" | not _ => "not"
  | element .. => "element" | fieldNames .. => "field_names"
  | fields .. => "fields" | orderedElements _ => "ordered_elements"
  | annotationList .. | annotationSet .. | annotationType _ => "annotations"
  | contains _ => "contains" | regex _ => "regex" | validValues _ => "valid_values"
  | timestampPrecision _ => "timestamp_precision" | timestampOffset _ => "timestamp_offset"
  | ieee754Float _ => "ieee754_float" | measure r => r.measure.name

/-- The type arguments directly within the constraint. -/
def arguments : Constraint → List TypeArgument
  | allOf as | anyOf as | oneOf as => as
  | type a | not a | element a _ | fieldNames a _ | annotationType a => [a]
  | fields fs _ => fs.map (·.argument.argument)
  | orderedElements os => os.map (·.argument)
  | _ => []

end Constraint

/-- The type that a set of annotations stands for: every annotation is one of the listed symbols
if it is closed, and each of them is there if it is required. -/
def Constraint.annotationArgument? : Constraint → Option TypeArgument
  | .annotationType a => some a
  | .annotationSet modifier names =>
    let symbols := names.map Element.symbol
    let closed : List Constraint :=
      if modifier.isClosed then
        [.element (.inline ⟨[.validValues (symbols.map .value)], []⟩ .unmarked) false]
      else []
    let required : List Constraint := if modifier.isRequired then [.contains symbols] else []
    some (.inline ⟨closed ++ required, []⟩ .unmarked)
  | _ => none

/-! ## Equality

Constraints, open content and listed values are compared as bags, all else in order. -/

mutual

def TypeArgument.same : TypeArgument → TypeArgument → Bool
  | .reference s m, .reference t n => s == t && m == n
  | .imported i s m, .imported j t n => i == j && s == t && m == n
  | .inline d m, .inline e n => d.same e && m == n
  | _, _ => false

def TypeArgument.sameAll : List TypeArgument → List TypeArgument → Bool
  | [], [] => true
  | a :: as, b :: bs => a.same b && TypeArgument.sameAll as bs
  | _, _ => false

def TypeDefinition.same : TypeDefinition → TypeDefinition → Bool
  | ⟨cs, content⟩, e =>
    cs.length == e.constraints.length && Constraint.takesAll cs e.constraints &&
      Bag.sameItems Field.same content e.openContent

def Constraint.same : Constraint → Constraint → Bool
  | .allOf as, .allOf bs | .anyOf as, .anyOf bs | .oneOf as, .oneOf bs =>
    TypeArgument.sameAll as bs
  | .type a, .type b | .not a, .not b | .annotationType a, .annotationType b => a.same b
  | .element a d, .element b e | .fieldNames a d, .fieldNames b e => a.same b && d == e
  | .fields fs c, .fields gs d => FieldArgument.sameAll fs gs && c == d
  | .orderedElements os, .orderedElements ps => OccurringArgument.sameAll os ps
  | .annotationList xs c o, .annotationList ys d p => xs == ys && c == d && o == p
  | .annotationSet m xs, .annotationSet n ys => m == n && xs == ys
  | .contains xs, .contains ys => Bag.sameItems Element.same xs ys
  | .regex p, .regex q => p == q
  | .validValues xs, .validValues ys => Bag.sameItems ValidValue.same xs ys
  | .timestampPrecision r, .timestampPrecision s => r == s
  | .timestampOffset xs, .timestampOffset ys => xs == ys
  | .ieee754Float f, .ieee754Float g => f == g
  | .measure r, .measure s => r == s
  | _, _ => false

/-- Every constraint on the left takes an equal one from the right. -/
def Constraint.takesAll : List Constraint → List Constraint → Bool
  | [], _ => true
  | c :: cs, ds =>
    match removeFirst? (fun d => c.same d) ds with
    | some ds => Constraint.takesAll cs ds
    | none => false

def OccurringArgument.same : OccurringArgument → OccurringArgument → Bool
  | ⟨occurs, a⟩, o => occurs == o.occurs && a.same o.argument

def OccurringArgument.sameAll : List OccurringArgument → List OccurringArgument → Bool
  | [], [] => true
  | a :: as, b :: bs => a.same b && OccurringArgument.sameAll as bs
  | _, _ => false

def FieldArgument.same : FieldArgument → FieldArgument → Bool
  | ⟨name, a⟩, f => name == f.name && a.same f.argument

def FieldArgument.sameAll : List FieldArgument → List FieldArgument → Bool
  | [], [] => true
  | a :: as, b :: bs => a.same b && FieldArgument.sameAll as bs
  | _, _ => false

end

instance : BEq TypeArgument := ⟨TypeArgument.same⟩
instance : BEq TypeDefinition := ⟨TypeDefinition.same⟩
instance : BEq Constraint := ⟨Constraint.same⟩

end Isl
