import Isl.Number.Binary64
import Isl.Timestamp
import Isl.Bag
/-!
# Ion values

The tree that schema documents are made of: scalars, lists, expressions, structs, and annotations
in front of any of them. A struct keeps its fields in order, and a name may occur more than once.
-/
namespace Isl

inductive IonType where
  | null | bool | int | float | decimal | timestamp | symbol | string | clob | blob
  | list | sexp | struct
deriving DecidableEq, Repr

namespace IonType

def name : IonType → String
  | null => "null" | bool => "bool" | int => "int" | float => "float" | decimal => "decimal"
  | timestamp => "timestamp" | symbol => "symbol" | string => "string" | clob => "clob"
  | blob => "blob" | list => "list" | sexp => "sexp" | struct => "struct"

def all : List IonType :=
  [null, bool, int, float, decimal, timestamp, symbol, string, clob, blob, list, sexp, struct]

def ofName? (s : String) : Option IonType := all.find? (·.name == s)

theorem ofName?_name (t : IonType) : ofName? t.name = some t := by cases t <;> rfl

end IonType

mutual

/-- A value without its annotations. -/
inductive Value where
  /-- The null of a type; that of `IonType.null` is plain `null`. -/
  | null (type : IonType)
  | bool (b : Bool)
  | int (n : Int)
  | float (x : Binary64)
  | decimal (d : Decimal)
  | timestamp (t : Timestamp)
  | symbol (text : String)
  | string (text : String)
  | clob (bytes : List UInt8)
  | blob (bytes : List UInt8)
  | list (items : List Element)
  | sexp (items : List Element)
  | struct (fields : List Field)

structure Element where
  annotations : List String
  value : Value

structure Field where
  name : String
  value : Element

end

deriving instance Inhabited for Value, Element, Field

def Value.type : Value → IonType
  | .null t => t
  | .bool _ => .bool
  | .int _ => .int
  | .float _ => .float
  | .decimal _ => .decimal
  | .timestamp _ => .timestamp
  | .symbol _ => .symbol
  | .string _ => .string
  | .clob _ => .clob
  | .blob _ => .blob
  | .list _ => .list
  | .sexp _ => .sexp
  | .struct _ => .struct

/-! ## Equality

Two values are equal when they hold the same data: annotations in order, decimals with their
scale, struct fields in any order. -/

mutual

def Value.same : Value → Value → Bool
  | .null s, .null t => s == t
  | .bool a, .bool b => a == b
  | .int m, .int n => m == n
  | .float x, .float y => x == y
  | .decimal c, .decimal d => c == d
  | .timestamp s, .timestamp t => s == t
  | .symbol s, .symbol t => s == t
  | .string s, .string t => s == t
  | .clob s, .clob t => s == t
  | .blob s, .blob t => s == t
  | .list as, .list bs => Element.sameAll as bs
  | .sexp as, .sexp bs => Element.sameAll as bs
  | .struct fs, .struct gs => fs.length == gs.length && Field.takesAll fs gs
  | _, _ => false

def Element.same : Element → Element → Bool
  | ⟨names, v⟩, e => names == e.annotations && v.same e.value

def Element.sameAll : List Element → List Element → Bool
  | [], [] => true
  | a :: as, b :: bs => a.same b && Element.sameAll as bs
  | _, _ => false

def Field.same : Field → Field → Bool
  | ⟨name, v⟩, f => name == f.name && v.same f.value

/-- Every field on the left takes an equal one from the right. -/
def Field.takesAll : List Field → List Field → Bool
  | [], _ => true
  | f :: fs, gs =>
    match removeFirst? (fun g => f.same g) gs with
    | some gs => Field.takesAll fs gs
    | none => false

end

instance : BEq Value := ⟨Value.same⟩
instance : BEq Element := ⟨Element.same⟩
instance : BEq Field := ⟨Field.same⟩

theorem Field.takesAll_eq (fs gs : List Field) :
    Field.takesAll fs gs = Bag.takesAll Field.same fs gs := by
  induction fs generalizing gs with
  | nil => rw [Field.takesAll, Bag.takesAll]
  | cons f fs ih =>
    rw [Field.takesAll, Bag.takesAll]
    cases removeFirst? f.same gs <;> simp [ih]

/-! ## Views of an element -/

namespace Element

def ofValue (v : Value) : Element := ⟨[], v⟩

def annotated (names : List String) (e : Element) : Element := ⟨names, e.value⟩

/-- The value alone. -/
def bare (e : Element) : Element := ⟨[], e.value⟩

def int (n : Int) : Element := ofValue (.int n)
def bool (b : Bool) : Element := ofValue (.bool b)
def symbol (s : String) : Element := ofValue (.symbol s)
def string (s : String) : Element := ofValue (.string s)
def list (items : List Element) : Element := ofValue (.list items)
def struct (fields : List Field) : Element := ofValue (.struct fields)

def isAnnotated (e : Element) (name : String) : Bool := e.annotations.any (· == name)

def type (e : Element) : IonType := e.value.type

def isNull (e : Element) : Bool :=
  match e.value with
  | .null _ => true
  | _ => false

def struct? (e : Element) : Option (List Field) :=
  match e.value with
  | .struct fs => some fs
  | _ => none

def list? (e : Element) : Option (List Element) :=
  match e.value with
  | .list es => some es
  | _ => none

/-- The items of a list or an expression. -/
def sequence? (e : Element) : Option (List Element) :=
  match e.value with
  | .list es | .sexp es => some es
  | _ => none

def symbol? (e : Element) : Option String :=
  match e.value with
  | .symbol s => some s
  | _ => none

def string? (e : Element) : Option String :=
  match e.value with
  | .string s => some s
  | _ => none

/-- The text of a symbol or a string. -/
def text? (e : Element) : Option String :=
  match e.value with
  | .symbol s | .string s => some s
  | _ => none

def int? (e : Element) : Option Int :=
  match e.value with
  | .int n => some n
  | _ => none

def bool? (e : Element) : Option Bool :=
  match e.value with
  | .bool b => some b
  | _ => none

def timestamp? (e : Element) : Option Timestamp :=
  match e.value with
  | .timestamp t => some t
  | _ => none

/-- The worth of an int that fits 64 bits. -/
def int64? (e : Element) : Option Int64 :=
  e.int?.bind fun n =>
    if Int64.minValue.toInt ≤ n ∧ n ≤ Int64.maxValue.toInt then some (Int64.ofInt n) else none

end Element

/-! ## Fields by name -/

namespace Field

/-- The first value of a name. -/
def get? (fs : List Field) (name : String) : Option Element :=
  (fs.find? (·.name == name)).map (·.value)

def getAll (fs : List Field) (name : String) : List Element :=
  (fs.filter (·.name == name)).map (·.value)

def has (fs : List Field) (name : String) : Bool := fs.any (·.name == name)

end Field
end Isl
