import Isl.Unicode.Age
import Isl.Unicode.Break
import Isl.Unicode.Script
import Isl.Unicode.ScriptExtensions
/-!
# Properties by name

A set of characters is asked for by the name of a property, a category or a script, or by a
property and a value. Case, blanks, hyphens and underscores of names do not count, and neither does
a leading `is`.
-/
namespace Isl.Unicode

/-- The characters of a name that count. -/
def plainName (cs : List Char) : List Char :=
  (cs.filter fun c => c.toNat < 0x80 && c != ' ' && c != '_' && c != '-').map Char.toLower

/-- A name as the tables have it. What is left of `isc` is a name itself, of another thing than
`c` is. -/
def canonicalName (name : List Char) : String :=
  let (marked, rest) : Bool × List Char := match name with
    | a :: b :: rest => if a.toLower = 'i' ∧ b.toLower = 's' then (true, rest) else (false, name)
    | _ => (false, name)
  let plain := plainName rest
  if marked ∧ plain = ['c'] then "isc" else String.ofList plain

def lookUp? (named : List (List String × CodeSet)) (name : String) : Option CodeSet :=
  (named.find? (·.1.contains name)).map (·.2)

/-- What had been added up to a version. -/
def age? (name : String) : Option CodeSet :=
  let earlier := Age.named.takeWhile fun v => !v.1.contains name
  (lookUp? Age.named name).map fun latest => .unionAll (latest :: earlier.map (·.2))

/-- The characters with a property, of a category, or of a script. -/
def find? (name : List Char) : Option CodeSet :=
  let name := canonicalName name
  (lookUp? Property.named name).or ((lookUp? Category.named name).or (lookUp? Script.named name))

/-- The characters that have a value for a property. -/
def findValue? (property value : List Char) : Option CodeSet :=
  let value := canonicalName value
  match canonicalName property with
  | "gc" | "generalcategory" => lookUp? Category.named value
  | "sc" | "script" => lookUp? Script.named value
  | "scx" | "scriptextensions" => lookUp? ScriptExtensions.named value
  | "age" => age? value
  | "gcb" | "graphemeclusterbreak" => lookUp? GraphemeBreak.named value
  | "wb" | "wordbreak" => lookUp? WordBreak.named value
  | "sb" | "sentencebreak" => lookUp? SentenceBreak.named value
  | _ => none

end Isl.Unicode
