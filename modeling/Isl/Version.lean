/-!
# Versions of the schema language
-/
namespace Isl

inductive IslVersion where
  | v1
  | v2
deriving DecidableEq, Repr, Inhabited

namespace IslVersion

/-- The symbol that opens a document of this version. -/
def marker : IslVersion → String
  | v1 => "$ion_schema_1_0"
  | v2 => "$ion_schema_2_0"

def ofMarker? (s : String) : Option IslVersion :=
  if s = v1.marker then some v1 else if s = v2.marker then some v2 else none

def name : IslVersion → String
  | v1 => "ISL 1.0"
  | v2 => "ISL 2.0"

/-- The parts between underscores. -/
def parts : List Char → List Char → List (List Char)
  | [], acc => [acc.reverse]
  | c :: cs, acc => if c = '_' then acc.reverse :: parts cs [] else parts cs (c :: acc)

def markerStem : List Char := "$ion_schema_".toList

/-- The symbol has the form of a version marker, whether the version exists or not. -/
def isMarkerLike (s : String) : Bool :=
  markerStem.isPrefixOf s.toList &&
    (parts (s.toList.drop markerStem.length) []).all fun part =>
      !part.isEmpty && part.all Char.isDigit

theorem ofMarker?_marker (v : IslVersion) : ofMarker? v.marker = some v := by cases v <;> rfl

end IslVersion
end Isl
