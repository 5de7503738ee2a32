import Isl.Fault
import Isl.Pattern.Match
import Isl.Pattern.Syntax
/-!
# Patterns

A pattern as a schema states it, with its options, and the form that is matched. Two patterns are
the same when they are stated the same way.
-/
namespace Isl

structure Pattern where
  source : String
  ignoreCase : Bool
  multiline : Bool
  compiled : Pattern.Regex

namespace Pattern

/-- The pattern spelled out in the syntax that is matched. -/
def expandText (version : IslVersion) (source : String) : Except Defect String :=
  match expand version source.toList with
  | .ok cs => .ok (String.ofList cs)
  | .error (fault, offset) => .error (.portable source fault offset)

def compile? (version : IslVersion) (source : String) (ignoreCase multiline : Bool) :
    Except Defect Pattern := do
  let expanded ← expandText version source
  match Regex.parse (.standard ignoreCase multiline) expanded.toList with
  | .ok compiled => .ok ⟨source, ignoreCase, multiline, compiled⟩
  | .error refusal => .error (.pattern source refusal)

/-- Whether the pattern matches anywhere in a text. -/
def isMatch (p : Pattern) (text : String) : Bool :=
  p.compiled.isMatch text

instance : BEq Pattern :=
  ⟨fun p q => p.source == q.source && p.ignoreCase == q.ignoreCase && p.multiline == q.multiline⟩

end Pattern
end Isl
