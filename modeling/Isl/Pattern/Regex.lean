import Isl.Pattern.Assertion
import Isl.Pattern.Class
/-!
# Regular expressions

Alternatives of sequences of repeated atoms, and how deeply they nest.
-/
namespace Isl.Pattern

inductive Regex where
  | empty
  | literal (c : Char) (casing : Casing)
  /-- Any character but these. -/
  | dot (except : List Char)
  | set (s : ClassSet) (casing : Casing)
  | assertion (a : Assertion)
  /-- Parentheses; those that capture keep what they matched. -/
  | group (captures : Bool) (r : Regex)
  | repetition (r : Regex) (least : Nat) (most : Option Nat)
  | sequence (rs : List Regex)
  | alternatives (rs : List Regex)

instance : Inhabited Regex := ⟨.empty⟩

/-- Why a pattern is refused. -/
inductive Refusal where
  /-- It is not in the syntax, or nests too deeply. -/
  | malformed
  | tooLarge
deriving DecidableEq, Repr

namespace Regex

mutual

/-- How deeply the pattern nests. -/
def depth : Regex → Nat
  | empty | literal .. | dot _ | assertion _ => 0
  | set s _ => s.depth
  | group _ r => r.depth + 1
  | repetition r _ _ => r.depth + 1
  | sequence rs => depthAll rs + 1
  | alternatives rs => depthAll rs + 1

def depthAll : List Regex → Nat
  | [] => 0
  | r :: rs => max r.depth (depthAll rs)

end

end Regex
end Isl.Pattern
