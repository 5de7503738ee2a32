/-!
# Paths into a document

A path leads from the top-level values down to one value, by index or by field name. Its text joins
the steps with slashes; inside a name `~` is written `~0` and `/` is written `~1`.
-/
namespace Isl

inductive PathStep where
  | index (n : Nat)
  | field (name : String)
deriving DecidableEq, Repr

/-- Indexes come before names. -/
def PathStep.compare : PathStep → PathStep → Ordering
  | index m, index n => Ord.compare m n
  | index _, field _ => .lt
  | field _, index _ => .gt
  | field s, field t => Ord.compare s t

instance : Ord PathStep := ⟨PathStep.compare⟩

structure TreePath where
  steps : List PathStep
deriving DecidableEq, Repr

namespace TreePath

def root : TreePath := ⟨[]⟩

instance : Inhabited TreePath := ⟨root⟩

def index (p : TreePath) (n : Nat) : TreePath := ⟨p.steps ++ [.index n]⟩

def field (p : TreePath) (name : String) : TreePath := ⟨p.steps ++ [.field name]⟩

def isRoot (p : TreePath) : Bool := p.steps.isEmpty

def compareSteps : List PathStep → List PathStep → Ordering
  | [], [] => .eq
  | [], _ :: _ => .lt
  | _ :: _, [] => .gt
  | a :: as, b :: bs => (a.compare b).then (compareSteps as bs)

/-- Step by step; a path comes before those that it is the beginning of. -/
instance : Ord TreePath := ⟨fun p q => compareSteps p.steps q.steps⟩

def escapeChar (c : Char) : List Char :=
  if c = '~' then ['~', '0'] else if c = '/' then ['~', '1'] else [c]

def stepChars : PathStep → List Char
  | .index n => '/' :: Nat.toDigits 10 n
  | .field name => '/' :: name.toList.flatMap escapeChar

def toText (p : TreePath) : String :=
  if p.isRoot then "/" else String.ofList (p.steps.flatMap stepChars)

end TreePath
end Isl
