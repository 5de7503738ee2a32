/-!
# Bags

Items without an order, but with multiplicity. A bag keeps its items as they came; two bags are
equal when every item of one takes an equal item out of the other and nothing is left over.
-/
namespace Isl

/-- The list without the first item that the test accepts. -/
def removeFirst? {α : Type u} (test : α → Bool) : List α → Option (List α)
  | [] => none
  | a :: as => if test a then some as else (removeFirst? test as).map (a :: ·)

structure Bag (α : Type u) where
  items : List α
deriving Inhabited

namespace Bag

def empty {α : Type u} : Bag α := ⟨[]⟩

def push {α : Type u} (b : Bag α) (a : α) : Bag α := ⟨b.items ++ [a]⟩

def size {α : Type u} (b : Bag α) : Nat := b.items.length

def contains {α : Type u} [BEq α] (b : Bag α) (a : α) : Bool := b.items.any (· == a)

def countOf {α : Type u} [BEq α] (b : Bag α) (a : α) : Nat := b.items.countP (· == a)

/-- Every item on the left takes an equal one from the right. -/
def takesAll {α : Type u} {β : Type v} (same : α → β → Bool) : List α → List β → Bool
  | [], _ => true
  | a :: as, bs =>
    match removeFirst? (same a) bs with
    | some bs => takesAll same as bs
    | none => false

def sameItems {α : Type u} {β : Type v} (same : α → β → Bool) (as : List α) (bs : List β) : Bool :=
  as.length == bs.length && takesAll same as bs

instance {α : Type u} [BEq α] : BEq (Bag α) := ⟨fun x y => sameItems (· == ·) x.items y.items⟩

end Bag
end Isl
