import Isl.Text.Hex
/-!
# Ranges of code points

Sets of code points as ranges in ascending order that do not meet. Tables of them are written as
text: code points in hexadecimal, `A-B` for a range, `A-B/C` for every `C`th code point of one.
-/
namespace Isl.Unicode

abbrev CodeRange := Nat × Nat

def lastCodePoint : Nat := 0x10FFFF

namespace CodeRanges

/-- An entry of a table as far as it has been read. -/
structure Entry where
  /-- The numbers in front of a mark, latest first. -/
  before : List Nat
  number : Option Nat

/-- The ranges of an entry. -/
def Entry.ranges (e : Entry) : List CodeRange :=
  match e.number, e.before with
  | none, _ => []
  | some n, [] => [(n, n)]
  | some n, [first] => [(first, n)]
  | some n, last :: first :: _ =>
    (List.range ((last - first) / n + 1)).map fun i => (first + i * n, first + i * n)

def Entry.next (e : Entry) (c : Char) : Entry :=
  match Text.hexValue? c with
  | some d => ⟨e.before, some (e.number.getD 0 * 16 + d)⟩
  | none => ⟨e.number.toList ++ e.before, none⟩

/-- Reads a table from an entry on. -/
def readFrom (e : Entry) : List Char → List CodeRange
  | [] => e.ranges
  | c :: cs =>
    if c = ' ' ∨ c = '\n' then e.ranges ++ readFrom ⟨[], none⟩ cs else readFrom (e.next c) cs

def ofText (text : String) : List CodeRange := readFrom ⟨[], none⟩ text.toList

/-- Adds a range that begins behind the beginnings of all others; the latest one stands first. -/
def append (rs : List CodeRange) (r : CodeRange) : List CodeRange :=
  match rs with
  | (first, last) :: rest => if r.1 ≤ last + 1 then (first, max last r.2) :: rest else r :: rs
  | [] => [r]

/-- Puts ranges into order, and those together that meet. -/
def normalize (rs : List CodeRange) : List CodeRange :=
  ((rs.mergeSort (·.1 ≤ ·.1)).foldl append []).reverse

/-- The code points from `n` on that are in none of the ranges. -/
def gapsFrom (n : Nat) : List CodeRange → List CodeRange
  | [] => if n ≤ lastCodePoint then [(n, lastCodePoint)] else []
  | (first, last) :: rest =>
    if n < first then (n, first - 1) :: gapsFrom (last + 1) rest else gapsFrom (last + 1) rest

def complement (rs : List CodeRange) : List CodeRange := gapsFrom 0 rs

def union (rs ss : List CodeRange) : List CodeRange := normalize (rs ++ ss)

def difference (rs ss : List CodeRange) : List CodeRange := complement (union (complement rs) ss)

def intersection (rs ss : List CodeRange) : List CodeRange := difference rs (complement ss)

/-- Single code points as ranges in order. -/
def ofPoints (ns : List Nat) : List CodeRange := normalize (ns.map fun n => (n, n))

def isSingleton : List CodeRange → Bool
  | [(first, last)] => first == last
  | _ => false

/-- Looks for a range with `n` among those from `low` on and before `high`, in the middle first. -/
def search (rs : Array CodeRange) (n : Nat) : Nat → Nat → Nat → Bool
  | 0, _, _ => false
  | fuel + 1, low, high =>
    if high ≤ low then false
    else
      let middle := (low + high) / 2
      match rs[middle]? with
      | none => false
      | some (first, last) =>
        if n < first then search rs n fuel low middle
        else if last < n then search rs n fuel (middle + 1) high
        else true

def contains (rs : Array CodeRange) (n : Nat) : Bool := search rs n rs.size 0 rs.size

end CodeRanges
end Isl.Unicode
