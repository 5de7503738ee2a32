import Isl.Unicode.Ranges
/-!
# UTF-8 of ranges

The bytes of all code points in a range, as rows: a row is a range of bytes for each place, and
stands for every choice of a byte from each. `prefixes` and `suffixes` measure two ways to share
what rows have in common: what they begin with, or what they end with.
-/
namespace Isl.Unicode.Utf8

abbrev ByteRange := Nat × Nat

abbrev Row := List ByteRange

/-- What a place with `places` others of six bits behind it counts. -/
def unit (places : Nat) : Nat := 1 <<< (6 * places)

/-- Numbers from `first` to `last` by the digits that they have: a leading one, and `places` of six
bits. -/
def digitRows : Nat → Nat → Nat → List Row
  | 0, first, last => [[(first, last)]]
  | places + 1, first, last =>
    let u := unit (places + 1)
    let (a, b) := (first / u, last / u)
    if a = b then (digitRows places (first % u) (last % u)).map ((a, a) :: ·)
    else
      let (c, head) := if first % u = 0 then (a, [])
        else (a + 1, (digitRows places (first % u) (u - 1)).map ((a, a) :: ·))
      let (d, tail) := if last % u = u - 1 then (b, [])
        else (b - 1, (digitRows places 0 (last % u)).map ((b, b) :: ·))
      let whole := (c, d) :: List.replicate (places + 1) (0, 0x3F)
      head ++ (if c ≤ d then [whole] else []) ++ tail

/-- The code points that take so many bytes behind the first, and what the first byte is counted
from. Surrogates take none. -/
def lengths : List (Nat × CodeRange × Nat) :=
  [(0, (0, 0x7F), 0), (1, (0x80, 0x7FF), 0xC0), (2, (0x800, 0xD7FF), 0xE0),
    (2, (0xE000, 0xFFFF), 0xE0), (3, (0x10000, 0x10FFFF), 0xF0)]

/-- Digits as bytes. -/
def encode (lead : Nat) : Row → Row
  | [] => []
  | (a, b) :: rest => (lead + a, lead + b) :: rest.map fun r => (0x80 + r.1, 0x80 + r.2)

def rangeRows (r : CodeRange) : List Row :=
  lengths.flatMap fun (places, bounds, lead) =>
    let (first, last) := (max r.1 bounds.1, min r.2 bounds.2)
    if first ≤ last then (digitRows places first last).map (encode lead) else []

/-- The rows of ranges in ascending order, in ascending order. -/
def rows (rs : List CodeRange) : List Row := rs.flatMap rangeRows

/-! ## Sharing -/

/-- How many places in front two rows have in common. -/
def commonLength : Row → Row → Nat
  | a :: as, b :: bs => if a = b then commonLength as bs + 1 else 0
  | _, _ => 0

/-- The number of different beginnings of rows in ascending order. -/
def prefixes : Row → List Row → Nat
  | _, [] => 0
  | before, row :: rows => row.length - commonLength before row + prefixes row rows

/-- A place with its ways on: a range of bytes, and the number of the place that it leads to. -/
abbrev Junction := List (ByteRange × Nat)

/-- The number of a place among those so far, which begin with 1; 0 is the end. -/
def numbered (known : List Junction) (j : Junction) : List Junction × Nat :=
  match known.idxOf? j with
  | some i => (known, i + 1)
  | none => (known ++ [j], known.length + 1)

/-- Adds the places of rows of up to `depth` bytes to those known, one for all that end alike. -/
def join : Nat → List Junction → List Row → List Junction × Nat
  | 0, known, _ => (known, 0)
  | depth + 1, known, rows =>
    if rows.all List.isEmpty then (known, 0)
    else
      let groups := rows.splitBy fun a b => a.head? == b.head?
      let (known, ways) := groups.foldl (fun (known, ways) group =>
        let (known, next) := join depth known (group.map List.tail)
        (known, ((group.headD []).headD (0, 0), next) :: ways)) (known, [])
      numbered known ways.reverse

/-- The places of rows that share their ends. -/
def suffixes (rows : List Row) : List Junction := (join 5 [] rows).1

end Isl.Unicode.Utf8
