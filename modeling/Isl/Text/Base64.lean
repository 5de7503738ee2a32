import Isl.Text.Hex
/-!
# Base64

Bytes as text over 64 symbols, padded to a multiple of four, with no bits left over in the last
symbol. Refusals say where: what is wrong with the length is told first, then the symbols of the
full blocks of eight, then those of the last block, then its padding and its left-over bits.
-/
namespace Isl.Base64

inductive Fault where
  | invalidByte (byte offset : Nat)
  | oddRemainder
  | invalidLastSymbol (byte offset : Nat)
  | invalidPadding
deriving DecidableEq

def Fault.message : Fault → String
  | .invalidByte b o => s!"Invalid byte {b}, offset {o}."
  | .oddRemainder => "Encoded text cannot have a 6-bit remainder."
  | .invalidLastSymbol b o => s!"Invalid last symbol {b}, offset {o}."
  | .invalidPadding => "Invalid padding"

def alphabet : List Char :=
  "ABCDEFGHIJKLMNOPQRSTUVWXYZabcdefghijklmnopqrstuvwxyz0123456789+/".toList

def symbol (n : Nat) : Char := alphabet.getD n 'A'

/-- The six bits that a byte stands for. -/
def sextet? (b : Nat) : Option Nat :=
  if 65 ≤ b ∧ b ≤ 90 then some (b - 65)
  else if 97 ≤ b ∧ b ≤ 122 then some (b - 71)
  else if 48 ≤ b ∧ b ≤ 57 then some (b + 4)
  else if b = 43 then some 62
  else if b = 47 then some 63
  else none

def encode : List UInt8 → List Char
  | [] => []
  | [a] =>
    let a := a.toNat
    [symbol (a / 4), symbol (a % 4 * 16), '=', '=']
  | [a, b] =>
    let a := a.toNat
    let b := b.toNat
    [symbol (a / 4), symbol (a % 4 * 16 + b / 16), symbol (b % 16 * 4), '=']
  | a :: b :: c :: rest =>
    let a := a.toNat
    let b := b.toNat
    let c := c.toNat
    symbol (a / 4) :: symbol (a % 4 * 16 + b / 16) :: symbol (b % 16 * 4 + c / 64) ::
      symbol (c % 64) :: encode rest

/-- The bytes of a run of sextets; bits that fill no byte are dropped. -/
def pack : List Nat → List UInt8
  | a :: b :: c :: d :: rest =>
    UInt8.ofNat (a * 4 + b / 16) :: UInt8.ofNat (b % 16 * 16 + c / 4) ::
      UInt8.ofNat (c % 4 * 64 + d) :: pack rest
  | [a, b, c] => [UInt8.ofNat (a * 4 + b / 16), UInt8.ofNat (b % 16 * 16 + c / 4)]
  | [a, b] => [UInt8.ofNat (a * 4 + b / 16)]
  | _ => []

/-- Reads bytes among which no padding is allowed; `offset` is the place of the first. -/
def readPlain (offset : Nat) : List Nat → Except Fault (List Nat)
  | [] => .ok []
  | b :: bs =>
    match sextet? b with
    | none => .error (.invalidByte b offset)
    | some s => (readPlain (offset + 1) bs).map (s :: ·)

def padByte : Nat := 61

/-- Reads the last block, at `index` within it. `padding` is the place and the number of the
padding bytes so far. Answers with the sextets and the number of padding bytes. -/
def readLast (base : Nat) (index : Nat) (padding : Option (Nat × Nat)) :
    List Nat → Except Fault (List Nat × Nat)
  | [] => .ok ([], (padding.map (·.2)).getD 0)
  | b :: bs =>
    if b = padByte then
      if index % 4 < 2 then
        .error (.invalidByte b (base + (padding.map (·.1)).getD index))
      else
        readLast base (index + 1) (some ((padding.map (·.1)).getD index,
          (padding.map (·.2)).getD 0 + 1)) bs
    else
      match padding with
      | some (first, _) => .error (.invalidByte padByte (base + first))
      | none =>
        match sextet? b with
        | none => .error (.invalidByte b (base + index))
        | some s => (readLast base (index + 1) none bs).map fun (ss, n) => (s :: ss, n)

/-- The bits of the last sextet that belong to no byte. -/
def leftOver (sextets : List Nat) : Nat :=
  match sextets.length % 4, sextets.getLast? with
  | 1, some s => s
  | 2, some s => s % 16
  | 3, some s => s % 4
  | _, _ => 0

def decode (bytes : List Nat) : Except Fault (List UInt8) := do
  let count := bytes.length
  if count % 4 = 1 then
    match bytes.getLast? with
    | some b =>
      if b ≠ padByte ∧ (sextet? b).isNone then .error (.invalidByte b (count - 1))
      else .error .oddRemainder
    | none => .error .oddRemainder
  else
    let base := (count - 1) / 8 * 8
    let plain ← readPlain 0 (bytes.take base)
    let (last, padding) ← readLast base 0 none (bytes.drop base)
    if (padding + last.length) % 4 ≠ 0 then .error .invalidPadding
    else if leftOver last ≠ 0 then
      .error (.invalidLastSymbol ((bytes.drop base).getD (last.length - 1) 0)
        (base + last.length - 1))
    else .ok (pack (plain ++ last))

end Isl.Base64
