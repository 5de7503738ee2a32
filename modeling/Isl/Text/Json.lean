import Isl.Text.Hex
/-!
# JSON text

Values as JSON, on one line or with a line for each item.
-/
namespace Isl

inductive JsonValue where
  | text (s : String)
  | number (n : Nat)
  | list (items : List JsonValue)
  /-- Fields in the order in which they are written. -/
  | object (fields : List (String × JsonValue))

namespace JsonValue

/-- A character within quotes. Only what JSON demands is escaped. -/
def escapeChar (c : Char) : List Char :=
  if c = '"' then ['\\', '"']
  else if c = '\\' then ['\\', '\\']
  else if c = '\n' then ['\\', 'n']
  else if c = '\r' then ['\\', 'r']
  else if c = '\t' then ['\\', 't']
  else if c.toNat = 8 then ['\\', 'b']
  else if c.toNat = 12 then ['\\', 'f']
  else if c.toNat < 32 then '\\' :: 'u' :: Text.hexDigits 4 c.toNat
  else [c]

def quoted (s : String) : List Char := '"' :: s.toList.flatMap escapeChar ++ ['"']

def numeral (n : Nat) : List Char := Nat.toDigits 10 n

mutual

def compactChars : JsonValue → List Char
  | text s => quoted s
  | number n => numeral n
  | list items => '[' :: compactItems items ++ [']']
  | object fields => '{' :: compactFields fields ++ ['}']

def compactItems : List JsonValue → List Char
  | [] => []
  | [v] => v.compactChars
  | v :: vs => v.compactChars ++ ',' :: compactItems vs

def compactFields : List (String × JsonValue) → List Char
  | [] => []
  | [(name, v)] => quoted name ++ ':' :: v.compactChars
  | (name, v) :: fs => quoted name ++ ':' :: v.compactChars ++ ',' :: compactFields fs

end

/-- On one line. -/
def compact (v : JsonValue) : String := String.ofList v.compactChars

/-- The end of a line and the indentation of the next one. -/
def newLine (depth : Nat) : List Char := '\n' :: List.replicate (2 * depth) ' '

mutual

def prettyChars (depth : Nat) : JsonValue → List Char
  | text s => quoted s
  | number n => numeral n
  | list [] => ['[', ']']
  | list (v :: vs) =>
    '[' :: newLine (depth + 1) ++ prettyItems depth (v :: vs) ++ newLine depth ++ [']']
  | object [] => ['{', '}']
  | object (f :: fs) =>
    '{' :: newLine (depth + 1) ++ prettyFields depth (f :: fs) ++ newLine depth ++ ['}']

def prettyItems (depth : Nat) : List JsonValue → List Char
  | [] => []
  | [v] => prettyChars (depth + 1) v
  | v :: vs => prettyChars (depth + 1) v ++ ',' :: newLine (depth + 1) ++ prettyItems depth vs

def prettyFields (depth : Nat) : List (String × JsonValue) → List Char
  | [] => []
  | [(name, v)] => quoted name ++ ':' :: ' ' :: prettyChars (depth + 1) v
  | (name, v) :: fs =>
    quoted name ++ ':' :: ' ' :: prettyChars (depth + 1) v ++ ',' :: newLine (depth + 1) ++
      prettyFields depth fs

end

/-- With a line for each item. -/
def pretty (v : JsonValue) : String := String.ofList (v.prettyChars 0)

end JsonValue
end Isl
