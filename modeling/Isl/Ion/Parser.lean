import Isl.Ion.Numeral
import Isl.Ion.Printer
import Isl.Ion.Quoted
/-!
# Reading Ion text

A text is a sequence of annotated values. Containers recurse on `room`, the number of levels that
may still be opened, so the nesting limit is also what makes reading end; loops within one level
are bounded by the length of the text, which no loop can use up. `parse` answers with the values,
or with the offset of the first fault.
-/
namespace Isl.Ion

/-- The characters that symbols in expressions may be made of. -/
def isOperatorChar (c : Char) : Bool := "!#%&*+-./;<=>?@^`|~".toList.contains c

/-- The nesting limit, and a bound on the steps of any loop. -/
structure Limits where
  depth : Nat
  budget : Nat

abbrev Reader (α : Type) := Cursor → Reading (α × Cursor)

/-- A symbol in front of the cursor, identifier or quoted, if there is one. -/
def symbolToken? (c : Cursor) : Reading (Option (String × Cursor)) :=
  match c.rest with
  | [] => .ok none
  | x :: _ =>
    if x = '\'' ∧ !c.startsWith longQuote then
      (quoted? '\'' c).map fun (text, c) => some (String.ofList text, c)
    else if isIdentStart x then
      let (run, c) := c.takeWhile isIdentChar
      .ok (some (String.ofList run, c))
    else .ok none

/-- Reads every symbol that a double colon follows, and stops in front of the value. -/
def annotations : Nat → Cursor → List String → Reading (List String × Cursor)
  | 0, c, acc => .ok (acc.reverse, c)
  | budget + 1, c, acc => do
    let c ← skipBlank c
    match ← symbolToken? c with
    | none => .ok (acc.reverse, c)
    | some (name, behind) =>
      let behind ← skipBlank behind
      if behind.startsWith [':', ':'] then annotations budget (behind.drop 2) (name :: acc)
      else .ok (acc.reverse, c)

/-- Reads a keyword, a typed null or a symbol at its first letter. -/
def identifierValue (c : Cursor) : Reading (Value × Cursor) :=
  let (run, behind) := c.takeWhile isIdentChar
  let name := String.ofList run
  if name = "null" then
    match behind.rest with
    | '.' :: _ =>
      let (run, behind) := (behind.drop 1).takeWhile isIdentChar
      match IonType.ofName? (String.ofList run) with
      | some t => .ok (.null t, behind)
      | none => c.fail (.unknownNullType (String.ofList run))
    | _ => .ok (.null .null, behind)
  else if name = "true" then .ok (.bool true, behind)
  else if name = "false" then .ok (.bool false, behind)
  else if name = "nan" then .ok (.float .nan, behind)
  else .ok (.symbol name, behind)

def numeralValue (c : Cursor) : Reading (Value × Cursor) :=
  let (run, behind) := c.takeWhile isNumeralChar
  match numeral run with
  | .ok v => .ok (v, behind)
  | .error fault => c.fail fault

/-- The keyword stands in front of the cursor and no longer identifier does. -/
def keywordFollows (c : Cursor) (keyword : List Char) : Bool :=
  c.startsWith keyword && !((c.rest.drop keyword.length).take 1).any isIdentChar

def utf8Bytes (cs : List Char) : List UInt8 := cs.flatMap String.utf8EncodeChar

/-- The characters before the first closing braces, if there are any. -/
def beforeLobEnd? : List Char → List Char → Option (List Char)
  | '\x7d' :: '\x7d' :: _, acc => some acc.reverse
  | c :: cs, acc => beforeLobEnd? cs (c :: acc)
  | [], _ => none

def lobContent (limits : Limits) (c : Cursor) : Reading (Value × Cursor) := do
  match c.rest with
  | '"' :: _ => (quoted? '"' c).map fun (text, c) => (.clob (utf8Bytes text), c)
  | _ =>
    if c.startsWith longQuote then
      (longText limits.budget c []).map fun (text, c) => (.clob (utf8Bytes text), c)
    else
      match beforeLobEnd? c.rest [] with
      | none => c.fail .unterminatedBlob
      | some run =>
        match Base64.decode ((utf8Bytes (run.filter (!Text.isBlank ·))).map UInt8.toNat) with
        | .ok bytes => .ok (.blob bytes, c.drop run.length)
        | .error fault => c.fail (.invalidBase64 fault)

/-- Reads a clob or a blob at its opening braces. -/
def lob (limits : Limits) (c : Cursor) : Reading (Value × Cursor) := do
  let c ← skipBlank (c.drop 2)
  let (v, c) ← lobContent limits c
  let c ← skipBlank c
  if c.startsWith ['\x7d', '\x7d'] then .ok (v, c.drop 2) else c.fail .expectedLobEnd

/-- Reads a value without annotations. -/
def bareValue (limits : Limits) (container : Reader Value) (inSexp : Bool) (c : Cursor) :
    Reading (Value × Cursor) :=
  match c.rest with
  | [] => c.fail .unexpectedEnd
  | x :: cs =>
    if x = '\x7b' ∧ cs.head? = some '\x7b' then lob limits c
    else if x = '\x7b' ∨ x = '[' ∨ x = '(' then container c
    else if x = '"' then (quoted? '"' c).map fun (text, c) => (.string (String.ofList text), c)
    else if c.startsWith longQuote then
      (longText limits.budget c []).map fun (text, c) => (.string (String.ofList text), c)
    else if x = '\'' then
      (quoted? '\'' c).map fun (text, c) => (.symbol (String.ofList text), c)
    else if keywordFollows c "+inf".toList then .ok (.float (.infinite false), c.drop 4)
    else if keywordFollows c "-inf".toList then .ok (.float (.infinite true), c.drop 4)
    else if x.isDigit ∨ (x = '-' ∧ (cs.take 1).any Char.isDigit) then numeralValue c
    else if isIdentStart x then identifierValue c
    else if inSexp ∧ isOperatorChar x then
      let (run, c) := c.takeWhile isOperatorChar
      .ok (.symbol (String.ofList run), c)
    else c.fail (.unexpectedCharacter x)

/-- Reads annotations and the value behind them. -/
def annotatedValue (limits : Limits) (container : Reader Value) (inSexp : Bool) :
    Reader Element := fun c => do
  let (names, c) ← annotations limits.budget c []
  let (v, c) ← bareValue limits container inSexp c
  .ok (⟨names, v⟩, c)

/-- Reads list items up to the closing bracket. -/
def listItems (item : Reader Element) :
    Nat → Cursor → List Element → Reading (List Element × Cursor)
  | 0, c, _ => c.fail .listSeparator
  | budget + 1, c, acc => do
    let c ← skipBlank c
    match c.rest with
    | ']' :: _ => .ok (acc.reverse, c.drop 1)
    | _ =>
      let (e, c) ← item c
      let c ← skipBlank c
      match c.rest with
      | ',' :: _ => listItems item budget (c.drop 1) (e :: acc)
      | ']' :: _ => .ok ((e :: acc).reverse, c.drop 1)
      | _ => c.fail .listSeparator

/-- Reads the items of an expression up to the closing parenthesis. -/
def sexpItems (item : Reader Element) :
    Nat → Cursor → List Element → Reading (List Element × Cursor)
  | 0, c, _ => c.fail .unterminatedSexp
  | budget + 1, c, acc => do
    let c ← skipBlank c
    match c.rest with
    | ')' :: _ => .ok (acc.reverse, c.drop 1)
    | [] => c.fail .unterminatedSexp
    | _ =>
      let (e, c) ← item c
      sexpItems item budget c (e :: acc)

/-- Reads a field name: a string, a quoted symbol or an identifier. -/
def fieldName (limits : Limits) (c : Cursor) : Reading (String × Cursor) :=
  match c.rest with
  | [] => c.fail .expectedFieldName
  | x :: _ =>
    if x = '"' then (quoted? '"' c).map fun (text, c) => (String.ofList text, c)
    else if c.startsWith longQuote then
      (longText limits.budget c []).map fun (text, c) => (String.ofList text, c)
    else if x = '\'' then (quoted? '\'' c).map fun (text, c) => (String.ofList text, c)
    else if isIdentStart x then
      let (run, c) := c.takeWhile isIdentChar
      .ok (String.ofList run, c)
    else c.fail .expectedFieldName

/-- Reads fields up to the closing brace. -/
def structFields (limits : Limits) (item : Reader Element) :
    Nat → Cursor → List Field → Reading (List Field × Cursor)
  | 0, c, _ => c.fail .structSeparator
  | budget + 1, c, acc => do
    let c ← skipBlank c
    match c.rest with
    | '\x7d' :: _ => .ok (acc.reverse, c.drop 1)
    | _ =>
      let (name, c) ← fieldName limits c
      let c ← skipBlank c
      if c.startsWith [':', ':'] then c.fail .annotatedFieldName
      else if !c.startsWith [':'] then c.fail (.expectedCharacter ':')
      else
        let (e, c) ← item (c.drop 1)
        let c ← skipBlank c
        match c.rest with
        | ',' :: _ => structFields limits item budget (c.drop 1) (⟨name, e⟩ :: acc)
        | '\x7d' :: _ => .ok ((⟨name, e⟩ :: acc).reverse, c.drop 1)
        | _ => c.fail .structSeparator

/-- Reads a list, an expression or a struct at its opening bracket. -/
def container (limits : Limits) : Nat → Reader Value
  | 0 => fun c => c.fail (.tooDeep limits.depth)
  | room + 1 => fun c =>
    let item := annotatedValue limits (container limits room)
    match c.rest with
    | '[' :: _ =>
      (listItems (item false) limits.budget (c.drop 1) []).map fun (es, c) => (.list es, c)
    | '(' :: _ =>
      (sexpItems (item true) limits.budget (c.drop 1) []).map fun (es, c) => (.sexp es, c)
    | _ =>
      (structFields limits (item false) limits.budget (c.drop 1) []).map fun (fs, c) =>
        (.struct fs, c)

/-- Reads values up to the end of the text. -/
def topLevel (item : Reader Element) : Nat → Cursor → List Element →
    Except SyntaxError (List Element)
  | 0, _, acc => .ok acc.reverse
  | budget + 1, c, acc => do
    let c ← skipBlank c
    match c.rest with
    | [] => .ok acc.reverse
    | _ =>
      let (e, c) ← item c
      topLevel item budget c (e :: acc)

/-- Levels of nesting that are read unless another limit is set. -/
def defaultDepth : Nat := 1024

/-- Reads a text, opening at most `depth` levels of containers. -/
def parseWithin (depth : Nat) (text : String) : Except SyntaxError (List Element) :=
  let cs := text.toList
  let limits : Limits := ⟨depth, cs.length + 1⟩
  topLevel (annotatedValue limits (container limits depth) false) limits.budget ⟨cs, 0⟩ []

def parse (text : String) : Except SyntaxError (List Element) := parseWithin defaultDepth text

end Isl.Ion
