import Isl.Proofs.Ion.Turn
/-!
# Reading by byte positions

All that this reader keeps is a position, counted in bytes. It sees the text only in slices, and a
slice that would cut a character in two has no value. The position is moved by the width of a
character or of a token that stands there, by what a search found, and back to where it once was. A
loop that goes round more often than there are characters has no value either.
-/
namespace Isl.Ion.Bytewise

variable {α β : Type}

/-- A result, unless the text is at fault. There is neither if a slice cuts a character in two or
a loop does not end. -/
abbrev Slicing := ExceptT SyntaxError Option

abbrev Scanner (α : Type) := Nat → Slicing (α × Nat)

/-- What comes of a loop that does not end. -/
def endless : Slicing α := ExceptT.lift none

def fail (n : Nat) (fault : SyntaxFault) : Slicing α := throw ⟨n, fault⟩

/-! ## Slices -/

/-- What is behind the first `n` bytes, if they are whole characters. -/
def behind? : List Char → Nat → Option (List Char)
  | cs, 0 => some cs
  | [], _ + 1 => none
  | c :: cs, n + 1 => if c.utf8Size ≤ n + 1 then behind? cs (n + 1 - c.utf8Size) else none

/-- How many bytes stand in front of a token. -/
def find? (token cs : List Char) : Option Nat :=
  if token.isPrefixOf cs then some 0
  else
    match cs with
    | [] => none
    | c :: cs => (find? token cs).map (c.utf8Size + ·)

/-- A text, and a bound on the rounds of a loop. -/
structure Source where
  text : List Char
  budget : Nat

section
variable (s : Source)

/-- The text from a position on. -/
def slice (n : Nat) : Slicing (List Char) := ExceptT.lift (behind? s.text n)

/-- The text between two positions. -/
def span (n m : Nat) : Slicing (List Char) := do
  let cs ← slice s n
  ExceptT.lift (if n ≤ m then bytesPrefix? (m - n) cs else none)

def peek (n : Nat) : Slicing (Option Char) := return (← slice s n).head?

def startsWith (n : Nat) (cs : List Char) : Slicing Bool := return cs.isPrefixOf (← slice s n)

def expect (n : Nat) (c : Char) : Slicing Nat := do
  if (← peek s n) = some c then return n + c.utf8Size else fail n (.expectedCharacter c)

/-- The position behind all characters of a class. -/
def passing (p : Char → Bool) : Nat → Nat → Slicing Nat
  | 0, _ => endless
  | k + 1, n => do
    match ← peek s n with
    | some c => if p c then passing p k (n + c.utf8Size) else return n
    | none => return n

/-- The longest run of characters of a class. -/
def run (p : Char → Bool) : Scanner (List Char) := fun n => do
  let behind ← passing s p s.budget n
  return (← span s n behind, behind)

/-! ## Blanks and comments -/

/-- The position behind the next newline. -/
def lineEnd : Nat → Nat → Slicing Nat
  | 0, _ => endless
  | k + 1, n => do
    match ← peek s n with
    | some c => if c = '\n' then return n + c.utf8Size else lineEnd k (n + c.utf8Size)
    | none => return n

def skipBlanks : Nat → Nat → Slicing Nat
  | 0, _ => endless
  | k + 1, n => do
    match ← slice s n with
    | [] => return n
    | c :: cs =>
      if Text.isBlank c then skipBlanks k (n + c.utf8Size)
      else if c = '/' ∧ cs.head? = some '/' then skipBlanks k (← lineEnd s s.budget n)
      else if c = '/' ∧ cs.head? = some '*' then
        match find? ['*', '/'] (← slice s (n + 2)) with
        | some width => skipBlanks k (n + (width + 4))
        | none => fail n .unterminatedComment
      else return n

def skipBlank (n : Nat) : Slicing Nat := skipBlanks s s.budget n

/-! ## Quoted text -/

def hexEscape (width : Nat) : Scanner Char := fun n => do
  let digits := (bytesPrefix? width (← slice s n)).getD []
  match (hexNumeral? digits).bind charOfNat? with
  | some x =>
    if byteCount digits = width then return (x, n + width)
    else fail n (.invalidHexEscape (String.ofList digits))
  | none => fail n (.invalidHexEscape (String.ofList digits))

/-- Reads what follows a backslash. -/
def escape : Scanner (List Char) := fun n => do
  match ← peek s n with
  | none => fail n .unterminatedEscape
  | some c =>
    let n := n + c.utf8Size
    match simpleEscape? c, hexEscapeWidth? c with
    | some run, _ => return (run, n)
    | none, some width =>
      let (x, n) ← hexEscape s width n
      return ([x], n)
    | none, none => fail n (.invalidEscape c)

def quotedText (quote : Char) : Nat → Nat → List Char → Slicing (List Char × Nat)
  | 0, _, _ => endless
  | k + 1, n, acc => do
    match ← peek s n with
    | none => fail n .unterminatedString
    | some c =>
      let n := n + c.utf8Size
      if c = quote then return (acc.reverse, n)
      else if c = '\\' then
        let (run, n) ← escape s n
        quotedText quote k n (run.reverse ++ acc)
      else if c = '\n' ∧ quote = '"' then fail n .newlineInString
      else quotedText quote k n (c :: acc)

def quoted (quote : Char) : Scanner (List Char) := fun n => do
  quotedText s quote s.budget (← expect s n quote) []

def longSegment : Nat → Nat → List Char → Slicing (List Char × Nat)
  | 0, _, _ => endless
  | k + 1, n, acc => do
    if ← startsWith s n longQuote then return (acc, n + 3)
    else
      match ← peek s n with
      | none => fail n .unterminatedLongString
      | some c =>
        let n := n + c.utf8Size
        if c = '\\' then
          let (run, n) ← escape s n
          longSegment k n (run.reverse ++ acc)
        else longSegment k n (c :: acc)

def longTexts : Nat → Nat → List Char → Slicing (List Char × Nat)
  | 0, _, _ => endless
  | k + 1, n, acc => do
    let (acc, behind) ← longSegment s s.budget (n + 3) acc
    let next ← skipBlank s behind
    if ← startsWith s next longQuote then longTexts k next acc
    else return (acc.reverse, behind)

/-- Reads adjacent long strings and goes back to the end of the last of them. -/
def longText : Scanner (List Char) := fun n => longTexts s s.budget n []

/-! ## Values -/

def symbolToken? (n : Nat) : Slicing (Option (String × Nat)) := do
  match ← peek s n with
  | none => return none
  | some x =>
    if x = '\'' ∧ !(← startsWith s n longQuote) then
      let (run, n) ← quoted s '\'' n
      return some (String.ofList run, n)
    else if isIdentStart x then
      let (run, n) ← run s isIdentChar n
      return some (String.ofList run, n)
    else return none

def annotations : Nat → Nat → List String → Slicing (List String × Nat)
  | 0, _, _ => endless
  | k + 1, n, acc => do
    let start ← skipBlank s n
    match ← symbolToken? s start with
    | none => return (acc.reverse, start)
    | some (name, behind) =>
      let behind ← skipBlank s behind
      if ← startsWith s behind [':', ':'] then annotations k (behind + 2) (name :: acc)
      else return (acc.reverse, start)

def identifierValue : Scanner Value := fun start => do
  let (name, n) ← run s isIdentChar start
  let name := String.ofList name
  if name = "null" then
    if (← peek s n) = some '.' then
      let (name, n) ← run s isIdentChar (n + 1)
      match IonType.ofName? (String.ofList name) with
      | some t => return (.null t, n)
      | none => fail start (.unknownNullType (String.ofList name))
    else return (.null .null, n)
  else if name = "true" then return (.bool true, n)
  else if name = "false" then return (.bool false, n)
  else if name = "nan" then return (.float .nan, n)
  else return (.symbol name, n)

def numeralValue : Scanner Value := fun start => do
  let (token, n) ← run s isNumeralChar start
  match numeral token with
  | .ok v => return (v, n)
  | .error fault => fail start fault

def keywordFollows (n : Nat) (keyword : List Char) : Slicing Bool := do
  if ← startsWith s n keyword then
    return !(← peek s (n + byteCount keyword)).any isIdentChar
  else return false

def lobContent : Scanner Value := fun n => do
  if (← peek s n) = some '"' then
    let (run, n) ← quoted s '"' n
    return (.clob (utf8Bytes run), n)
  else if ← startsWith s n longQuote then
    let (run, n) ← longText s n
    return (.clob (utf8Bytes run), n)
  else
    match find? ['\x7d', '\x7d'] (← slice s n) with
    | none => fail n .unterminatedBlob
    | some width =>
      let run ← span s n (n + width)
      match Base64.decode ((utf8Bytes (run.filter (!Text.isBlank ·))).map UInt8.toNat) with
      | .ok bytes => return (.blob bytes, n + width)
      | .error fault => fail n (.invalidBase64 fault)

def lob : Scanner Value := fun n => do
  let n ← skipBlank s (n + 2)
  let (v, n) ← lobContent s n
  let n ← skipBlank s n
  if ← startsWith s n ['\x7d', '\x7d'] then return (v, n + 2) else fail n .expectedLobEnd

def bareValue (container : Scanner Value) (inSexp : Bool) : Scanner Value := fun n => do
  match ← peek s n with
  | none => fail n .unexpectedEnd
  | some x =>
    if x = '\x7b' ∧ (← startsWith s n ['\x7b', '\x7b']) then lob s n
    else if x = '\x7b' ∨ x = '[' ∨ x = '(' then container n
    else if x = '"' then
      let (run, n) ← quoted s '"' n
      return (.string (String.ofList run), n)
    else if x = '\'' ∧ (← startsWith s n longQuote) then
      let (run, n) ← longText s n
      return (.string (String.ofList run), n)
    else if x = '\'' then
      let (run, n) ← quoted s '\'' n
      return (.symbol (String.ofList run), n)
    else if x = '+' ∧ (← keywordFollows s n "+inf".toList) then
      return (.float (.infinite false), n + 4)
    else if x = '-' ∧ (← keywordFollows s n "-inf".toList) then
      return (.float (.infinite true), n + 4)
    else if x.isDigit ∨ (x = '-' ∧ ((← slice s n)[1]?).any Char.isDigit) then numeralValue s n
    else if isIdentStart x then identifierValue s n
    else if inSexp ∧ isOperatorChar x then
      let (run, n) ← run s isOperatorChar n
      return (.symbol (String.ofList run), n)
    else fail n (.unexpectedCharacter x)

def annotatedValue (container : Scanner Value) (inSexp : Bool) : Scanner Element := fun n => do
  let (names, n) ← annotations s s.budget n []
  let (v, n) ← bareValue s container inSexp n
  return (⟨names, v⟩, n)

/-! ## Containers -/

def collect (turn : Scanner (Turn α)) : Nat → Nat → List α → Slicing (List α × Nat)
  | 0, _, _ => endless
  | k + 1, n, acc => do
    match ← turn n with
    | (.last found, n) => return (acc.reverse ++ found.toList, n)
    | (.next x, n) => collect turn k n (x :: acc)

def unlessClosed (closing : Char) (turn : Scanner (Turn α)) : Scanner (Turn α) := fun n => do
  let n ← skipBlank s n
  if (← peek s n) = some closing then return (.last none, n + closing.utf8Size) else turn n

def separated (closing : Char) (missing : SyntaxFault) (item : Scanner α) : Scanner (Turn α) :=
  fun n => do
    let (x, n) ← item n
    let n ← skipBlank s n
    let front ← peek s n
    if front = some ',' then return (.next x, n + ','.utf8Size)
    else if front = some closing then return (.last (some x), n + closing.utf8Size)
    else fail n missing

def unlessEnded (ended : Scanner (Turn α)) (item : Scanner α) : Scanner (Turn α) := fun n => do
  if (← peek s n) = none then ended n
  else
    let (x, n) ← item n
    return (.next x, n)

def fieldName : Scanner String := fun n => do
  match ← peek s n with
  | none => fail n .expectedFieldName
  | some x =>
    if x = '"' then
      let (run, n) ← quoted s '"' n
      return (String.ofList run, n)
    else if x = '\'' ∧ (← startsWith s n longQuote) then
      let (run, n) ← longText s n
      return (String.ofList run, n)
    else if x = '\'' then
      let (run, n) ← quoted s '\'' n
      return (String.ofList run, n)
    else if isIdentStart x then
      let (run, n) ← run s isIdentChar n
      return (String.ofList run, n)
    else fail n .expectedFieldName

def structField (item : Scanner Element) : Scanner Field := fun n => do
  let (name, n) ← fieldName s n
  let n ← skipBlank s n
  if ← startsWith s n [':', ':'] then fail n .annotatedFieldName
  else
    let (e, n) ← item (← expect s n ':')
    return (⟨name, e⟩, n)

def listTurn (item : Scanner Element) : Scanner (Turn Element) :=
  unlessClosed s ']' (separated s ']' .listSeparator item)

def sexpTurn (item : Scanner Element) : Scanner (Turn Element) :=
  unlessClosed s ')' (unlessEnded s (fail · .unterminatedSexp) item)

def structTurn (item : Scanner Element) : Scanner (Turn Field) :=
  unlessClosed s '\x7d' (separated s '\x7d' .structSeparator (structField s item))

def topTurn (item : Scanner Element) : Scanner (Turn Element) := fun n => do
  unlessEnded s (fun n => return (.last none, n)) item (← skipBlank s n)

/-- Reads a container at its opening bracket. `depth` is the limit that an error names. -/
def container (depth : Nat) : Nat → Scanner Value
  | 0 => fun n => fail n (.tooDeep depth)
  | room + 1 => fun n => do
    let item := annotatedValue s (container depth room)
    match ← peek s n with
    | some '[' =>
      let (es, n) ← collect (listTurn s (item false)) s.budget (← expect s n '[') []
      return (.list es, n)
    | some '(' =>
      let (es, n) ← collect (sexpTurn s (item true)) s.budget (← expect s n '(') []
      return (.sexp es, n)
    | _ =>
      let (fs, n) ← collect (structTurn s (item false)) s.budget (← expect s n '\x7b') []
      return (.struct fs, n)

end

/-- Reads a text. A loop goes round at most once for each character, and once more. -/
def parseWithin (depth : Nat) (text : List Char) : Slicing (List Element) := do
  let s : Source := ⟨text, text.length + 1⟩
  let (es, _) ← collect (topTurn s (annotatedValue s (container s depth depth) false)) s.budget 0 []
  return es

end Isl.Ion.Bytewise
