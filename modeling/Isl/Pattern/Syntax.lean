import Isl.Pattern.Escape
import Isl.Pattern.Size
/-!
# Syntax of patterns

In a class a `]` right behind the opening is an ordinary member, brackets nest, and `&&`, `--` and
`~~` are set operators. A repetition may follow a repetition. Groups may have names and flags, but
there is no way to look around.
-/
namespace Isl.Pattern

/-! ## Classes -/

/-- One member of a class, escaped or not. -/
def classItem? (f : Flags) : List Char → Option (Escape × List Char)
  | '\\' :: cs => Escape.read? f cs
  | c :: cs => some (.character c, cs)
  | [] => none

/-- The code point of a character. Without Unicode only those of ASCII are members of classes. -/
def memberCode? (f : Flags) (c : Char) : Option Nat :=
  if f.unicode ∨ c.toNat < 0x80 then some c.toNat else none

def itemSet? (f : Flags) : Escape → Option ClassSet
  | .character c => (memberCode? f c).map fun n => .range n n
  | .set s => some s
  | .assertion _ => none

def rangeSet? (f : Flags) : Escape → Escape → Option ClassSet
  | .character first, .character last => do
    let a ← memberCode? f first
    let b ← memberCode? f last
    if a ≤ b then some (.range a b) else none
  | _, _ => none

/-- A member, or a range of them. -/
def classRange? (f : Flags) (cs : List Char) : Option (ClassSet × List Char) := do
  let (first, rest) ← classItem? f cs
  match f.skip rest with
  | [] => none
  | '-' :: tail =>
    match f.skip tail with
    | ']' :: _ | '-' :: _ => some (← itemSet? f first, '-' :: tail)
    | tail =>
      let (last, rest) ← classItem? f tail
      some (← rangeSet? f first last, rest)
  | rest => some (← itemSet? f first, rest)

/-- A named class such as `[:alpha:]`, behind its opening bracket. -/
def asciiClass? : List Char → Option (AsciiClass × Bool × List Char)
  | ':' :: cs =>
    let (negated, cs) : Bool × List Char := match cs with
      | '^' :: cs => (true, cs)
      | cs => (false, cs)
    match cs.dropWhile (· != ':') with
    | ':' :: ']' :: rest =>
      (AsciiClass.named.lookup (String.ofList (cs.takeWhile (· != ':')))).map fun kind =>
        (kind, negated, rest)
    | _ => none
  | _ => none

/-- The union of the items, latest first. -/
def unionOf : List ClassSet → ClassSet
  | [s] => s
  | items => .union items.reverse

/-- The part of a class before a set operator, with the operator. -/
abbrev Pending := Option (ClassSet × SetOperator)

def Pending.close (pending : Pending) (items : List ClassSet) : ClassSet :=
  match pending with
  | none => unionOf items
  | some (left, op) => .operation op left (unionOf items)

/-- The hyphens in front, each as a member. -/
def hyphens (f : Flags) : Nat → List ClassSet → List Char → List ClassSet × List Char
  | fuel + 1, items, '-' :: cs => hyphens f fuel (.range 0x2D 0x2D :: items) (f.skip cs)
  | _, items, cs => (items, cs)

/-- What stands at the beginning of a class: a negation, then hyphens, or one closing bracket. -/
def classOpening (f : Flags) (cs : List Char) : Bool × List ClassSet × List Char :=
  let (negated, cs) : Bool × List Char := match f.skip cs with
    | '^' :: cs => (true, f.skip cs)
    | cs => (false, cs)
  match hyphens f cs.length [] cs with
  | ([], ']' :: cs) => (negated, [.range 0x5D 0x5D], cs)
  | (items, cs) => (negated, items, cs)

/-- Reads the rest of a class. `fuel` is more than the number of characters left. Without Unicode
nothing is negated, since that would go beyond ASCII. -/
def classRest? (f : Flags) :
    Nat → Bool → Pending → List ClassSet → List Char → Option (ClassSet × List Char)
  | 0, _, _, _, _ => none
  | fuel + 1, negated, pending, items, cs =>
    match f.skip cs with
    | [] => none
    | ']' :: cs =>
      if negated ∧ !f.unicode then none else some (.bracketed negated (pending.close items), cs)
    | '&' :: '&' :: cs =>
      classRest? f fuel negated (some (pending.close items, .intersection)) [] cs
    | '-' :: '-' :: cs =>
      classRest? f fuel negated (some (pending.close items, .difference)) [] cs
    | '~' :: '~' :: cs =>
      classRest? f fuel negated (some (pending.close items, .symmetricDifference)) [] cs
    | '[' :: cs =>
      match asciiClass? cs with
      | some (kind, inverse, cs) =>
        if inverse ∧ !f.unicode then none
        else classRest? f fuel negated pending (.ascii kind inverse :: items) cs
      | none => do
        let (inner, start, cs) := classOpening f cs
        let (s, cs) ← classRest? f fuel inner none start cs
        classRest? f fuel negated pending (s :: items) cs
    | cs => do
      let (s, cs) ← classRange? f cs
      classRest? f fuel negated pending (s :: items) cs

/-- Reads a class behind its opening bracket. -/
def class? (f : Flags) (cs : List Char) : Option (ClassSet × List Char) :=
  let (negated, items, rest) := classOpening f cs
  classRest? f (cs.length + 1) negated none items rest

/-! ## Repetitions -/

/-- The digits in front. -/
def countDigits (f : Flags) : Nat → List Char → List Char → List Char × List Char
  | fuel + 1, ds, c :: cs =>
    if c.isDigit then countDigits f fuel (c :: ds) (f.skip cs) else (ds.reverse, c :: cs)
  | _, ds, cs => (ds.reverse, cs)

/-- A count below 2 ^ 32, with blanks around it. -/
def count? (f : Flags) (cs : List Char) : Option (Nat × List Char) :=
  let cs := (f.skip cs).dropWhile Text.isBlank
  let (ds, rest) := countDigits f cs.length [] cs
  let n := ds.foldl (fun n c => n * 10 + (c.toNat - '0'.toNat)) 0
  if ds.isEmpty ∨ 0x100000000 ≤ n then none else some (n, f.skip (rest.dropWhile Text.isBlank))

/-- Reads the counts behind an opening brace, and the closing one. -/
def counts? (f : Flags) (cs : List Char) : Option (Nat × Option Nat × List Char) := do
  let (least, cs) ← count? f cs
  match cs with
  | '\x7d' :: cs => some (least, some least, cs)
  | ',' :: cs =>
    match f.skip cs with
    | '\x7d' :: cs => some (least, none, cs)
    | cs =>
      let (most, cs) ← count? f cs
      match cs with
      | '\x7d' :: cs => if least ≤ most then some (least, some most, cs) else none
      | _ => none
  | _ => none

/-- Whether a repetition takes little or much makes no difference to whether it matches. -/
def skipLazy : List Char → List Char
  | '?' :: cs => cs
  | cs => cs

/-! ## Groups and alternatives -/

def sequenceOf : List Regex → Regex
  | [] => .empty
  | [r] => r
  | items => .sequence items.reverse

def alternativesOf : List Regex → Regex
  | [r] => r
  | rs => .alternatives rs.reverse

/-- A group that is still open: its alternatives and the items of the last one, latest first. A
change of flags is an empty item. -/
structure Frame where
  alternatives : List Regex
  items : List Regex

def Frame.start : Frame := ⟨[], []⟩

def Frame.close (f : Frame) : Regex := alternativesOf (sequenceOf f.items :: f.alternatives)

def Frame.push (f : Frame) (r : Regex) : Frame := { f with items := r :: f.items }

/-- Puts a repetition in the place of the latest item. -/
def Frame.repeatLast? (f : Frame) (least : Nat) (most : Option Nat) : Option Frame :=
  match f.items with
  | [] => none
  | .empty :: _ => none
  | r :: rs => some { f with items := .repetition r least most :: rs }

/-- How a group begins. -/
inductive Opening where
  | group
  | named (name : List Char)
  /-- A group for which these flags change. -/
  | flagged (items : List Char)
  /-- No group, but a change of flags up to the end of the one around it. -/
  | change (items : List Char)

/-- Letters and underscores, and behind the first one digits, points and brackets, too. -/
def isGroupName (name : List Char) : Bool :=
  let holds (s : Unicode.CodeSet) (c : Char) : Bool :=
    Unicode.CodeRanges.contains s.ranges.toArray c.toNat
  let isLetter (c : Char) : Bool :=
    c == '_' || c.isAlpha || (0x80 ≤ c.toNat && holds Unicode.Property.alphabetic c)
  let isRest (c : Char) : Bool :=
    isLetter c || c.isDigit || ['.', '[', ']'].contains c ||
      (0x80 ≤ c.toNat && holds Unicode.Category.number c)
  match name with
  | [] => false
  | c :: cs => isLetter c && cs.all isRest

/-- A name up to a closing angle. -/
def groupName? (cs : List Char) : Option (Opening × List Char) :=
  let name := cs.takeWhile (· != '>')
  match cs.dropWhile (· != '>') with
  | _ :: rest => if isGroupName name then some (.named name, rest) else none
  | [] => none

/-- Flags up to a colon or the closing parenthesis. -/
def groupFlags? (cs : List Char) : Option (Opening × List Char) :=
  let isEnd (c : Char) : Bool := c == ':' || c == ')'
  let items := cs.takeWhile (!isEnd ·)
  if !Flags.areItems items then none
  else match cs.dropWhile (!isEnd ·) with
    | ':' :: rest => some (.flagged items, rest)
    | _ :: rest => if items.isEmpty then none else some (.change items, rest)
    | [] => none

/-- Reads the beginning of a group behind its parenthesis. -/
def opening? (f : Flags) (cs : List Char) : Option (Opening × List Char) :=
  match f.skip cs with
  | '?' :: '=' :: _ | '?' :: '!' :: _ | '?' :: '<' :: '=' :: _ | '?' :: '<' :: '!' :: _ => none
  | '?' :: 'P' :: '<' :: cs => groupName? cs
  | '?' :: '<' :: cs => groupName? cs
  | '?' :: cs => groupFlags? cs
  | cs => some (.group, cs)

/-- What is around a group that is open: the group around it, and the flags that hold again behind
it. -/
structure Around where
  frame : Frame
  flags : Flags
  /-- The open group keeps what it matches. -/
  captures : Bool

/-- Where a pattern has been read to. -/
structure Reading where
  flags : Flags
  /-- The names of groups so far. -/
  names : List (List Char)
  /-- What is around the open groups, innermost first. -/
  outer : List Around
  frame : Frame

namespace Reading

def push (p : Reading) (r : Regex) : Reading := { p with frame := p.frame.push r }

def repeatLast? (p : Reading) (least : Nat) (most : Option Nat) : Option Reading :=
  (p.frame.repeatLast? least most).map fun frame => { p with frame }

def enter (p : Reading) (captures : Bool) (flags : Flags) : Reading :=
  { p with flags, outer := ⟨p.frame, p.flags, captures⟩ :: p.outer, frame := .start }

/-- Two groups cannot have one name. -/
def open? (p : Reading) : Opening → Option Reading
  | .group => some (p.enter true p.flags)
  | .named name =>
    if p.names.contains name then none
    else some ({ p with names := name :: p.names }.enter true p.flags)
  | .flagged items => some (p.enter false (p.flags.apply items))
  | .change items => some { p.push .empty with flags := p.flags.apply items }

def close? (p : Reading) : Option Reading :=
  match p.outer with
  | [] => none
  | a :: outer =>
    some ⟨a.flags, p.names, outer, a.frame.push (.group a.captures p.frame.close)⟩

def nextAlternative (p : Reading) : Reading :=
  { p with frame := ⟨sequenceOf p.frame.items :: p.frame.alternatives, []⟩ }

def lines (p : Reading) : Lines :=
  if !p.flags.multiline then .whole else if p.flags.carriage then .carriage else .newline

/-- The dot stands for characters, so there is none without Unicode. -/
def dot? (p : Reading) : Option Regex :=
  if !p.flags.unicode then none
  else if p.flags.dotAll then some (.dot [])
  else some (.dot (if p.flags.carriage then ['\r', '\n'] else ['\n']))

def ofEscape (p : Reading) : Escape → Regex
  | .character c => .literal c p.flags.casing
  | .set s => .set s p.flags.casing
  | .assertion a => .assertion a

/-- Reads what begins with a character, and what is left behind it. -/
def step? (p : Reading) (c : Char) (cs : List Char) : Option (Reading × List Char) :=
  match c with
  | '(' => do
    let (opening, cs) ← opening? p.flags cs
    some (← p.open? opening, cs)
  | ')' => p.close?.map (·, cs)
  | '|' => some (p.nextAlternative, cs)
  | '[' => (class? p.flags cs).map fun (s, cs) => (p.push (.set s p.flags.casing), cs)
  | '?' => (p.repeatLast? 0 (some 1)).map (·, skipLazy cs)
  | '*' => (p.repeatLast? 0 none).map (·, skipLazy cs)
  | '+' => (p.repeatLast? 1 none).map (·, skipLazy cs)
  | '\x7b' => do
    let (least, most, cs) ← counts? p.flags cs
    some (← p.repeatLast? least most, skipLazy (p.flags.skip cs))
  | '\\' => (Escape.read? p.flags cs).map fun (e, cs) => (p.push (p.ofEscape e), cs)
  | '^' => some (p.push (.assertion (.lineStart p.lines)), cs)
  | '$' => some (p.push (.assertion (.lineEnd p.lines)), cs)
  | '.' => p.dot?.map fun r => (p.push r, cs)
  | c => some (p.push (.literal c p.flags.casing), cs)

/-- Reads the rest of a pattern. `fuel` is more than the number of characters left. -/
def rest? : Nat → Reading → List Char → Option Regex
  | 0, _, _ => none
  | fuel + 1, p, cs =>
    match p.flags.skip cs with
    | [] => if p.outer.isEmpty then some p.frame.close else none
    | c :: cs => do
      let (p, cs) ← p.step? c cs
      rest? fuel p cs

end Reading

/-- Reads a pattern under some flags. -/
def Regex.parse (flags : Flags) (cs : List Char) : Except Refusal Regex :=
  match Reading.rest? (cs.length + 1) ⟨flags, [], [], .start⟩ cs with
  | none => .error .malformed
  | some r => r.withinLimits

end Isl.Pattern
