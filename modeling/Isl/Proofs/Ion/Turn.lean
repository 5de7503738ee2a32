import Isl.Ion.Parser
/-!
# Items in turns

Every container is read in turns. A turn finds an item, or the end of the container, and says
whether another one follows. What is common to the loops over lists, expressions, structs and
whole texts is said of `collect`, and what is special to each of them of its turns.

* `listItems_eq`, `sexpItems_eq`, `structFields_eq`, `topLevel_eq`: the loops as turns.
-/
namespace Isl.Ion

variable {α : Type}

/-- What a turn comes to. -/
inductive Turn (α : Type) where
  | last (found : Option α)
  | next (found : α)

namespace Turn

def found : Turn α → Option α
  | last found => found
  | next x => some x

end Turn

/-- Takes turns until the last one. -/
def collect (turn : Reader (Turn α)) (spent : Cursor → List α → Reading (List α × Cursor)) :
    Nat → Cursor → List α → Reading (List α × Cursor)
  | 0, c, acc => spent c acc
  | budget + 1, c, acc => do
    match ← turn c with
    | (.last found, c) => .ok (acc.reverse ++ found.toList, c)
    | (.next x, c) => collect turn spent budget c (x :: acc)

/-- A turn in front of which the container may be closed. -/
def unlessClosed (closing : Char) (turn : Reader (Turn α)) : Reader (Turn α) := fun c => do
  let c ← skipBlank c
  if c.rest.head? = some closing then .ok (.last none, c.drop 1) else turn c

/-- What stands behind an item: a comma, or the end of the container. -/
def separator (closing : Char) (missing : SyntaxFault) (x : α) : Reader (Turn α) := fun c => do
  let c ← skipBlank c
  if c.rest.head? = some ',' then .ok (.next x, c.drop 1)
  else if c.rest.head? = some closing then .ok (.last (some x), c.drop 1)
  else c.fail missing

def separated (closing : Char) (missing : SyntaxFault) (item : Reader α) : Reader (Turn α) :=
  fun c => do
    let (x, c) ← item c
    separator closing missing x c

/-- An item, unless the text is at its end. -/
def unlessEnded (ended : Reader (Turn α)) (item : Reader α) : Reader (Turn α) := fun c =>
  if c.rest = [] then ended c else (item c).map fun (x, c) => (.next x, c)

/-- A name, a colon and an item. -/
def structField (limits : Limits) (item : Reader Element) : Reader Field := fun c => do
  let (name, c) ← fieldName limits c
  let c ← skipBlank c
  if c.startsWith [':', ':'] then c.fail .annotatedFieldName
  else if !c.startsWith [':'] then c.fail (.expectedCharacter ':')
  else (item (c.drop 1)).map fun (e, c) => (⟨name, e⟩, c)

def listTurn (item : Reader Element) : Reader (Turn Element) :=
  unlessClosed ']' (separated ']' .listSeparator item)

def sexpTurn (item : Reader Element) : Reader (Turn Element) :=
  unlessClosed ')' (unlessEnded (·.fail .unterminatedSexp) item)

def structTurn (limits : Limits) (item : Reader Element) : Reader (Turn Field) :=
  unlessClosed '\x7d' (separated '\x7d' .structSeparator (structField limits item))

def topTurn (item : Reader Element) : Reader (Turn Element) := fun c => do
  unlessEnded (fun c => .ok (.last none, c)) item (← skipBlank c)

variable {item : Reader Element} {limits : Limits}

theorem head?_ne {x : Char} {cs : List Char} (other : ∀ tail, cs = x :: tail → False) :
    cs.head? ≠ some x := fun front =>
  let ⟨tail, split⟩ := List.head?_eq_some_iff.1 front
  other tail split

theorem listItems_eq (budget : Nat) (c : Cursor) (acc : List Element) :
    listItems item budget c acc =
      collect (listTurn item) (fun c _ => c.fail .listSeparator) budget c acc := by
  induction budget generalizing c acc with
  | zero => rfl
  | succ budget ih =>
    rw [listItems, collect, listTurn, unlessClosed]
    cases skipBlank c with
    | error e => rfl
    | ok c =>
      simp only [bind, Except.bind]
      split
      · rename_i closed
        simp [closed]
      · rename_i open_
        rw [if_neg (head?_ne open_), separated]
        cases item c with
        | error e => rfl
        | ok read =>
          simp only [bind, Except.bind, separator]
          cases skipBlank read.2 with
          | error e => rfl
          | ok c =>
            simp only
            split
            · rename_i comma
              simp [comma, ih, listTurn]
            · rename_i comma
              simp [comma]
            · rename_i comma closed
              simp [head?_ne comma, head?_ne closed, Cursor.fail]

theorem sexpItems_eq (budget : Nat) (c : Cursor) (acc : List Element) :
    sexpItems item budget c acc =
      collect (sexpTurn item) (fun c _ => c.fail .unterminatedSexp) budget c acc := by
  induction budget generalizing c acc with
  | zero => rfl
  | succ budget ih =>
    rw [sexpItems, collect, sexpTurn, unlessClosed]
    cases skipBlank c with
    | error e => rfl
    | ok c =>
      simp only [bind, Except.bind]
      split
      · rename_i closed
        simp [closed]
      · rename_i ended
        simp [ended, unlessEnded, Cursor.fail]
      · rename_i closed ended
        rw [if_neg (head?_ne closed), unlessEnded, if_neg ended]
        cases item c with
        | error e => rfl
        | ok read => exact ih read.2 (read.1 :: acc)

theorem structFields_eq (budget : Nat) (c : Cursor) (acc : List Field) :
    structFields limits item budget c acc =
      collect (structTurn limits item) (fun c _ => c.fail .structSeparator) budget c acc := by
  induction budget generalizing c acc with
  | zero => rfl
  | succ budget ih =>
    rw [structFields, collect, structTurn, unlessClosed]
    cases skipBlank c with
    | error e => rfl
    | ok c =>
      simp only [bind, Except.bind]
      split
      · rename_i closed
        simp [closed]
      · rename_i closed
        rw [if_neg (head?_ne closed), separated, structField]
        cases fieldName limits c with
        | error e => rfl
        | ok read =>
          simp only [bind, Except.bind]
          cases skipBlank read.2 with
          | error e => rfl
          | ok c =>
            simp only
            split
            · rfl
            · split
              · rfl
              · cases item (c.drop 1) with
                | error e => rfl
                | ok value =>
                  simp only [Except.map, separator, bind, Except.bind]
                  cases skipBlank value.2 with
                  | error e => rfl
                  | ok c =>
                    simp only
                    split
                    · rename_i comma
                      simp [comma, ih, structTurn]
                    · rename_i comma
                      simp [comma]
                    · rename_i comma closed
                      simp [head?_ne comma, head?_ne closed, Cursor.fail]

theorem topLevel_eq (budget : Nat) (c : Cursor) (acc : List Element) :
    topLevel item budget c acc =
      (collect (topTurn item) (fun c acc => .ok (acc.reverse, c)) budget c acc).map (·.1) := by
  induction budget generalizing c acc with
  | zero => rfl
  | succ budget ih =>
    rw [topLevel, collect, topTurn]
    cases skipBlank c with
    | error e => rfl
    | ok c =>
      simp only [bind, Except.bind, unlessEnded]
      split
      · rename_i ended
        simp [ended, Except.map]
      · rename_i ended
        rw [if_neg ended]
        cases item c with
        | error e => rfl
        | ok read => exact ih read.2 (read.1 :: acc)

end Isl.Ion
