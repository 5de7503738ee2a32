/-!
# Paths of files

A path is a text of steps between slashes. What a step means depends on the files; here is only
what can be read off the text.
-/
namespace Isl.FilePath

/-- The texts between the slashes. -/
def splitChars : List Char → List (List Char)
  | [] => [[]]
  | c :: cs =>
    if c = '/' then [] :: splitChars cs
    else match splitChars cs with
      | step :: steps => (c :: step) :: steps
      | [] => [[c]]

def steps (path : String) : List String := (splitChars path.toList).map String.ofList

def isAbsolute (path : String) : Bool := path.startsWith "/"

/-- The path of a name in a directory. -/
def join (directory name : String) : String :=
  if directory.isEmpty || directory.endsWith "/" then directory ++ name
  else directory ++ "/" ++ name

/-- The text of a path through these names. -/
def ofNames (names : List String) : String := "/".intercalate names

/-- The last step of the path of a file. -/
def name (path : String) : String := ((steps path).getLast?).getD ""

def dropSlashes (cs : List Char) : List Char := (cs.reverse.dropWhile (· == '/')).reverse

/-- The directory that the path of a file names it in: nothing for a name alone. -/
def parent (path : String) : String :=
  let before := (path.toList.reverse.dropWhile (· != '/')).reverse
  let trimmed := dropSlashes before
  if before.isEmpty then "" else if trimmed.isEmpty then "/" else String.ofList trimmed

/-- What follows the last dot of a name. A dot in front of the whole name does not count. -/
def extension? (name : String) : Option String :=
  let cs := name.toList.reverse
  match cs.dropWhile (· != '.') with
  | [] | [_] => none
  | _ => some (String.ofList (cs.takeWhile (· != '.')).reverse)

end Isl.FilePath
