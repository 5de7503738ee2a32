/-!
# Commands

What the arguments of the program ask for. Each command takes one name, and options before or after
it; a flag is given at most once, and so is an option that takes one value.
-/
namespace Isl

inductive Command where
  /-- Checks a file, or all schema files below a directory. -/
  | lint (path style : String) (strict quiet : Bool)
  /-- Loads a schema and lists its types and imports. -/
  | load (id : String) (bases : List String) (allowTransitive json : Bool)
  /-- Reads a document and writes it in canonical form. -/
  | format (file : String) (output : Option String)
deriving DecidableEq, Repr

/-- What the program does if it runs no command. -/
inductive Instead where
  | usage
  | help
  | version
deriving DecidableEq, Repr

namespace Command

/-- The options that a command knows. -/
structure Options where
  /-- Flags by their long names. -/
  flags : List String
  /-- Flags that go by one character too. -/
  short : List (Char × String)
  /-- Options that take a value, and whether they may be repeated. -/
  valued : List (String × Bool)

/-- What has been given so far. -/
structure Given where
  /-- What the command is about. -/
  name? : Option String
  flags : List String
  values : List (String × String)

namespace Given

def nothing : Given := ⟨none, [], []⟩

/-- A command takes one name. -/
def addName (g : Given) (name : String) : Except Instead Given :=
  if g.name?.isSome then .error .usage else .ok { g with name? := some name }

def addFlag (g : Given) (flag : String) : Except Instead Given :=
  if flag ∈ g.flags then .error .usage else .ok { g with flags := flag :: g.flags }

def addValue (g : Given) (o : Options) (option value : String) : Except Instead Given :=
  if g.values.any (·.1 == option) && (o.valued.lookup option) != some true then .error .usage
  else .ok { g with values := g.values ++ [(option, value)] }

def has (g : Given) (flag : String) : Bool := g.flags.contains flag

def valuesOf (g : Given) (option : String) : List String :=
  g.values.filterMap fun v => if v.1 == option then some v.2 else none

end Given

/-- Reads the characters behind a single hyphen. -/
def addShort (o : Options) (g : Given) : List Char → Except Instead Given
  | [] => .ok g
  | c :: cs =>
    if c = 'h' then .error .help
    else match o.short.lookup c with
      | some flag => do addShort o (← g.addFlag flag) cs
      | none => .error .usage

/-- The name behind two hyphens, and the value behind an equals sign. -/
def splitOption (arg : List Char) : String × Option String :=
  match arg.span (· != '=') with
  | (name, []) => (String.ofList name, none)
  | (name, _ :: value) => (String.ofList name, some (String.ofList value))

/-- Whether an argument can be read as an option. -/
def looksLikeOption (arg : String) : Bool := arg.startsWith "-" && arg != "-"

/-- Reads arguments one by one. After two hyphens alone, all the rest are names. -/
def collect (o : Options) (g : Given) : List String → Except Instead Given
  | [] => .ok g
  | arg :: rest =>
    match arg.toList with
    | ['-', '-'] => rest.foldlM Given.addName g
    | '-' :: '-' :: cs =>
      match splitOption cs with
      | (name, none) =>
        if name == "help" then .error .help
        else if o.flags.contains name then do collect o (← g.addFlag name) rest
        else if (o.valued.lookup name).isSome then
          match rest with
          | [] => .error .usage
          | value :: rest =>
            if looksLikeOption value then .error .usage
            else do collect o (← g.addValue o name value) rest
        else .error .usage
      | (name, some value) =>
        if (o.valued.lookup name).isSome then do collect o (← g.addValue o name value) rest
        else .error .usage
    | '-' :: c :: cs => do collect o (← addShort o g (c :: cs)) rest
    | _ => do collect o (← g.addName arg) rest

def requireName (g : Given) : Except Instead String := g.name?.elim (.error .usage) .ok

/-- A path has to have characters. -/
def checkPath (path : String) : Except Instead String :=
  if path.isEmpty then .error .usage else .ok path

def parseLint (args : List String) : Except Instead Command := do
  let g ← collect ⟨["strict", "quiet"], [('q', "quiet")], [("format", false)]⟩ .nothing args
  let path ← checkPath (← requireName g)
  return lint path ((g.valuesOf "format").headD "text") (g.has "strict") (g.has "quiet")

def parseLoad (args : List String) : Except Instead Command := do
  let g ← collect ⟨["allow-transitive-imports", "json"], [], [("base", true)]⟩ .nothing args
  let id ← requireName g
  let bases := g.valuesOf "base"
  return load id (if bases.isEmpty then ["."] else bases) (g.has "allow-transitive-imports")
    (g.has "json")

def parseFormat (args : List String) : Except Instead Command := do
  let g ← collect ⟨[], [], [("output", false)]⟩ .nothing args
  let file ← checkPath (← requireName g)
  let output ← (g.valuesOf "output").head?.mapM checkPath
  return format file output

/-- The words that help can be asked on. -/
def topics : List String := ["lint", "load", "fmt", "help"]

/-- Reads the arguments of the program. -/
def parse : List String → Except Instead Command
  | [] => .error .usage
  | first :: rest =>
    match first with
    | "lint" => parseLint rest
    | "load" => parseLoad rest
    | "fmt" => parseFormat rest
    | "help" => .error (if rest.all topics.contains then .help else .usage)
    | "--help" => .error .help
    | "--version" => .error .version
    | _ =>
      match first.toList with
      | '-' :: 'h' :: _ => .error .help
      | '-' :: 'V' :: _ => .error .version
      | _ => .error .usage

end Command
end Isl
