import Isl.Version
/-!
# Vocabulary

The words that a version of the language knows: constraints, keywords of headers and imports,
built-in types. Words that look as if a later version could need them are reserved; which ones those
are is a predicate that a reader can be given.
-/
namespace Isl

/-- The constraints of a version, in the order of their names. -/
def IslVersion.constraints : IslVersion → List String
  | v1 =>
    ["all_of", "annotations", "any_of", "byte_length", "codepoint_length", "container_length",
      "contains", "content", "element", "fields", "not", "occurs", "one_of", "ordered_elements",
      "precision", "regex", "scale", "timestamp_offset", "timestamp_precision", "type",
      "utf8_byte_length", "valid_values"]
  | v2 =>
    ["all_of", "annotations", "any_of", "byte_length", "codepoint_length", "container_length",
      "contains", "element", "exponent", "field_names", "fields", "ieee754_float", "not", "one_of",
      "ordered_elements", "precision", "regex", "timestamp_offset", "timestamp_precision", "type",
      "utf8_byte_length", "valid_values"]

def builtinTypes : List String :=
  ["blob", "bool", "clob", "decimal", "document", "float", "int", "string", "symbol", "timestamp",
    "list", "sexp", "struct", "lob", "number", "text", "any", "nothing", "$blob", "$bool", "$clob",
    "$decimal", "$float", "$int", "$string", "$symbol", "$timestamp", "$list", "$sexp", "$struct",
    "$null", "$lob", "$number", "$text", "$any"]

/-- Small letters and digits. -/
def isWordChar (c : Char) : Bool := c.isLower || c.isDigit

/-- Parts of small letters and digits between underscores; the first begins with a letter. -/
def isPlainWord (cs : List Char) : Bool :=
  (cs.take 1).any Char.isLower &&
    (IslVersion.parts cs []).all fun part => !part.isEmpty && part.all isWordChar

/-- `$ion_schema`, alone or with an underscore and the rest of a line behind it. -/
def isSystemWord (cs : List Char) : Bool :=
  let stem := "$ion_schema".toList
  stem.isPrefixOf cs &&
    (match cs.drop stem.length with
      | [] => true
      | '_' :: rest => !rest.contains '\n'
      | _ => false)

/-- The words that version 2.0 reserves for later versions. -/
def isFutureWord (s : String) : Bool := isSystemWord s.toList || isPlainWord s.toList

structure Vocabulary where
  version : IslVersion
  isReserved : String → Bool

namespace Vocabulary

/-- Version 1.0 reserves nothing. -/
def standard (version : IslVersion) : Vocabulary :=
  ⟨version, match version with
    | .v1 => fun _ => false
    | .v2 => isFutureWord⟩

def isConstraint (v : Vocabulary) (name : String) : Bool := v.version.constraints.contains name

/-- Whether headers can declare reserved fields. -/
def declaresReserved (v : Vocabulary) : Bool := v.version == .v2

def headerKeywords (v : Vocabulary) : List String :=
  if v.declaresReserved then ["imports", "user_reserved_fields"] else ["imports"]

def isHeaderKeyword (v : Vocabulary) (name : String) : Bool := v.headerKeywords.contains name

/-- Footers have no keywords. -/
def isFooterKeyword (_ : Vocabulary) (_ : String) : Bool := false

def isImportKeyword (_ : Vocabulary) (name : String) : Bool := ["id", "type", "as"].contains name

def isTypeKeyword (v : Vocabulary) (name : String) : Bool :=
  v.isConstraint name || name == "name" || name == "occurs"

def marksTopLevel (_ : Vocabulary) (name : String) : Bool :=
  ["schema_header", "schema_footer", "type"].contains name

def isBuiltinType (_ : Vocabulary) (name : String) : Bool := builtinTypes.contains name

end Vocabulary
end Isl
