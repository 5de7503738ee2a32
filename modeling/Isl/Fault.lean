import Isl.Pattern.Portable
import Isl.Pattern.Size
import Isl.Range
/-!
# Schemas without meaning

What can be wrong with a value that is well formed: a range that holds nothing, a pattern outside
of the portable subset, an offset that is none.
-/
namespace Isl

inductive Defect where
  | range (fault : RangeFault)
  | portable (pattern : String) (fault : Pattern.PortableFault) (offset : Nat)
  | pattern (pattern : String) (refusal : Pattern.Refusal)
  | offset (text : String)
  | belowMinimum (measure : String) (minimum : Int) (range : String)
  | headerWithoutFooter
  | footerWithoutHeader
  /-- A build of a cached schema ended without an answer. -/
  | abandoned (key : String)
  /-- A defect that somebody else found and worded. -/
  | stated (message : String)
deriving DecidableEq, Repr

/-- What the words of a refusal begin with. Those of a malformed pattern go on with a description
of the place, which is not given here. -/
def Pattern.Refusal.message : Pattern.Refusal → String
  | malformed => "regex parse error:"
  | tooLarge => s!"Compiled regex exceeds size limit of {Pattern.Regex.memoryLimit} bytes."

def Defect.message : Defect → String
  | range fault => fault.message
  | portable source fault at_ => s!"{fault.message} in regex '{source}' at offset {at_}"
  | pattern source refusal => s!"invalid regex '{source}': {refusal.message}"
  | offset text => s!"invalid timestamp offset '{text}'; must be of the form [+|-]hh:mm"
  | belowMinimum measure minimum text =>
    s!"{measure} range must not include values below {minimum}: {text}"
  | headerWithoutFooter => "a schema with a schema_header must also have a schema_footer"
  | footerWithoutHeader => "a schema with a schema_footer must also have a schema_header"
  | abandoned key => s!"building schema '{key}' panicked"
  | stated message => message

end Isl
