import Isl.Error
import Isl.Ion.Value
/-!
# Streams of values

The values of one document, handed out one by one. What supplies them is asked on the first
request, and let go at the end, on failure, or when the stream is closed.
-/
namespace Isl

/-- What supplies the values of a document when it is asked. -/
abbrev ElementSource := Unit → Except SchemaError (List Element)

inductive ElementStream where
  /-- Nobody has asked yet. -/
  | pending (source : ElementSource)
  /-- These values are left. -/
  | opened (rest : List Element)
  | closed

namespace ElementStream

/-- A stream without values. -/
def empty : ElementStream := closed

def ofList (values : List Element) : ElementStream := opened values

def deferred (source : ElementSource) : ElementStream := pending source

def close (_ : ElementStream) : ElementStream := closed

def isClosed : ElementStream → Bool
  | closed => true
  | _ => false

/-- The next value of a source that has been asked. -/
def nextOf : List Element → Option (Except SchemaError Element) × ElementStream
  | [] => (none, closed)
  | e :: rest => (some (.ok e), opened rest)

/-- The next value, where a source is asked in a monad. A source that fails is reported once, and
closes the stream. -/
def nextIn {m : Type → Type} [Monad m]
    (ask : ElementSource → m (Except SchemaError (List Element))) :
    ElementStream → m (Option (Except SchemaError Element) × ElementStream)
  | pending source => do
    match ← ask source with
    | .ok values => pure (nextOf values)
    | .error e => pure (some (.error e), closed)
  | opened rest => pure (nextOf rest)
  | closed => pure (none, closed)

/-- The next value, where asking a source has no effect. -/
def next (s : ElementStream) : Option (Except SchemaError Element) × ElementStream :=
  Id.run (s.nextIn fun source => pure (source ()))

/-- All the values that are left, unless the source fails. -/
def toList : ElementStream → Except SchemaError (List Element)
  | pending source => source ()
  | opened rest => .ok rest
  | closed => .ok []

def stateName : ElementStream → String
  | pending _ => "pending"
  | opened _ => "open"
  | closed => "closed"

/-- The state of a stream, for a log. -/
def describe (s : ElementStream) : String :=
  "ElementStream \x7b state: \"" ++ s.stateName ++ "\" \x7d"

end ElementStream
end Isl
