import Isl.Reader.Header
import Isl.Reader.Type
/-!
# Reading documents

A document is read item by item. What goes before the version marker belongs to no schema; without
a marker the document is of version 1.0. Between marker and footer stand at most one header, types
after it, and open content anywhere.
-/
namespace Isl.Reader

/-- The predicates of reserved words that a reader works with, version by version. -/
structure Dialect where
  isReserved : IslVersion → String → Bool

namespace Dialect

def standard : Dialect := ⟨fun v => (Vocabulary.standard v).isReserved⟩

def vocabulary (d : Dialect) (version : IslVersion) : Vocabulary := ⟨version, d.isReserved version⟩

/-- Puts other reserved words in force for one version. -/
def withReserved (d : Dialect) (version : IslVersion) (isReserved : String → Bool) : Dialect :=
  ⟨fun v => if v = version then isReserved else d.isReserved v⟩

def context (d : Dialect) (version : IslVersion) (failFast : Bool) : Context :=
  ⟨d.vocabulary version, failFast, .none⟩

end Dialect

def isMarker (e : Element) : Bool :=
  e.annotations.isEmpty && e.symbol?.any IslVersion.isMarkerLike

/-- A struct with just this annotation. -/
def isAnnotatedStruct (e : Element) (name : String) : Bool :=
  e.struct?.isSome && e.annotations == [name]

/-- How far a document has been read. -/
structure Progress where
  context : Context
  place : Section
  items : List SchemaItem
  /-- A version that is not known ends the document. -/
  stopped : Bool

namespace Progress

def version (p : Progress) : IslVersion := p.context.version

def add (p : Progress) (items : List SchemaItem) : Progress := { p with items := p.items ++ items }

end Progress

/-- Reads a version marker. -/
def markerItem (d : Dialect) (p : Progress) (path : TreePath) (marker : String) : Read Progress :=
  if p.place = .beforeMarker then
    match IslVersion.ofMarker? marker with
    | some version =>
      pure { p with
        context := { p.context with vocabulary := d.vocabulary version }, place := .beforeHeader }
    | none => do
      report p.context path (.unsupportedVersion marker)
      pure { p with stopped := true }
  else do
    report p.context path (.misplacedMarker p.place)
    pure p

/-- Reads a header, and puts in force what it declares. -/
def headerItem (p : Progress) (path : TreePath) (e : Element) : Read Progress := do
  match ← catching p.context path (headerDraft p.context path e) with
  | none => pure p
  | some draft =>
    let ctx := { p.context with declared := draft.reserved }
    let header ← catching ctx path (lift (draft.close ctx.vocabulary))
    pure (Progress.add { p with context := ctx } (header.toList.map .header))

/-- Reads an item between the marker and the end of the footer. -/
def bodyItem (p : Progress) (path : TreePath) (e : Element) : Read Progress := do
  if isAnnotatedStruct e "schema_header" then
    if p.place = .beforeHeader then
      let p ← headerItem p path e
      pure { p with place := .types }
    else
      report p.context path (.misplacedHeader p.place)
      pure { p with place := .types }
  else if isAnnotatedStruct e "type" then
    let type ← catching p.context path (namedType p.context path e)
    pure { p.add (type.toList.map .type) with place := .types }
  else if isAnnotatedStruct e "schema_footer" then
    let footer ← catching p.context path (lift (footer p.context e))
    pure { p.add (footer.toList.map .footer) with place := .afterFooter }
  else if e.annotations.any p.context.vocabulary.isReserved then
    report p.context path (.topLevel p.place e)
    pure p
  else pure (p.add [.openContent e])

def item (d : Dialect) (p : Progress) (path : TreePath) (e : Element) : Read Progress :=
  if isMarker e then markerItem d p path (e.symbol?.getD "")
  else match p.place with
    | .beforeMarker => pure p
    | .afterFooter => do
      report p.context path (.afterFooter e)
      pure p
    | _ => bodyItem p path e

/-- Reads the values from this position on. -/
def itemsFrom (d : Dialect) (i : Nat) (p : Progress) : List Element → Read Progress
  | [] => pure p
  | e :: es => do
    let p ← item d p (TreePath.root.index i) e
    if p.stopped then pure p else itemsFrom d (i + 1) p es

/-- Where a document begins: in front of its marker, or in version 1.0 if it has none. -/
def beginning (d : Dialect) (values : List Element) (failFast : Bool) : Progress :=
  if values.any isMarker then ⟨d.context .v2 failFast, .beforeMarker, [], false⟩
  else ⟨d.context .v1 failFast, .beforeHeader, [], false⟩

/-- Reads the values of a document. -/
def document (d : Dialect) (values : List Element) (failFast : Bool) :
    Except (List ReadError) SchemaDocument :=
  (finish .root (itemsFrom d 0 (beginning d values failFast) values)).map fun p =>
    ⟨none, p.version, p.items⟩

end Isl.Reader

/-! ## Reading single values -/

namespace Isl

/-- A reader of documents, and of single values of one version. -/
structure SchemaReader where
  dialect : Reader.Dialect
  version : IslVersion

namespace SchemaReader

def standard : SchemaReader := ⟨.standard, .v2⟩

def context (r : SchemaReader) (failFast : Bool) : Reader.Context :=
  r.dialect.context r.version failFast

def readSchema (r : SchemaReader) (values : List Element) (failFast : Bool) :
    Except (List ReadError) SchemaDocument :=
  Reader.document r.dialect values failFast

def readType (r : SchemaReader) (e : Element) (failFast : Bool) :
    Except (List ReadError) TypeDefinition :=
  Reader.finish .root (Reader.anonymousType (r.context failFast) .root e)

def readNamedType (r : SchemaReader) (e : Element) (failFast : Bool) :
    Except (List ReadError) NamedType :=
  Reader.finish .root (Reader.namedType (r.context failFast) .root e)

def readHeader (r : SchemaReader) (e : Element) (failFast : Bool) :
    Except (List ReadError) SchemaHeader :=
  Reader.finish .root (Reader.header (r.context failFast) .root e)

/-- Reads a footer without a header that declares anything. -/
def readFooter (r : SchemaReader) (e : Element) (failFast : Bool) :
    Except (List ReadError) SchemaFooter :=
  Reader.finish .root (Reader.lift (Reader.footer (r.context failFast) e))

end SchemaReader
end Isl
