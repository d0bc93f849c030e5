import Mailroom.Mime.Boundary
import Mailroom.Mime.ContentType
import Mailroom.Mime.Leaf
import Mailroom.Plain.Layout

/-!
# Bodies as plain text and HTML

A body is shown as plain text, as HTML or as both, according to its content type.  The
leaves of a container are gathered, a mixed container being searched for alternatives in its
parts, and the last leaf of a kind is the body of that kind.  What cannot be taken apart is
shown whole as plain text, with a warning.
-/

namespace Mailroom.Mime

open Text

/-- What a body could not be taken for. -/
inductive Warning where
  /-- The content type is not known. -/
  | unsupportedType (header : Text)
  /-- The container declares no boundary, or none that occurs. -/
  | malformedBoundary (container : Container)
  deriving DecidableEq, Repr

/-- A warning as it is shown. -/
def Warning.message : Warning → Text
  | .unsupportedType header =>
    "content type ".toList ++ header
      ++ " is not supported, body will be sent as plain text".toList
  | .malformedBoundary container =>
    "cannot find ".toList ++ container.name
      ++ " parts: missing or unmatched boundary".toList

/-- What is extracted from a body. -/
structure Extraction where
  plain : Option Text := none
  html : Option Text := none
  warnings : List Warning := []
  deriving DecidableEq, Repr

namespace Extraction

/-- The body of the given kind. -/
def get? (e : Extraction) : Kind → Option Text
  | .plain => e.plain
  | .html => e.html

/-- The bodies that there are, plain text first. -/
def contents (e : Extraction) : List (Kind × Text) :=
  [Kind.plain, Kind.html].filterMap fun kind => (e.get? kind).map fun t => (kind, t)

/-- The warnings of a content type that is not known. -/
def unsupported (e : Extraction) : List Warning :=
  e.warnings.filter fun
    | .unsupportedType _ => true
    | .malformedBoundary _ => false

/-- The content type is known. -/
def isSupported (e : Extraction) : Bool := e.unsupported.isEmpty

end Extraction

/-! ## Leaves of a container -/

/-- The parts of a container, if it has any. -/
def segments? (boundary : Option Text) (body : Text) : Option (List Text) :=
  (boundary.map fun b => Boundary.parts b body).filter (!·.isEmpty)

/-- The leaves of alternatives that stand in a part of a mixed container.  Without a
boundary that occurs in it, the part has none. -/
def nestedLeaves (segment : Text) : List Leaf :=
  ((segments? (Boundary.find? segment) (HeaderBlock.strip segment)).getD []).filterMap Leaf.parse?

/-- The leaves that a part of a container contributes. -/
def segmentLeaves (container : Container) (segment : Text) : List Leaf :=
  if container = .mixed && sniffAlternative segment then nestedLeaves segment
  else (Leaf.parse? segment).toList

/-- The leaves of a container, if it has parts. -/
def leaves? (container : Container) (boundary : Option Text) (body : Text) :
    Option (List Leaf) :=
  (segments? boundary body).map fun segments => segments.flatMap (segmentLeaves container)

/-! ## Extraction -/

/-- The text of the last leaf of the given kind. -/
def lastText? (kind : Kind) (leaves : List Leaf) : Option Text :=
  (leaves.reverse.find? (·.kind == kind)).map Leaf.text

/-- The body of a container that declares the given boundary. -/
def extractContainer (layout : Plain.Layout) (container : Container) (boundary : Option Text)
    (body : Text) : Extraction :=
  match leaves? container boundary body with
  | some leaves => ⟨(lastText? .plain leaves).map layout.plain, lastText? .html leaves, []⟩
  | none => ⟨some (layout.plain body), none, [.malformedBoundary container]⟩

/-- The boundary of a container: the one in its content type, or else the first that
alternatives declare in their body and a mixed container in its header. -/
def containerBoundary? (container : Container) (header body : Text) : Option Text :=
  (ContentType.parse header).boundary?.or <|
    match container with
    | .alternative => Boundary.find? body
    | .mixed => Boundary.find? header

/-- The body under the given content type header. -/
def extract (layout : Plain.Layout) (header body : Text) : Extraction :=
  match (ContentType.parse header).mediaType with
  -- plain text goes through the layout, HTML is kept and shown as plain text besides
  | .text .plain => ⟨some (layout.plain body), none, []⟩
  | .text .html => ⟨some (layout.html body), some body, []⟩
  | .multipart container =>
    extractContainer layout container (containerBoundary? container header body) body
  | .other _ => ⟨some (layout.plain body), none, [.unsupportedType (trim header)]⟩

end Mailroom.Mime
