import Mailroom.Dictionary
import Mailroom.Mime.MediaType
import Mailroom.Text.Case
import Mailroom.Text.Quoted

/-!
# The content type header

A media type and its attributes, divided by semicolons.  Reading it never fails.  Names are
kept in lower case and looked up in any case, values are kept as they are; of attributes
with one name the last counts.
-/

namespace Mailroom.Mime

open Text

/-- A content type header. -/
structure ContentType where
  /-- The name of the media type in lower case. -/
  name : Text
  /-- The attributes under their names in lower case. -/
  attributes : Dictionary
  deriving DecidableEq

namespace ContentType

/-- An attribute, with its name in lower case.  It needs an equals sign and a name. -/
def attributeOf? (segment : Text) : Option (Text × Text) :=
  (cut? ['='] segment).bind fun (left, right) =>
    let name := lower (trim left)
    if name.isEmpty then none else some (name, unquote right)

/-- The header with the given value. -/
def parse (header : Text) : ContentType :=
  match fields ';' header with
  | [] => ⟨[], .empty⟩
  | first :: segments => ⟨lower (unquote first), .ofList (segments.filterMap attributeOf?)⟩

/-- The media type that the header declares. -/
def mediaType (header : ContentType) : MediaType := .ofName header.name

/-- The value of an attribute, whose name may be in any case. -/
def attribute? (header : ContentType) (name : Text) : Option Text :=
  header.attributes.get? (lower name)

/-- The boundary of a container, unless it is empty. -/
def boundary? (header : ContentType) : Option Text :=
  (header.attribute? "boundary".toList).filter (!·.isEmpty)

end ContentType

end Mailroom.Mime
