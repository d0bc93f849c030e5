import Mailroom.Json.Record
import Mailroom.Mime.Extraction

/-!
# Extractions as JSON

Warnings are neither written nor read.
-/

namespace Mailroom.Mime

open Json

namespace Kind

/-- The name of a kind of text in a record. -/
def recordName : Kind → Text
  | .plain => "plain-text".toList
  | .html => "html".toList

/-- The kind of text with the given name in a record. -/
def ofRecordName? (name : Text) : Option Kind :=
  if name == Kind.plain.recordName then some .plain
  else if name == Kind.html.recordName then some .html
  else none

/-- The kind as JSON. -/
def toJson (kind : Kind) : Json := .string kind.recordName

/-- The kind that a value holds: its name, or an object with that name alone and null. -/
def ofJson? : Json → Option Kind
  | .string name => ofRecordName? name
  | .object members =>
    match effective members with
    | [(name, .null)] => ofRecordName? name
    | _ => none
  | _ => none

end Kind

namespace Extraction

/-- The extracted bodies as JSON. -/
def toJson (e : Extraction) : Json :=
  .record [("plain-text", .ofText? e.plain), ("html", .ofText? e.html)]

/-- The extracted bodies that an object holds. -/
def ofJson? (v : Json) : Option Extraction := do
  let members ← members? v
  let plain ← optional text? "plain-text" members
  let html ← optional text? "html" members
  return { plain, html }

end Extraction

end Mailroom.Mime
