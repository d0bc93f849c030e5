import Mailroom.Json.Record
import Mailroom.Message

/-!
# Messages as JSON

Writing a record tells every field, absent values as null.  It fails for a path that no text
spells, and with it for the request, the parameters and the message that hold the path.  Reading
takes what writing gives and is lenient in two ways: fields may come in any order among others, and
those with a default may be left out.  The records of parameters within a message may also be given
by position.
-/

namespace Mailroom

open Json

namespace Path

/-- The path as JSON, if a text spells it. -/
def toJson? (path : Path) : Option Json := path.text?.map .string

/-- The path that a value spells. -/
def ofJson? (v : Json) : Option Path := (Json.text? v).map ofText

end Path

namespace AttachmentRequest

/-- The request as JSON, if its path can be written. -/
def toJson? : AttachmentRequest → Option Json
  | .file path filename =>
    path.toJson?.map fun written =>
      .record [("filepath", written), ("filename", .ofText? filename)]
  | .content filename mediaType bytes =>
    some (.record [("filename", .string filename), ("filemime", .string mediaType),
      ("filecontent", .array (bytes.map fun b => .ofNat b.toNat))])

/-- A file with the given fields. -/
def fileOf? (members : Members) : Option AttachmentRequest := do
  let path ← required Path.ofJson? "filepath" members
  let filename ← optional text? "filename" members
  return .file path filename

/-- Contents with the given fields. -/
def contentOf? (members : Members) : Option AttachmentRequest := do
  let filename ← required text? "filename" members
  let mediaType ← required text? "filemime" members
  let bytes ← required (list? byte?) "filecontent" members
  return .content filename mediaType bytes

/-- The request that a value holds: a file if it can be read as one, and else contents. -/
def ofJson? (v : Json) : Option AttachmentRequest :=
  (members? v).bind fun members => (fileOf? members).or (contentOf? members)

end AttachmentRequest

namespace MessageParams

/-- The parameters as JSON, if every request among them can be written. -/
def toJson? (params : MessageParams) : Option Json := do
  let requests ← params.attachments.mapM AttachmentRequest.toJson?
  return .record [("api-key", .ofText? params.apiKey),
    ("uid", match params.uid with
      | none => .null
      | some uid => .ofNat uid.toNat),
    ("attachments", .array requests)]

/-- Parameters with the given fields. -/
def ofMembers? (members : Members) : Option MessageParams := do
  let apiKey ← optional text? "api-key" members
  let uid ← optional word64? "uid" members
  let attachments ← defaulted (list? AttachmentRequest.ofJson?) [] "attachments" members
  return { apiKey, uid, attachments }

/-- The parameters that an object holds. -/
def ofJson? (v : Json) : Option MessageParams := (members? v).bind ofMembers?

/-- The parameters within a message. -/
def ofField? (v : Json) : Option MessageParams :=
  (fields? ["api-key", "uid", "attachments"] 2 v).bind ofMembers?

end MessageParams

namespace TemplateParams

/-- The parameters as JSON. -/
def toJson (params : TemplateParams) : Json :=
  .record [("template-id", .ofText? params.templateId),
    ("substitutions", params.substitutions.toJson)]

/-- Parameters with the given fields. -/
def ofMembers? (members : Members) : Option TemplateParams := do
  let templateId ← optional text? "template-id" members
  let substitutions ← defaulted dictionary? .empty "substitutions" members
  return { templateId, substitutions }

/-- The parameters that an object holds. -/
def ofJson? (v : Json) : Option TemplateParams := (members? v).bind ofMembers?

/-- The parameters within a message. -/
def ofField? (v : Json) : Option TemplateParams :=
  (fields? ["template-id", "substitutions"] 1 v).bind ofMembers?

end TemplateParams

namespace Message

/-- The message as JSON, if its paths and parameters can be written. -/
def toJson? (msg : Message) : Option Json := do
  let paths ← msg.attachments.mapM Path.toJson?
  let params ← msg.params.toJson?
  return .record [("id", .string msg.id), ("module", .string msg.origin),
    ("key", .string msg.key), ("to", .string msg.recipients), ("subject", .string msg.subject),
    ("body", .array (msg.body.map .string)),
    ("headers", .array (msg.headers.map fun (name, value) =>
      .array [.string name, .string value])),
    ("send", .bool msg.send), ("attachments", .array paths), ("params", params),
    ("sendgrid", msg.template.toJson)]

/-- A message with the given fields. -/
def ofMembers? (members : Members) : Option Message := do
  let id ← required text? "id" members
  let origin ← required text? "module" members
  let key ← required text? "key" members
  let recipients ← required text? "to" members
  let subject ← required text? "subject" members
  let body ← required (list? text?) "body" members
  let headers ← required (list? textPair?) "headers" members
  let send ← required bool? "send" members
  let attachments ← defaulted (list? Path.ofJson?) [] "attachments" members
  let params ← defaulted MessageParams.ofField? {} "params" members
  let template ← defaulted TemplateParams.ofField? {} "sendgrid" members
  return {
    id, origin, key, recipients, subject, body, headers, send, attachments, params, template }

/-- The message that an object holds. -/
def ofJson? (v : Json) : Option Message := (members? v).bind ofMembers?

end Message

end Mailroom
