import Mailroom.Json.Printer
import Mailroom.Json.Record
import Mailroom.Payload

/-!
# Payloads as JSON

The members of every object stand in a fixed order.  Empty lists and dictionaries and absent
values are left out, except for the recipients and the tracking, which are always told.
-/

namespace Mailroom

namespace Payload

/-- A member that is left out in the absence of its value. -/
def optionMember {α : Type} (name : String) (write : α → Json) : Option α → List (String × Json)
  | none => []
  | some value => [(name, write value)]

/-- A member that is left out when it holds no items. -/
def listMember {α : Type} (name : String) (write : α → Json) (items : List α) :
    List (String × Json) :=
  if items.isEmpty then [] else [(name, .array (items.map write))]

/-- A member that is left out when it holds no entries. -/
def dictionaryMember (name : String) (d : Dictionary) : List (String × Json) :=
  if d.isEmpty then [] else [(name, d.toJson)]

/-- An address. -/
def addressJson (address : Address) : Json :=
  .record ([("email", .string address.email)] ++ optionMember "name" .string address.name)

/-- A version of the content. -/
def contentJson (content : Content) : Json :=
  .record [("type", .string content.mediaType), ("value", .string content.value)]

/-- An attachment. -/
def attachmentJson (attachment : Attachment) : Json :=
  .record [("content", .string attachment.content), ("type", .string attachment.mediaType),
    ("filename", .string attachment.filename), ("disposition", .string attachment.disposition)]

/-- Recipients with what concerns them alone. -/
def personalizationJson (p : Personalization) : Json :=
  .record ([("to", .array (p.recipients.map addressJson))] ++ listMember "cc" addressJson p.cc
    ++ listMember "bcc" addressJson p.bcc ++ [("subject", .string p.subject)]
    ++ dictionaryMember "substitutions" p.substitutions)

/-- A switch. -/
def settingJson (enable : Bool) : Json := .record [("enable", .bool enable)]

/-- What the service keeps track of. -/
def trackingJson (tracking : Tracking) : Json :=
  .record [("click_tracking",
      .record [("enable", .bool tracking.clicks), ("enable_text", .bool tracking.textClicks)]),
    ("open_tracking", settingJson tracking.opens)]

/-- The payload as JSON. -/
def toJson (payload : Payload) : Json :=
  .record ([("personalizations", .array (payload.personalizations.map personalizationJson)),
      ("from", addressJson payload.sender)]
    ++ optionMember "reply_to" addressJson payload.replyTo
    ++ listMember "content" contentJson payload.content
    ++ listMember "attachments" attachmentJson payload.attachments
    ++ listMember "categories" .string payload.categories
    ++ dictionaryMember "custom_args" payload.customArgs
    ++ optionMember "template_id" .string payload.templateId
    ++ optionMember "mail_settings"
      (fun enable => .record [("spam_check", settingJson enable)]) payload.spamCheck
    ++ [("tracking_settings", trackingJson payload.tracking)])

/-- The text of the payload that is sent. -/
def toText (payload : Payload) : Text := payload.toJson.print

end Payload

end Mailroom
