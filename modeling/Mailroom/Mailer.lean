import Mailroom.Message
import Mailroom.Mime.Extraction
import Mailroom.Payload
import Mailroom.Text.Percent

/-!
# Mailers

A mailer turns messages into payloads, step by step: first what the settings and the message
as a whole ask for, then the headers one by one in their order, and then attachments,
template and tracking.  The body is shown under each content type header, and as plain text
if there is none.  Attachments that fail are left out.
-/

namespace Mailroom

open Text

/-- What a mailer works with. -/
structure Mailer where
  provider : Provider
  files : FileStore := {}
  layout : Plain.Layout := {}
  /-- Chooses the categories of a message, given the default ones. -/
  filterCategories : Message → List Text → List Text := fun _ given => given

/-- A payload with what its sending needs. -/
structure Prepared where
  apiKey : Text
  payload : Payload
  /-- What the sender is told about the body. -/
  warnings : List Mime.Warning
  deriving DecidableEq

/-- What becomes of a message. -/
inductive Outcome where
  /-- The message is not to be sent. -/
  | skipped
  | ready (prepared : Prepared)
  deriving DecidableEq

/-- A payload in the making, with what the sender is told about the body so far. -/
structure Draft where
  payload : Payload := {}
  warnings : List Mime.Warning := []
  deriving DecidableEq

/-- The draft after steps in making its payload. -/
def Draft.run (draft : Draft) (steps : List Payload.Update) : Draft :=
  { draft with payload := draft.payload.run steps }

/-- The headers that are read one by one. -/
inductive HeaderField where
  | contentType
  | replyTo
  | cc
  | bcc
  deriving DecidableEq, Repr

namespace HeaderField

/-- The name of a header field, in lower case. -/
def name : HeaderField → Text
  | .contentType => "content-type".toList
  | .replyTo => "reply-to".toList
  | .cc => "cc".toList
  | .bcc => "bcc".toList

/-- The header field with the given name in any case. -/
def ofName? (name : Text) : Option HeaderField :=
  [.contentType, .replyTo, .cc, .bcc].find? (·.name == lower name)

end HeaderField

/-- The name of a site as it stands in a mail: percent-encoded unless it is ASCII. -/
def Site.encodedName (site : Site) : Text :=
  if site.name.all fun c => c.toNat < 0x80 then site.name else percentEncode site.name

/-- The addresses that get a copy.  Each has a name. -/
def Address.parseCopies (value : Text) : List Address :=
  (Address.parseList value).map Address.orEmailAsName

/-- The message is one that the service must not take for spam. -/
def Message.bypassesSpamCheck (msg : Message) : Bool :=
  ["password", "commerce"].any fun word => contains word.toList msg.id

namespace Mailer

/-- The secret key for a message: its own one, or the configured one, which may be the
identifier of a key. -/
def apiKey (mailer : Mailer) (msg : Message) : Text :=
  match msg.params.apiKey with
  | some key => key
  | none =>
    let id := mailer.provider.service.apiKey.getD []
    -- an empty secret counts as none
    ((mailer.provider.resolveKey id).filter (!·.isEmpty)).getD id

/-- The sender of a message: its own one under the name of the site if it gives none, or
the site. -/
def sender (mailer : Mailer) (msg : Message) : Address :=
  let name := mailer.provider.site.encodedName
  match msg.header? "From".toList with
  | some value =>
    let address := Address.parse value
    { address with name := some (address.name.getD name) }
  | none => ⟨mailer.provider.site.mail, some name⟩

/-- The categories of a message by default. -/
def defaultCategories (mailer : Mailer) (msg : Message) : List Text :=
  [mailer.provider.site.encodedName, msg.origin, msg.id]

/-- The categories of a message, which are never empty. -/
def categories (mailer : Mailer) (msg : Message) : List Text :=
  let chosen := mailer.filterCategories msg (mailer.defaultCategories msg)
  if chosen.isEmpty then mailer.defaultCategories msg else chosen

/-- The attachment of the file at a path, if there is an acceptable file. -/
def attachFile? (mailer : Mailer) (path : Path) (filename : Option Text) : Option Attachment :=
  if mailer.files.isFile path then
    (Attachment.ofFile mailer.files mailer.provider.service path filename).toOption
  else none

/-- The attachment that is asked for, if there is one. -/
def attach? (mailer : Mailer) : AttachmentRequest → Option Attachment
  | .file path filename => mailer.attachFile? path filename
  | .content filename mediaType bytes => some (.ofContent filename mediaType bytes)

/-- The attachments of a mail. -/
def attachments (mailer : Mailer) (msg : Message) : List Attachment :=
  msg.attachments.filterMap (mailer.attachFile? · none)
    ++ msg.params.attachments.filterMap mailer.attach?

/-! ## Steps -/

/-- What is done before the headers are read. -/
def openingSteps (mailer : Mailer) (msg : Message) : List Payload.Update :=
  (if msg.bypassesSpamCheck then [.spamCheck (some false)] else [])
    ++ (msg.params.uid.toList.map fun uid =>
      .customArg "uid".toList (Nat.toDigits 10 uid.toNat))
    ++ [.sender (mailer.sender msg)]
    ++ (mailer.categories msg).map .category
    ++ [.personalization, .subject msg.subject, .recipients (Address.parseList msg.recipients)]

/-- What is done after the headers are read. -/
def closingSteps (mailer : Mailer) (msg : Message) : List Payload.Update :=
  let clicks := mailer.provider.service.trackClicks
  (mailer.attachments msg).map .attachment
    ++ (msg.template.templateId.toList.map fun id => .templateId (some id))
    ++ [.personalization]
    ++ (msg.template.substitutions.entries.map fun (name, value) => .substitution name value)
    ++ [.clickTracking clicks clicks, .openTracking mailer.provider.service.trackOpens]

/-- Adds the body as it is shown under a content type.  The sender is told if the content
type is not known. -/
def addContents (mailer : Mailer) (msg : Message) (header : Text) (draft : Draft) : Draft :=
  let e := Mime.extract mailer.layout header msg.joinedBody
  let draft := draft.run (e.contents.map fun (kind, value) => .content kind.name value)
  { draft with warnings := draft.warnings ++ e.unsupported }

/-- Reads a header.  Of several addresses for replies the last counts. -/
def readHeader (mailer : Mailer) (msg : Message) (draft : Draft) : Text × Text → Draft
  | (name, value) =>
    match HeaderField.ofName? name with
    | some .contentType => mailer.addContents msg value draft
    | some .replyTo => draft.run [.replyTo (some (Address.parse value))]
    | some .cc => draft.run (.personalization :: (Address.parseCopies value).map .cc)
    | some .bcc => draft.run (.personalization :: (Address.parseCopies value).map .bcc)
    | none => draft

/-- Reads the headers in their order.  Without a content type the body is plain text. -/
def readHeaders (mailer : Mailer) (msg : Message) (draft : Draft) : Draft :=
  let draft :=
    -- the default comes before the headers, so it is the first content
    if (msg.header? "Content-Type".toList).isNone then
      mailer.addContents msg Mime.Kind.plain.name draft
    else draft
  msg.headers.foldl (mailer.readHeader msg) draft

/-- The payload of a message, with the warnings about it. -/
def draft (mailer : Mailer) (msg : Message) : Draft :=
  (mailer.readHeaders msg (Draft.run {} (mailer.openingSteps msg))).run (mailer.closingSteps msg)

/-- What becomes of a message.  A missing key is an error even if the message is not to be
sent. -/
def build (mailer : Mailer) (msg : Message) : Except MailError Outcome :=
  let key := mailer.apiKey msg
  -- the key is asked for first, also for a message that is not to be sent
  if isBlankText key then .error .missingApiKey
  else if msg.send then
    let draft := mailer.draft msg
    .ok (.ready ⟨key, draft.payload, draft.warnings⟩)
  else .ok .skipped

end Mailer

end Mailroom
