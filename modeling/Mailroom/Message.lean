import Mailroom.Dictionary
import Mailroom.Path

/-!
# Messages

A message is what a module of the site asks to be sent: recipients, subject, the chunks of
the body, headers in their order, and parameters.
-/

namespace Mailroom

open Text

/-- What a message asks to be attached. -/
inductive AttachmentRequest where
  /-- A file, under its own name or another one. -/
  | file (path : Path) (filename : Option Text)
  /-- The given contents. -/
  | content (filename mediaType : Text) (bytes : Bytes)
  deriving DecidableEq, Repr

/-- The parameters of a message. -/
structure MessageParams where
  /-- The secret key of the service, in the place of the configured one. -/
  apiKey : Option Text := none
  /-- The account of the recipient. -/
  uid : Option UInt64 := none
  attachments : List AttachmentRequest := []
  deriving DecidableEq

/-- The parameters of a message that concern the service. -/
structure TemplateParams where
  templateId : Option Text := none
  substitutions : Dictionary := .empty
  deriving DecidableEq

/-- A message. -/
structure Message where
  id : Text := []
  /-- The module that sends the message. -/
  origin : Text := []
  /-- The name of the message within its module. -/
  key : Text := []
  /-- The recipients, divided by commas. -/
  recipients : Text := []
  subject : Text := []
  /-- The chunks of the body. -/
  body : List Text := []
  headers : List (Text × Text) := []
  /-- Whether the message is to be sent at all. -/
  send : Bool := true
  /-- The paths of the files to attach. -/
  attachments : List Path := []
  params : MessageParams := {}
  template : TemplateParams := {}
  deriving DecidableEq

namespace Message

/-- The message `key` of the module `origin`. -/
def ofKey (origin key : Text) : Message := { id := origin ++ '_' :: key, origin, key }

/-- The value of the first header with the given name in any ASCII case. -/
def header? (msg : Message) (name : Text) : Option Text :=
  (msg.headers.find? fun (key, _) => equalsAnyCase key name).map (·.2)

/-- The body: its chunks, an empty line between neighbours. -/
def joinedBody (msg : Message) : Text := join ['\n', '\n'] msg.body

/-- The message with its body in a single chunk. -/
def format (msg : Message) : Message := { msg with body := [msg.joinedBody] }

/-- A step in making a message. -/
inductive Edit where
  | recipients (recipients : Text)
  | subject (subject : Text)
  /-- One more chunk of the body. -/
  | body (chunk : Text)
  /-- One more header. -/
  | header (name value : Text)
  | send (send : Bool)
  /-- One more file to attach. -/
  | attachment (path : Path)
  /-- One more attachment among the parameters. -/
  | attach (request : AttachmentRequest)
  /-- Joins the body. -/
  | format

/-- The message after a step. -/
def edit (msg : Message) : Edit → Message
  | .recipients recipients => { msg with recipients }
  | .subject subject => { msg with subject }
  | .body chunk => { msg with body := msg.body ++ [chunk] }
  | .header name value => { msg with headers := msg.headers ++ [(name, value)] }
  | .send send => { msg with send }
  | .attachment path => { msg with attachments := msg.attachments ++ [path] }
  | .attach request =>
    { msg with params := { msg.params with attachments := msg.params.attachments ++ [request] } }
  | .format => msg.format

end Message

end Mailroom
