import Mailroom.Address
import Mailroom.Attachment

/-!
# Payloads

A payload is the mail as the service takes it.  It is made step by step; each step touches
one field, and the recipients live in a personalization that the first step to need it
makes.
-/

namespace Mailroom

/-- A version of the content, of one media type. -/
structure Content where
  mediaType : Text
  value : Text
  deriving DecidableEq, Repr

/-- Recipients, with what concerns them alone. -/
structure Personalization where
  recipients : List Address := []
  cc : List Address := []
  bcc : List Address := []
  subject : Text := []
  substitutions : Dictionary := .empty
  deriving DecidableEq

/-- What the service keeps track of. -/
structure Tracking where
  clicks : Bool := false
  /-- Clicks in plain text. -/
  textClicks : Bool := false
  opens : Bool := false
  deriving DecidableEq, Repr

/-- A mail as the service takes it. -/
structure Payload where
  personalizations : List Personalization := []
  sender : Address := ⟨[], none⟩
  replyTo : Option Address := none
  content : List Content := []
  attachments : List Attachment := []
  categories : List Text := []
  customArgs : Dictionary := .empty
  templateId : Option Text := none
  /-- Whether the service checks for spam, if it is told. -/
  spamCheck : Option Bool := none
  tracking : Tracking := {}
  deriving DecidableEq

namespace Payload

/-- The payload with its first personalization changed, which is made if there is none. -/
def personalize (payload : Payload) (change : Personalization → Personalization) : Payload :=
  match payload.personalizations with
  | [] => { payload with personalizations := [change {}] }
  | first :: rest => { payload with personalizations := change first :: rest }

/-- The value of the first content of the given media type. -/
def contentOf? (payload : Payload) (mediaType : Text) : Option Text :=
  (payload.content.find? (·.mediaType == mediaType)).map (·.value)

/-- A step in making a payload. -/
inductive Update where
  /-- Makes the personalization. -/
  | personalization
  | subject (subject : Text)
  | recipients (recipients : List Address)
  | cc (address : Address)
  | bcc (address : Address)
  | substitution (name value : Text)
  | sender (address : Address)
  | replyTo (address : Option Address)
  | content (mediaType value : Text)
  | attachment (attachment : Attachment)
  | category (category : Text)
  | customArg (name value : Text)
  | templateId (id : Option Text)
  | spamCheck (enable : Option Bool)
  | clickTracking (enable enableText : Bool)
  | openTracking (enable : Bool)

/-- The payload after a step. -/
def update (payload : Payload) : Update → Payload
  | .personalization => payload.personalize id
  | .subject subject => payload.personalize fun p => { p with subject }
  | .recipients recipients => payload.personalize fun p => { p with recipients }
  | .cc address => payload.personalize fun p => { p with cc := p.cc ++ [address] }
  | .bcc address => payload.personalize fun p => { p with bcc := p.bcc ++ [address] }
  | .substitution name value =>
    payload.personalize fun p => { p with substitutions := p.substitutions.insert name value }
  | .sender address => { payload with sender := address }
  | .replyTo address => { payload with replyTo := address }
  | .content mediaType value =>
    { payload with content := payload.content ++ [⟨mediaType, value⟩] }
  | .attachment attachment =>
    { payload with attachments := payload.attachments ++ [attachment] }
  | .category category => { payload with categories := payload.categories ++ [category] }
  | .customArg name value =>
    { payload with customArgs := payload.customArgs.insert name value }
  | .templateId id => { payload with templateId := id }
  | .spamCheck enable => { payload with spamCheck := enable }
  | .clickTracking enable enableText =>
    let tracking := { payload.tracking with clicks := enable, textClicks := enableText }
    { payload with tracking }
  | .openTracking enable =>
    { payload with tracking := { payload.tracking with opens := enable } }

/-- The payload after steps, one after the other. -/
def run (payload : Payload) (steps : List Update) : Payload := steps.foldl update payload

end Payload

end Mailroom
