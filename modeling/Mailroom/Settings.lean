import Mailroom.Dictionary

/-!
# Settings

What a mailer is told about the site that sends and about the service it sends through.
Keys of the service are looked up by an identifier; how, is a matter of the provider.
-/

namespace Mailroom

open Text

/-- The site that sends, which is also the default sender. -/
structure Site where
  name : Text := []
  mail : Text := []
  deriving DecidableEq, Repr

/-- The settings of the service. -/
structure Service where
  /-- The secret key, or the identifier of one. -/
  apiKey : Option Text := none
  trackClicks : Bool := false
  trackOpens : Bool := false
  /-- The accepted media types of attachments, if they are not the default ones. -/
  attachmentTypes : Option (List Text) := none
  deriving DecidableEq, Repr

namespace Service

/-- The media types of attachments that are accepted by default. -/
def defaultAttachmentTypes : List Text :=
  ["image/", "text/", "application/pdf", "application/x-zip", "application/xml"].map
    String.toList

/-- The accepted media types of attachments. -/
def acceptedTypes (service : Service) : List Text :=
  service.attachmentTypes.getD defaultAttachmentTypes

/-- An attachment of the given media type is accepted: the type contains an accepted one. -/
def accepts (service : Service) (mediaType : Text) : Bool :=
  service.acceptedTypes.any fun accepted => contains accepted mediaType

end Service

/-- Where a mailer takes its settings from. -/
structure Provider where
  site : Site := {}
  service : Service := {}
  /-- The secret key with an identifier.  By default no key is known. -/
  resolveKey : Text → Option Text := fun _ => none

/-- Settings with the secret keys under their identifiers. -/
structure Configuration where
  site : Site := {}
  service : Service := {}
  keys : Dictionary := .empty
  deriving DecidableEq

namespace Configuration

/-- The settings with one more key, which takes the place of one with the same
identifier. -/
def withKey (config : Configuration) (id secret : Text) : Configuration :=
  { config with keys := config.keys.insert id secret }

/-- The provider of these settings. -/
def provider (config : Configuration) : Provider :=
  ⟨config.site, config.service, config.keys.get?⟩

end Configuration

end Mailroom
