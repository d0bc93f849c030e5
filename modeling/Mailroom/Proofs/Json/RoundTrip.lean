import Mailroom.Mime.Json
import Mailroom.Proofs.Message.Json
import Mailroom.Settings.Json

/-!
# Records are read back from JSON

What is written for a message, for its parameters, for settings and for extracted bodies is read
back, however loosely it is written.  Only the warnings of an extraction are lost, since they
are not written.  Everything can be written but a path that is not UTF-8, and what holds such a
path: a file to attach, the parameters with it and the message.

## Key results

* `ofJson?_of_loosens`          every record that can be written is read back from loose JSON
* `not_ofJson?_latinMessage`    a message that cannot be written
-/

namespace Mailroom

open Json

namespace Site

/-- The JSON of a site. -/
def schema : Schema := .record [("name", none, .fixed), ("mail", none, .fixed)]

/-- What is written for the settings of a site is read back. -/
theorem ofJson?_toJson (site : Site) : ofJson? site.toJson = some site := by
  simp [ofJson?, toJson, record, members?, required, member?, text?]

/-- Settings of a site are read the same from looser JSON. -/
theorem keeps_ofJson? : Keeps schema ofJson? := by
  refine keeps_record fun members members' h => ?_
  simp only [ofJson?, members?, Option.bind_eq_bind, Option.bind_some]
  iterate 2 rw [h.required rfl (keeps_fixed _) (by simp)]

end Site

namespace Service

/-- The JSON of the settings of the service. -/
def schema : Schema :=
  .record [("api-key", some .null, .fixed), ("track-clicks", some (.bool false), .fixed),
    ("track-opens", some (.bool false), .fixed), ("valid-attachment-types", some .null, .fixed)]

/-- The accepted types are written as a list of texts, which is not null. -/
theorem nullable?_types (types : List Text) :
    nullable? (list? text?) (.array (types.map .string)) = some (some types) := by
  show (list? text? (.array (types.map .string))).map some = some (some types)
  rw [list?_text?_map]
  rfl

/-- What is written for the settings of the service is read back. -/
theorem ofJson?_toJson (service : Service) : ofJson? service.toJson = some service := by
  obtain ⟨apiKey, trackClicks, trackOpens, attachmentTypes⟩ := service
  cases attachmentTypes <;>
    simp [ofJson?, toJson, record, members?, Json.optional, defaulted, member?, bool?,
      nullable?_ofText?, nullable?_null, nullable?_types]

/-- Settings of the service are read the same from looser JSON. -/
theorem keeps_ofJson? : Keeps schema ofJson? := by
  refine keeps_record fun members members' h => ?_
  simp only [ofJson?, members?, Option.bind_eq_bind, Option.bind_some]
  rw [h.optional rfl (keeps_fixed _), h.defaulted rfl (keeps_fixed _) (by rfl),
    h.defaulted rfl (keeps_fixed _) (by rfl), h.optional rfl (keeps_fixed _)]

end Service

namespace Mime

/-- The name of a kind of text is read back. -/
theorem Kind.ofJson?_toJson (kind : Kind) : Kind.ofJson? kind.toJson = some kind := by
  cases kind <;> rfl

namespace Extraction

/-- The JSON of extracted bodies. -/
def schema : Schema := .record [("plain-text", some .null, .fixed), ("html", some .null, .fixed)]

/-- Warnings are not written. -/
theorem ofJson?_toJson (e : Extraction) : ofJson? e.toJson = some { e with warnings := [] } := by
  simp [ofJson?, toJson, record, members?, Json.optional, member?, nullable?_ofText?]

/-- An extraction is read the same from looser JSON. -/
theorem keeps_ofJson? : Keeps schema ofJson? := by
  refine keeps_record fun members members' h => ?_
  simp only [ofJson?, members?, Option.bind_eq_bind, Option.bind_some]
  iterate 2 rw [h.optional rfl (keeps_fixed _)]

end Extraction

end Mime

/-- Every record is read back from what is written for it: also if, in it or in the records
within it, members are reordered or added, or fields are left out that hold what they then
stand for.  An extraction is read back without its warnings.  A message, its parameters and a
request can be written exactly if all their paths are UTF-8, and the other records always. -/
theorem ofJson?_of_loosens :
    (∀ msg : Message, (msg.toJson?.isSome ↔ ∀ path ∈ msg.paths, path.IsUtf8) ∧
      ∀ written v, msg.toJson? = some written → Loosens Message.schema written v →
        Message.ofJson? v = some msg) ∧
    (∀ params : MessageParams, (params.toJson?.isSome ↔ ∀ path ∈ params.paths, path.IsUtf8) ∧
      ∀ written v, params.toJson? = some written → Loosens MessageParams.schema written v →
        MessageParams.ofJson? v = some params) ∧
    (∀ request : AttachmentRequest,
      (request.toJson?.isSome ↔ ∀ path ∈ request.paths, path.IsUtf8) ∧
      ∀ written v, request.toJson? = some written → Loosens AttachmentRequest.schema written v →
        AttachmentRequest.ofJson? v = some request) ∧
    (∀ (params : TemplateParams) v, Loosens TemplateParams.schema params.toJson v →
      TemplateParams.ofJson? v = some params) ∧
    (∀ (service : Service) v, Loosens Service.schema service.toJson v →
      Service.ofJson? v = some service) ∧
    (∀ (site : Site) v, Loosens Site.schema site.toJson v → Site.ofJson? v = some site) ∧
    (∀ (kind : Mime.Kind) v, Loosens .fixed kind.toJson v → Mime.Kind.ofJson? v = some kind) ∧
    (∀ (e : Mime.Extraction) v, Loosens Mime.Extraction.schema e.toJson v →
      Mime.Extraction.ofJson? v = some { e with warnings := [] }) := by
  refine ⟨fun msg => ⟨msg.isSome_toJson?_iff, fun written v hwritten h => ?_⟩,
    fun params => ⟨params.isSome_toJson?_iff, fun written v hwritten h => ?_⟩,
    fun request => ⟨request.isSome_toJson?_iff, fun written v hwritten h => ?_⟩,
    fun params v h => ?_, fun service v h => ?_, fun site v h => ?_, fun kind v h => ?_,
    fun e v h => ?_⟩
  -- a reader does not notice how loosely a value is written, and reads back what is written
  · rw [Message.keeps_ofJson? _ _ h, msg.ofJson?_of_toJson? written hwritten]
  · rw [MessageParams.keeps_ofJson? _ _ h, params.ofJson?_of_toJson? written hwritten]
  · rw [AttachmentRequest.keeps_ofJson? _ _ h, request.ofJson?_of_toJson? written hwritten]
  · rw [TemplateParams.keeps_ofJson? _ _ h, TemplateParams.ofJson?_toJson]
  · rw [Service.keeps_ofJson? _ _ h, Service.ofJson?_toJson]
  · rw [Site.keeps_ofJson? _ _ h, Site.ofJson?_toJson]
  · rw [keeps_fixed Mime.Kind.ofJson? _ _ h, Mime.Kind.ofJson?_toJson]
  · rw [Mime.Extraction.keeps_ofJson? _ _ h, Mime.Extraction.ofJson?_toJson]

/-- A message with files to attach and with substitutions. -/
def attachingMessage : Message :=
  { id := "m".toList
    attachments := [.ofText "é".toList]
    params := { attachments := [.file (.ofText "f".toList) none] }
    template := { substitutions := .ofList [("a".toList, "1".toList), ("b".toList, "2".toList)] } }

/-- The members of the message that have to be there. -/
def requiredMembers : Members :=
  [("id".toList, .string "m".toList), ("module".toList, .string []), ("key".toList, .string []),
    ("to".toList, .string []), ("subject".toList, .string []), ("body".toList, .array []),
    ("headers".toList, .array []), ("send".toList, .bool true)]

/-- The file among the parameters as it is written. -/
def writtenFile : Json := .record [("filepath", .string "f".toList), ("filename", .null)]

/-- The parameters of the message as they are written. -/
def writtenParams : Json :=
  .record [("api-key", .null), ("uid", .null), ("attachments", .array [writtenFile])]

/-- The message as it is written. -/
def writtenMessage : Json :=
  .object (requiredMembers ++ [("attachments".toList, .array [.string "é".toList]),
    ("params".toList, writtenParams), ("sendgrid".toList, attachingMessage.template.toJson)])

/-- Its paths are UTF-8, so the message can be written. -/
theorem toJson?_attachingMessage : attachingMessage.toJson? = some writtenMessage := by
  have hparams : attachingMessage.params.toJson? = some writtenParams := by
    simp [MessageParams.toJson?, AttachmentRequest.toJson?, attachingMessage, writtenParams,
      writtenFile, ofText?]
  have hpaths : attachingMessage.attachments.mapM Path.toJson? = some [.string "é".toList] := by
    simp [attachingMessage]
  rw [Message.toJson?, hpaths, hparams]
  rfl

/-- The file with a note added, its name left out. -/
def looseFile : Json := .record [("note", .null), ("filepath", .string "f".toList)]

/-- The parameters of the message with that file alone. -/
def looseParams : Json := .record [("attachments", .array [looseFile])]

/-- The parameters of the service with the substitutions alone, these in another order. -/
def looseTemplate : Json :=
  .record [("substitutions", .record [("b", .string "2".toList), ("a", .string "1".toList)])]

/-- The message with these parameters and its path in front. -/
def looseMessage : Json :=
  .object (("attachments".toList, .array [.string "é".toList]) :: ("params".toList, looseParams) ::
    ("sendgrid".toList, looseTemplate) :: requiredMembers)

/-- The message is written loosely in this form. -/
theorem loosens_looseMessage : Loosens Message.schema writtenMessage looseMessage := by
  have hfile : Loosens AttachmentRequest.schema writtenFile looseFile :=
    .trans (.leaveOut "filename" [_] [] rfl (by decide)) (.add .null [] _ (by decide))
  have hparams : Loosens MessageParams.schema writtenParams looseParams :=
    .trans (.leaveOut "api-key" [] _ rfl (by decide))
      (.trans (.leaveOut "uid" [] _ rfl (by decide))
        (.field "attachments" [] [] rfl (.item [] [] hfile)))
  have htemplate : Loosens TemplateParams.schema attachingMessage.template.toJson
      looseTemplate :=
    .trans (.leaveOut "template-id" [] _ rfl (by decide))
      (.field "substitutions" [] [] rfl (.entries (.swap _ _ []) (by decide)))
  -- what can be written more loosely goes to the front and is changed there
  have hrotated : Loosens Message.schema writtenMessage (.object
      ([("attachments".toList, .array [.string "é".toList]), ("params".toList, writtenParams),
        ("sendgrid".toList, attachingMessage.template.toJson)] ++ requiredMembers)) :=
    .reorder (List.perm_append_comm : (requiredMembers ++ _).Perm (_ ++ requiredMembers)) (by decide)
  refine hrotated.trans ?_
  refine .trans (.field "params" [_] _ rfl hparams) ?_
  exact .field "sendgrid" [_, _] _ rfl htemplate

/-- The message can be written, and it is read back from its loose form. -/
theorem ofJson?_looseMessage :
    attachingMessage.toJson? = some writtenMessage ∧
      Loosens Message.schema writtenMessage looseMessage ∧
      Message.ofJson? looseMessage = some attachingMessage :=
  ⟨toJson?_attachingMessage, loosens_looseMessage,
    (ofJson?_of_loosens.1 attachingMessage).2 _ _ toJson?_attachingMessage loosens_looseMessage⟩

/-- A message with a file to attach whose name is in Latin-1: its last byte is an accented e there,
and in UTF-8 the start of a sequence that does not go on. -/
def latinMessage : Message := { attachments := [⟨[0x63, 0x61, 0x66, 0xE9]⟩] }

/-- The message is not read back from JSON, because nothing is written for it. -/
theorem not_ofJson?_latinMessage :
    ¬ ∃ v, latinMessage.toJson? = some v ∧ Message.ofJson? v = some latinMessage := by
  have hlatin : latinMessage.toJson? = none := by decide +kernel
  rintro ⟨v, hv, -⟩
  exact absurd hv (by simp [hlatin])

end Mailroom
