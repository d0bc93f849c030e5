import Mailroom.Message.Json
import Mailroom.Proofs.Json.Schema
import Mailroom.Proofs.Path

/-!
# Messages are read back from JSON

A message is written as nested objects.  Its fields are read under their names, each from what
is written for it, so the message is read back; and the readers of its fields look at nothing
else, so it is read back from looser JSON as well.  Files and contents to attach are told apart
by the path, which contents do not have.

A path that is not UTF-8 cannot be written.  This is the only reason for which a message, or a part
of it, cannot be.

## Key results

* `Path.isSome_toJson?_iff`, `AttachmentRequest.isSome_toJson?_iff`,
  `MessageParams.isSome_toJson?_iff`, `Message.isSome_toJson?_iff`   what can be written
* `AttachmentRequest.ofJson?_of_toJson?`, `MessageParams.ofJson?_of_toJson?`,
  `TemplateParams.ofJson?_toJson`, `Message.ofJson?_of_toJson?`      what is written is read back
* `AttachmentRequest.keeps_ofJson?`, `MessageParams.keeps_ofJson?`,
  `TemplateParams.keeps_ofJson?`, `Message.keeps_ofJson?`            how loosely has no effect
-/

namespace Mailroom

open Json

namespace Path

/-- A path is written as the text that spells it. -/
theorem toJson?_eq_some_iff {path : Path} {v : Json} :
    path.toJson? = some v ↔ ∃ t, path = ofText t ∧ v = .string t := by
  rw [toJson?, Option.map_eq_some_iff]
  exact exists_congr fun t => and_congr text?_eq_some_iff eq_comm

/-- The path of a text is written as the text. -/
@[simp] theorem toJson?_ofText (t : Text) : (ofText t).toJson? = some (.string t) :=
  toJson?_eq_some_iff.2 ⟨t, rfl, rfl⟩

/-- Exactly the paths that are UTF-8 can be written. -/
theorem isSome_toJson?_iff {path : Path} : path.toJson?.isSome ↔ path.IsUtf8 := by
  rw [toJson?, Option.isSome_map, isSome_text?_iff]

/-- What is written for a path is read back. -/
theorem ofJson?_of_toJson? (path : Path) (v : Json) (h : path.toJson? = some v) :
    ofJson? v = some path := by
  obtain ⟨t, rfl, rfl⟩ := toJson?_eq_some_iff.1 h
  rfl

end Path

namespace AttachmentRequest

/-- The paths that a request holds: one or none. -/
def paths : AttachmentRequest → List Path
  | .file path _ => [path]
  | .content _ _ _ => []

/-- A file can be written exactly if its path is UTF-8, contents always. -/
theorem isSome_toJson?_iff {request : AttachmentRequest} :
    request.toJson?.isSome ↔ ∀ path ∈ request.paths, path.IsUtf8 := by
  cases request with
  | file path filename =>
    rw [toJson?, Option.isSome_map, Path.isSome_toJson?_iff, paths, List.forall_mem_singleton]
  | content => simp [toJson?, paths]

/-- The JSON of requests: the fields of files and of contents. -/
def schema : Schema :=
  .record [("filepath", none, .fixed), ("filename", some .null, .fixed),
    ("filemime", none, .fixed), ("filecontent", none, .fixed)]

/-- A request is looked for as a file first. -/
theorem ofJson?_object (members : Members) :
    ofJson? (.object members) = (fileOf? members).or (contentOf? members) :=
  rfl

/-- What is written for a request is read back.  Nothing but a file has a path, so contents are not
read as one. -/
theorem ofJson?_of_toJson? (request : AttachmentRequest) (v : Json)
    (h : request.toJson? = some v) : ofJson? v = some request := by
  cases request with
  | file path filename =>
    obtain ⟨written, hwritten, rfl⟩ := Option.map_eq_some_iff.1 h
    obtain ⟨t, rfl, rfl⟩ := Path.toJson?_eq_some_iff.1 hwritten
    have hfile : fileOf? [("filepath".toList, .string t),
        ("filename".toList, .ofText? filename)] = some (.file (.ofText t) filename) := by
      simp [fileOf?, required, Json.optional, member?, Path.ofJson?, text?, nullable?_ofText?]
    simp only [record, ofJson?_object, List.map_cons, List.map_nil, hfile, Option.some_or]
  | content filename mediaType bytes =>
    obtain rfl := Option.some.inj h
    -- contents have no path, so they are not taken for a file
    have hfile : fileOf? [("filename".toList, .string filename),
        ("filemime".toList, .string mediaType),
        ("filecontent".toList, .array (bytes.map fun b => .ofNat b.toNat))] = none := by
      simp [fileOf?, required, member?]
    have hcontent : contentOf? [("filename".toList, .string filename),
        ("filemime".toList, .string mediaType),
        ("filecontent".toList, .array (bytes.map fun b => .ofNat b.toNat))] =
          some (.content filename mediaType bytes) := by
      simp [contentOf?, required, member?, text?, list?_byte?_map]
    simp only [record, ofJson?_object, List.map_cons, List.map_nil, hfile, hcontent,
      Option.none_or]

/-- A file is read the same from looser JSON. -/
theorem fileOf?_loosens {members members' : Members}
    (h : Loosens schema (.object members) (.object members')) :
    fileOf? members' = fileOf? members := by
  rw [fileOf?, fileOf?, h.required rfl (keeps_fixed _) (by simp), h.optional rfl (keeps_fixed _)]

/-- Contents are read the same from looser JSON. -/
theorem contentOf?_loosens {members members' : Members}
    (h : Loosens schema (.object members) (.object members')) :
    contentOf? members' = contentOf? members := by
  -- a name may be left out where it is null, but null is no name of contents
  rw [contentOf?, contentOf?, h.required rfl (keeps_fixed _) (by simp [text?]),
    h.required rfl (keeps_fixed _) (by simp), h.required rfl (keeps_fixed _) (by simp)]

/-- A request is read the same from looser JSON. -/
theorem keeps_ofJson? : Keeps schema ofJson? :=
  keeps_record fun members members' h => by
    rw [ofJson?_object, ofJson?_object, fileOf?_loosens h, contentOf?_loosens h]

end AttachmentRequest

namespace MessageParams

/-- The JSON of the parameters of a message. -/
def schema : Schema :=
  .record [("api-key", some .null, .fixed), ("uid", some .null, .fixed),
    ("attachments", some (.array []), .list AttachmentRequest.schema)]

/-- The paths that the parameters of a message hold. -/
def paths (params : MessageParams) : List Path :=
  params.attachments.flatMap AttachmentRequest.paths

/-- Parameters can be written exactly if all their paths are UTF-8. -/
theorem isSome_toJson?_iff {params : MessageParams} :
    params.toJson?.isSome ↔ ∀ path ∈ params.paths, path.IsUtf8 := by
  have hrequests : params.toJson?.isSome ↔
      (params.attachments.mapM AttachmentRequest.toJson?).isSome := by
    rw [toJson?]
    cases params.attachments.mapM AttachmentRequest.toJson? <;> simp
  simp only [hrequests, isSome_mapM_iff, AttachmentRequest.isSome_toJson?_iff, paths,
    List.forall_mem_flatMap]

/-- What is written for parameters is read back. -/
theorem ofJson?_of_toJson? (params : MessageParams) (v : Json) (h : params.toJson? = some v) :
    ofJson? v = some params := by
  obtain ⟨requests, hrequests, hv⟩ := Option.bind_eq_some_iff.1 h
  obtain rfl := Option.some.inj hv
  obtain ⟨apiKey, uid, attachments⟩ := params
  have hattachments : list? AttachmentRequest.ofJson? (.array requests) = some attachments :=
    list?_of_mapM AttachmentRequest.ofJson?_of_toJson? hrequests
  cases uid <;>
    simp [ofJson?, record, members?, ofMembers?, Json.optional, defaulted, member?,
      nullable?_ofText?, nullable?_null, nullable?_word64?_ofNat, hattachments]

/-- Parameters are read the same from looser JSON. -/
theorem ofMembers?_loosens {members members' : Members}
    (h : Loosens schema (.object members) (.object members')) :
    ofMembers? members' = ofMembers? members := by
  rw [ofMembers?, ofMembers?, h.optional rfl (keeps_fixed _), h.optional rfl (keeps_fixed _),
    h.defaulted rfl AttachmentRequest.keeps_ofJson?.list (by rfl)]

/-- So are the parameters of a message. -/
theorem keeps_ofJson? : Keeps schema ofJson? := keeps_record fun _ _ => ofMembers?_loosens

/-- Parameters within a message are written as an object, and read as one. -/
theorem ofField?_of_toJson? (params : MessageParams) (v : Json) (h : params.toJson? = some v) :
    ofField? v = some params := by
  have hread := ofJson?_of_toJson? params v h
  obtain ⟨requests, -, hv⟩ := Option.bind_eq_some_iff.1 h
  obtain rfl := Option.some.inj hv
  exact hread

/-- So are they within a message. -/
theorem keeps_ofField? : Keeps schema ofField? := keeps_record fun _ _ => ofMembers?_loosens

end MessageParams

namespace TemplateParams

/-- The JSON of parameters of the service. -/
def schema : Schema :=
  .record [("template-id", some .null, .fixed),
    ("substitutions", some Dictionary.empty.toJson, .dictionary)]

/-- What is written for the parameters of the service is read back. -/
theorem ofJson?_toJson (params : TemplateParams) : ofJson? params.toJson = some params := by
  simp [ofJson?, toJson, record, members?, ofMembers?, Json.optional, defaulted,
    member?, nullable?_ofText?, Dictionary.dictionary?_toJson]

/-- Parameters of the service are read the same from looser JSON. -/
theorem ofMembers?_loosens {members members' : Members}
    (h : Loosens schema (.object members) (.object members')) :
    ofMembers? members' = ofMembers? members := by
  rw [ofMembers?, ofMembers?, h.optional rfl (keeps_fixed _),
    h.defaulted rfl keeps_dictionary (by rfl)]

/-- So they are where they stand alone. -/
theorem keeps_ofJson? : Keeps schema ofJson? := keeps_record fun _ _ => ofMembers?_loosens

/-- They are read back within a message, too. -/
theorem ofField?_toJson (params : TemplateParams) : ofField? params.toJson = some params :=
  ofJson?_toJson params

/-- Within a message they are read the same from looser JSON. -/
theorem keeps_ofField? : Keeps schema ofField? := keeps_record fun _ _ => ofMembers?_loosens

end TemplateParams

namespace Message

/-- The JSON of a message. -/
def schema : Schema :=
  .record [("id", none, .fixed), ("module", none, .fixed), ("key", none, .fixed),
    ("to", none, .fixed), ("subject", none, .fixed), ("body", none, .fixed),
    ("headers", none, .fixed), ("send", none, .fixed), ("attachments", some (.array []), .fixed),
    ("params", MessageParams.toJson? {}, MessageParams.schema),
    ("sendgrid", some (TemplateParams.toJson {}), TemplateParams.schema)]

/-- The paths that a message holds. -/
def paths (msg : Message) : List Path := msg.attachments ++ msg.params.paths

/-- A message can be written exactly if all its paths are UTF-8. -/
theorem isSome_toJson?_iff {msg : Message} :
    msg.toJson?.isSome ↔ ∀ path ∈ msg.paths, path.IsUtf8 := by
  have hparts : msg.toJson?.isSome ↔
      (msg.attachments.mapM Path.toJson?).isSome ∧ msg.params.toJson?.isSome := by
    rw [toJson?]
    cases msg.attachments.mapM Path.toJson? with
    | none => simp
    | some written => cases msg.params.toJson? <;> simp
  rw [hparts, isSome_mapM_iff, MessageParams.isSome_toJson?_iff, paths, List.forall_mem_append]
  simp only [Path.isSome_toJson?_iff]

/-- What is written for a message is read back. -/
theorem ofJson?_of_toJson? (msg : Message) (v : Json) (h : msg.toJson? = some v) :
    ofJson? v = some msg := by
  obtain ⟨written, hwritten, hrest⟩ := Option.bind_eq_some_iff.1 h
  obtain ⟨params, hparams, hv⟩ := Option.bind_eq_some_iff.1 hrest
  obtain rfl := Option.some.inj hv
  have hpaths : list? Path.ofJson? (.array written) = some msg.attachments :=
    list?_of_mapM Path.ofJson?_of_toJson? hwritten
  have hfield := MessageParams.ofField?_of_toJson? msg.params params hparams
  simp [ofJson?, record, members?, ofMembers?, required, defaulted, member?, text?, bool?,
    list?_text?_map, list?_textPair?_map, hpaths, hfield, TemplateParams.ofField?_toJson]

/-- A message is read the same from looser JSON. -/
theorem ofMembers?_loosens {members members' : Members}
    (h : Loosens schema (.object members) (.object members')) :
    ofMembers? members' = ofMembers? members := by
  -- parameters that are left out are read as the default ones, which can be written
  obtain ⟨absent, habsent⟩ : ∃ absent, MessageParams.toJson? {} = some absent := ⟨_, rfl⟩
  have hparams := MessageParams.ofField?_of_toJson? {} absent habsent
  have htemplate : TemplateParams.ofField? (TemplateParams.toJson {}) = some {} :=
    TemplateParams.ofField?_toJson {}
  rw [ofMembers?, ofMembers?]
  iterate 8 rw [h.required rfl (keeps_fixed _) (by simp)]
  rw [h.defaulted rfl (keeps_fixed _) (by rfl),
    h.defaulted (by rw [← habsent]; rfl) MessageParams.keeps_ofField? hparams,
    h.defaulted rfl TemplateParams.keeps_ofField? htemplate]

/-- The reader of messages does not notice how loosely a message is written. -/
theorem keeps_ofJson? : Keeps schema ofJson? := keeps_record fun _ _ => ofMembers?_loosens

end Message

end Mailroom
