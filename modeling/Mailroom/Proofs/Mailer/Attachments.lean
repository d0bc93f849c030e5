import Mathlib.Data.List.Basic
import Mailroom.Proofs.Base64
import Mailroom.Proofs.Mailer.Draft

/-!
# The attachments of a mail

A message asks for attachments by the paths of files and by requests among its parameters.  Each of
them is met or left out by itself: a file has to be there and of an accepted media type, and
contents at hand are always attached.  So the attachments of a mail stand in the order in which they
are asked for, and what cannot be attached changes nothing about the others.

## Key results

* `ofFile_eq_ok_iff`     when a file is attached, and as what
* `attachFile?_eq`       that there is a file is checked twice, to no further effect
* `attachments_build`    the attachments of a mail are what each request gives by itself
-/

namespace Mailroom

open Text

/-- A media type is accepted if it contains an accepted one. -/
theorem Service.accepts_iff {service : Service} {mediaType : Text} :
    service.accepts mediaType ↔ ∃ accepted ∈ service.acceptedTypes, accepted <:+: mediaType := by
  simp only [accepts, List.any_eq_true, contains_iff]

namespace Attachment

/-- The attachment carries the bytes under a name and as a media type. -/
structure Carries (attachment : Attachment) (filename mediaType : Text) (bytes : Bytes) : Prop where
  content : Base64.decode? attachment.content = some bytes
  mediaType : attachment.mediaType = mediaType
  filename : attachment.filename = filename
  disposition : attachment.disposition = "attachment".toList

/-- The one attachment that carries the bytes is made of them. -/
theorem carries_iff {attachment : Attachment} {filename mediaType : Text} {bytes : Bytes} :
    attachment.Carries filename mediaType bytes ↔
      attachment = ofContent filename mediaType bytes := by
  constructor
  · rintro ⟨hcontent, rfl, rfl, hdisposition⟩
    rw [ofContent, ← Base64.decode?_eq_some_iff.1 hcontent, ← hdisposition]
  · rintro rfl
    exact ⟨Base64.decode?_eq_some_iff.2 rfl, rfl, rfl, rfl⟩

variable {store : FileStore} {service : Service} {path : Path} {filename : Option Text}

/-- A file is attached if it is there and of an accepted media type. -/
theorem ofFile_eq_ok_iff {attachment : Attachment} :
    ofFile store service path filename = .ok attachment ↔
      ∃ bytes, store.read? path = some bytes ∧ service.accepts (store.mediaTypeOf bytes) ∧
        attachment =
          ofContent (filename.getD path.fileName) (store.mediaTypeOf bytes) bytes := by
  unfold ofFile
  cases store.read? path with
  | none => simp
  | some bytes =>
    by_cases haccepts : service.accepts (store.mediaTypeOf bytes)
    · simp only [haccepts, if_true, Except.ok.injEq, Option.some.injEq, true_and, exists_eq_left']
      exact eq_comm
    · simp [haccepts]

end Attachment

/-- What a message asks to be attached, paths first. -/
def Message.requests (msg : Message) : List AttachmentRequest :=
  msg.attachments.map (.file · none) ++ msg.params.attachments

/-- The message with a single request. -/
def Message.requesting (msg : Message) (request : AttachmentRequest) : Message :=
  { msg with attachments := [], params := { msg.params with attachments := [request] } }

namespace Mailer

variable {mailer : Mailer} {msg : Message} {prepared : Prepared}

/-- The attachments that a request gives by itself: one or none. -/
def given (mailer : Mailer) : AttachmentRequest → List Attachment
  | .file path filename =>
    (Attachment.ofFile mailer.files mailer.provider.service path filename).toOption.toList
  | .content filename mediaType bytes => [.ofContent filename mediaType bytes]

/-- The request gives an attachment. -/
def isMet (mailer : Mailer) (request : AttachmentRequest) : Bool :=
  !(mailer.given request).isEmpty

/-- To check first that there is a file makes no difference. -/
theorem attachFile?_eq (mailer : Mailer) (path : Path) (filename : Option Text) :
    mailer.attachFile? path filename =
      (Attachment.ofFile mailer.files mailer.provider.service path filename).toOption := by
  unfold attachFile? FileStore.isFile Attachment.ofFile
  cases mailer.files.read? path <;> rfl

/-- A request gives one attachment or none. -/
theorem toList_attach? (mailer : Mailer) (request : AttachmentRequest) :
    (mailer.attach? request).toList = mailer.given request := by
  cases request with
  | file path filename => rw [attach?, attachFile?_eq, given]
  | content => rfl

/-- The attachments are those of the requests, one after the other. -/
theorem attachments_eq_flatMap (mailer : Mailer) (msg : Message) :
    mailer.attachments msg = msg.requests.flatMap mailer.given := by
  have hgiven : mailer.given = fun request => (mailer.attach? request).toList :=
    funext fun request => (toList_attach? mailer request).symm
  -- a path alone asks for the file under its own name
  have hpaths : msg.attachments.filterMap (mailer.attachFile? · none) =
      (msg.attachments.map (.file · none)).filterMap mailer.attach? := by
    rw [List.filterMap_map]
    rfl
  rw [attachments, hpaths, ← List.filterMap_append, ← Message.requests, hgiven,
    List.filterMap_eq_flatMap_toList]

/-- A file gives an attachment exactly if it is there and of an accepted media type. -/
theorem mem_given_file_iff {path : Path} {filename : Option Text} {attachment : Attachment} :
    attachment ∈ mailer.given (.file path filename) ↔
      ∃ bytes, mailer.files.read? path = some bytes ∧
        (∃ accepted ∈ mailer.provider.service.acceptedTypes,
          accepted <:+: mailer.files.mediaTypeOf bytes) ∧
        attachment.Carries (filename.getD path.fileName) (mailer.files.mediaTypeOf bytes)
          bytes := by
  have hok : attachment ∈ mailer.given (.file path filename) ↔
      Attachment.ofFile mailer.files mailer.provider.service path filename = .ok attachment := by
    rw [given, Option.mem_toList]
    cases Attachment.ofFile mailer.files mailer.provider.service path filename <;>
      simp [Except.toOption]
  simp only [hok, Attachment.ofFile_eq_ok_iff, Service.accepts_iff, Attachment.carries_iff]

/-- Requests that give nothing may be left out. -/
theorem flatMap_given_filter_isMet (mailer : Mailer) (requests : List AttachmentRequest) :
    (requests.filter mailer.isMet).flatMap mailer.given =
      requests.flatMap mailer.given := by
  induction requests with
  | nil => rfl
  | cons request requests ih =>
    rw [List.filter_cons, List.flatMap_cons, ← ih, isMet]
    -- a request that is left out adds nothing on the other side either
    cases hgiven : mailer.given request with
    | nil => rfl
    | cons => rw [List.isEmpty_cons, Bool.not_false, if_pos rfl, List.flatMap_cons, hgiven]

/-- The attachments of a built mail are what its requests give, in their order. -/
theorem attachments_eq_of_ready (h : mailer.build msg = .ok (.ready prepared)) :
    prepared.payload.attachments = msg.requests.flatMap mailer.given := by
  obtain ⟨-, -, rfl⟩ := build_eq_ready_iff.1 h
  rw [draft_eq]
  exact attachments_eq_flatMap mailer msg

/-- The attachments of a mail are what its requests give, one after the other: each gives what it
would give in a mail by itself.  So requests that give nothing may be left out or put in anywhere.
That there is a file is checked twice, to no further effect.  A file gives an attachment exactly if
it is there and its media type contains an accepted one, and contents always give one.  What is
attached is read back, byte by byte, from its base64. -/
theorem attachments_build (h : mailer.build msg = .ok (.ready prepared)) :
    prepared.payload.attachments = msg.requests.flatMap mailer.given ∧
      (∀ request, ∃ prepared', mailer.build (msg.requesting request) = .ok (.ready prepared') ∧
        prepared'.payload.attachments = mailer.given request) ∧
      (∀ msg' prepared', mailer.build msg' = .ok (.ready prepared') →
        msg'.requests.filter mailer.isMet = msg.requests.filter mailer.isMet →
          prepared'.payload.attachments = prepared.payload.attachments) ∧
      (∀ path filename, mailer.attachFile? path filename =
        (Attachment.ofFile mailer.files mailer.provider.service path filename).toOption) ∧
      (∀ path filename attachment, attachment ∈ mailer.given (.file path filename) ↔
        ∃ bytes, mailer.files.read? path = some bytes ∧
          (∃ accepted ∈ mailer.provider.service.acceptedTypes,
            accepted <:+: mailer.files.mediaTypeOf bytes) ∧
          attachment.Carries (filename.getD path.fileName) (mailer.files.mediaTypeOf bytes)
            bytes) ∧
      ∀ filename mediaType bytes, ∃ attachment,
        mailer.given (.content filename mediaType bytes) = [attachment] ∧
          attachment.Carries filename mediaType bytes := by
  have hall := attachments_eq_of_ready h
  refine ⟨hall, fun request => ?_, fun msg' prepared' h' hrequests => ?_, attachFile?_eq mailer,
    fun _ _ _ => mem_given_file_iff, fun _ _ _ => ⟨_, rfl, Attachment.carries_iff.2 rfl⟩⟩
  · -- a mail with a single request is ready as well, since the key and `send` are the same
    have hready : mailer.build (msg.requesting request) = _ := build_of_ready h rfl rfl
    exact ⟨_, hready, (attachments_eq_of_ready hready).trans (List.flatMap_singleton _ request)⟩
  · -- on both sides nothing is lost by leaving out the requests that are not met
    rw [hall, attachments_eq_of_ready h', ← flatMap_given_filter_isMet, hrequests,
      flatMap_given_filter_isMet]

end Mailer

/-- A mailer with two files, of which one holds no text. -/
def shelved : Mailer :=
  { keyed with
    files := .ofList [(.ofText "a.txt".toList, [72, 105]), (.ofText "b.bin".toList, [0])] }

/-- A message that asks for these files and for one that is not there, and for contents at hand. -/
def enclosing : Message :=
  { attachments := ["a.txt", "c.txt", "b.bin"].map fun path => .ofText path.toList
    params :=
      { attachments := [.content "d.png".toList "image/png".toList [255],
          .file (.ofText "./a.txt".toList) (some "e.txt".toList)] } }

/-- What cannot be attached is left out, and the other attachments keep their order. -/
theorem attachments_build_shelved : ∃ prepared, shelved.build enclosing = .ok (.ready prepared) ∧
    prepared.payload.attachments =
      [⟨"SGk=".toList, "text/plain".toList, "a.txt".toList, "attachment".toList⟩,
        ⟨"/w==".toList, "image/png".toList, "d.png".toList, "attachment".toList⟩,
        ⟨"SGk=".toList, "text/plain".toList, "e.txt".toList, "attachment".toList⟩] := by
  have hready := Mailer.build_eq_ready_iff.2
    ⟨(by decide : isBlankText (shelved.apiKey enclosing) = false), rfl, rfl⟩
  refine ⟨_, hready, ?_⟩
  refine (Mailer.attachments_build hready).1.trans ?_
  decide +kernel

end Mailroom
