import Mailroom.Proofs.Mailer.Content
import Mailroom.Proofs.Payload.Personalization

/-!
# The headers of a mail

Headers are read one by one, and every field that is read has a rule of its own for several
values: content types and copies add up, and of several addresses for replies the last counts.
So reading the headers in their order comes to the same as reading the values of each field,
and how headers of different names are mixed makes no difference to a mail.

## Key results

* `foldl_readHeader_eq_readFields`   headers are read field by field
* `draft_eq_readFields`              the draft of a message, read field by field
* `build_of_readAlike`               headers from which the same is read make the same mail
* `build_reordered`                  the order among headers of different names does not matter
-/

namespace Mailroom

open Text

/-- The values of the headers of a field, in their order. -/
def HeaderField.valuesOf (headers : List (Text × Text)) (field : HeaderField) : List Text :=
  (headers.filter fun header => HeaderField.ofName? header.1 = some field).map (·.2)

/-- A header gives its value to the field that it is read as, if to any. -/
theorem HeaderField.valuesOf_cons (header : Text × Text) (headers : List (Text × Text))
    (field : HeaderField) :
    valuesOf (header :: headers) field =
      if ofName? header.1 = some field then header.2 :: valuesOf headers field
      else valuesOf headers field := by
  simp only [valuesOf, List.filter_cons, decide_eq_true_eq]
  split <;> rfl

/-! ## Runs of steps of one kind -/

namespace Payload

variable {payload : Payload}

/-- A personalization that is there is changed in its place. -/
theorem personalize_eq_modifyHead (h : payload.personalizations ≠ [])
    (change : Personalization → Personalization) :
    payload.personalize change =
      { payload with personalizations := payload.personalizations.modifyHead change } := by
  obtain ⟨first, rest, hcons⟩ := List.exists_cons_of_ne_nil h
  simp only [personalize, hcons, List.modifyHead_cons]

/-- Steps of one kind on the personalization are made one by one, or all at once. -/
theorem run_map {α : Type} {step : α → Update}
    (add : List α → Personalization → Personalization) (hnil : ∀ p, add [] p = p)
    (hcons : ∀ item items p, add items (add [item] p) = add (item :: items) p)
    (hstep : ∀ payload item, update payload (step item) = payload.personalize (add [item]))
    (h : payload.personalizations ≠ []) (items : List α) :
    payload.run (items.map step) =
      { payload with personalizations := payload.personalizations.modifyHead (add items) } := by
  induction items generalizing payload with
  | nil =>
    have hid : add [] = id := funext hnil
    rw [hid, List.modifyHead_id]
    rfl
  | cons item items ih =>
    have hne := personalizations_update_ne_nil h (step item)
    rw [List.map_cons, run_cons, ih hne, hstep, personalize_eq_modifyHead h]
    simp only [List.modifyHead_modifyHead, Function.comp_def, hcons]

/-- To make a personalization that is there changes nothing. -/
theorem run_personalization_cons (h : payload.personalizations ≠ []) (steps : List Update) :
    payload.run (.personalization :: steps) = payload.run steps := by
  have hsame : payload.update .personalization = payload := by
    rw [update, personalize_eq_modifyHead h, List.modifyHead_id]
    rfl
  rw [run_cons, hsame]

/-- Addresses for copies go to the personalization that is there. -/
theorem run_cc (h : payload.personalizations ≠ []) (addresses : List Address) :
    payload.run (.personalization :: addresses.map .cc) =
      { payload with
        personalizations := payload.personalizations.modifyHead fun p =>
          { p with cc := p.cc ++ addresses } } := by
  rw [run_personalization_cons h]
  exact run_map (fun addresses p => { p with cc := p.cc ++ addresses }) (by simp) (by simp)
    (fun _ _ => rfl) h addresses

/-- So do addresses for blind copies. -/
theorem run_bcc (h : payload.personalizations ≠ []) (addresses : List Address) :
    payload.run (.personalization :: addresses.map .bcc) =
      { payload with
        personalizations := payload.personalizations.modifyHead fun p =>
          { p with bcc := p.bcc ++ addresses } } := by
  rw [run_personalization_cons h]
  exact run_map (fun addresses p => { p with bcc := p.bcc ++ addresses }) (by simp) (by simp)
    (fun _ _ => rfl) h addresses

/-- Steps of one kind on another field are made one by one, or all at once. -/
theorem run_map_append {α : Type} {step : α → Update} (add : List α → Payload → Payload)
    (hnil : ∀ payload, add [] payload = payload)
    (hcons : ∀ item items payload, add items (add [item] payload) = add (item :: items) payload)
    (hstep : ∀ payload item, update payload (step item) = add [item] payload)
    (payload : Payload) (items : List α) : payload.run (items.map step) = add items payload := by
  induction items generalizing payload with
  | nil => exact (hnil payload).symm
  | cons item items ih => rw [List.map_cons, run_cons, ih, hstep, hcons]

/-- Contents are added behind those that are there. -/
theorem run_contents (payload : Payload) (contents : List Content) :
    payload.run (contents.map fun c => .content c.mediaType c.value) =
      { payload with content := payload.content ++ contents } :=
  run_map_append (fun contents payload => { payload with content := payload.content ++ contents })
    (by simp) (by simp) (fun _ _ => rfl) payload contents

end Payload

/-! ## Headers read field by field -/

namespace Mailer

variable {mailer : Mailer} {msg : Message}

/-- The draft after all values of each field: the body is shown under every content type, of the
addresses for replies the last counts, and copies are added. -/
def readFields (mailer : Mailer) (msg : Message) (values : HeaderField → List Text)
    (draft : Draft) : Draft where
  payload :=
    { draft.payload with
      personalizations := draft.payload.personalizations.modifyHead fun p =>
        { p with
          cc := p.cc ++ (values .cc).flatMap Address.parseCopies
          bcc := p.bcc ++ (values .bcc).flatMap Address.parseCopies }
      content := draft.payload.content ++
        (values .contentType).flatMap fun header => (mailer.extraction msg header).shown
      replyTo := ((values .replyTo).getLast?.map Address.parse).or draft.payload.replyTo }
  warnings := draft.warnings ++
    (values .contentType).flatMap fun header => (mailer.extraction msg header).unsupported

/-- What reading a content type adds to a draft. -/
theorem addContents_eq (header : Text) (draft : Draft) :
    mailer.addContents msg header draft =
      { payload := { draft.payload with
          content := draft.payload.content ++ (mailer.extraction msg header).shown }
        warnings := draft.warnings ++ (mailer.extraction msg header).unsupported } := by
  -- the steps for an extracted body are those for what it shows
  have hshown (e : Mime.Extraction) :
      (e.contents.map fun content => Payload.Update.content content.1.name content.2) =
        e.shown.map fun c => .content c.mediaType c.value := by
    obtain ⟨plain, html, warnings⟩ := e
    cases plain <;> cases html <;> rfl
  have hrun : draft.payload.run ((mailer.extraction msg header).contents.map fun content =>
      Payload.Update.content content.1.name content.2) =
        { draft.payload with
          content := draft.payload.content ++ (mailer.extraction msg header).shown } := by
    rw [hshown, Payload.run_contents]
  exact congrArg (fun payload => Draft.mk payload _) hrun

/-- Reading a header is adding its value to those of its field. -/
theorem readFields_cons {draft : Draft} (h : draft.payload.personalizations ≠ [])
    (header : Text × Text) (headers : List (Text × Text)) :
    mailer.readFields msg (HeaderField.valuesOf (header :: headers)) draft =
      mailer.readFields msg (HeaderField.valuesOf headers)
        (mailer.readHeader msg draft header) := by
  obtain ⟨name, value⟩ := header
  have hvalues := HeaderField.valuesOf_cons (name, value) headers
  rw [readHeader]
  -- the header is read as one field, and the values of the others stay
  cases hfield : HeaderField.ofName? name with
  | none => simp only [readFields, hvalues, hfield, reduceCtorEq, if_false]
  | some field =>
    cases field with
    | contentType => simp [readFields, hvalues, hfield, addContents_eq]
    | replyTo =>
      simp [readFields, hvalues, hfield, Draft.run, Payload.run, Payload.update,
        List.getLast?_cons, Option.or_some]
    | cc =>
      simp [readFields, hvalues, hfield, Draft.run, Payload.run_cc h, Function.comp_def]
    | bcc =>
      simp [readFields, hvalues, hfield, Draft.run, Payload.run_bcc h, Function.comp_def]

/-- Without values nothing is read. -/
theorem readFields_nil (draft : Draft) :
    mailer.readFields msg (HeaderField.valuesOf []) draft = draft := by
  obtain ⟨⟨personalizations⟩, warnings⟩ := draft
  cases personalizations <;> simp [readFields, HeaderField.valuesOf]

/-- Reading headers does not take the personalization away. -/
theorem personalizations_readHeader_ne_nil {draft : Draft}
    (h : draft.payload.personalizations ≠ []) (header : Text × Text) :
    (mailer.readHeader msg draft header).payload.personalizations ≠ [] := by
  obtain ⟨name, value⟩ := header
  rw [readHeader]
  split
  · exact Payload.personalizations_run_ne_nil h _
  · exact Payload.personalizations_run_ne_nil h _
  · exact Payload.personalizations_run_ne_nil h _
  · exact Payload.personalizations_run_ne_nil h _
  · exact h

/-- Headers are read field by field. -/
theorem foldl_readHeader_eq_readFields {draft : Draft}
    (h : draft.payload.personalizations ≠ []) (headers : List (Text × Text)) :
    headers.foldl (mailer.readHeader msg) draft =
      mailer.readFields msg (HeaderField.valuesOf headers) draft := by
  induction headers generalizing draft with
  | nil => exact (readFields_nil draft).symm
  | cons header headers ih =>
    rw [List.foldl_cons, ih (personalizations_readHeader_ne_nil h header), readFields_cons h]

end Mailer

/-- The values of the fields of a message.  The content types are those under which the body is
shown. -/
def Message.fieldValues (msg : Message) : HeaderField → List Text
  | .contentType => msg.bodyTypes
  | field => HeaderField.valuesOf msg.headers field

/-- The content types are the values of their field. -/
theorem contentTypes_eq_valuesOf (headers : List (Text × Text)) :
    contentTypes headers = HeaderField.valuesOf headers .contentType := by
  simp only [contentTypes, HeaderField.valuesOf, ofName?_eq_contentType_iff,
    Bool.decide_eq_true]

namespace Mailer

variable {mailer : Mailer} {msg : Message}

/-- All headers of a message are read field by field, and plain text is assumed if no content
type is declared. -/
theorem readHeaders_eq_readFields {draft : Draft} (h : draft.payload.personalizations ≠ []) :
    mailer.readHeaders msg draft = mailer.readFields msg msg.fieldValues draft := by
  unfold readHeaders
  split
  · next hnone =>
    -- the body is shown as plain text before the headers, which have no content type of their own
    have hnil := contentTypes_eq_nil_iff.2 hnone
    have hassumed : (mailer.addContents msg Mime.Kind.plain.name draft).payload.personalizations ≠
        [] :=
      Payload.personalizations_run_ne_nil h _
    rw [foldl_readHeader_eq_readFields hassumed, addContents_eq]
    rw [contentTypes_eq_valuesOf] at hnil
    simp [readFields, Message.fieldValues, Message.bodyTypes, contentTypes_eq_valuesOf, hnil]
  · next hsome =>
    have hne := mt contentTypes_eq_nil_iff.1 hsome
    -- the content types of the message are those of its headers
    have hvalues : msg.fieldValues = HeaderField.valuesOf msg.headers := by
      funext field
      cases field with
      | contentType =>
        rw [Message.fieldValues, Message.bodyTypes, if_neg hne, contentTypes_eq_valuesOf]
      | _ => rfl
    rw [foldl_readHeader_eq_readFields h, hvalues]

/-- There is a personalization before the headers are read. -/
theorem personalizations_openingSteps_ne_nil (mailer : Mailer) (msg : Message) :
    (Payload.run {} (mailer.openingSteps msg)).personalizations ≠ [] := by
  rw [openingSteps, Payload.run_append]
  exact Payload.personalizations_run_ne_nil (Payload.personalizations_personalize_ne_nil _ id)
    [.subject msg.subject, .recipients (Address.parseList msg.recipients)]

/-- The draft of a message, the headers read field by field. -/
theorem draft_eq_readFields (mailer : Mailer) (msg : Message) :
    mailer.draft msg =
      (mailer.readFields msg msg.fieldValues (Draft.run {} (mailer.openingSteps msg))).run
        (mailer.closingSteps msg) := by
  rw [draft, readHeaders_eq_readFields (personalizations_openingSteps_ne_nil mailer msg)]

end Mailer

/-! ## Headers that are read alike -/

/-- The same is read from the headers: the same addresses for copies, though they may be divided
among the headers in another way, and the same values of the other fields. -/
structure ReadAlike (headers headers' : List (Text × Text)) : Prop where
  filter_from : (headers.filter fun header => equalsAnyCase header.1 "From".toList) =
    headers'.filter fun header => equalsAnyCase header.1 "From".toList
  contentType : HeaderField.valuesOf headers .contentType =
    HeaderField.valuesOf headers' .contentType
  replyTo : HeaderField.valuesOf headers .replyTo = HeaderField.valuesOf headers' .replyTo
  cc : (HeaderField.valuesOf headers .cc).flatMap Address.parseCopies =
    (HeaderField.valuesOf headers' .cc).flatMap Address.parseCopies
  bcc : (HeaderField.valuesOf headers .bcc).flatMap Address.parseCopies =
    (HeaderField.valuesOf headers' .bcc).flatMap Address.parseCopies

/-- Reading alike is symmetric. -/
theorem ReadAlike.symm {headers headers' : List (Text × Text)} (h : ReadAlike headers headers') :
    ReadAlike headers' headers :=
  ⟨h.filter_from.symm, h.contentType.symm, h.replyTo.symm, h.cc.symm, h.bcc.symm⟩

/-- If the headers of a name are the same, the first of them is. -/
theorem header?_congr {msg : Message} {headers : List (Text × Text)} {name : Text}
    (h : (msg.headers.filter fun header => equalsAnyCase header.1 name) =
      headers.filter fun header => equalsAnyCase header.1 name) :
    Message.header? { msg with headers } name = msg.header? name := by
  have hfirst := congrArg List.head? h
  rw [List.head?_filter, List.head?_filter] at hfirst
  rw [Message.header?, Message.header?]
  exact congrArg _ hfirst.symm

namespace Mailer

variable {mailer : Mailer} {msg : Message} {headers : List (Text × Text)}

/-- Messages with the same defaults have the same categories if the choice among them is the
same. -/
theorem categories_congr {mailer' : Mailer} {msg' : Message}
    (hchoice : mailer'.filterCategories msg' (mailer.defaultCategories msg) =
      mailer.filterCategories msg (mailer.defaultCategories msg))
    (hdefault : mailer'.defaultCategories msg' = mailer.defaultCategories msg) :
    mailer'.categories msg' = mailer.categories msg := by
  rw [categories, hdefault, hchoice, ← categories]

/-- Headers that are read alike lead to the same steps before they are read. -/
theorem openingSteps_of_readAlike (h : ReadAlike msg.headers headers)
    (hchoice : mailer.filterCategories { msg with headers } (mailer.defaultCategories msg) =
      mailer.filterCategories msg (mailer.defaultCategories msg)) :
    mailer.openingSteps { msg with headers } = mailer.openingSteps msg := by
  have hsender : mailer.sender { msg with headers } = mailer.sender msg := by
    rw [sender, header?_congr h.filter_from, ← sender]
  rw [openingSteps, hsender, categories_congr hchoice rfl]
  rfl

/-- And to the same values of the fields. -/
theorem readFields_of_readAlike (h : ReadAlike msg.headers headers) (draft : Draft) :
    mailer.readFields { msg with headers } (Message.fieldValues { msg with headers }) draft =
      mailer.readFields msg msg.fieldValues draft := by
  have hextraction : mailer.extraction { msg with headers } = mailer.extraction msg := rfl
  have htypes : Message.bodyTypes { msg with headers } = msg.bodyTypes := by
    simp only [Message.bodyTypes, contentTypes_eq_valuesOf, h.contentType]
  simp only [readFields, Message.fieldValues, hextraction, htypes, h.replyTo, h.cc, h.bcc]

/-- So they make the same draft. -/
theorem draft_of_readAlike (h : ReadAlike msg.headers headers)
    (hchoice : mailer.filterCategories { msg with headers } (mailer.defaultCategories msg) =
      mailer.filterCategories msg (mailer.defaultCategories msg)) :
    mailer.draft { msg with headers } = mailer.draft msg := by
  rw [draft_eq_readFields, openingSteps_of_readAlike h hchoice, readFields_of_readAlike h,
    draft_eq_readFields mailer msg]
  -- headers are read nowhere else
  rfl

/-- And the same becomes of the message. -/
theorem build_of_readAlike (h : ReadAlike msg.headers headers)
    (hchoice : mailer.filterCategories { msg with headers } (mailer.defaultCategories msg) =
      mailer.filterCategories msg (mailer.defaultCategories msg)) :
    mailer.build { msg with headers } = mailer.build msg := by
  rw [build, draft_of_readAlike h hchoice, build]
  rfl

end Mailer

/-! ## Headers in another order -/

/-- The same headers in another order, in which those of one name, in whatever ASCII case, keep
theirs. -/
structure Reordered (headers headers' : List (Text × Text)) : Prop where
  perm : headers.Perm headers'
  filter_name : ∀ name, (headers.filter fun header => equalsAnyCase header.1 name) =
    headers'.filter fun header => equalsAnyCase header.1 name

/-- Neighbours of different names may change places. -/
theorem reordered_swap {a b : Text × Text} (h : equalsAnyCase a.1 b.1 = false)
    (before after : List (Text × Text)) :
    Reordered (before ++ a :: b :: after) (before ++ b :: a :: after) where
  perm := List.Perm.append_left before (List.Perm.swap b a after)
  filter_name name := by
    -- at most one of the two has the name
    have hone : equalsAnyCase a.1 name = false ∨ equalsAnyCase b.1 name = false := by
      simp only [equalsAnyCase, beq_eq_false_iff_ne, ne_eq] at h ⊢
      by_cases ha : a.1.map Char.toLower = name.map Char.toLower
      · exact .inr fun hb => h (ha.trans hb.symm)
      · exact .inl ha
    simp only [List.filter_append, List.filter_cons]
    rcases hone with hname | hname <;> simp only [hname, Bool.false_eq_true, if_false]

/-- Headers may be reordered time and again. -/
theorem Reordered.trans {a b c : List (Text × Text)} (h : Reordered a b) (h' : Reordered b c) :
    Reordered a c where
  perm := h.perm.trans h'.perm
  filter_name name := (h.filter_name name).trans (h'.filter_name name)

namespace Reordered

variable {headers headers' : List (Text × Text)}

/-- The values of every field are found in the same order. -/
theorem valuesOf_eq (h : Reordered headers headers') :
    HeaderField.valuesOf headers = HeaderField.valuesOf headers' := by
  funext field
  have hfilter := h.filter_name field.name
  simp only [HeaderField.valuesOf, HeaderField.ofName?_eq_some_iff, Bool.decide_eq_true, hfilter]

/-- Reordered headers are read alike. -/
theorem readAlike (h : Reordered headers headers') : ReadAlike headers headers' where
  filter_from := h.filter_name _
  contentType := by rw [h.valuesOf_eq]
  replyTo := by rw [h.valuesOf_eq]
  cc := by rw [h.valuesOf_eq]
  bcc := by rw [h.valuesOf_eq]

end Reordered

namespace Mailer

variable {mailer : Mailer} {msg : Message} {headers : List (Text × Text)}

/-- Reordered headers make the same draft. -/
theorem draft_reordered (horder : Reordered msg.headers headers)
    (hchoice : mailer.filterCategories { msg with headers } (mailer.defaultCategories msg) =
      mailer.filterCategories msg (mailer.defaultCategories msg)) :
    mailer.draft { msg with headers } = mailer.draft msg :=
  draft_of_readAlike horder.readAlike hchoice

/-- What becomes of a message depends on the order among headers of one name alone, if the
choice of the categories does not depend on more. -/
theorem build_reordered (mailer : Mailer) (msg : Message) {headers : List (Text × Text)}
    (horder : Reordered msg.headers headers)
    (hchoice : mailer.filterCategories { msg with headers } (mailer.defaultCategories msg) =
      mailer.filterCategories msg (mailer.defaultCategories msg)) :
    mailer.build { msg with headers } = mailer.build msg := by
  rw [build, draft_reordered horder hchoice, build]
  rfl

end Mailer

/-- A message whose headers are mixed, some of them with one name in different cases. -/
def mixedHeaders : Message :=
  { body := ["Hi".toList]
    headers := [("Reply-To".toList, "r@x".toList), ("cc".toList, "a@x".toList),
      ("FROM".toList, "s@x".toList), ("CC".toList, "b@x".toList),
      ("reply-to".toList, "q@x".toList)] }

/-- The same headers, those of each name together. -/
def groupedHeaders : List (Text × Text) :=
  [("FROM".toList, "s@x".toList), ("cc".toList, "a@x".toList), ("CC".toList, "b@x".toList),
    ("Reply-To".toList, "r@x".toList), ("reply-to".toList, "q@x".toList)]

/-- Grouped headers make the same mail, and the last address for replies counts. -/
theorem build_reordered_groupedHeaders :
    Reordered mixedHeaders.headers groupedHeaders ∧
      keyed.build { mixedHeaders with headers := groupedHeaders } = keyed.build mixedHeaders ∧
      ∃ prepared, keyed.build mixedHeaders = .ok (.ready prepared) ∧
        prepared.payload.replyTo = some ⟨"q@x".toList, none⟩ := by
  have horder : Reordered mixedHeaders.headers groupedHeaders := by
    -- the first copy and the sender go to the front, then the second copy follows
    refine (reordered_swap (by decide) [] _).trans ?_
    refine (reordered_swap (by decide) [("cc".toList, "a@x".toList)] _).trans ?_
    refine (reordered_swap (by decide) [] _).trans ?_
    exact reordered_swap (by decide) (groupedHeaders.take 2) _
  have hbuild := build_keyed mixedHeaders rfl rfl
  exact ⟨horder, Mailer.build_reordered keyed mixedHeaders horder rfl, _, hbuild,
    by decide +kernel⟩

end Mailroom
