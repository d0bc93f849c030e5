import Mailroom.Mailer
import Mailroom.Proofs.Text.Case

/-!
# The contents of a mail

Of the steps in which a payload is made only those that show the body add contents, and the
headers ask for them in their order.  So the contents of a mail are the body under each of its
content types, and the sender is told of those that are not known.

## Key results

* `HeaderField.ofName?_eq_some_iff`   the headers that are read are found in any ASCII case
* `shows_foldl_readHeader`            reading headers shows the body under their content types
* `content_eq_flatMap_shown`          the contents of a mail and the warnings about it
* `inOrder_content_iff`               when there is one content of each kind, plain text first
* `not_inOrder_typedTwice`            two headers can put HTML before plain text
-/

namespace Mailroom

open Text

/-! ## Names of headers -/

namespace HeaderField

/-- A header field is found by its name in lower case. -/
theorem ofName?_eq_some_iff_lower {name : Text} {field : HeaderField} :
    ofName? name = some field ↔ lower name = field.name := by
  constructor
  · intro h
    have hname := List.find?_some h
    exact (beq_iff_eq.1 hname).symm
  · intro h
    rw [ofName?, h]
    cases field <;> decide

/-- The name of a header field disregards the case of ASCII letters and no more. -/
theorem ofName?_eq_some_iff {name : Text} {field : HeaderField} :
    ofName? name = some field ↔ equalsAnyCase name field.name := by
  -- the two ways to disregard case differ for `k` alone, which no name has
  have hall : field.name.all fun c => c.toNat < 128 && c != 'k' := by
    cases field <;> decide
  have hascii : ∀ c ∈ field.name, c.toNat < 128 ∧ c ≠ 'k' := by
    intro c hc
    simpa using List.all_eq_true.1 hall c hc
  have hlower : field.name.map Char.toLower = field.name := by
    cases field <;> decide
  rw [ofName?_eq_some_iff_lower, lower_eq_iff hascii, equalsAnyCase, hlower, beq_iff_eq]

end HeaderField

/-- The content types that headers declare, in their order. -/
def contentTypes (headers : List (Text × Text)) : List Text :=
  (headers.filter fun header => equalsAnyCase header.1 "Content-Type".toList).map (·.2)

/-- The content types under which the body of a message is shown: plain text if it declares
none. -/
def Message.bodyTypes (msg : Message) : List Text :=
  if contentTypes msg.headers = [] then ["text/plain".toList] else contentTypes msg.headers

/-- A header declares a content type exactly if it is read as one. -/
theorem ofName?_eq_contentType_iff {name : Text} :
    HeaderField.ofName? name = some .contentType ↔
      equalsAnyCase name "Content-Type".toList := by
  have hname : HeaderField.contentType.name.map Char.toLower =
      "Content-Type".toList.map Char.toLower := by
    decide
  rw [HeaderField.ofName?_eq_some_iff, equalsAnyCase, hname, equalsAnyCase]

/-- The body is shown as plain text exactly if no header is read as a content type. -/
theorem isNone_header?_iff {msg : Message} :
    (msg.header? "Content-Type".toList).isNone ↔
      ∀ header ∈ msg.headers, HeaderField.ofName? header.1 ≠ some .contentType := by
  simp only [Message.header?, Option.isNone_map, Option.isNone_iff_eq_none, List.find?_eq_none,
    ne_eq, ofName?_eq_contentType_iff]

/-- The content types of headers that follow others come behind theirs. -/
theorem contentTypes_append (headers headers' : List (Text × Text)) :
    contentTypes (headers ++ headers') = contentTypes headers ++ contentTypes headers' := by
  unfold contentTypes
  rw [List.filter_append, List.map_append]

/-- A header gives its value as a content type or nothing. -/
theorem contentTypes_singleton (header : Text × Text) :
    contentTypes [header] =
      if HeaderField.ofName? header.1 = some .contentType then [header.2] else [] := by
  simp only [contentTypes, List.filter_cons, ofName?_eq_contentType_iff]
  split <;> rfl

/-- No content type is given exactly if no header is found under its name. -/
theorem contentTypes_eq_nil_iff {msg : Message} :
    contentTypes msg.headers = [] ↔ (msg.header? "Content-Type".toList).isNone := by
  simp only [contentTypes, Message.header?, List.map_eq_nil_iff, List.filter_eq_nil_iff,
    Option.isNone_map, Option.isNone_iff_eq_none, List.find?_eq_none]

/-! ## What a step adds -/

namespace Payload

/-- The contents that a step adds. -/
def Update.contents : Update → List Content
  | .content mediaType value => [⟨mediaType, value⟩]
  | _ => []

/-- A change of the personalization leaves the contents alone. -/
@[simp] theorem content_personalize (payload : Payload)
    (change : Personalization → Personalization) :
    (payload.personalize change).content = payload.content := by
  unfold personalize
  split <;> rfl

/-- A step adds its contents behind those that are there. -/
theorem content_update (payload : Payload) (step : Update) :
    (payload.update step).content = payload.content ++ step.contents := by
  cases step <;> simp [update, Update.contents]

/-- Steps add their contents one after the other. -/
theorem content_run (payload : Payload) (steps : List Update) :
    (payload.run steps).content = payload.content ++ steps.flatMap Update.contents := by
  unfold run
  induction steps generalizing payload with
  | nil => simp
  | cons step steps ih =>
    rw [List.foldl_cons, ih, content_update, List.flatMap_cons, List.append_assoc]

end Payload

/-! ## What reading headers adds -/

/-- The contents that show what is extracted from a body, plain text first. -/
def Mime.Extraction.shown (e : Mime.Extraction) : List Mailroom.Content :=
  (e.plain.map fun t => ⟨"text/plain".toList, t⟩).toList
    ++ (e.html.map fun t => ⟨"text/html".toList, t⟩).toList

/-- The steps for an extracted body add what it shows. -/
theorem Mime.Extraction.flatMap_contents (e : Mime.Extraction) :
    (e.contents.map fun (kind, value) => Payload.Update.content kind.name value).flatMap
      Payload.Update.contents = e.shown := by
  obtain ⟨plain, html, warnings⟩ := e
  cases plain <;> cases html <;> rfl

namespace Mailer

/-- What is extracted from the body of a message under a content type. -/
def extraction (mailer : Mailer) (msg : Message) (header : Text) : Mime.Extraction :=
  Mime.extract mailer.layout header msg.joinedBody

/-- The draft `after` shows the body once more under each of the content types. -/
structure Shows (mailer : Mailer) (msg : Message) (types : List Text) (before after : Draft) :
    Prop where
  content : after.payload.content =
    before.payload.content ++ types.flatMap fun header => (mailer.extraction msg header).shown
  warnings : after.warnings =
    before.warnings ++ types.flatMap fun header => (mailer.extraction msg header).unsupported

variable {mailer : Mailer} {msg : Message}

/-- What is shown under some types and then under others is shown under all of them. -/
theorem Shows.trans {types types' : List Text} {a b c : Draft}
    (h : Shows mailer msg types a b) (h' : Shows mailer msg types' b c) :
    Shows mailer msg (types ++ types') a c where
  content := by rw [h'.content, h.content, List.flatMap_append, List.append_assoc]
  warnings := by rw [h'.warnings, h.warnings, List.flatMap_append, List.append_assoc]

/-- Nothing is shown under no types. -/
theorem shows_self (draft : Draft) : Shows mailer msg [] draft draft where
  content := (List.append_nil _).symm
  warnings := (List.append_nil _).symm

/-- Steps that add no contents do not show the body. -/
theorem shows_run {steps : List Payload.Update}
    (hsteps : steps.flatMap Payload.Update.contents = []) (draft : Draft) :
    Shows mailer msg [] draft (draft.run steps) where
  content := by
    unfold Draft.run
    rw [Payload.content_run, hsteps, List.flatMap_nil]
  warnings := (List.append_nil _).symm

/-- The body is shown under a content type. -/
theorem shows_addContents (header : Text) (draft : Draft) :
    Shows mailer msg [header] draft (mailer.addContents msg header draft) where
  content := by
    unfold addContents Draft.run
    rw [Payload.content_run, Mime.Extraction.flatMap_contents, List.flatMap_singleton]
    rfl
  warnings := by
    rw [List.flatMap_singleton]
    rfl

/-- A header that declares a content type shows the body under it, and no other header does. -/
theorem shows_readHeader (header : Text × Text) (draft : Draft) :
    Shows mailer msg (contentTypes [header]) draft (mailer.readHeader msg draft header) := by
  obtain ⟨name, value⟩ := header
  rw [contentTypes_singleton, readHeader]
  -- only content types are shown, and copies and addresses for replies are steps on other fields
  cases hfield : HeaderField.ofName? name with
  | none => exact shows_self draft
  | some field =>
    cases field with
    | contentType => exact shows_addContents value draft
    | replyTo => exact shows_run rfl draft
    | cc =>
      apply shows_run
      simp [List.flatMap_map, Payload.Update.contents]
    | bcc =>
      apply shows_run
      simp [List.flatMap_map, Payload.Update.contents]

/-- Reading headers shows the body under each content type that they declare. -/
theorem shows_foldl_readHeader (headers : List (Text × Text)) (draft : Draft) :
    Shows mailer msg (contentTypes headers) draft
      (headers.foldl (mailer.readHeader msg) draft) := by
  induction headers generalizing draft with
  | nil => exact shows_self draft
  | cons header headers ih =>
    -- the other headers are read from the draft that the first one leaves
    have hstep := (shows_readHeader header draft).trans (ih (mailer.readHeader msg draft header))
    rwa [← contentTypes_append] at hstep

/-- The body is shown under the assumed content type, or under the declared ones. -/
theorem shows_readHeaders (draft : Draft) :
    Shows mailer msg msg.bodyTypes draft (mailer.readHeaders msg draft) := by
  unfold Message.bodyTypes readHeaders
  split
  · next hnil =>
    -- plain text is assumed, and the headers add nothing to it
    rw [if_pos (contentTypes_eq_nil_iff.1 hnil)]
    have hassumed : Shows mailer msg ["text/plain".toList] draft
        (mailer.addContents msg Mime.Kind.plain.name draft) :=
      shows_addContents Mime.Kind.plain.name draft
    have hall := hassumed.trans (shows_foldl_readHeader msg.headers _)
    rwa [hnil, List.append_nil] at hall
  · next hne =>
    rw [if_neg (mt contentTypes_eq_nil_iff.2 hne)]
    exact shows_foldl_readHeader msg.headers draft

/-- The steps before the headers add no contents. -/
theorem flatMap_contents_openingSteps (mailer : Mailer) (msg : Message) :
    (mailer.openingSteps msg).flatMap Payload.Update.contents = [] := by
  unfold openingSteps
  split <;> simp [List.flatMap_map, Payload.Update.contents]

/-- Nor do the steps behind them. -/
theorem flatMap_contents_closingSteps (mailer : Mailer) (msg : Message) :
    (mailer.closingSteps msg).flatMap Payload.Update.contents = [] := by
  simp [closingSteps, List.flatMap_map, Payload.Update.contents]

/-- A draft shows the body once under each of its content types. -/
theorem shows_draft (mailer : Mailer) (msg : Message) :
    Shows mailer msg msg.bodyTypes {} (mailer.draft msg) := by
  have hopening : Shows mailer msg [] {} (Draft.run {} (mailer.openingSteps msg)) :=
    shows_run (flatMap_contents_openingSteps mailer msg) {}
  have hheaders := hopening.trans (shows_readHeaders _)
  have hclosing := hheaders.trans (shows_run (flatMap_contents_closingSteps mailer msg) _)
  rwa [List.nil_append, List.append_nil] at hclosing

/-! ## The contents of a mail -/

/-- A mail is ready with the draft of the message, if there is a key and the message is to be
sent. -/
theorem build_eq_ready_iff {prepared : Prepared} :
    mailer.build msg = .ok (.ready prepared) ↔
      isBlankText (mailer.apiKey msg) = false ∧ msg.send ∧
        prepared =
          ⟨mailer.apiKey msg, (mailer.draft msg).payload, (mailer.draft msg).warnings⟩ := by
  unfold build
  by_cases hkey : isBlankText (mailer.apiKey msg)
  · simp [hkey]
  · by_cases hsend : msg.send
    · simp [hkey, hsend, eq_comm (b := prepared)]
    · simp [hkey, hsend]

/-- The contents of a mail are the body under each content type that its headers declare, in
their order, or as plain text if they declare none, and the sender is told of the content types
that are not known.  Plain text is assumed exactly if no header is read as a content type,
though the two disregard the case of a name in different ways. -/
theorem content_eq_flatMap_shown (mailer : Mailer) (msg : Message) :
    (∀ prepared, mailer.build msg = .ok (.ready prepared) →
      prepared.payload.content =
          msg.bodyTypes.flatMap (fun header => (mailer.extraction msg header).shown) ∧
        prepared.warnings =
          msg.bodyTypes.flatMap fun header => (mailer.extraction msg header).unsupported) ∧
      (∀ name, HeaderField.ofName? name = some .contentType ↔
        equalsAnyCase name "Content-Type".toList) ∧
      ((msg.header? "Content-Type".toList).isNone ↔
        ∀ header ∈ msg.headers, HeaderField.ofName? header.1 ≠ some .contentType) := by
  refine ⟨?_, fun _ => ofName?_eq_contentType_iff, isNone_header?_iff⟩
  intro prepared h
  obtain ⟨-, -, rfl⟩ := build_eq_ready_iff.1 h
  have hshows := shows_draft mailer msg
  exact ⟨hshows.content, hshows.warnings⟩

end Mailer

/-- A mailer with a key and no other settings. -/
def keyed : Mailer := { provider := { service := { apiKey := some "K".toList } } }

/-- A message that is to be sent is built with the key of the settings. -/
theorem build_keyed (msg : Message) (hkey : msg.params.apiKey = none) (hsend : msg.send) :
    keyed.build msg =
      .ok (.ready ⟨"K".toList, (keyed.draft msg).payload, (keyed.draft msg).warnings⟩) := by
  have hconfigured : keyed.apiKey msg = "K".toList := by
    rw [Mailer.apiKey, hkey]
    rfl
  apply Mailer.build_eq_ready_iff.2
  rw [hconfigured]
  exact ⟨by decide, hsend, rfl⟩

/-- A message with two content types, the first of them not known. -/
def shouting : Message :=
  { body := ["Hi".toList, "there".toList]
    headers := [("CONTENT-TYPE".toList, "text/x".toList), ("Cc".toList, "a@b".toList),
      ("content-Type".toList, "Text/Plain".toList)] }

/-- The body is shown under both content types, whatever the case of the names, and the sender is
told of the one that is not known. -/
theorem content_shouting : ∃ prepared, keyed.build shouting = .ok (.ready prepared) ∧
    prepared.payload.content =
      [⟨"text/plain".toList, "Hi\n\nthere".toList⟩, ⟨"text/plain".toList, "Hi\n\nthere".toList⟩] ∧
    prepared.warnings = [.unsupportedType "text/x".toList] := by
  have hbuild := build_keyed shouting rfl rfl
  obtain ⟨hcontent, hwarnings⟩ := (Mailer.content_eq_flatMap_shown keyed shouting).1 _ hbuild
  refine ⟨_, hbuild, ?_, ?_⟩
  · rw [hcontent]
    decide +kernel
  · rw [hwarnings]
    decide +kernel

/-! ## The order of the contents -/

/-- The content may stand before the other one: it is of another media type, and it is not HTML
before plain text. -/
def Content.MayPrecede (a b : Content) : Prop :=
  a.mediaType ≠ b.mediaType ∧
    ¬(a.mediaType = "text/html".toList ∧ b.mediaType = "text/plain".toList)

instance (a b : Content) : Decidable (a.MayPrecede b) := inferInstanceAs (Decidable (_ ∧ _))

/-- No two contents are of the same media type, and no HTML stands before plain text. -/
def InOrder (contents : List Content) : Prop := contents.Pairwise Content.MayPrecede

instance (contents : List Content) : Decidable (InOrder contents) :=
  inferInstanceAs (Decidable (contents.Pairwise _))

namespace Mime.Extraction

/-- All that is shown of `e` may stand before all that is shown of `f`: no kind is shown twice,
and no plain text after HTML. -/
def MayPrecede (e f : Extraction) : Prop :=
  (e.plain.isSome → f.plain = none) ∧ (e.html.isSome → f.plain = none ∧ f.html = none)

/-- What an extraction shows is in order. -/
theorem inOrder_shown (e : Extraction) : InOrder e.shown := by
  obtain ⟨plain, html, warnings⟩ := e
  cases plain <;> cases html <;> simp [InOrder, shown, Mailroom.Content.MayPrecede]

/-- One extraction may precede another if everything that it shows may. -/
theorem mayPrecede_iff (e f : Extraction) :
    e.MayPrecede f ↔ ∀ a ∈ e.shown, ∀ b ∈ f.shown, a.MayPrecede b := by
  obtain ⟨plain, html, warnings⟩ := e
  obtain ⟨plain', html', warnings'⟩ := f
  cases plain <;> cases html <;> cases plain' <;> cases html' <;>
    simp [MayPrecede, shown, Mailroom.Content.MayPrecede]

end Mime.Extraction

namespace Mailer

variable {mailer : Mailer} {msg : Message} {prepared : Prepared}

/-- The contents of a mail are in order exactly if what is shown under each content type may
stand before what is shown under the next ones.  So they are with one content type header at
most. -/
theorem inOrder_content_iff (h : mailer.build msg = .ok (.ready prepared)) :
    (InOrder prepared.payload.content ↔
        (msg.bodyTypes.map (mailer.extraction msg)).Pairwise Mime.Extraction.MayPrecede) ∧
      ((contentTypes msg.headers).length ≤ 1 → InOrder prepared.payload.content) := by
  obtain ⟨-, -, rfl⟩ := build_eq_ready_iff.1 h
  have horder : InOrder (mailer.draft msg).payload.content ↔
      (msg.bodyTypes.map (mailer.extraction msg)).Pairwise Mime.Extraction.MayPrecede := by
    have hcontent : (mailer.draft msg).payload.content =
        msg.bodyTypes.flatMap fun header => (mailer.extraction msg header).shown :=
      (shows_draft mailer msg).content
    have heach : ∀ header ∈ msg.bodyTypes, InOrder (mailer.extraction msg header).shown :=
      fun header _ => (mailer.extraction msg header).inOrder_shown
    -- each extraction is shown in order, so only pairs of them are left
    unfold InOrder at heach ⊢
    rw [hcontent, List.pairwise_flatMap, List.pairwise_map, and_iff_right heach]
    simp only [Mime.Extraction.mayPrecede_iff]
  refine ⟨horder, ?_⟩
  intro hone
  apply horder.2
  have hlength : msg.bodyTypes.length ≤ 1 := by
    unfold Message.bodyTypes
    split
    · exact Nat.le_refl 1
    · exact hone
  -- there is no pair of content types
  match msg.bodyTypes, hlength with
  | [], _ => exact List.Pairwise.nil
  | [header], _ => exact List.pairwise_singleton _ _

end Mailer

/-- A message with a content type. -/
def typedOnce : Message :=
  { body := ["Hi".toList], headers := [("Content-Type".toList, "text/html".toList)] }

/-- A single header for the content type gives contents in order. -/
theorem inOrder_content_typedOnce : ∃ prepared,
    keyed.build typedOnce = .ok (.ready prepared) ∧ InOrder prepared.payload.content := by
  have hbuild := build_keyed typedOnce rfl rfl
  exact ⟨_, hbuild, (Mailer.inOrder_content_iff hbuild).2 (by decide +kernel)⟩

/-- A message with a content type under each of two spellings of the header. -/
def typedTwice : Message :=
  { typedOnce with
    headers := typedOnce.headers ++ [("content-type".toList, "text/plain".toList)] }

/-- A second content type shows the body again, here as plain text after HTML. -/
theorem not_inOrder_typedTwice : ∃ prepared,
    keyed.build typedTwice = .ok (.ready prepared) ∧ ¬InOrder prepared.payload.content := by
  have hbuild := build_keyed typedTwice rfl rfl
  exact ⟨_, hbuild, by decide +kernel⟩

end Mailroom
