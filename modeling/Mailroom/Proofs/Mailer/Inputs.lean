import Mathlib.Data.List.Forall2
import Mailroom.Proofs.Mailer.Draft
import Mailroom.Proofs.Mime.Width

/-!
# What the inputs of a mail reach

A mail is made from the settings, the files and the message, but most of what goes in ends up in
one place.  A new value for such an input leaves the key, the warnings and all other parts of the
payload as they are.

## Key results

* `rebroken_extract`   the width breaks plain text anew and leaves HTML alone
* `draft_change`       a new value for an input reaches one part of the draft
* `build_change`       a new value for an input reaches one part of the mail
-/

namespace Mailroom

open Text

/-! ## Contents in another width -/

/-- The second content is the first with plain text broken at the given width. -/
inductive Content.Rebroken (width : Nat) : Content → Content → Prop where
  | plain (before : Nat) (t : Text) :
    Rebroken width ⟨"text/plain".toList, Plain.wrap before t⟩
      ⟨"text/plain".toList, Plain.wrap width t⟩
  | html (t : Text) : Rebroken width ⟨"text/html".toList, t⟩ ⟨"text/html".toList, t⟩

namespace Mime

variable (render : Text → Text) (before width : Nat) (header body : Text)

/-- The width breaks the plain text that is shown anew and leaves the HTML alone. -/
theorem rebroken_extract :
    List.Forall₂ (Content.Rebroken width) (extract ⟨before, render⟩ header body).shown
      (extract ⟨width, render⟩ header body).shown := by
  rw [extract_eq_wrap render before, extract_eq_wrap render width]
  obtain ⟨plain, html, warnings⟩ := extract ⟨0, render⟩ header body
  cases plain <;> cases html <;> repeat constructor

/-- The width plays no part in what is reported as unsupported. -/
theorem unsupported_extract :
    (extract ⟨width, render⟩ header body).unsupported =
      (extract ⟨before, render⟩ header body).unsupported := by
  rw [extract_eq_wrap render before, extract_eq_wrap render width]
  rfl

end Mime

/-! ## Changes -/

/-- New values for the inputs that end up in one part of a mail. -/
inductive Change where
  /-- Another choice of the categories. -/
  | categories (filterCategories : Message → List Text → List Text)
  /-- Other files, and other requests to attach them. -/
  | attachments (files : FileStore) (paths : List Path) (requests : List AttachmentRequest)
  | width (width : Nat)
  | uid (uid : Option UInt64)
  | templateId (id : Option Text)
  | substitutions (substitutions : Dictionary)
  | tracking (clicks opens : Bool)

/-- The mailer after a change. -/
def Change.mailer (mailer : Mailer) : Change → Mailer
  | .categories filterCategories => { mailer with filterCategories }
  | .attachments files _ _ => { mailer with files }
  | .width n => { mailer with layout := { mailer.layout with width := n } }
  | .tracking clicks opens =>
    let service := { mailer.provider.service with trackClicks := clicks, trackOpens := opens }
    { mailer with provider := { mailer.provider with service } }
  | .uid _ | .templateId _ | .substitutions _ => mailer

/-- The message after a change. -/
def Change.message (msg : Message) : Change → Message
  | .attachments _ paths requests =>
    { msg with attachments := paths, params := { msg.params with attachments := requests } }
  | .uid account => { msg with params := { msg.params with uid := account } }
  | .templateId id => { msg with template := { msg.template with templateId := id } }
  | .substitutions d => { msg with template := { msg.template with substitutions := d } }
  | .categories _ | .width _ | .tracking _ _ => msg

/-- The payload after a change is the one before it but for the part that the change is about. -/
def Change.Confines (before after : Payload) : Change → Prop
  | .categories _ => after = { before with categories := after.categories }
  | .attachments _ _ _ => after = { before with attachments := after.attachments }
  | .width n =>
    after = { before with content := after.content } ∧
      List.Forall₂ (Content.Rebroken n) before.content after.content
  | .uid _ => after = { before with customArgs := after.customArgs }
  | .templateId id => after = { before with templateId := id }
  | .substitutions d =>
    after = { before with
      personalizations := before.personalizations.map fun p => { p with substitutions := d } }
  | .tracking clicks opens => after = { before with tracking := ⟨clicks, clicks, opens⟩ }

namespace Mailer

variable {mailer : Mailer} {msg : Message} {prepared : Prepared}

/-- A change reaches one part of the draft, if the choice of the categories is the same for the
changed message. -/
theorem draft_change (change : Change)
    (hchoice : mailer.filterCategories (change.message msg) (mailer.defaultCategories msg) =
      mailer.filterCategories msg (mailer.defaultCategories msg)) :
    change.Confines (mailer.draft msg).payload
        ((change.mailer mailer).draft (change.message msg)).payload ∧
      ((change.mailer mailer).draft (change.message msg)).warnings =
        (mailer.draft msg).warnings := by
  have hdefault : (change.mailer mailer).defaultCategories (change.message msg) =
      mailer.defaultCategories msg := by
    cases change <;> rfl
  have hcategories (hfilter : (change.mailer mailer).filterCategories = mailer.filterCategories) :
      (change.mailer mailer).categories (change.message msg) = mailer.categories msg :=
    categories_congr (hfilter ▸ hchoice) hdefault
  rw [draft_eq, draft_eq]
  cases change with
  | categories => exact ⟨rfl, rfl⟩
  | width width =>
    have hshown (header : Text) := Mime.rebroken_extract mailer.layout.render mailer.layout.width
      width header msg.joinedBody
    have hunsupported (header : Text) := Mime.unsupported_extract mailer.layout.render
      mailer.layout.width width header msg.joinedBody
    refine ⟨⟨rfl, ?_⟩, List.flatMap_congr fun header _ => hunsupported header⟩
    -- the body is shown under the same content types as before
    have hsame : List.Forall₂ Eq msg.bodyTypes msg.bodyTypes := List.forall₂_refl msg.bodyTypes
    exact List.rel_flatMap hsame fun header _ heq => heq ▸ hshown header
  | attachments | uid | templateId | substitutions | tracking =>
    -- the categories could depend on all of the message, the other parts do not
    rw [hcategories rfl]
    exact ⟨rfl, rfl⟩

/-- The categories are what the category filter answers, or the default ones if it answers none. -/
theorem categories_of_ready (h : mailer.build msg = .ok (.ready prepared)) :
    prepared.payload.categories =
      if mailer.filterCategories msg (mailer.defaultCategories msg) = [] then
        mailer.defaultCategories msg
      else mailer.filterCategories msg (mailer.defaultCategories msg) := by
  obtain ⟨-, -, rfl⟩ := build_eq_ready_iff.1 h
  rw [draft_eq]
  simp only [categories, List.isEmpty_iff]

/-- A new value for an input leaves a mail ready, with the same key and the same warnings, and
reaches one part of its payload.  The choice of the categories is to be the same in both runs,
unless it is what changes.  It is never empty. -/
theorem build_change (change : Change) (h : mailer.build msg = .ok (.ready prepared))
    (hchoice : mailer.filterCategories (change.message msg) (mailer.defaultCategories msg) =
      mailer.filterCategories msg (mailer.defaultCategories msg)) :
    (∃ prepared',
      (change.mailer mailer).build (change.message msg) = .ok (.ready prepared') ∧
        prepared'.apiKey = prepared.apiKey ∧ prepared'.warnings = prepared.warnings ∧
        change.Confines prepared.payload prepared'.payload) ∧
      (∀ answer, mailer.filterCategories msg
          [mailer.provider.site.encodedName, msg.origin, msg.id] = answer →
        prepared.payload.categories =
          if answer = [] then [mailer.provider.site.encodedName, msg.origin, msg.id]
          else answer) ∧
      prepared.payload.categories ≠ [] := by
  have hcategories := categories_of_ready h
  refine ⟨?_, ?_, ?_⟩
  · have hkey : (change.mailer mailer).apiKey (change.message msg) = mailer.apiKey msg := by
      cases change <;> rfl
    have hsend : (change.message msg).send = msg.send := by cases change <;> rfl
    -- no change touches the key or the wish to send, so the mail is built again
    have hready := build_of_ready h hkey hsend
    obtain ⟨hconfines, hwarnings⟩ := draft_change change hchoice
    obtain ⟨-, -, rfl⟩ := build_eq_ready_iff.1 h
    exact ⟨_, hready, rfl, hwarnings, hconfines⟩
  · rintro answer rfl
    exact hcategories
  · rw [hcategories]
    split
    · exact List.cons_ne_nil _ _
    · assumption

end Mailer

/-- A message with a document that takes two lines in a narrow layout. -/
def breakable : Message := { typedOnce with body := ["one two three".toList] }

/-- A narrow layout breaks the document where it is shown as plain text, and nowhere else. -/
theorem build_change_breakable : ∃ prepared prepared',
    keyed.build breakable = .ok (.ready prepared) ∧
      ((Change.width 8).mailer keyed).build breakable = .ok (.ready prepared') ∧
      prepared'.payload = { prepared.payload with content := prepared'.payload.content } ∧
      prepared.payload.content =
        [⟨"text/plain".toList, "one two three".toList⟩,
          ⟨"text/html".toList, "one two three".toList⟩] ∧
      prepared'.payload.content =
        [⟨"text/plain".toList, "one two \nthree".toList⟩,
          ⟨"text/html".toList, "one two three".toList⟩] := by
  have hbuild := build_keyed breakable rfl rfl
  obtain ⟨⟨prepared', hbuild', -, -, hconfined, -⟩, -⟩ :=
    Mailer.build_change (.width 8) hbuild rfl
  have hprepared' := (Mailer.build_eq_ready_iff.1 hbuild').2.2
  refine ⟨_, prepared', hbuild, hbuild', hconfined, by decide +kernel, ?_⟩
  rw [hprepared']
  decide +kernel

end Mailroom
