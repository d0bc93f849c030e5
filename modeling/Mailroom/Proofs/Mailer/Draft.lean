import Mailroom.Proofs.Mailer.Headers

/-!
# The draft of a message

The payload of a message is made in many steps, but each of its fields comes from one place: from
the headers of one field, from a parameter of the message or from a setting.  Taken together the
steps before the headers, the headers and the steps after them fill in every field once.

## Key results

* `run_openingSteps`, `run_closingSteps`   the steps around the headers, taken together
* `draft_eq`                               every field of a draft, and the warnings about it
* `build_of_ready`                         the key and the wish to send make a mail ready
-/

namespace Mailroom

open Text

namespace Payload

variable {payload : Payload}

/-- Categories are added at the end. -/
theorem run_categories (payload : Payload) (categories : List Text) :
    payload.run (categories.map .category) =
      { payload with categories := payload.categories ++ categories } :=
  run_map_append (fun categories payload =>
      { payload with categories := payload.categories ++ categories })
    (by simp) (by simp) (fun _ _ => rfl) payload categories

/-- So are attachments. -/
theorem run_attachments (payload : Payload) (attachments : List Attachment) :
    payload.run (attachments.map .attachment) =
      { payload with attachments := payload.attachments ++ attachments } :=
  run_map_append (fun attachments payload =>
      { payload with attachments := payload.attachments ++ attachments })
    (by simp) (by simp) (fun _ _ => rfl) payload attachments

/-- Substitutions are added one by one, or all at once. -/
theorem run_substitutions (h : payload.personalizations ≠ []) (entries : List (Text × Text)) :
    payload.run (entries.map fun (name, value) => .substitution name value) =
      { payload with
        personalizations := payload.personalizations.modifyHead fun p =>
          { p with
            substitutions := entries.foldl (fun d (name, value) => d.insert name value)
              p.substitutions } } :=
  run_map (fun entries p =>
      { p with
        substitutions := entries.foldl (fun d (name, value) => d.insert name value)
          p.substitutions })
    (fun _ => rfl) (fun _ _ _ => rfl) (fun _ _ => rfl) h entries

end Payload

/-- The custom arguments of a message: the account of the recipient, if it is given. -/
def Message.customArgs (msg : Message) : Dictionary :=
  .ofList (msg.params.uid.toList.map fun uid => ("uid".toList, Nat.toDigits 10 uid.toNat))

/-- What the service is told about the spam check of a message, if it is told. -/
def Message.spamCheck (msg : Message) : Option Bool :=
  if msg.bypassesSpamCheck then some false else none

namespace Mailer

/-- What the settings ask the service to keep track of. -/
def tracking (mailer : Mailer) : Tracking where
  clicks := mailer.provider.service.trackClicks
  textClicks := mailer.provider.service.trackClicks
  opens := mailer.provider.service.trackOpens

/-- The steps before the headers, taken together. -/
theorem run_openingSteps (mailer : Mailer) (msg : Message) :
    Payload.run {} (mailer.openingSteps msg) =
      { personalizations :=
          [{ subject := msg.subject, recipients := Address.parseList msg.recipients }]
        sender := mailer.sender msg
        categories := mailer.categories msg
        customArgs := msg.customArgs
        spamCheck := msg.spamCheck } := by
  rw [openingSteps, Payload.run_append, Payload.run_append, Payload.run_categories,
    Message.spamCheck, Message.customArgs]
  -- only these two steps are made for some messages and left out for others
  cases msg.bypassesSpamCheck <;> cases msg.params.uid <;> rfl

/-- The steps after the headers, taken together. -/
theorem run_closingSteps (mailer : Mailer) (msg : Message) {payload : Payload}
    (h : payload.personalizations ≠ []) :
    payload.run (mailer.closingSteps msg) =
      { payload with
        personalizations := payload.personalizations.modifyHead fun p =>
          { p with
            substitutions := msg.template.substitutions.entries.foldl
              (fun d (name, value) => d.insert name value) p.substitutions }
        attachments := payload.attachments ++ mailer.attachments msg
        templateId := msg.template.templateId.or payload.templateId
        tracking := mailer.tracking } := by
  have hids (payload : Payload) :
      payload.run (msg.template.templateId.toList.map fun id => .templateId (some id)) =
        { payload with templateId := msg.template.templateId.or payload.templateId } := by
    cases msg.template.templateId <;> rfl
  rw [closingSteps, Payload.run_append, Payload.run_append, Payload.run_append, Payload.run_append,
    Payload.run_attachments, hids, Payload.run_personalization_cons, Payload.run_substitutions]
  · rfl
  -- the personalization that is there stays while attachments and the template are set
  · exact h
  · exact h

/-- Every field of a draft, and the warnings about it. -/
theorem draft_eq (mailer : Mailer) (msg : Message) :
    mailer.draft msg =
      { payload :=
          { personalizations :=
              [{ recipients := Address.parseList msg.recipients
                 cc := (HeaderField.valuesOf msg.headers .cc).flatMap Address.parseCopies
                 bcc := (HeaderField.valuesOf msg.headers .bcc).flatMap Address.parseCopies
                 subject := msg.subject
                 substitutions := msg.template.substitutions }]
            sender := mailer.sender msg
            replyTo := (HeaderField.valuesOf msg.headers .replyTo).getLast?.map Address.parse
            content := msg.bodyTypes.flatMap fun header => (mailer.extraction msg header).shown
            attachments := mailer.attachments msg
            categories := mailer.categories msg
            customArgs := msg.customArgs
            templateId := msg.template.templateId
            spamCheck := msg.spamCheck
            tracking := mailer.tracking }
        warnings :=
          msg.bodyTypes.flatMap fun header => (mailer.extraction msg header).unsupported } := by
  have hsubstitutions : msg.template.substitutions.entries.foldl
      (fun d (name, value) => d.insert name value) .empty = msg.template.substitutions :=
    msg.template.substitutions.ofList_entries
  -- the steps of the draft in their order: opening, headers, closing
  rw [draft_eq_readFields, Draft.run, Draft.run, readFields, run_openingSteps,
    run_closingSteps mailer msg (List.cons_ne_nil _ _)]
  simp [Message.fieldValues, hsubstitutions]

/-- If a mail is ready, so is every mail with the same key that is to be sent. -/
theorem build_of_ready {mailer mailer' : Mailer} {msg msg' : Message} {prepared : Prepared}
    (h : mailer.build msg = .ok (.ready prepared)) (hkey : mailer'.apiKey msg' = mailer.apiKey msg)
    (hsend : msg'.send = msg.send) :
    mailer'.build msg' = .ok (.ready ⟨mailer.apiKey msg, (mailer'.draft msg').payload,
      (mailer'.draft msg').warnings⟩) := by
  obtain ⟨hvisible, hsent, -⟩ := build_eq_ready_iff.1 h
  rw [← hkey] at hvisible ⊢
  exact build_eq_ready_iff.2 ⟨hvisible, hsend ▸ hsent, rfl⟩

end Mailer

end Mailroom
