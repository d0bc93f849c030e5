import Mailroom.Proofs.Address.Blank
import Mailroom.Proofs.Mailer.Recipients

/-!
# The correspondents of a mail

A mail names its sender, an address for replies and its recipients.  The first two are read from a
header as it stands, while a list of recipients is cut into entries that are trimmed first.  So the
same text is the same address in all three places unless white space at its ends matters.  Entries
are never blank, but their emails may be: what stands in the brackets of an entry is not asked for.

## Key results

* `sender_draft`, `replyTo_draft`   the sender and the address for replies
* `addressReadings_agree_iff`       where the three places read a text alike
* `isVisible_recipients_iff`        when no recipient has a blank email
-/

namespace Mailroom

open Text

namespace Mailer

/-- The sender is set before the headers are read, and stays. -/
theorem sender_draft (mailer : Mailer) (msg : Message) :
    (mailer.draft msg).payload.sender = mailer.sender msg := by
  rw [draft_eq]

/-- Of the addresses for replies the last counts, and without one there is none. -/
theorem replyTo_draft (mailer : Mailer) (msg : Message) :
    (mailer.draft msg).payload.replyTo =
      (HeaderField.valuesOf msg.headers .replyTo).getLast?.map Address.parse := by
  rw [draft_eq]

/-! ## One text in three places -/

/-- A text is the same address with and without the white space at its ends unless that matters.
The sender and the address for replies are read from a header as it stands.  A text that is the only
recipient is trimmed. -/
theorem addressReadings_agree_iff (s : Text) :
    (Address.parse s = Address.parse (trim s) ↔ ¬Address.SpaceMatters s) ∧
      ∀ {mailer : Mailer} {msg : Message} {prepared : Prepared},
        mailer.build msg = .ok (.ready prepared) →
        (msg.header? "From".toList = some s →
          prepared.payload.sender =
            { Address.parse s with
              name := some ((Address.parse s).name.getD mailer.provider.site.encodedName) }) ∧
          ((HeaderField.valuesOf msg.headers .replyTo).getLast? = some s →
            prepared.payload.replyTo = some (Address.parse s)) ∧
          (msg.recipients = s → ',' ∉ s → isBlankText s = false →
            ∃ p, prepared.payload.personalizations = [p] ∧
              p.recipients = [Address.parse (trim s)]) := by
  refine ⟨Address.parse_eq_parse_trim_iff s, fun {mailer msg prepared} h => ?_⟩
  obtain ⟨-, -, rfl⟩ := build_eq_ready_iff.1 h
  refine ⟨fun hfrom => ?_, fun hreply => ?_, ?_⟩
  · rw [sender_draft, sender, hfrom]
  · rw [replyTo_draft, hreply]
    rfl
  · -- the `to` field is read as a list, here of one entry, which is trimmed
    rintro rfl hcomma hblank
    refine ⟨_, personalizations_draft mailer msg, ?_⟩
    rw [Address.parseList_eq_map_entries, Address.entries_eq_singleton hcomma hblank]
    rfl

end Mailer

/-- A message that names one address as its sender, for replies and as its recipient. -/
def selfAddressed (address : Text) : Message :=
  { recipients := address
    headers := [("From".toList, address), ("Reply-To".toList, address)] }

/-- White space in front of a named address makes no difference. -/
theorem addressReadings_agree_leading : ¬Address.SpaceMatters " Ann <a@x>".toList ∧
    ∃ prepared p, keyed.build (selfAddressed " Ann <a@x>".toList) = .ok (.ready prepared) ∧
      prepared.payload.sender = ⟨"a@x".toList, some "Ann".toList⟩ ∧
      prepared.payload.replyTo = some ⟨"a@x".toList, some "Ann".toList⟩ ∧
      prepared.payload.personalizations = [p] ∧
      p.recipients = [⟨"a@x".toList, some "Ann".toList⟩] := by
  have hbuild := build_keyed (selfAddressed " Ann <a@x>".toList) rfl rfl
  obtain ⟨hspace, hmail⟩ := Mailer.addressReadings_agree_iff " Ann <a@x>".toList
  obtain ⟨hfrom, hreply, hrecipients⟩ := hmail hbuild
  obtain ⟨p, hp, hrecipient⟩ := hrecipients rfl (by decide) (by decide)
  refine ⟨hspace.1 (by decide +kernel), _, p, hbuild, ?_, ?_, hp, ?_⟩
  · rw [hfrom rfl]
    decide +kernel
  · rw [hreply rfl]
    decide +kernel
  · rw [hrecipient]
    decide +kernel

/-- White space behind it does: the name is seen in the recipient alone. -/
theorem not_addressReadings_agree_trailing :
    Address.parse "Ann <a@x> ".toList ≠ Address.parse (trim "Ann <a@x> ".toList) ∧
      ∃ prepared p, keyed.build (selfAddressed "Ann <a@x> ".toList) = .ok (.ready prepared) ∧
        prepared.payload.sender.email = "Ann <a@x>".toList ∧
        prepared.payload.replyTo = some ⟨"Ann <a@x>".toList, none⟩ ∧
        prepared.payload.personalizations = [p] ∧
        p.recipients = [⟨"a@x".toList, some "Ann".toList⟩] := by
  have hbuild := build_keyed (selfAddressed "Ann <a@x> ".toList) rfl rfl
  refine ⟨by decide +kernel, _, _, hbuild, ?_, ?_, Mailer.personalizations_draft _ _, ?_⟩
  · rw [Mailer.sender_draft]
    decide +kernel
  · rw [Mailer.replyTo_draft]
    decide +kernel
  · decide +kernel

/-! ## Blank recipients -/

namespace Address

/-- The emails of a list are those of its entries. -/
theorem isBlankText_email_parseList_iff (s : Text) :
    (∀ a ∈ parseList s, isBlankText a.email = false) ↔ ∀ t ∈ entries s, ¬HasBlankEmail t := by
  rw [parseList_eq_map_entries, List.forall_mem_map]
  refine forall₂_congr fun t ht => ?_
  rw [← isBlankText_email_parse_iff (trim_of_mem_entries ht) (ne_nil_of_mem_entries ht),
    Bool.not_eq_true]

/-- Who gets a copy has the email that the list gives. -/
theorem isBlankText_email_parseCopies_iff (s : Text) :
    (∀ a ∈ parseCopies s, isBlankText a.email = false) ↔ ∀ t ∈ entries s, ¬HasBlankEmail t := by
  rw [parseCopies, List.forall_mem_map, ← isBlankText_email_parseList_iff]
  rfl

/-- The addresses of a list have something to show exactly if no entry can be read as white space.
-/
theorem isVisible_parseList_iff (s : Text) :
    (∀ a ∈ parseList s, a.IsVisible) ↔
      ∀ t ∈ entries s, ¬HasBlankEmail t ∧ ¬HasBlankName t := by
  rw [parseList_eq_map_entries, List.forall_mem_map]
  exact forall₂_congr fun t ht =>
    isVisible_parse_iff (trim_of_mem_entries ht) (ne_nil_of_mem_entries ht)

end Address

namespace Mailer

/-- The addresses of a list hold more than white space, in email and name, exactly if each entry
does where its email and its name are read.  So no recipient of a mail has a blank email, a copy or
not, exactly if no entry of the lists that name them has one. -/
theorem isVisible_recipients_iff (s : Text) :
    ((∀ a ∈ Address.parseList s, a.IsVisible) ↔
        ∀ t ∈ Address.entries s, ¬Address.HasBlankEmail t ∧ ¬Address.HasBlankName t) ∧
      ∀ {mailer : Mailer} {msg : Message} {prepared : Prepared},
        mailer.build msg = .ok (.ready prepared) →
        ((∀ p ∈ prepared.payload.personalizations, ∀ a ∈ p.recipients ++ p.cc ++ p.bcc,
            isBlankText a.email = false) ↔
          ∀ t ∈ Address.entries msg.recipients ++
              Address.entries (joinedValues msg.headers "cc".toList) ++
              Address.entries (joinedValues msg.headers "bcc".toList),
            ¬Address.HasBlankEmail t) := by
  refine ⟨Address.isVisible_parseList_iff s, fun {mailer msg prepared} h => ?_⟩
  obtain ⟨-, -, rfl⟩ := build_eq_ready_iff.1 h
  -- copies are read header by header, and as well from the values joined by commas
  have hcc : (HeaderField.valuesOf msg.headers .cc).flatMap Address.parseCopies =
      Address.parseCopies (joinedValues msg.headers "cc".toList) :=
    (parseCopies_joinedValues msg.headers .cc).symm
  have hbcc : (HeaderField.valuesOf msg.headers .bcc).flatMap Address.parseCopies =
      Address.parseCopies (joinedValues msg.headers "bcc".toList) :=
    (parseCopies_joinedValues msg.headers .bcc).symm
  rw [personalizations_draft, List.forall_mem_singleton, hcc, hbcc]
  simp only [List.forall_mem_append, Address.isBlankText_email_parseList_iff,
    Address.isBlankText_email_parseCopies_iff]

end Mailer

/-- A blank entry is no recipient, so none of these has a blank email. -/
theorem isVisible_recipients_copied :
    (∀ t ∈ Address.entries copied.recipients, ¬Address.HasBlankName t) ∧
      ∃ prepared, keyed.build copied = .ok (.ready prepared) ∧
        ∀ t ∈ Address.entries copied.recipients ++
            Address.entries (joinedValues copied.headers "cc".toList) ++
            Address.entries (joinedValues copied.headers "bcc".toList),
          ¬Address.HasBlankEmail t := by
  have hbuild := build_keyed copied rfl rfl
  obtain ⟨hlist, hmail⟩ := Mailer.isVisible_recipients_iff copied.recipients
  refine ⟨fun t ht => (hlist.1 (by decide +kernel) t ht).2, _, hbuild, (hmail hbuild).1 ?_⟩
  rw [Mailer.personalizations_draft]
  decide +kernel

/-- White space in brackets is an email behind a name, and white space in quotes is a name. -/
theorem not_isVisible_spaces :
    (∃ a ∈ Address.parseList "a < >".toList, isBlankText a.email = true) ∧
      (∃ a ∈ Address.parseList "\" \" <b@x>".toList, a.name = some " ".toList) ∧
      ∃ prepared p a, keyed.build (selfAddressed "a < >".toList) = .ok (.ready prepared) ∧
        prepared.payload.personalizations = [p] ∧ a ∈ p.recipients ∧
        isBlankText a.email = true := by
  have hbuild := build_keyed (selfAddressed "a < >".toList) rfl rfl
  refine ⟨by decide +kernel, by decide +kernel, _, _, ⟨[], some "a".toList⟩, hbuild,
    Mailer.personalizations_draft _ _, ?_, rfl⟩
  decide +kernel

end Mailroom
