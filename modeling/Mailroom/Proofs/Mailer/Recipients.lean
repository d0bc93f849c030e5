import Mathlib.Data.List.Basic
import Mailroom.Proofs.Address.List
import Mailroom.Proofs.Mailer.Draft

/-!
# The recipients of a mail

A mail has a single personalization with all its recipients.  Those of a message are a list divided
by commas, and those who get a copy are the lists of all headers for copies, one after the other.
An address never reaches over a comma, so it makes no difference whether a list stands in one header
or is divided among several.

## Key results

* `personalizations_draft`     the personalization of a draft, closed form
* `Divided.readAlike`          a header for copies may be divided at a comma
* `recipients_build`           the recipients of a mail are those that the message names
-/

namespace Mailroom

open Text

/-! ## Lists of addresses -/

namespace Address

/-- A list of copies is read on either side of a comma. -/
theorem parseCopies_append (a b : Text) :
    parseCopies (a ++ ',' :: b) = parseCopies a ++ parseCopies b := by
  simp only [parseCopies, parseList_append, List.map_append]

/-- A list that is joined of values is read value by value. -/
theorem parseCopies_join (values : List Text) :
    parseCopies (join [','] values) = values.flatMap parseCopies := by
  rw [parseCopies, parseList_join rfl, List.map_flatMap]
  rfl

end Address

/-! ## The personalization -/

namespace Mailer

variable {mailer : Mailer} {msg : Message}

/-- The personalization of a draft. -/
theorem personalizations_draft (mailer : Mailer) (msg : Message) :
    (mailer.draft msg).payload.personalizations =
      [{ recipients := Address.parseList msg.recipients
         cc := (HeaderField.valuesOf msg.headers .cc).flatMap Address.parseCopies
         bcc := (HeaderField.valuesOf msg.headers .bcc).flatMap Address.parseCopies
         subject := msg.subject
         substitutions := msg.template.substitutions }] := by
  rw [draft_eq]

end Mailer

/-! ## Divided headers -/

/-- The values of the headers with a name in any ASCII case, joined by commas in their order. -/
def joinedValues (headers : List (Text × Text)) (name : Text) : Text :=
  join [','] ((headers.filter fun header => equalsAnyCase header.1 name).map (·.2))

/-- The headers of a field can be joined by commas before they are read. -/
theorem parseCopies_joinedValues (headers : List (Text × Text)) (field : HeaderField) :
    Address.parseCopies (joinedValues headers field.name) =
      (HeaderField.valuesOf headers field).flatMap Address.parseCopies := by
  simp only [joinedValues, Address.parseCopies_join, HeaderField.valuesOf,
    HeaderField.ofName?_eq_some_iff, Bool.decide_eq_true]

/-- A header for copies among the first headers is two headers of its field among the second ones,
its value being cut at a comma.  They stand on either side of it, with no header of the field
between them. -/
inductive Divided : List (Text × Text) → List (Text × Text) → Prop
  | at_comma {field : HeaderField} (hfield : field = .cc ∨ field = .bcc) {key first second : Text}
      (hkey : equalsAnyCase key field.name) (hfirst : equalsAnyCase first field.name)
      (hsecond : equalsAnyCase second field.name)
      (before between between' after : List (Text × Text))
      (hbetween : ∀ header ∈ between ++ between', ¬equalsAnyCase header.1 field.name)
      (left right : Text) :
      Divided (before ++ (between ++ (key, left ++ ',' :: right) :: between') ++ after)
        (before ++ ((first, left) :: between ++ between' ++ [(second, right)]) ++ after)

namespace HeaderField

@[simp] theorem valuesOf_nil (field : HeaderField) : valuesOf [] field = [] := rfl

/-- The values of a field come in the order of its headers. -/
theorem valuesOf_append (headers headers' : List (Text × Text)) (field : HeaderField) :
    valuesOf (headers ++ headers') field = valuesOf headers field ++ valuesOf headers' field := by
  simp only [valuesOf, List.filter_append, List.map_append]

/-- Headers of other names give no value. -/
theorem valuesOf_eq_nil {headers : List (Text × Text)} {field : HeaderField}
    (h : ∀ header ∈ headers, ¬equalsAnyCase header.1 field.name) :
    valuesOf headers field = [] := by
  simpa [valuesOf, List.filter_eq_nil_iff, ofName?_eq_some_iff] using h

end HeaderField

/-- A header for copies does not name the sender. -/
theorem not_equalsAnyCase_from {field : HeaderField} (hfield : field = .cc ∨ field = .bcc)
    {key : Text} (hkey : equalsAnyCase key field.name) :
    equalsAnyCase key "From".toList = false := by
  rw [equalsAnyCase, beq_iff_eq] at hkey
  rw [equalsAnyCase, hkey]
  rcases hfield with rfl | rfl <;> decide

/-- Headers before and after are read in any case. -/
theorem ReadAlike.enclose {headers headers' : List (Text × Text)} (h : ReadAlike headers headers')
    (before after : List (Text × Text)) :
    ReadAlike (before ++ headers ++ after) (before ++ headers' ++ after) := by
  constructor
  case filter_from => simp only [List.filter_append, h.filter_from]
  case contentType => simp only [HeaderField.valuesOf_append, h.contentType]
  case replyTo => simp only [HeaderField.valuesOf_append, h.replyTo]
  case cc => simp only [HeaderField.valuesOf_append, List.flatMap_append, h.cc]
  case bcc => simp only [HeaderField.valuesOf_append, List.flatMap_append, h.bcc]

/-- The same is read from a header for copies and from the two that it is divided into. -/
theorem Divided.readAlike {headers headers' : List (Text × Text)} (h : Divided headers headers') :
    ReadAlike headers headers' := by
  cases h with
  | @at_comma field hfield key first second hkey hfirst hsecond before between between' after
      hbetween left right =>
    refine ReadAlike.enclose ?_ before after
    have hwhole := HeaderField.ofName?_eq_some_iff.2 hkey
    have hleft := HeaderField.ofName?_eq_some_iff.2 hfirst
    have hright := HeaderField.ofName?_eq_some_iff.2 hsecond
    -- the three headers are read for their own field and for no other
    have hother (other : HeaderField) (hne : field ≠ other) :
        HeaderField.valuesOf (between ++ (key, left ++ ',' :: right) :: between') other =
          HeaderField.valuesOf ((first, left) :: between ++ between' ++ [(second, right)])
            other := by
      simp [HeaderField.valuesOf_append, HeaderField.valuesOf_cons, hwhole, hleft, hright, hne]
    -- in their own field the value is read on either side of its comma, as the two values are
    have hcopies (other : HeaderField) :
        (HeaderField.valuesOf (between ++ (key, left ++ ',' :: right) :: between') other).flatMap
            Address.parseCopies =
          (HeaderField.valuesOf ((first, left) :: between ++ between' ++ [(second, right)])
            other).flatMap Address.parseCopies := by
      by_cases hne : field = other
      · subst hne
        have hnone := HeaderField.valuesOf_eq_nil hbetween
        rw [HeaderField.valuesOf_append, List.append_eq_nil_iff] at hnone
        simp [HeaderField.valuesOf_append, HeaderField.valuesOf_cons, hwhole, hleft, hright, hnone,
          Address.parseCopies_append]
      · rw [hother other hne]
    constructor
    case filter_from =>
      simp only [List.cons_append, List.filter_append, List.filter_cons, List.filter_nil,
        not_equalsAnyCase_from hfield hkey, not_equalsAnyCase_from hfield hfirst,
        not_equalsAnyCase_from hfield hsecond, Bool.false_eq_true, if_false, List.append_nil]
    case contentType => exact hother .contentType (by rcases hfield with rfl | rfl <;> decide)
    case replyTo => exact hother .replyTo (by rcases hfield with rfl | rfl <;> decide)
    case cc => exact hcopies .cc
    case bcc => exact hcopies .bcc

/-! ## The recipients of a mail -/

namespace Mailer

variable {mailer : Mailer} {msg : Message} {prepared : Prepared}

/-- A mail is ready whatever its headers are. -/
theorem build_headers_eq_ready (h : mailer.build msg = .ok (.ready prepared))
    (headers : List (Text × Text)) :
    mailer.build { msg with headers } =
      .ok (.ready ⟨mailer.apiKey msg, (mailer.draft { msg with headers }).payload,
        (mailer.draft { msg with headers }).warnings⟩) :=
  build_of_ready h rfl rfl

/-- The recipients of a mail are those that the message names, each as often as it is named: a
single personalization holds those of the message itself, and those who get a copy by all headers
for copies in their order.  It makes no difference where the lists of these headers are divided at
commas, for a comma divides the addresses before it from those after it. -/
theorem recipients_build (h : mailer.build msg = .ok (.ready prepared)) :
    (∃ p, prepared.payload.personalizations = [p] ∧ p.subject = msg.subject ∧
        p.recipients = Address.parseList msg.recipients ∧
        p.cc = (Address.parseList (joinedValues msg.headers "cc".toList)).map (fun address =>
          ⟨address.email, some (address.name.getD address.email)⟩) ∧
        p.bcc = (Address.parseList (joinedValues msg.headers "bcc".toList)).map fun address =>
          ⟨address.email, some (address.name.getD address.email)⟩) ∧
      (∀ headers, Divided msg.headers headers ∨ Divided headers msg.headers →
        (∃ prepared', mailer.build { msg with headers } = .ok (.ready prepared') ∧
          prepared'.payload.personalizations = prepared.payload.personalizations) ∧
        (mailer.filterCategories { msg with headers } (mailer.defaultCategories msg) =
            mailer.filterCategories msg (mailer.defaultCategories msg) →
          mailer.build { msg with headers } = mailer.build msg)) ∧
      ∀ a b, Address.parseList (a ++ ',' :: b) = Address.parseList a ++ Address.parseList b := by
  refine ⟨?_, ?_, Address.parseList_append⟩
  · obtain ⟨-, -, rfl⟩ := build_eq_ready_iff.1 h
    refine ⟨_, personalizations_draft mailer msg, rfl, rfl, ?_, ?_⟩
    · exact (parseCopies_joinedValues msg.headers .cc).symm
    · exact (parseCopies_joinedValues msg.headers .bcc).symm
  · intro headers hdivided
    -- headers are divided for either of the two messages
    have halike : ReadAlike msg.headers headers := by
      rcases hdivided with hdivided | hdivided
      · exact hdivided.readAlike
      · exact hdivided.readAlike.symm
    refine ⟨⟨_, build_headers_eq_ready h headers, ?_⟩, build_of_readAlike halike⟩
    obtain ⟨-, -, rfl⟩ := build_eq_ready_iff.1 h
    simp only [personalizations_draft, halike.cc, halike.bcc]

end Mailer

/-- A message with a header for copies, which names two recipients. -/
def copied : Message :=
  { recipients := "a@x, , \"B\" <b@x>".toList
    headers := [("Reply-To".toList, "r@x".toList), ("Cc".toList, "c@x,D <d@x>".toList),
      ("BCC".toList, "e@x".toList)] }

/-- The same headers with one header for each of the two, and another header between these. -/
def copiedApart : List (Text × Text) :=
  [("CC".toList, "c@x".toList), ("Reply-To".toList, "r@x".toList), ("cc".toList, "D <d@x>".toList),
    ("BCC".toList, "e@x".toList)]

/-- The recipients of both are the same, and those without a name go by their email in a copy. -/
theorem recipients_build_copied : Divided copied.headers copiedApart ∧
    keyed.build { copied with headers := copiedApart } = keyed.build copied ∧
      ∃ prepared p, keyed.build copied = .ok (.ready prepared) ∧
        prepared.payload.personalizations = [p] ∧
        p.recipients = [⟨"a@x".toList, none⟩, ⟨"b@x".toList, some "B".toList⟩] ∧
        p.cc = [⟨"c@x".toList, some "c@x".toList⟩, ⟨"d@x".toList, some "D".toList⟩] := by
  have hdivided : Divided copied.headers copiedApart :=
    .at_comma (.inl rfl) (by decide) (by decide) (by decide) []
      [("Reply-To".toList, "r@x".toList)] [] [("BCC".toList, "e@x".toList)] (by decide)
      "c@x".toList "D <d@x>".toList
  have hbuild := build_keyed copied rfl rfl
  obtain ⟨⟨p, hp, -, hrecipients, hcc, -⟩, hdivide, -⟩ := Mailer.recipients_build hbuild
  refine ⟨hdivided, (hdivide copiedApart (.inl hdivided)).2 rfl, _, p, hbuild, hp, ?_, ?_⟩
  · rw [hrecipients]
    decide +kernel
  · rw [hcc]
    decide +kernel

end Mailroom
