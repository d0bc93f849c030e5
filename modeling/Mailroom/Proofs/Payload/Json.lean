import Mathlib.Data.List.Basic
import Mailroom.Payload.Json
import Mailroom.Proofs.Json.Record

/-!
# The text of a payload is faithful

A payload is written as nested objects of fields under fixed names.  Each object determines its
fields, what they hold determines what it was written from, and so does the whole.  The text is
JSON that stands for nothing but what was written, so the text determines the payload as well.

## Key results

* `proper_toJson`       a payload is written as proper JSON
* `toJson_injective`    no two payloads are written alike
* `toText_faithful`     the same for the text of a payload
-/

namespace Mailroom

namespace Payload

open Json

/-! ## Fields -/

/-- The value of a field that is left out when it holds no items. -/
def items? {α : Type} (write : α → Json) (items : List α) : Option Json :=
  if items.isEmpty then none else some (.array (items.map write))

/-- The value of a field that is left out when it holds no entries. -/
def entries? (d : Dictionary) : Option Json := if d.isEmpty then none else some d.toJson

/-- An optional member is a field that has a value or none. -/
theorem optionMember_eq {α : Type} (name : String) (write : α → Json) (value? : Option α) :
    optionMember name write value? = member name (value?.map write) := by
  cases value? <;> rfl

/-- A list is a field without a value if it is empty. -/
theorem listMember_eq {α : Type} (name : String) (write : α → Json) (items : List α) :
    listMember name write items = member name (items? write items) := by
  unfold listMember items?
  split <;> rfl

/-- So is a dictionary. -/
theorem dictionaryMember_eq (name : String) (d : Dictionary) :
    dictionaryMember name d = member name (entries? d) := by
  unfold dictionaryMember entries?
  split <;> rfl

/-- The fields of an address. -/
def addressFields (address : Address) : List (String × Option Json) :=
  [("email", some (.string address.email)), ("name", address.name.map .string)]

/-- The JSON of an address holds the fields of it that have a value. -/
theorem addressJson_eq (address : Address) :
    addressJson address = record (present (addressFields address)) := by
  simp [addressJson, addressFields, optionMember_eq]

/-- The fields of a personalization. -/
def personalizationFields (p : Personalization) : List (String × Option Json) :=
  [("to", some (.array (p.recipients.map addressJson))), ("cc", items? addressJson p.cc),
    ("bcc", items? addressJson p.bcc), ("subject", some (.string p.subject)),
    ("substitutions", entries? p.substitutions)]

/-- The JSON of a personalization holds the fields of it that have a value. -/
theorem personalizationJson_eq (p : Personalization) :
    personalizationJson p = record (present (personalizationFields p)) := by
  simp [personalizationJson, personalizationFields, listMember_eq, dictionaryMember_eq]

/-- The fields of a payload. -/
def payloadFields (payload : Payload) : List (String × Option Json) :=
  [("personalizations", some (.array (payload.personalizations.map personalizationJson))),
    ("from", some (addressJson payload.sender)),
    ("reply_to", payload.replyTo.map addressJson),
    ("content", items? contentJson payload.content),
    ("attachments", items? attachmentJson payload.attachments),
    ("categories", items? .string payload.categories),
    ("custom_args", entries? payload.customArgs),
    ("template_id", payload.templateId.map .string),
    ("mail_settings",
      payload.spamCheck.map fun enable => .record [("spam_check", settingJson enable)]),
    ("tracking_settings", some (trackingJson payload.tracking))]

/-- The JSON of a payload holds the fields of it that have a value. -/
theorem toJson_eq (payload : Payload) :
    payload.toJson = record (present payload.payloadFields) := by
  simp [toJson, payloadFields, optionMember_eq, listMember_eq, dictionaryMember_eq]

/-- A list can be told from its field, the empty one by its absence. -/
theorem items?_injective {α : Type} {write : α → Json} (hwrite : Function.Injective write) :
    Function.Injective (items? write) := by
  intro a b h
  have hmap : a.map write = b.map write := by
    cases a <;> cases b
    · rfl
    · cases h
    · cases h
    · exact Json.array.inj (Option.some.inj h)
  exact hwrite.list_map hmap

/-- So can a dictionary. -/
theorem entries?_injective : Function.Injective entries? := by
  intro a b h
  unfold entries? at h
  split at h <;> split at h
  · next ha hb =>
    exact Dictionary.ext_entries ((List.isEmpty_iff.1 ha).trans (List.isEmpty_iff.1 hb).symm)
  · cases h
  · cases h
  · exact Dictionary.toJson_injective (Option.some.inj h)

/-- The fields of an address have different names. -/
theorem nodup_addressFields (address : Address) : ((addressFields address).map (·.1)).Nodup := by
  simp [addressFields]

/-- The fields of a personalization have different names. -/
theorem nodup_personalizationFields (p : Personalization) :
    ((personalizationFields p).map (·.1)).Nodup := by
  simp [personalizationFields]

/-- The fields of a payload have different names. -/
theorem nodup_payloadFields (payload : Payload) : ((payloadFields payload).map (·.1)).Nodup := by
  simp [payloadFields]

/-! ## Proper JSON -/

/-- A field that has a value is proper if the value is. -/
theorem proper_some {v : Json} (h : v.Proper) : ∀ w ∈ some v, w.Proper := by
  rintro w ⟨⟩
  exact h

/-- An optional field is proper if what is written for its value is. -/
theorem proper_map {α : Type} {write : α → Json} (h : ∀ x, (write x).Proper) (value? : Option α) :
    ∀ w ∈ value?.map write, w.Proper := by
  intro w hw
  obtain ⟨x, -, rfl⟩ := Option.map_eq_some_iff.1 hw
  exact h x

/-- An array is proper if what is written for each item is. -/
theorem proper_array_map {α : Type} {write : α → Json} (h : ∀ x, (write x).Proper)
    (items : List α) : (Json.array (items.map write)).Proper := by
  refine .array fun w hw => ?_
  obtain ⟨x, -, rfl⟩ := List.mem_map.1 hw
  exact h x

/-- So is the field of a list. -/
theorem proper_items? {α : Type} {write : α → Json} (h : ∀ x, (write x).Proper)
    (items : List α) : ∀ w ∈ items? write items, w.Proper := by
  unfold items?
  split
  · simp
  · exact proper_some (proper_array_map h items)

/-- The field of a dictionary is proper. -/
theorem proper_entries? (d : Dictionary) : ∀ w ∈ entries? d, w.Proper := by
  unfold entries?
  split
  · simp
  · exact proper_some d.proper_toJson

/-- Proper JSON is written for an address. -/
theorem proper_addressJson (address : Address) : (addressJson address).Proper := by
  rw [addressJson_eq]
  refine proper_record_present (nodup_addressFields address) ?_
  simp only [addressFields, List.forall_mem_cons]
  exact ⟨proper_some (.string _), proper_map .string _, by simp⟩

/-- Proper JSON is written for a content. -/
theorem proper_contentJson (content : Content) : (contentJson content).Proper :=
  proper_record (by simp) (by simp [Proper.string])

/-- Proper JSON is written for an attachment. -/
theorem proper_attachmentJson (attachment : Attachment) : (attachmentJson attachment).Proper :=
  proper_record (by simp) (by simp [Proper.string])

/-- Proper JSON is written for a personalization. -/
theorem proper_personalizationJson (p : Personalization) : (personalizationJson p).Proper := by
  rw [personalizationJson_eq]
  refine proper_record_present (nodup_personalizationFields p) ?_
  simp only [personalizationFields, List.forall_mem_cons]
  exact ⟨proper_some (proper_array_map proper_addressJson _), proper_items? proper_addressJson _,
    proper_items? proper_addressJson _, proper_some (.string _), proper_entries? _, by simp⟩

/-- Proper JSON is written for a setting. -/
theorem proper_settingJson (enable : Bool) : (settingJson enable).Proper :=
  proper_record (by simp) (by simp [Proper.bool])

/-- The JSON of the spam check is proper. -/
theorem proper_spamCheckJson (enable : Bool) :
    (record [("spam_check", settingJson enable)]).Proper :=
  proper_record (by simp) (by simp [proper_settingJson])

/-- Proper JSON is written for the tracking settings. -/
theorem proper_trackingJson (tracking : Tracking) : (trackingJson tracking).Proper :=
  proper_record (by simp) (by
    simp only [List.forall_mem_cons]
    exact ⟨proper_record (by simp) (by simp [Proper.bool]), proper_settingJson _, by simp⟩)

/-- Proper JSON is written for a payload, so its text can be read back. -/
theorem proper_toJson (payload : Payload) : payload.toJson.Proper := by
  rw [toJson_eq]
  refine proper_record_present (nodup_payloadFields payload) ?_
  simp only [payloadFields, List.forall_mem_cons]
  -- one field after the other, in their order
  exact ⟨proper_some (proper_array_map proper_personalizationJson _),
    proper_some (proper_addressJson _), proper_map proper_addressJson _,
    proper_items? proper_contentJson _, proper_items? proper_attachmentJson _,
    proper_items? .string _, proper_entries? _, proper_map .string _,
    proper_map proper_spamCheckJson _, proper_some (proper_trackingJson _), by simp⟩

/-! ## Faithfulness -/

/-- Strings differ if their texts do. -/
theorem string_injective : Function.Injective Json.string := fun _ _ h => Json.string.inj h

/-- Different addresses are written differently. -/
theorem addressJson_injective : Function.Injective addressJson := by
  intro a b h
  rw [addressJson_eq, addressJson_eq] at h
  -- the names are the same on both sides, so the values are the same one by one
  have hfields := record_present_inj (nodup_addressFields a) (by rfl) h
  simp only [addressFields, List.cons.injEq, Prod.mk.injEq, Option.some.injEq, Json.string.injEq,
    true_and, and_true] at hfields
  obtain ⟨hemail, hname⟩ := hfields
  cases a
  cases b
  rw [Address.mk.injEq]
  exact ⟨hemail, Option.map_injective string_injective hname⟩

/-- Different contents are written differently. -/
theorem contentJson_injective : Function.Injective contentJson := by
  intro a b h
  have hmembers := record_inj h
  cases a
  cases b
  simpa using hmembers

/-- Different attachments are written differently. -/
theorem attachmentJson_injective : Function.Injective attachmentJson := by
  intro a b h
  have hmembers := record_inj h
  cases a
  cases b
  simpa using hmembers

/-- Different personalizations are written differently. -/
theorem personalizationJson_injective : Function.Injective personalizationJson := by
  intro a b h
  rw [personalizationJson_eq, personalizationJson_eq] at h
  -- lists and dictionaries are compared by what they are written as, since they may be left out
  have hfields := record_present_inj (nodup_personalizationFields a) (by rfl) h
  simp only [personalizationFields, List.cons.injEq, Prod.mk.injEq, Option.some.injEq,
    Json.string.injEq, Json.array.injEq, true_and, and_true] at hfields
  obtain ⟨hrecipients, hcc, hbcc, hsubject, hsubstitutions⟩ := hfields
  cases a
  cases b
  rw [Personalization.mk.injEq]
  exact ⟨addressJson_injective.list_map hrecipients,
    items?_injective addressJson_injective hcc, items?_injective addressJson_injective hbcc,
    hsubject, entries?_injective hsubstitutions⟩

/-- A setting that is on is written differently from one that is off. -/
theorem settingJson_injective : Function.Injective settingJson := by
  intro a b h
  simpa using record_inj h

/-- The spam check is read off its JSON. -/
theorem spamCheckJson_injective :
    Function.Injective fun enable => record [("spam_check", settingJson enable)] := by
  intro a b h
  have hmembers := record_inj h
  simp only [List.cons.injEq, Prod.mk.injEq, true_and, and_true] at hmembers
  exact settingJson_injective hmembers

/-- Different tracking settings are written differently. -/
theorem trackingJson_injective : Function.Injective trackingJson := by
  intro a b h
  have hmembers := record_inj h
  simp only [List.cons.injEq, Prod.mk.injEq, true_and, and_true] at hmembers
  obtain ⟨hclicks, hopens⟩ := hmembers
  -- the settings for clicks are an object of their own
  have hclicks := record_inj hclicks
  cases a
  cases b
  simp at hclicks
  rw [Tracking.mk.injEq]
  exact ⟨hclicks.1, hclicks.2, settingJson_injective hopens⟩

/-- Different payloads are written differently. -/
theorem toJson_injective : Function.Injective toJson := by
  intro a b h
  rw [toJson_eq, toJson_eq] at h
  have hfields := record_present_inj (nodup_payloadFields a) (by rfl) h
  simp only [payloadFields, List.cons.injEq, Prod.mk.injEq, Option.some.injEq,
    Json.array.injEq, true_and, and_true] at hfields
  -- what each field holds determines what it was written from
  obtain ⟨hpersonalizations, hsender, hreplyTo, hcontent, hattachments, hcategories, hcustomArgs,
    htemplateId, hspamCheck, htracking⟩ := hfields
  cases a
  cases b
  rw [Payload.mk.injEq]
  exact ⟨personalizationJson_injective.list_map hpersonalizations,
    addressJson_injective hsender, Option.map_injective addressJson_injective hreplyTo,
    items?_injective contentJson_injective hcontent,
    items?_injective attachmentJson_injective hattachments,
    items?_injective string_injective hcategories, entries?_injective hcustomArgs,
    Option.map_injective string_injective htemplateId,
    Option.map_injective spamCheckJson_injective hspamCheck, trackingJson_injective htracking⟩

/-- The text of a payload stands for its JSON and for no other value, and reading it gives that
JSON back; in it the names of each object are distinct.  The text determines the payload. -/
theorem toText_faithful :
    (∀ payload : Payload, payload.toJson.Proper ∧
      (∀ v, IsText v payload.toText ↔ v = payload.toJson) ∧
      parse? payload.toText = some payload.toJson) ∧
    Function.Injective toText := by
  refine ⟨fun payload => ?_, fun a b h => ?_⟩
  · have hproper := proper_toJson payload
    exact ⟨hproper, fun v => hproper.isText_iff, hproper.parse?_print⟩
  · -- reading the one text gives the JSON of both payloads
    have hread := (proper_toJson a).parse?_print
    rw [show a.toJson.print = b.toJson.print from h, (proper_toJson b).parse?_print] at hread
    exact toJson_injective (Option.some.inj hread).symm

end Payload

end Mailroom
