import Mailroom.Json.Record
import Mailroom.Proofs.Json.Writer

/-!
# Objects

The members of an object are found by their names, the last of each name.  An object that is
written from a list of fields leaves out those without a value; under distinct names, what is
left out can be told from the names that remain, so an object determines its fields.  An object
of texts is read as the dictionary that has the same texts.

## Key results

* `member?_perm`                   under distinct names, the order of members has no effect
* `record_present_inj`             an object determines its fields
* `proper_record_present`          an object is proper if its fields are
* `list?_map`                      a list is read back if its items are
* `dictionary?_eq_some_iff`        which dictionary an object is read as
* `Dictionary.dictionary?_toJson`  a dictionary is read from what is written for it
-/

namespace Mailroom

namespace Json

/-! ## Members -/

/-- Members that come later count more. -/
theorem member?_append (name : Text) (a b : Members) :
    member? name (a ++ b) = (member? name b).or (member? name a) := by
  induction a with
  | nil => simp [member?]
  | cons m a ih => rw [List.cons_append, member?, ih, member?, Option.or_assoc]

/-- An object has no value under a name that none of its members has. -/
theorem member?_eq_none_iff {name : Text} {members : Members} :
    member? name members = none ↔ ∀ m ∈ members, m.1 ≠ name := by
  induction members with
  | nil => simp [member?]
  | cons m members ih => simp [member?, ih, and_comm]

/-- A member in the midst counts unless there is another one of its name after it. -/
theorem member?_append_cons_self (name : Text) (v : Json) (before after : Members) :
    member? name (before ++ (name, v) :: after) = (member? name after).or (some v) := by
  simp [member?_append, member?]

/-- A member in the midst does not count for another name. -/
theorem member?_append_cons_of_ne {name key : Text} (h : key ≠ name) (v : Json)
    (before after : Members) :
    member? name (before ++ (key, v) :: after) = member? name (before ++ after) := by
  simp [member?_append, member?, h]

/-- Under distinct names every member counts. -/
theorem member?_eq_some_iff {members : Members} (hnames : (members.map (·.1)).Nodup) {name : Text}
    {v : Json} : member? name members = some v ↔ (name, v) ∈ members := by
  induction members with
  | nil => simp [member?]
  | cons m members ih =>
    obtain ⟨key, value⟩ := m
    obtain ⟨hnew, hrest⟩ := List.nodup_cons.1 hnames
    rw [member?, List.mem_cons, Option.or_eq_some_iff]
    by_cases hkey : key = name
    · subst hkey
      -- no later member has the name of this one, so this one counts
      have hnone : member? key members = none :=
        member?_eq_none_iff.2 fun m hm hm' => hnew (List.mem_map.2 ⟨m, hm, hm'⟩)
      have hmem : (key, v) ∉ members := fun hm => hnew (List.mem_map.2 ⟨_, hm, rfl⟩)
      simp [hnone, hmem, eq_comm]
    · have hne : name ≠ key := fun h => hkey h.symm
      simp [ih hrest, hkey, hne]

/-- The order of members with different names does not matter. -/
theorem member?_perm {a b : Members} (hperm : a.Perm b) (hnames : (a.map (·.1)).Nodup)
    (name : Text) : member? name b = member? name a := by
  have hnames' : (b.map (·.1)).Nodup := (hperm.map _).nodup_iff.1 hnames
  refine Option.ext fun v => ?_
  rw [member?_eq_some_iff hnames', member?_eq_some_iff hnames, hperm.mem_iff]

/-- An object has a value under the name of any of its members. -/
theorem any_eq_isSome_member? (name : Text) (members : Members) :
    members.any (·.1 == name) = (member? name members).isSome := by
  rw [Bool.eq_iff_iff, List.any_eq_true, Option.isSome_iff_ne_none, Ne, member?_eq_none_iff]
  simp

/-- No member is found that does not count. -/
theorem member?_effective (name : Text) (members : Members) :
    member? name (effective members) = member? name members := by
  induction members with
  | nil => rfl
  | cons m members ih =>
    obtain ⟨key, value⟩ := m
    rw [effective, any_eq_isSome_member?, member?]
    split
    · next hlater =>
      -- the member is dropped for a later one of its name, which is found first
      rw [ih]
      by_cases hkey : key = name
      · subst hkey
        rw [Option.or_of_isSome hlater]
      · simp [hkey]
    · rw [member?, ih]

/-- The members that count are found. -/
theorem member?_of_mem_effective {members : Members} {name : Text} {v : Json}
    (h : (name, v) ∈ effective members) : member? name members = some v := by
  induction members with
  | nil => cases h
  | cons m members ih =>
    obtain ⟨key, value⟩ := m
    rw [effective, any_eq_isSome_member?] at h
    rw [member?]
    -- a member is left out where a later one has its name
    split at h
    · rw [ih h]
      rfl
    · next hlater =>
      rcases List.mem_cons.1 h with heq | hmem
      · obtain ⟨rfl, rfl⟩ := Prod.mk.inj heq
        rw [Option.not_isSome_iff_eq_none.1 hlater]
        simp
      · rw [ih hmem]
        rfl

/-! ## Fields -/

/-- The member of a field, if the field has a value. -/
def member (name : String) (value? : Option Json) : List (String × Json) :=
  value?.toList.map (name, ·)

/-- The members of an object: its fields that have a value. -/
def present (fields : List (String × Option Json)) : List (String × Json) :=
  fields.flatMap fun (name, value?) => member name value?

@[simp] theorem member_some (name : String) (value : Json) :
    member name (some value) = [(name, value)] := rfl

@[simp] theorem member_none (name : String) : member name none = [] := rfl

@[simp] theorem present_nil : present [] = [] := rfl

@[simp] theorem present_cons (name : String) (value? : Option Json)
    (fields : List (String × Option Json)) :
    present ((name, value?) :: fields) = member name value? ++ present fields := rfl

/-- The members that are present are the fields with a value. -/
theorem mem_present {fields : List (String × Option Json)} {name : String} {value : Json} :
    (name, value) ∈ present fields ↔ (name, some value) ∈ fields := by
  simp only [present, member, List.mem_flatMap, List.mem_map, Option.mem_toList, Prod.mk.injEq]
  constructor
  · rintro ⟨⟨_, _⟩, hmem, _, rfl, rfl, rfl⟩
    exact hmem
  · intro hmem
    exact ⟨_, hmem, value, rfl, rfl, rfl⟩

/-- The names of the members of an object are some of those of its fields. -/
theorem sublist_map_present (fields : List (String × Option Json)) :
    ((present fields).map (·.1)).Sublist (fields.map (·.1)) := by
  induction fields with
  | nil => exact .slnil
  | cons field fields ih =>
    obtain ⟨name, _ | value⟩ := field
    · exact ih.cons name
    · exact ih.cons_cons name

/-- Under distinct names, the fields that are left out can be told from those that remain. -/
theorem present_inj {a b : List (String × Option Json)} (hnodup : (a.map (·.1)).Nodup)
    (hnames : a.map (·.1) = b.map (·.1)) (h : present a = present b) : a = b := by
  induction a generalizing b with
  | nil => exact (List.map_eq_nil_iff.1 hnames.symm).symm
  | cons x a ih =>
    cases b with
    | nil => cases hnames
    | cons y b =>
      obtain ⟨name, v⟩ := x
      obtain ⟨name', w⟩ := y
      simp only [List.map_cons, List.cons.injEq] at hnames
      obtain ⟨rfl, hnames⟩ := hnames
      obtain ⟨hnew, hrest⟩ := List.nodup_cons.1 hnodup
      -- a member of this name comes from this field, not from one of the others
      have hmissing : ∀ value, (name, value) ∉ present a ∧ (name, value) ∉ present b := by
        intro value
        constructor <;> intro hmem
        · exact hnew (List.mem_map_of_mem (f := (·.1)) (mem_present.1 hmem))
        · exact hnew (hnames ▸ List.mem_map_of_mem (f := (·.1)) (mem_present.1 hmem))
      cases v with
      | none =>
        cases w with
        | none => rw [ih hrest hnames h]
        | some w => exact absurd (h ▸ List.mem_cons_self) (hmissing w).1
      | some v =>
        cases w with
        | none => exact absurd (h ▸ List.mem_cons_self) (hmissing v).2
        | some w =>
          simp only [present_cons, member_some, List.cons_append, List.nil_append, List.cons.injEq,
            Prod.mk.injEq, true_and] at h
          rw [h.1, ih hrest hnames h.2]

/-- A record determines its members and their order. -/
theorem record_inj {a b : List (String × Json)} (h : record a = record b) : a = b := by
  refine (List.map_inj_right fun x y hxy => ?_).1 (Json.object.inj h)
  obtain ⟨hname, hvalue⟩ := Prod.mk.inj hxy
  exact Prod.ext (String.toList_inj.1 hname) hvalue

/-- An object determines its fields. -/
theorem record_present_inj {a b : List (String × Option Json)} (hnodup : (a.map (·.1)).Nodup)
    (hnames : a.map (·.1) = b.map (·.1)) (h : record (present a) = record (present b)) : a = b :=
  present_inj hnodup hnames (record_inj h)

/-- A record of different names and proper values is proper. -/
theorem proper_record {members : List (String × Json)} (hnodup : (members.map (·.1)).Nodup)
    (h : ∀ m ∈ members, m.2.Proper) : (record members).Proper := by
  refine .object ?_ ?_
  · rw [List.map_map]
    refine List.pairwise_map.2 ((List.pairwise_map.1 hnodup).imp fun hne htext => ?_)
    exact hne (String.toList_inj.1 htext)
  · intro m hm
    obtain ⟨member, hmem, rfl⟩ := List.mem_map.1 hm
    exact h member hmem

/-- So is a record of the fields that are present. -/
theorem proper_record_present {fields : List (String × Option Json)}
    (hnodup : (fields.map (·.1)).Nodup) (h : ∀ f ∈ fields, ∀ v ∈ f.2, Proper v) :
    Proper (record (present fields)) :=
  proper_record ((sublist_map_present fields).nodup hnodup) fun (_, value) hm =>
    h _ (mem_present.1 hm) value rfl

/-! ## Texts, numbers and lists -/

/-- A list is read back if its items are. -/
theorem list?_map {α : Type} (read : Json → Option α) (write : α → Json)
    (h : ∀ x, read (write x) = some x) (xs : List α) :
    list? read (.array (xs.map write)) = some xs := by
  have hread : read ∘ write = pure := funext h
  rw [list?, List.mapM_map, hread, List.mapM_pure, List.map_id']
  rfl

/-- Values that can be written are all read back if each of them is. -/
theorem list?_of_mapM {α : Type} {read : Json → Option α} {write : α → Option Json}
    (h : ∀ x v, write x = some v → read v = some x) {xs : List α} {vs : List Json}
    (hwritten : xs.mapM write = some vs) : list? read (.array vs) = some xs := by
  induction xs generalizing vs with
  | nil =>
    rw [List.mapM_nil] at hwritten
    rw [← Option.some.inj hwritten]
    rfl
  | cons x xs ih =>
    rw [List.mapM_cons] at hwritten
    obtain ⟨v, hv, hrest⟩ := Option.bind_eq_some_iff.1 hwritten
    obtain ⟨vs, hvs, heq⟩ := Option.bind_eq_some_iff.1 hrest
    -- reading goes item by item, as writing does
    have hxs : vs.mapM read = some xs := ih hvs
    rw [← Option.some.inj heq, list?, List.mapM_cons, h x v hv, hxs]
    rfl

/-- A list can be written exactly if each of its values can. -/
theorem isSome_mapM_iff {α β : Type} {write : α → Option β} {xs : List α} :
    (xs.mapM write).isSome ↔ ∀ x ∈ xs, (write x).isSome := by
  induction xs with
  | nil => simp
  | cons x xs ih =>
    rw [List.mapM_cons, List.forall_mem_cons, ← ih]
    cases write x with
    | none => simp
    | some v => cases xs.mapM write <;> simp

/-- A list of texts is read back. -/
theorem list?_text?_map (ts : List Text) : list? text? (.array (ts.map .string)) = some ts :=
  list?_map text? .string (fun _ => rfl) ts

/-- A text or null is read back. -/
theorem nullable?_ofText? (t? : Option Text) : nullable? text? (.ofText? t?) = some t? := by
  cases t? <;> rfl

/-- A byte is read back from its number. -/
theorem byte?_ofNat (b : UInt8) : byte? (.ofNat b.toNat) = some b := by
  have hlt : b.toNat < UInt8.size := b.toNat_lt
  simp [byte?, ofNat, natBelow?, hlt]

/-- A list of bytes is read back. -/
theorem list?_byte?_map (bytes : Bytes) :
    list? byte? (.array (bytes.map fun b => .ofNat b.toNat)) = some bytes :=
  list?_map byte? _ byte?_ofNat bytes

/-- A list of pairs of texts is read back. -/
theorem list?_textPair?_map (pairs : List (Text × Text)) :
    list? textPair? (.array (pairs.map fun (a, b) => .array [.string a, .string b])) =
      some pairs :=
  list?_map textPair? _ (fun _ => rfl) pairs

/-- Null is read as the absence of a value, whatever the value would be. -/
theorem nullable?_null {α : Type} (read : Json → Option α) : nullable? read .null = some none := rfl

/-- A number of sixty-four bits is read back. -/
theorem nullable?_word64?_ofNat (n : UInt64) :
    nullable? word64? (.ofNat n.toNat) = some (some n) := by
  have hlt : n.toNat < UInt64.size := n.toNat_lt
  simp [nullable?, word64?, ofNat, natBelow?, hlt]

/-! ## Dictionaries -/

/-- A list is read item by item.  If each item is read from one value alone, so is the list. -/
theorem mapM_eq_some_iff {α β : Type} {read : α → Option β} {write : β → α}
    (h : ∀ a b, read a = some b ↔ a = write b) {vs : List α} {xs : List β} :
    vs.mapM read = some xs ↔ vs = xs.map write := by
  induction vs generalizing xs with
  | nil => cases xs <;> simp
  | cons v vs ih =>
    rw [List.mapM_cons]
    simp only [Option.bind_eq_bind, Option.bind_eq_some_iff, Option.pure_def, Option.some.injEq,
      h, ih]
    constructor
    · rintro ⟨x, rfl, xs, rfl, rfl⟩
      rfl
    · intro heq
      -- a value that is written starts a list that is not empty
      cases xs with
      | nil => cases heq
      | cons x xs =>
        obtain ⟨rfl, rfl⟩ := List.cons.inj heq
        exact ⟨x, rfl, xs, rfl, rfl⟩

/-- The member of an entry. -/
def ofEntry (entry : Text × Text) : Text × Json := (entry.1, .string entry.2)

/-- An entry of a dictionary is read from its member alone. -/
theorem entry?_eq_some_iff {m : Text × Json} {entry : Text × Text} :
    entry? m = some entry ↔ m = ofEntry entry := by
  obtain ⟨key, v⟩ := m
  obtain ⟨key', t⟩ := entry
  cases v <;> simp [text?, entry?, ofEntry]

/-- The entries of a dictionary are read from their members alone. -/
theorem mapM_entry?_eq_some_iff {members : Members} {entries : List (Text × Text)} :
    members.mapM entry? = some entries ↔ members = entries.map ofEntry :=
  mapM_eq_some_iff fun _ _ => entry?_eq_some_iff

/-- Members that all hold texts are those of entries. -/
theorem exists_eq_map_ofEntry {members : Members} (h : ∀ m ∈ members, ∃ t, m.2 = .string t) :
    ∃ entries : List (Text × Text), members = entries.map ofEntry := by
  induction members with
  | nil => exact ⟨[], rfl⟩
  | cons m members ih =>
    obtain ⟨t, ht⟩ := h m List.mem_cons_self
    obtain ⟨entries, rfl⟩ := ih fun m hm => h m (List.mem_cons_of_mem _ hm)
    exact ⟨(m.1, t) :: entries, by rw [List.map_cons, ofEntry, ← ht]⟩

/-- A dictionary of entries has the values of the members that are written for them. -/
theorem map_get?_ofList (entries : List (Text × Text)) (key : Text) :
    ((Dictionary.ofList entries).get? key).map Json.string = member? key (entries.map ofEntry) := by
  suffices hfold : ∀ d : Dictionary,
      ((entries.foldl (fun d (key, value) => d.insert key value) d).get? key).map Json.string =
        (member? key (entries.map ofEntry)).or ((d.get? key).map Json.string) by
    rw [Dictionary.ofList, hfold, Dictionary.get?_empty, Option.map_none, Option.or_none]
  -- what is inserted later replaces what is there, as a later member does
  induction entries with
  | nil => exact fun d => rfl
  | cons entry entries ih =>
    intro d
    obtain ⟨k, t⟩ := entry
    rw [List.foldl_cons, ih, List.map_cons, ofEntry, member?, Option.or_assoc,
      Dictionary.get?_insert]
    by_cases hk : key = k
    · simp [hk]
    · have hne : k ≠ key := fun h => hk h.symm
      simp [hk, hne]

/-- An object is read as the dictionary that has the texts of its members. -/
theorem dictionary?_eq_some_iff {members : Members} {d : Dictionary} :
    dictionary? (.object members) = some d ↔
      ∀ key, member? key members = (d.get? key).map Json.string := by
  rw [dictionary?, Option.map_eq_some_iff]
  constructor
  · rintro ⟨entries, hentries, rfl⟩ key
    rw [map_get?_ofList, ← mapM_entry?_eq_some_iff.1 hentries, member?_effective]
  · intro h
    obtain ⟨entries, hentries⟩ : ∃ entries : List (Text × Text),
        effective members = entries.map ofEntry := by
      refine exists_eq_map_ofEntry fun m hm => ?_
      have hm := (h m.1).symm.trans (member?_of_mem_effective hm)
      obtain ⟨t, -, ht⟩ := Option.map_eq_some_iff.1 hm
      exact ⟨t, ht.symm⟩
    -- the dictionary that is read and the given one answer alike
    refine ⟨entries, mapM_entry?_eq_some_iff.2 hentries, Dictionary.ext_get? fun key => ?_⟩
    have hvalue : ((Dictionary.ofList entries).get? key).map Json.string =
        (d.get? key).map Json.string := by
      rw [map_get?_ofList, ← hentries, member?_effective, h]
    exact (Option.map_inj_right fun _ _ => Json.string.inj).1 hvalue

end Json

namespace Dictionary

open Json

/-- A dictionary has each key once. -/
theorem nodup_keys (d : Dictionary) : (d.entries.map (·.1)).Nodup := by
  refine List.pairwise_map.2 (d.sorted.imp fun hlt hkey => ?_)
  rw [hkey, Text.precedes_irrefl] at hlt
  exact Bool.false_ne_true hlt

/-- Under each key a dictionary is written with the value that it has there. -/
theorem member?_map_ofEntry {entries : List (Text × Text)} (h : (entries.map (·.1)).Nodup)
    (key : Text) : member? key (entries.map ofEntry) = (valueOf? key entries).map Json.string := by
  induction entries with
  | nil => rfl
  | cons entry entries ih =>
    obtain ⟨k, t⟩ := entry
    obtain ⟨hnew, hrest⟩ := List.nodup_cons.1 h
    rw [List.map_cons, ofEntry, member?, valueOf?]
    by_cases hk : key = k
    · subst hk
      -- the key does not come again, so this entry has the last word
      have hnone : member? key (entries.map ofEntry) = none := by
        refine member?_eq_none_iff.2 fun m hm heq => hnew ?_
        obtain ⟨entry, hentry, rfl⟩ := List.mem_map.1 hm
        exact List.mem_map.2 ⟨entry, hentry, heq⟩
      simp [hnone]
    · have hne : k ≠ key := fun h => hk h.symm
      simp [ih hrest, hk, hne]

/-- What is written for a dictionary is read as that dictionary. -/
theorem dictionary?_toJson (d : Dictionary) : dictionary? d.toJson = some d :=
  dictionary?_eq_some_iff.2 (member?_map_ofEntry d.nodup_keys)

/-- Different dictionaries are written differently. -/
theorem toJson_injective {a b : Dictionary} (h : a.toJson = b.toJson) : a = b := by
  have hread := dictionary?_toJson a
  rw [h, dictionary?_toJson] at hread
  exact (Option.some.inj hread).symm

/-- Proper JSON is written for a dictionary. -/
theorem proper_toJson (d : Dictionary) : d.toJson.Proper := by
  refine .object ?_ ?_
  · rw [List.map_map]
    exact d.nodup_keys
  · intro m hm
    obtain ⟨⟨key, value⟩, -, rfl⟩ := List.mem_map.1 hm
    exact .string value

end Dictionary

end Mailroom
