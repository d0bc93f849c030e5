import Mailroom.Json.Record
import Mailroom.Proofs.Json.Record

/-!
# Reading loosely written records

A schema says which fields the objects of a record have, and what a field holds when it is left
out.  It leaves the order of the members open, lets others stand among them, and lets a field
be left out that holds what it would hold then.  A reader that looks its fields up by their
names does not notice any of this.

## Key results

* `Loosens`           the ways to write a value more loosely
* `Loosens.required`, `Loosens.optional`, `Loosens.defaulted`   a field is read the same
* `Keeps.list`, `keeps_dictionary`, `keeps_record`              so are lists, dictionaries, records
-/

namespace Mailroom.Json

/-- How far the JSON of a type is fixed. -/
inductive Schema where
  /-- A value that is written in one way. -/
  | fixed
  /-- A list of values. -/
  | list (item : Schema)
  /-- Texts under any names. -/
  | dictionary
  /-- Fields under their names, each with what it holds when it is left out, if it may be. -/
  | record (fields : List (String × Option Json × Schema))

/-- The fields of a record. -/
abbrev Fields := List (String × Option Json × Schema)

/-- The second value is the first one written more loosely, in any number of places. -/
inductive Loosens : Schema → Json → Json → Prop
  | refl (s : Schema) (v : Json) : Loosens s v v
  | trans {s : Schema} {u v w : Json} (h : Loosens s u v) (h' : Loosens s v w) : Loosens s u w
  | item {s : Schema} {v w : Json} (before after : List Json) (h : Loosens s v w) :
      Loosens (.list s) (.array (before ++ v :: after)) (.array (before ++ w :: after))
  /-- Entries may stand in any order. -/
  | entries {members members' : Members} (hperm : members.Perm members')
      (hnames : (members.map (·.1)).Nodup) :
      Loosens .dictionary (.object members) (.object members')
  /-- Members may stand in any order. -/
  | reorder {fields : Fields} {members members' : Members} (hperm : members.Perm members')
      (hnames : (members.map (·.1)).Nodup) :
      Loosens (.record fields) (.object members) (.object members')
  /-- Members that are no fields may stand anywhere. -/
  | add {fields : Fields} {name : Text} (v : Json) (before after : Members)
      (hname : ∀ field ∈ fields, field.1.toList ≠ name) :
      Loosens (.record fields) (.object (before ++ after)) (.object (before ++ (name, v) :: after))
  /-- A field may be left out that holds what it holds then. -/
  | leaveOut {fields : Fields} (name : String) {absent : Json} {s : Schema}
      (before after : Members) (hfield : fields.lookup name = some (some absent, s))
      (hname : ∀ m ∈ before ++ after, m.1 ≠ name.toList) :
      Loosens (.record fields) (.object (before ++ (name.toList, absent) :: after))
        (.object (before ++ after))
  /-- The value of a field may be written more loosely. -/
  | field {fields : Fields} (name : String) {absent? : Option Json} {s : Schema} {v w : Json}
      (before after : Members) (hfield : fields.lookup name = some (absent?, s))
      (h : Loosens s v w) :
      Loosens (.record fields) (.object (before ++ (name.toList, v) :: after))
        (.object (before ++ (name.toList, w) :: after))

/-! ## Readers -/

/-- Objects alone can be written more loosely as records. -/
theorem Loosens.eq_or_object {fields : Fields} {v w : Json}
    (h : Loosens (.record fields) v w) :
    w = v ∨ ∃ members members', v = .object members ∧ w = .object members' := by
  generalize hs : Schema.record fields = s at h
  induction h with
  | refl => exact .inl rfl
  | trans h h' ih ih' =>
    rcases ih hs with rfl | ⟨members, _, rfl, rfl⟩
    · exact ih' hs
    · rcases ih' hs with rfl | ⟨_, members', -, rfl⟩ <;> exact .inr ⟨_, _, rfl, rfl⟩
  | item | entries => cases hs
  | _ => exact .inr ⟨_, _, rfl, rfl⟩

/-- A reader that does not notice how loosely a value is written. -/
def Keeps {α : Type} (s : Schema) (read : Json → Option α) : Prop :=
  ∀ v w, Loosens s v w → read w = read v

/-- A value of a fixed schema is written in one way only, so every reader keeps it. -/
theorem keeps_fixed {α : Type} (read : Json → Option α) : Keeps .fixed read := by
  intro v w h
  generalize hs : Schema.fixed = s at h
  induction h with
  | refl => rfl
  | trans h h' ih ih' => exact (ih' hs).trans (ih hs)
  | _ => cases hs

/-- A reader of lists keeps the schema if the reader of the items does. -/
theorem Keeps.list {α : Type} {s : Schema} {read : Json → Option α} (hread : Keeps s read) :
    Keeps (.list s) (list? read) := by
  intro v w h
  generalize hs : Schema.list s = s' at h
  induction h with
  | refl => rfl
  | trans h h' ih ih' => exact (ih' hs).trans (ih hs)
  | item before after h =>
    obtain rfl := Schema.list.inj hs
    rw [list?, list?, List.mapM_append, List.mapM_append, List.mapM_cons, List.mapM_cons,
      hread _ _ h]
  | _ => cases hs

/-! ## Fields -/

section Fields

variable {α : Type} {fields : Fields} {absent? : Option α} {read : Json → Option α} {name : String}

/-- What is read of a member of an object: `absent?` if it is left out. -/
def readField (absent? : Option α) (read : Json → Option α) (name : String) : Json → Option α
  | .object members =>
    match member? name.toList members with
    | none => absent?
    | some v => read v
  | _ => none

/-- A member of another name does not matter to a field. -/
theorem readField_append_cons_of_ne {key : Text} (h : key ≠ name.toList) (v : Json)
    (before after : Members) :
    readField absent? read name (.object (before ++ (key, v) :: after)) =
      readField absent? read name (.object (before ++ after)) := by
  rw [readField, readField, member?_append_cons_of_ne h]

/-- A member of the name stands for the field. What comes behind it may still be the last one of
that name. -/
theorem readField_append_cons_self (v : Json) (before after : Members) :
    readField absent? read name (.object (before ++ (name.toList, v) :: after)) =
      readField (read v) read name (.object after) := by
  rw [readField, readField, member?_append_cons_self]
  cases member? name.toList after <;> rfl

/-- Without a member of the name the field is absent. -/
theorem readField_eq_absent {members : Members} (h : ∀ m ∈ members, m.1 ≠ name.toList) :
    readField absent? read name (.object members) = absent? := by
  rw [readField, member?_eq_none_iff.2 h]

/-- Reading a field does not notice how loosely the record is written, if reading its value does
not, and what it holds when it is left out is read as `absent?`. -/
theorem readField_loosens {default? : Option Json} {s : Schema}
    (hfield : fields.lookup name = some (default?, s)) (hread : Keeps s read)
    (habsent : ∀ v ∈ default?, read v = absent?) {v w : Json} (h : Loosens (.record fields) v w) :
    readField absent? read name w = readField absent? read name v := by
  generalize hs : Schema.record fields = s' at h
  -- by the rules for loose JSON; only those for records apply
  induction h with
  | refl => rfl
  | trans h h' ih ih' => exact (ih' hs).trans (ih hs)
  | reorder hperm hnames => rw [readField, readField, member?_perm hperm hnames]
  | @add fields' key v before after hname =>
    obtain rfl := Schema.record.inj hs
    -- what is added is no field, so it is not this one
    have hne : key ≠ name.toList := by
      obtain ⟨_, _, rfl, -⟩ := List.lookup_eq_some_iff.1 hfield
      exact (hname _ (List.mem_append_right _ List.mem_cons_self)).symm
    exact readField_append_cons_of_ne hne v before after
  | @leaveOut fields' key v s' before after hkey hname =>
    obtain rfl := Schema.record.inj hs
    by_cases heq : key = name
    · -- this field is left out, and its value is read as it is in its absence
      subst heq
      obtain ⟨rfl, rfl⟩ := Prod.mk.inj (Option.some.inj (hfield.symm.trans hkey))
      rw [readField_append_cons_self, readField_eq_absent hname,
        readField_eq_absent fun m hm => hname m (List.mem_append_right _ hm)]
      exact (habsent v rfl).symm
    · have hne : key.toList ≠ name.toList := fun h => heq (String.toList_inj.1 h)
      exact (readField_append_cons_of_ne hne v before after).symm
  | @field fields' key default?' s' v w before after hkey h =>
    obtain rfl := Schema.record.inj hs
    by_cases heq : key = name
    · subst heq
      obtain ⟨rfl, rfl⟩ := Prod.mk.inj (Option.some.inj (hfield.symm.trans hkey))
      rw [readField_append_cons_self, readField_append_cons_self, hread v w h]
    · have hne : key.toList ≠ name.toList := fun h => heq (String.toList_inj.1 h)
      rw [readField_append_cons_of_ne hne, readField_append_cons_of_ne hne]
  | item | entries => cases hs

variable {members members' : Members}

/-- A field that has to be there is read the same from looser JSON. -/
theorem Loosens.required (h : Loosens (.record fields) (.object members) (.object members'))
    {default? : Option Json} {s : Schema} (hfield : fields.lookup name = some (default?, s))
    (hread : Keeps s read) (hdefault : ∀ v ∈ default?, read v = none) :
    Json.required read name members' = Json.required read name members := by
  have hrequired : ∀ members, Json.required read name members =
      readField none read name (.object members) := by
    intro members
    rw [Json.required, readField]
    cases member? name.toList members <;> rfl
  rw [hrequired, hrequired, readField_loosens hfield hread hdefault h]

/-- So is a field with a default, if its default is what is written for it. -/
theorem Loosens.defaulted (h : Loosens (.record fields) (.object members) (.object members'))
    {default : Json} {s : Schema} {absent : α}
    (hfield : fields.lookup name = some (some default, s)) (hread : Keeps s read)
    (hdefault : read default = some absent) :
    Json.defaulted read absent name members' = Json.defaulted read absent name members :=
  readField_loosens hfield hread (by rintro v ⟨⟩; exact hdefault) h

/-- So is an optional field, which stands for null where it is left out. -/
theorem Loosens.optional (h : Loosens (.record fields) (.object members) (.object members'))
    {s : Schema} (hfield : fields.lookup name = some (some .null, s))
    (hread : Keeps s (nullable? read)) :
    Json.optional read name members' = Json.optional read name members :=
  readField_loosens hfield hread (by rintro v ⟨⟩; rfl) h

end Fields

/-! ## Dictionaries and records -/

/-- A dictionary is read the same whatever the order of its entries. -/
theorem keeps_dictionary : Keeps .dictionary dictionary? := by
  intro v w h
  generalize hs : Schema.dictionary = s at h
  induction h with
  | refl => rfl
  | trans h h' ih ih' => exact (ih' hs).trans (ih hs)
  | entries hperm hnames =>
    refine Option.ext fun d => ?_
    simp only [dictionary?_eq_some_iff, member?_perm hperm hnames]
  | _ => cases hs

/-- A record is read the same if its objects are. -/
theorem keeps_record {α : Type} {fields : Fields} {read : Json → Option α}
    (hread : ∀ members members', Loosens (.record fields) (.object members) (.object members') →
      read (.object members') = read (.object members)) :
    Keeps (.record fields) read := by
  intro v w h
  rcases h.eq_or_object with rfl | ⟨members, members', rfl, rfl⟩
  · rfl
  · exact hread members members' h

end Mailroom.Json
