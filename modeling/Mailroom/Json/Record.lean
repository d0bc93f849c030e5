import Mailroom.Dictionary
import Mailroom.Json.Basic

/-!
# Records as JSON

Readers of single values, of dictionaries and of the fields of a record.  A reader is
strict: it takes no value of another type for the one it expects.  Fields that a record does
not have are ignored, and a field may be required, optional or have a default.
-/

namespace Mailroom

/-- The entries of a dictionary, in the order of their keys. -/
def Dictionary.toJson (d : Dictionary) : Json :=
  .object (d.entries.map fun (key, value) => (key, .string value))

namespace Json

/-! ## Values -/

/-- A text. -/
def text? : Json → Option Text
  | .string t => some t
  | _ => none

/-- A truth value. -/
def bool? : Json → Option Bool
  | .bool b => some b
  | _ => none

/-- A natural number below `bound`. -/
def natBelow? (bound : Nat) : Json → Option Nat
  | .number (.integer (.ofNat n)) => if n < bound then some n else none
  | _ => none

/-- A byte. -/
def byte? (v : Json) : Option UInt8 := (natBelow? UInt8.size v).map UInt8.ofNat

/-- A number of sixty-four bits. -/
def word64? (v : Json) : Option UInt64 := (natBelow? UInt64.size v).map UInt64.ofNat

/-- A list whose items `read` accepts. -/
def list? {α : Type} (read : Json → Option α) : Json → Option (List α)
  | .array items => items.mapM read
  | _ => none

/-- A pair of texts. -/
def textPair? : Json → Option (Text × Text)
  | .array [.string a, .string b] => some (a, b)
  | _ => none

/-- A value that `read` accepts, or null in its absence. -/
def nullable? {α : Type} (read : Json → Option α) : Json → Option (Option α)
  | .null => some none
  | v => (read v).map some

/-- An entry of a dictionary. -/
def entry? (member : Text × Json) : Option (Text × Text) := (text? member.2).map (member.1, ·)

/-- A dictionary. -/
def dictionary? : Json → Option Dictionary
  | .object members => ((effective members).mapM entry?).map Dictionary.ofList
  | _ => none

/-! ## Fields -/

/-- The members of a JSON object. -/
abbrev Members := List (Text × Json)

/-- The members of an object. -/
def members? : Json → Option Members
  | .object members => some members
  | _ => none

/-- The members of a record, given as an object or as an array of the values of the fields
`names` in their order.  An array may leave out fields from the one numbered `least` on. -/
def fields? (names : List String) (least : Nat) : Json → Option Members
  | .object members => some members
  | .array items =>
    if least ≤ items.length && items.length ≤ names.length then
      some ((names.map String.toList).zip items)
    else none
  | _ => none

/-- A field that has to be there. -/
def required {α : Type} (read : Json → Option α) (name : String) (members : Members) :
    Option α :=
  (member? name.toList members).bind read

/-- A field that may be left out or null. -/
def optional {α : Type} (read : Json → Option α) (name : String) (members : Members) :
    Option (Option α) :=
  match member? name.toList members with
  | none => some none
  | some value => nullable? read value

/-- A field that may be left out and then has the value `absent`. -/
def defaulted {α : Type} (read : Json → Option α) (absent : α) (name : String)
    (members : Members) : Option α :=
  match member? name.toList members with
  | none => some absent
  | some value => read value

end Json

end Mailroom
