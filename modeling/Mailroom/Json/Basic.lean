import Mailroom.Text.Basic

/-!
# JSON values

An object is the list of its members in the order in which they are written; of several
members with one name the last counts.  Integers are told apart from numbers with a fraction
or an exponent, which are kept as they are written.
-/

namespace Mailroom

/-- A number of a JSON value. -/
inductive Json.Number where
  | integer (n : Int)
  /-- A number written with a fraction or an exponent, or the integer minus zero. -/
  | decimal (literal : Text)
  deriving DecidableEq, Repr

/-- A JSON value. -/
inductive Json where
  | null
  | bool (b : Bool)
  | number (n : Json.Number)
  | string (t : Text)
  | array (items : List Json)
  | object (members : List (Text × Json))

namespace Json

/-- The value of the last member with the given name. -/
def member? (name : Text) : List (Text × Json) → Option Json
  | [] => none
  | (n, value) :: rest => (member? name rest).or (if n == name then some value else none)

/-- The members of an object that count: each without a later one of the same name. -/
def effective : List (Text × Json) → List (Text × Json)
  | [] => []
  | (name, value) :: rest =>
    if rest.any (·.1 == name) then effective rest else (name, value) :: effective rest

/-- An object with the given members. -/
def record (members : List (String × Json)) : Json :=
  .object (members.map fun (name, value) => (name.toList, value))

/-- A natural number as a JSON value. -/
def ofNat (n : Nat) : Json := .number (.integer n)

/-- A text, or null in its absence. -/
def ofText? : Option Text → Json
  | none => .null
  | some t => .string t

end Json

end Mailroom
