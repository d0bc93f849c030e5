import Mailroom.Json.Basic
import Mailroom.Text.Hex

/-!
# Writing JSON

The compact form: no white space, members in their order, and in strings only the escapes
that the format demands.  Control characters have their short escape where there is one and
otherwise four lower-case hexadecimal digits.
-/

namespace Mailroom.Json

open Text

/-- A character as it stands in a string. -/
def escapeChar (c : Char) : Text :=
  if c == '"' then ['\\', '"']
  else if c == '\\' then ['\\', '\\']
  else if c == '\x08' then ['\\', 'b']
  else if c == '\t' then ['\\', 't']
  else if c == '\n' then ['\\', 'n']
  else if c == '\x0c' then ['\\', 'f']
  else if c == '\r' then ['\\', 'r']
  else if c.toNat < 0x20 then
    ['\\', 'u', '0', '0', lowerHexDigit (c.toNat / 16), lowerHexDigit (c.toNat % 16)]
  else [c]

/-- A text as a string. -/
def printString (t : Text) : Text := '"' :: t.flatMap escapeChar ++ ['"']

/-- A number. -/
def printNumber : Number → Text
  | .integer (.ofNat n) => Nat.toDigits 10 n
  | .integer (.negSucc n) => '-' :: Nat.toDigits 10 (n + 1)
  | .decimal literal => literal

mutual

/-- A value in its compact form. -/
def print : Json → Text
  | .null => "null".toList
  | .bool true => "true".toList
  | .bool false => "false".toList
  | .number n => printNumber n
  | .string t => printString t
  | .array items => '[' :: printItems items ++ [']']
  | .object members => '\x7b' :: printMembers members ++ ['\x7d']

/-- The items of an array, divided by commas. -/
def printItems : List Json → Text
  | [] => []
  | [item] => print item
  | item :: rest => print item ++ ',' :: printItems rest

/-- The members of an object, divided by commas. -/
def printMembers : List (Text × Json) → Text
  | [] => []
  | [(name, value)] => printString name ++ ':' :: print value
  | (name, value) :: rest => printString name ++ ':' :: print value ++ ',' :: printMembers rest

end

end Mailroom.Json
