import Mailroom.Html.NamedReference
import Mailroom.Text.Blank
import Mailroom.Text.Hex

/-!
# Character references

A reference starts at an ampersand and runs to the first semicolon or white space, which
belongs to it.  It names a character by a name of the table or by a number, decimal or
hexadecimal.  Numbers of the characters that lay out a line are not decoded, and what is no
reference stays as it is written.
-/

namespace Mailroom.Html

open Text

/-- The value of a digit of a base `radix` of at most sixteen. -/
def digitBelow? (radix : Nat) (c : Char) : Option Nat := (hexValue? c).filter (· < radix)

/-- The number that a text spells in the base `radix`: one or more digits, which a plus
sign may precede. -/
def number? (radix : Nat) (t : Text) : Option Nat :=
  let digits := (after? ['+'] t).getD t
  if digits.isEmpty then none
  else
    (digits.mapM (digitBelow? radix)).map fun values =>
      values.foldl (fun n value => n * radix + value) 0

/-- The characters that lay out a line: tab, line feed, carriage return and space. -/
def isLayout (n : Nat) : Bool := n == 9 || n == 10 || n == 13 || n == 32

/-- The character with the number `n`, unless there is none or it lays out a line. -/
def scalar? (n : Nat) : Option Char :=
  if n.isValidChar && !isLayout n then some (Char.ofNat n) else none

/-- The character that a numeric reference stands for. -/
def numeric? : Text → Option Char
  | '#' :: 'x' :: digits => (number? 16 digits).bind scalar?
  | '#' :: digits => (number? 10 digits).bind scalar?
  | _ => none

/-- The character that a named reference stands for. -/
def named? : Text → Option Char
  | [] => none
  | c :: t =>
    let name := String.ofList (c :: t)
    ((namedReferences c).find? (·.1 == name)).map fun (_, n) => Char.ofNat n

/-- The character that the name of a reference stands for. -/
def character? (name : Text) : Option Char := (named? name).or (numeric? name)

/-- The name of a reference ends before this character. -/
def endsReference (c : Char) : Bool := c == ';' || isBlank c

/-- Decodes the reference that may stand at the start of a piece that follows an
ampersand. -/
def decodePiece (piece : Text) : Text :=
  match character? (piece.takeWhile (!endsReference ·)) with
  | some c => c :: (piece.dropWhile (!endsReference ·)).drop 1
  | none => '&' :: piece

/-- The text with its character references decoded. -/
def decodeReferences (t : Text) : Text :=
  match fields '&' t with
  | [] => []
  | first :: pieces => first ++ pieces.flatMap decodePiece

end Mailroom.Html
