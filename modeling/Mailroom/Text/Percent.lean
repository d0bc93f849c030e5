import Mailroom.Text.Hex
import Mailroom.Text.Utf8

/-!
# Percent encoding

A byte that is not an unreserved character of a URI is written as a percent sign and two
upper-case hexadecimal digits.
-/

namespace Mailroom.Text

/-- The characters that stand for themselves in any part of a URI. -/
def isUnreserved (c : Char) : Bool :=
  c.isAlphanum || c == '-' || c == '.' || c == '_' || c == '~'

/-- A byte as it stands in a URI. -/
def percentByte (b : UInt8) : Text :=
  let c := Char.ofNat b.toNat
  if isUnreserved c then [c]
  else ['%', upperHexDigit (b.toNat / 16), upperHexDigit (b.toNat % 16)]

/-- A text as it stands in a URI. -/
def percentEncode (t : Text) : Text := (toUtf8 t).flatMap percentByte

end Mailroom.Text
