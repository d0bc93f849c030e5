import Mailroom.Text.Basic

/-!
# Base64

The standard alphabet.  Three bytes make four digits; one or two bytes left at the end make
two or three digits, whose spare bits are zero.  Writing pads the last group to four
characters; reading takes the digits alone and accepts exactly what is written for some
bytes, so a stray length and spare bits that are not zero are refused.
-/

namespace Mailroom.Base64

/-- The digit of a number below sixty-four. -/
def digit (n : Nat) : Char :=
  if n < 26 then Char.ofNat (0x41 + n)
  else if n < 52 then Char.ofNat (0x61 + (n - 26))
  else if n < 62 then Char.ofNat (0x30 + (n - 52))
  else if n == 62 then '+'
  else '/'

/-- The number that a digit stands for. -/
def value? (c : Char) : Option Nat :=
  let n := c.toNat
  if 0x41 ≤ n && n ≤ 0x5A then some (n - 0x41)
  else if 0x61 ≤ n && n ≤ 0x7A then some (n - 0x61 + 26)
  else if 0x30 ≤ n && n ≤ 0x39 then some (n - 0x30 + 52)
  else if c == '+' then some 62
  else if c == '/' then some 63
  else none

/-- The digits of the bytes, without padding. -/
def digits : Bytes → Text
  | [] => []
  | [a] => [digit (a.toNat / 4), digit (a.toNat % 4 * 16)]
  | [a, b] =>
    [digit (a.toNat / 4), digit (a.toNat % 4 * 16 + b.toNat / 16), digit (b.toNat % 16 * 4)]
  | a :: b :: c :: rest =>
    digit (a.toNat / 4) :: digit (a.toNat % 4 * 16 + b.toNat / 16)
      :: digit (b.toNat % 16 * 4 + c.toNat / 64) :: digit (c.toNat % 64) :: digits rest

/-- The padding that completes the last group of four. -/
def padding (bytes : Bytes) : Text := List.replicate ((3 - bytes.length % 3) % 3) '='

/-- The bytes in base64, padded. -/
def encode (bytes : Bytes) : Text := digits bytes ++ padding bytes

/-- The bytes of a sequence of numbers below sixty-four. -/
def bytesOfValues? : List Nat → Option Bytes
  | [] => some []
  | [_] => none
  | [p, q] => if q % 16 == 0 then some [UInt8.ofNat (p * 4 + q / 16)] else none
  | [p, q, r] =>
    if r % 4 == 0 then
      some [UInt8.ofNat (p * 4 + q / 16), UInt8.ofNat (q % 16 * 16 + r / 4)]
    else none
  | p :: q :: r :: s :: rest =>
    (bytesOfValues? rest).map fun bytes =>
      UInt8.ofNat (p * 4 + q / 16) :: UInt8.ofNat (q % 16 * 16 + r / 4)
        :: UInt8.ofNat (r % 4 * 64 + s) :: bytes

/-- The bytes whose digits, without padding, are the given ones. -/
def ofDigits? (t : Text) : Option Bytes := (t.mapM value?).bind bytesOfValues?

end Mailroom.Base64
