import Mailroom.Text.Basic

/-!
# UTF-8

Writing is exact.  Reading never fails: each maximal start of a sequence that cannot be
completed is read as one replacement character, and reading resumes with the byte that did
not fit.  A sequence is described by its first byte, which fixes the number of bytes that
follow, the range of the first of them, and the bits it contributes; the ranges leave out
overlong forms, surrogates and everything above the last code point.

## Key results

* `length_continueUtf8_le`   reading a sequence consumes no byte twice, so reading ends
-/

namespace Mailroom.Text

/-- The bytes of one character. -/
def utf8OfChar (c : Char) : Bytes :=
  let n := c.toNat
  if n < 0x80 then [UInt8.ofNat n]
  else if n < 0x800 then
    [UInt8.ofNat (0xC0 + n / 0x40), UInt8.ofNat (0x80 + n % 0x40)]
  else if n < 0x10000 then
    [UInt8.ofNat (0xE0 + n / 0x1000), UInt8.ofNat (0x80 + n / 0x40 % 0x40),
      UInt8.ofNat (0x80 + n % 0x40)]
  else
    [UInt8.ofNat (0xF0 + n / 0x40000), UInt8.ofNat (0x80 + n / 0x1000 % 0x40),
      UInt8.ofNat (0x80 + n / 0x40 % 0x40), UInt8.ofNat (0x80 + n % 0x40)]

/-- The bytes of a text. -/
def toUtf8 (t : Text) : Bytes := t.flatMap utf8OfChar

/-- Stands for bytes that are not UTF-8. -/
def replacement : Char := '\uFFFD'

/-- How a sequence goes on after its first byte. -/
structure Utf8Lead where
  /-- The number of bytes that follow. -/
  count : Nat
  /-- The least value of the first of them. -/
  low : Nat
  /-- The greatest value of the first of them. -/
  high : Nat
  /-- The bits of the character that the first byte holds. -/
  bits : Nat

/-- What the first byte `b` of a sequence announces, when it can start one. -/
def Utf8Lead.ofByte? (b : UInt8) : Option Utf8Lead :=
  let n := b.toNat
  if n < 0x80 then some ⟨0, 0x80, 0xBF, n⟩
  else if n < 0xC2 then none
  else if n < 0xE0 then some ⟨1, 0x80, 0xBF, n - 0xC0⟩
  else if n == 0xE0 then some ⟨2, 0xA0, 0xBF, 0⟩
  else if n == 0xED then some ⟨2, 0x80, 0x9F, 0x0D⟩
  else if n < 0xF0 then some ⟨2, 0x80, 0xBF, n - 0xE0⟩
  else if n == 0xF0 then some ⟨3, 0x90, 0xBF, 0⟩
  else if n < 0xF4 then some ⟨3, 0x80, 0xBF, n - 0xF0⟩
  else if n == 0xF4 then some ⟨3, 0x80, 0x8F, 4⟩
  else none

/-- Reads `count` further bytes of a sequence whose bits so far are `bits`, the next of
them between `low` and `high`.  Gives the character and the bytes after it. -/
def continueUtf8 (count low high bits : Nat) (bytes : Bytes) : Char × Bytes :=
  match count, bytes with
  | 0, rest => (Char.ofNat bits, rest)
  | _ + 1, [] => (replacement, [])
  | count + 1, b :: rest =>
    if low ≤ b.toNat && b.toNat ≤ high then
      -- only the first of these bytes has a range of its own
      continueUtf8 count 0x80 0xBF (bits * 0x40 + (b.toNat - 0x80)) rest
    else
      -- the byte that does not fit starts the next sequence
      (replacement, b :: rest)

theorem length_continueUtf8_le (count low high bits : Nat) (bytes : Bytes) :
    (continueUtf8 count low high bits bytes).2.length ≤ bytes.length := by
  fun_induction continueUtf8 count low high bits bytes with
  | case1 => simp
  | case2 => simp
  | case3 low high bits count b rest _ ih =>
    simp only [List.length_cons]
    omega
  | case4 => simp

/-- The text that the bytes spell, a replacement character standing for each maximal start
of a sequence that cannot be completed. -/
def ofUtf8 : Bytes → Text
  | [] => []
  | b :: rest =>
    match Utf8Lead.ofByte? b with
    | none => replacement :: ofUtf8 rest
    | some lead =>
      have := length_continueUtf8_le lead.count lead.low lead.high lead.bits rest
      let step := continueUtf8 lead.count lead.low lead.high lead.bits rest
      step.1 :: ofUtf8 step.2
termination_by bytes => bytes.length

end Mailroom.Text
