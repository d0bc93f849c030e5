import Mailroom.Text.Utf8

/-!
# Reading back UTF-8

The bytes of a text spell that text, and no replacement character is put in.  A character is
read back from its bytes with anything behind them, by the four lengths of a sequence; each
further byte takes one step of `continueUtf8`.

## Key results

* `ofUtf8_utf8OfChar_append`   a character is read back from its bytes
* `ofUtf8_toUtf8`              a text is read back from its bytes
-/

namespace Mailroom.Text

/-- A byte that is made of a number stands for it. -/
private theorem toNat_byte {n : Nat} (hn : n < 256) : (UInt8.ofNat n).toNat = n :=
  UInt8.toNat_ofNat_of_lt' hn

/-- A byte in the range that is asked for contributes its low six bits. -/
theorem continueUtf8_cons {low high n : Nat} (count bits : Nat) (rest : Bytes) (hn : n < 256)
    (hlow : low ≤ n) (hhigh : n ≤ high) :
    continueUtf8 (count + 1) low high bits (UInt8.ofNat n :: rest) =
      continueUtf8 count 0x80 0xBF (bits * 0x40 + (n - 0x80)) rest := by
  rw [continueUtf8, toNat_byte hn]
  simp [hlow, hhigh]

/-- The last byte of a sequence completes its character. -/
private theorem continueUtf8_last {low high n : Nat} (bits : Nat) (rest : Bytes) (hn : n < 256)
    (hlow : low ≤ n) (hhigh : n ≤ high) :
    continueUtf8 1 low high bits (UInt8.ofNat n :: rest) =
      (Char.ofNat (bits * 0x40 + (n - 0x80)), rest) := by
  rw [continueUtf8_cons 0 bits rest hn hlow hhigh]
  rfl

/-- Reading a sequence from its first byte. -/
private theorem ofUtf8_cons {b : UInt8} {count low high bits : Nat} {c : Char}
    {rest rest' : Bytes} (hlead : Utf8Lead.ofByte? b = some ⟨count, low, high, bits⟩)
    (hread : continueUtf8 count low high bits rest = (c, rest')) :
    ofUtf8 (b :: rest) = c :: ofUtf8 rest' := by
  rw [ofUtf8, hlead]
  simp only [hread]

/-! ## The first byte of a sequence -/

/-- A byte below 0x80 is a character by itself. -/
private theorem ofByte?_one {n : Nat} (h : n < 0x80) :
    Utf8Lead.ofByte? (UInt8.ofNat n) = some ⟨0, 0x80, 0xBF, n⟩ := by
  simp only [Utf8Lead.ofByte?, toNat_byte (show n < 256 by omega), if_pos h]

/-- The lead of two bytes carries the upper five bits. -/
private theorem ofByte?_two {n : Nat} (h : 0x80 ≤ n) (h' : n < 0x800) :
    Utf8Lead.ofByte? (UInt8.ofNat (0xC0 + n / 0x40)) = some ⟨1, 0x80, 0xBF, n / 0x40⟩ := by
  simp only [Utf8Lead.ofByte?, toNat_byte (show 0xC0 + n / 0x40 < 256 by omega)]
  rw [if_neg (by omega), if_neg (by omega), if_pos (by omega), Nat.add_sub_cancel_left]

/-- The first of three bytes leaves room for the second, whose range it may narrow. -/
private theorem ofByte?_three {n : Nat} (h : 0x800 ≤ n) (h' : n < 0x10000)
    (hvalid : n < 0xD800 ∨ 0xDFFF < n) :
    ∃ low high, low ≤ 0x80 + n / 0x40 % 0x40 ∧ 0x80 + n / 0x40 % 0x40 ≤ high ∧
      Utf8Lead.ofByte? (UInt8.ofNat (0xE0 + n / 0x1000)) = some ⟨2, low, high, n / 0x1000⟩ := by
  simp only [Utf8Lead.ofByte?, toNat_byte (show 0xE0 + n / 0x1000 < 256 by omega), beq_iff_eq]
  rw [if_neg (by omega), if_neg (by omega), if_neg (by omega)]
  -- 0xE0 rules out shorter forms and 0xED the surrogates
  split
  · exact ⟨0xA0, 0xBF, by omega, by omega, by rw [show n / 0x1000 = 0 by omega]⟩
  split
  · exact ⟨0x80, 0x9F, by omega, by omega, by rw [show n / 0x1000 = 0x0D by omega]⟩
  · exact ⟨0x80, 0xBF, by omega, by omega, by rw [if_pos (by omega), Nat.add_sub_cancel_left]⟩

/-- The first of four bytes, likewise. -/
private theorem ofByte?_four {n : Nat} (h : 0x10000 ≤ n) (h' : n < 0x110000) :
    ∃ low high, low ≤ 0x80 + n / 0x1000 % 0x40 ∧ 0x80 + n / 0x1000 % 0x40 ≤ high ∧
      Utf8Lead.ofByte? (UInt8.ofNat (0xF0 + n / 0x40000)) = some ⟨3, low, high, n / 0x40000⟩ := by
  simp only [Utf8Lead.ofByte?, toNat_byte (show 0xF0 + n / 0x40000 < 256 by omega), beq_iff_eq]
  rw [if_neg (by omega), if_neg (by omega), if_neg (by omega), if_neg (by omega),
    if_neg (by omega), if_neg (by omega)]
  -- 0xF0 rules out shorter forms and 0xF4 what lies beyond the last character
  split
  · exact ⟨0x90, 0xBF, by omega, by omega, by rw [show n / 0x40000 = 0 by omega]⟩
  split
  · exact ⟨0x80, 0xBF, by omega, by omega, by rw [Nat.add_sub_cancel_left]⟩
  · exact ⟨0x80, 0x8F, by omega, by omega, by
      rw [if_pos (by omega), show n / 0x40000 = 4 by omega]⟩

/-! ## Characters and texts -/

/-- A character is read back from its bytes, whatever follows them. -/
theorem ofUtf8_utf8OfChar_append (c : Char) (rest : Bytes) :
    ofUtf8 (utf8OfChar c ++ rest) = c :: ofUtf8 rest := by
  have hvalid : c.toNat < 0xD800 ∨ (0xDFFF < c.toNat ∧ c.toNat < 0x110000) := c.valid
  generalize hn : c.toNat = n at hvalid
  -- the bits that the bytes carry make up the number of the character
  have hread (bits : Nat) (h : bits = n) : (Char.ofNat bits, rest) = (c, rest) := by
    rw [h, ← hn, Char.ofNat_toNat]
  simp only [utf8OfChar, hn]
  split
  · next h => exact ofUtf8_cons (ofByte?_one h) (hread n rfl)
  split
  · next h h' =>
    refine ofUtf8_cons (ofByte?_two (by omega) h') ?_
    rw [List.append_eq, List.cons_append, List.nil_append,
      continueUtf8_last _ _ (by omega) (by omega) (by omega)]
    exact hread _ (by omega)
  split
  · next h h' h'' =>
    obtain ⟨low, high, hlow, hhigh, hlead⟩ :=
      ofByte?_three (n := n) (by omega) h'' (hvalid.imp id And.left)
    refine ofUtf8_cons hlead ?_
    rw [List.append_eq, List.cons_append, List.cons_append, List.nil_append,
      continueUtf8_cons 1 _ _ (by omega) hlow hhigh,
      continueUtf8_last _ _ (by omega) (by omega) (by omega)]
    exact hread _ (by omega)
  · next h h' h'' =>
    obtain ⟨low, high, hlow, hhigh, hlead⟩ := ofByte?_four (n := n) (by omega) (by omega)
    refine ofUtf8_cons hlead ?_
    rw [List.append_eq, List.cons_append, List.cons_append, List.cons_append, List.nil_append,
      continueUtf8_cons 2 _ _ (by omega) hlow hhigh,
      continueUtf8_cons 1 _ _ (by omega) (by omega) (by omega),
      continueUtf8_last _ _ (by omega) (by omega) (by omega)]
    exact hread _ (by omega)

/-- A text is read back from its bytes. -/
theorem ofUtf8_toUtf8 (t : Text) : ofUtf8 (toUtf8 t) = t := by
  induction t with
  | nil => simp [toUtf8, ofUtf8]
  | cons c t ih =>
    rw [toUtf8, List.flatMap_cons, ofUtf8_utf8OfChar_append, ← toUtf8, ih]

end Mailroom.Text
