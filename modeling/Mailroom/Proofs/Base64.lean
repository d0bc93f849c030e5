import Mailroom.Base64
import Mailroom.Proofs.Text.Trim

/-!
# Reading back base64

What is written for some bytes is read as those bytes, and every character that is written
is a digit or padding.  A text with any other character in it spells no bytes.

## Key results

* `ofDigits?_digits`            the bytes are read back from their digits
* `ofDigits?_eq_some_iff`       and from nothing else
* `dropEndWhile_encode`         the digits are what is written without the padding
* `ofDigits?_eq_none_of_mem`    a character that is no digit spoils a text
* `decode?_eq_some_iff`         with its padding, too, a text is read as the bytes it is written for
-/

namespace Mailroom.Base64

open Text

/-- Every digit stands for its number. -/
theorem value?_digit {n : Nat} (hn : n < 64) : value? (digit n) = some n := by
  revert n
  decide

/-- The numbers of a text that starts with a digit. -/
private theorem mapM_value?_cons {n : Nat} (hn : n < 64) (t : Text) :
    (digit n :: t).mapM value? = (t.mapM value?).map (n :: ·) := by
  rw [List.mapM_cons, value?_digit hn]
  cases t.mapM value? <;> rfl

/-- A byte is the one that is made of its number. -/
private theorem eq_byte {a : UInt8} {n : Nat} (h : n = a.toNat) : UInt8.ofNat n = a := by
  rw [h, UInt8.ofNat_toNat]

/-- The digits of some bytes stand for numbers that give the bytes back. -/
private theorem mapM_value?_digits (bytes : Bytes) :
    ∃ values, (digits bytes).mapM value? = some values ∧ bytesOfValues? values = some bytes := by
  fun_induction digits bytes with
  | case1 => exact ⟨[], rfl, rfl⟩
  | case2 a =>
    -- two digits for one byte, the low four bits of the second are zero
    have ha := a.toNat_lt
    refine ⟨[a.toNat / 4, a.toNat % 4 * 16], ?_, ?_⟩
    · rw [mapM_value?_cons (by omega), mapM_value?_cons (by omega)]
      rfl
    · rw [bytesOfValues?, if_pos (by simp), eq_byte (a := a) (by omega)]
  | case3 a b =>
    have ha := a.toNat_lt
    -- three digits for two bytes, the low two bits of the third are zero
    have hb := b.toNat_lt
    refine ⟨[a.toNat / 4, a.toNat % 4 * 16 + b.toNat / 16, b.toNat % 16 * 4], ?_, ?_⟩
    · rw [mapM_value?_cons (by omega), mapM_value?_cons (by omega), mapM_value?_cons (by omega)]
      rfl
    · rw [bytesOfValues?, if_pos (by simp), eq_byte (a := a) (by omega),
        eq_byte (a := b) (by omega)]
  | case4 a b c rest ih =>
    obtain ⟨values, hv, hbytes⟩ := ih
    have ha := a.toNat_lt
    have hb := b.toNat_lt
    have hc := c.toNat_lt
    refine ⟨a.toNat / 4 :: (a.toNat % 4 * 16 + b.toNat / 16) :: (b.toNat % 16 * 4 + c.toNat / 64)
      :: c.toNat % 64 :: values, ?_, ?_⟩
    · rw [mapM_value?_cons (by omega), mapM_value?_cons (by omega), mapM_value?_cons (by omega),
        mapM_value?_cons (by omega), hv]
      rfl
    · rw [bytesOfValues?, hbytes, Option.map_some, eq_byte (a := a) (by omega),
        eq_byte (a := b) (by omega), eq_byte (a := c) (by omega)]

/-- The bytes are read back from their digits. -/
theorem ofDigits?_digits (bytes : Bytes) : ofDigits? (digits bytes) = some bytes := by
  obtain ⟨values, hv, hbytes⟩ := mapM_value?_digits bytes
  rw [ofDigits?, hv, Option.bind_some, hbytes]

/-! ## Only what is written is read -/

/-- A number that a character stands for is below sixty-four, and the character is its digit. -/
theorem value?_eq_some {c : Char} {n : Nat} (h : value? c = some n) : n < 64 ∧ c = digit n := by
  -- a digit is given back by its number, range by range
  have hofNat {m : Nat} (hm : m = c.toNat) : c = Char.ofNat m := by rw [hm, Char.ofNat_toNat]
  simp only [value?, Bool.and_eq_true, decide_eq_true_eq, beq_iff_eq] at h
  split at h
  · rw [Option.some.injEq] at h
    rw [digit, if_pos (by omega)]
    exact ⟨by omega, hofNat (by omega)⟩
  split at h
  · rw [Option.some.injEq] at h
    rw [digit, if_neg (by omega), if_pos (by omega)]
    exact ⟨by omega, hofNat (by omega)⟩
  split at h
  · rw [Option.some.injEq] at h
    rw [digit, if_neg (by omega), if_neg (by omega), if_pos (by omega)]
    exact ⟨by omega, hofNat (by omega)⟩
  split at h
  · next hplus =>
    obtain rfl := Option.some.inj h
    exact ⟨by decide, hplus⟩
  split at h
  · next hslash =>
    obtain rfl := Option.some.inj h
    exact ⟨by decide, hslash⟩
  · exact nomatch h

/-- The characters of a text are the digits of the numbers that they stand for. -/
private theorem eq_map_digit_of_mapM_value? {t : Text} {values : List Nat}
    (h : t.mapM value? = some values) : (∀ n ∈ values, n < 64) ∧ t = values.map digit := by
  induction t generalizing values with
  | nil =>
    obtain rfl := Option.some.inj h
    simp
  | cons c t ih =>
    rw [List.mapM_cons] at h
    obtain ⟨n, hn, h⟩ := Option.bind_eq_some_iff.1 h
    obtain ⟨values, hvalues, h⟩ := Option.bind_eq_some_iff.1 h
    obtain rfl := Option.some.inj h
    obtain ⟨hlt, hc⟩ := value?_eq_some hn
    obtain ⟨hall, ht⟩ := ih hvalues
    exact ⟨List.forall_mem_cons.2 ⟨hlt, hall⟩, by rw [List.map_cons, ← hc, ← ht]⟩

/-- Numbers that spell some bytes are those whose digits are written for the bytes. -/
private theorem digits_of_bytesOfValues? {values : List Nat} {bytes : Bytes}
    (h : bytesOfValues? values = some bytes) (hlt : ∀ n ∈ values, n < 64) :
    digits bytes = values.map digit := by
  have hbyte {n : Nat} (hn : n < 256) : (UInt8.ofNat n).toNat = n := UInt8.toNat_ofNat_of_lt hn
  -- four numbers at a time make three bytes; the bits left over at the end are zero
  fun_induction bytesOfValues? values generalizing bytes with
  | case1 =>
    obtain rfl := Option.some.inj h
    rfl
  | case2 => exact nomatch h
  | case3 p q hq =>
    simp only [List.forall_mem_cons, beq_iff_eq] at hlt hq
    obtain ⟨hp', hq', -⟩ := hlt
    obtain rfl := Option.some.inj h
    rw [digits, hbyte (by omega), show (p * 4 + q / 16) / 4 = p by omega,
      show (p * 4 + q / 16) % 4 * 16 = q by omega]
    rfl
  | case4 => exact nomatch h
  | case5 p q r hr =>
    simp only [List.forall_mem_cons, beq_iff_eq] at hlt hr
    obtain ⟨hp', hq', hr', -⟩ := hlt
    obtain rfl := Option.some.inj h
    rw [digits, hbyte (by omega), hbyte (by omega), show (p * 4 + q / 16) / 4 = p by omega,
      show (p * 4 + q / 16) % 4 * 16 + (q % 16 * 16 + r / 4) / 16 = q by omega,
      show (q % 16 * 16 + r / 4) % 16 * 4 = r by omega]
    rfl
  | case6 => exact nomatch h
  | case7 p q r s rest ih =>
    simp only [List.forall_mem_cons] at hlt
    obtain ⟨hp', hq', hr', hs', hrest⟩ := hlt
    obtain ⟨tail, htail, rfl⟩ := Option.map_eq_some_iff.1 h
    rw [digits, hbyte (by omega), hbyte (by omega), hbyte (by omega),
      show (p * 4 + q / 16) / 4 = p by omega,
      show (p * 4 + q / 16) % 4 * 16 + (q % 16 * 16 + r / 4) / 16 = q by omega,
      show (q % 16 * 16 + r / 4) % 16 * 4 + (r % 4 * 64 + s) / 64 = r by omega,
      show (r % 4 * 64 + s) % 64 = s by omega, ih htail hrest]
    rfl

/-- Digits are read as the bytes for which they are written, and as no others. -/
theorem ofDigits?_eq_some_iff {t : Text} {bytes : Bytes} :
    ofDigits? t = some bytes ↔ t = digits bytes := by
  constructor
  · intro h
    obtain ⟨values, hvalues, hbytes⟩ := Option.bind_eq_some_iff.1 h
    obtain ⟨hlt, ht⟩ := eq_map_digit_of_mapM_value? hvalues
    rw [ht, digits_of_bytesOfValues? hbytes hlt]
  · rintro rfl
    exact ofDigits?_digits bytes

/-! ## The characters of a base64 text -/

/-- The character stands for a number. -/
def IsDigit (c : Char) : Prop := (value? c).isSome = true

instance (c : Char) : Decidable (IsDigit c) := inferInstanceAs (Decidable (_ = true))

/-- What is written is made of digits. -/
theorem isDigit_of_mem_digits {bytes : Bytes} {c : Char} (hc : c ∈ digits bytes) : IsDigit c := by
  have hdigit {n : Nat} (hn : n < 64) : IsDigit (digit n) := by
    rw [IsDigit, value?_digit hn]
    rfl
  -- every digit is made of six bits, so its number is below 64
  fun_induction digits bytes with
  | case1 => simp at hc
  | case2 a =>
    have ha := a.toNat_lt
    simp only [List.mem_cons, List.not_mem_nil, or_false] at hc
    rcases hc with rfl | rfl <;> exact hdigit (by omega)
  | case3 a b =>
    have ha := a.toNat_lt
    have hb := b.toNat_lt
    simp only [List.mem_cons, List.not_mem_nil, or_false] at hc
    rcases hc with rfl | rfl | rfl <;> exact hdigit (by omega)
  | case4 a b c' rest ih =>
    have ha := a.toNat_lt
    have hb := b.toNat_lt
    have hc' := c'.toNat_lt
    simp only [List.mem_cons] at hc
    rcases hc with rfl | rfl | rfl | rfl | hc
    · exact hdigit (by omega)
    · exact hdigit (by omega)
    · exact hdigit (by omega)
    · exact hdigit (by omega)
    · exact ih hc

/-- Padding is told from digits. -/
theorem not_isDigit_padding : ¬ IsDigit '=' := by decide

/-- So is a dash, with which a delimiter starts. -/
theorem not_isDigit_dash : ¬ IsDigit '-' := by decide

/-- A character that is no digit spoils a text. -/
theorem ofDigits?_eq_none_of_mem {t : Text} {c : Char} (hc : c ∈ t) (hd : ¬ IsDigit c) :
    ofDigits? t = none := by
  have hv : value? c = none := by simpa [IsDigit] using hd
  -- one character without a number leaves the whole text without numbers
  have hnone : t.mapM value? = none := by
    induction t with
    | nil => simp at hc
    | cons d t ih =>
      rw [List.mapM_cons]
      rcases List.mem_cons.1 hc with rfl | hc
      · rw [hv]
        rfl
      · rw [ih hc]
        cases value? d <;> rfl
  rw [ofDigits?, hnone, Option.bind_none]

/-- The digits are what is written without the padding. -/
theorem dropEndWhile_encode (bytes : Bytes) :
    dropEndWhile (· == '=') (encode bytes) = digits bytes := by
  have hpad : ∀ c ∈ padding bytes, (c == '=') = true := by
    intro c hc
    simpa using List.eq_of_mem_replicate hc
  rw [encode, dropEndWhile_append hpad]
  -- the last digit is no padding, so nothing more is cut off
  refine dropEndWhile_eq_self fun c hc => ?_
  have hdigit := isDigit_of_mem_digits (List.mem_of_getLast? hc)
  simp only [beq_eq_false_iff_ne, ne_eq]
  rintro rfl
  exact not_isDigit_padding hdigit

/-! ## Strict reading -/

/-- The bytes that a text spells with exactly the padding that belongs to them. -/
def decode? (t : Text) : Option Bytes :=
  (ofDigits? (t.takeWhile (· != '='))).filter (encode · == t)

/-- The digits stand before the padding. -/
private theorem takeWhile_encode (bytes : Bytes) :
    (encode bytes).takeWhile (· != '=') = digits bytes := by
  have hdigits : ∀ c ∈ digits bytes, (c != '=') = true := by
    intro c hc
    rw [bne_iff_ne]
    rintro rfl
    exact not_isDigit_padding (isDigit_of_mem_digits hc)
  have hpadding : (padding bytes).takeWhile (· != '=') = [] := by
    rw [padding, List.takeWhile_replicate, if_neg (by decide)]
  rw [encode, List.takeWhile_append_of_pos hdigits, hpadding, List.append_nil]

/-- A padded text is read as the bytes for which it is written, and as no others. -/
theorem decode?_eq_some_iff {t : Text} {bytes : Bytes} :
    decode? t = some bytes ↔ t = encode bytes := by
  rw [decode?, Option.filter_eq_some_iff, beq_iff_eq]
  constructor
  · exact fun h => h.2.symm
  · rintro rfl
    rw [takeWhile_encode]
    exact ⟨ofDigits?_digits bytes, rfl⟩

end Mailroom.Base64
