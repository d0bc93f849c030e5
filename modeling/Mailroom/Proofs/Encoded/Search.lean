import Mathlib.Data.List.TakeWhile
import Mailroom.Proofs.Encoded.Slice
import Mailroom.Proofs.Text.Search

/-!
# Searches that give byte offsets

A search of bytes gives the offset of what it finds.  Only the first byte of a sequence can
start an encoded text, so the bytes of a needle are found where the needle itself is, and the
offset is the length of what precedes it.  ASCII lower case changes no more than single bytes
that stand for themselves, so an offset in a lower-case copy is one in the text.

## Key results

* `isBoundary_asciiLower`    a lower-case copy has the boundaries of the text
* `findBytes?_toUtf8`        bytes are found where the text is
* `find?_asciiLower`         a search of the copy gives an offset in the text
* `splitAt_findWhere?`       a text is divided at the first character of a kind
-/

namespace Mailroom

namespace Text

/-! ## Lower case -/

/-- The byte in lower case, if it is an ASCII letter. -/
def lowerByte (b : UInt8) : UInt8 :=
  if 0x41 ≤ b.toNat && b.toNat ≤ 0x5A then b + 0x20 else b

/-- Lower-casing changes ASCII letters only, so a byte continues a character after it as before. -/
theorem isContinuation_lowerByte (b : UInt8) :
    isContinuation (lowerByte b) = isContinuation b := by
  have hall : ∀ n < 256, isContinuation (lowerByte (UInt8.ofNat n)) =
      isContinuation (UInt8.ofNat n) := by
    decide +kernel
  simpa using hall b.toNat b.toNat_lt

/-- The bytes of a character beyond ASCII are no letters. -/
theorem lowerByte_of_mem_utf8OfChar {c : Char} (hc : 0x80 ≤ c.toNat) :
    ∀ b ∈ utf8OfChar c, lowerByte b = b := by
  have hvalid : c.toNat < 0xD800 ∨ (0xDFFF < c.toNat ∧ c.toNat < 0x110000) := c.valid
  -- every byte of a multi-byte encoding is 0x80 or more, and no such byte is a letter
  have hbyte {n : Nat} (h : n < 256) (h' : 0x80 ≤ n) :
      lowerByte (UInt8.ofNat n) = UInt8.ofNat n := by
    rw [lowerByte, UInt8.toNat_ofNat_of_lt' h, if_neg]
    simp only [Bool.and_eq_true, decide_eq_true_eq]
    omega
  simp only [utf8OfChar, if_neg (Nat.not_lt.2 hc)]
  split
  · simp only [List.forall_mem_cons]
    exact ⟨hbyte (by omega) (by omega), hbyte (by omega) (by omega), List.forall_mem_nil _⟩
  split
  · simp only [List.forall_mem_cons]
    exact ⟨hbyte (by omega) (by omega), hbyte (by omega) (by omega),
      hbyte (by omega) (by omega), List.forall_mem_nil _⟩
  · simp only [List.forall_mem_cons]
    exact ⟨hbyte (by omega) (by omega), hbyte (by omega) (by omega),
      hbyte (by omega) (by omega), hbyte (by omega) (by omega), List.forall_mem_nil _⟩

/-- Lower-casing a character and lower-casing its bytes come to the same. -/
theorem utf8OfChar_toLower (c : Char) :
    utf8OfChar c.toLower = (utf8OfChar c).map lowerByte := by
  by_cases hc : c.toNat < 0x80
  · exact forall_ascii (P := fun c => utf8OfChar c.toLower = (utf8OfChar c).map lowerByte)
      (by decide +kernel) hc
  · -- beyond ASCII neither the character nor its bytes change
    have hcode := Nat.not_lt.1 hc
    rw [toLower_eq_self_of_le hcode, List.map_congr_left (lowerByte_of_mem_utf8OfChar hcode),
      List.map_id']

/-- The same for a text: the lower-cased copy is encoded byte by byte. -/
theorem toUtf8_map_toLower (t : Text) :
    toUtf8 (t.map Char.toLower) = (toUtf8 t).map lowerByte := by
  rw [toUtf8, toUtf8, List.flatMap_map, List.map_flatMap]
  simp only [utf8OfChar_toLower]

/-- Lower case moves no boundary. -/
theorem isBoundary_map_lowerByte (bytes : Bytes) (offset : Nat) :
    isBoundary (bytes.map lowerByte) offset = isBoundary bytes offset := by
  rw [isBoundary, isBoundary, List.getElem?_map, List.length_map]
  cases bytes[offset]? with
  | none => rfl
  | some b => simp only [Option.map_some, isContinuation_lowerByte]

/-! ## Search for bytes -/

/-- The offset of the first occurrence of `needle`. -/
def findBytes? (needle : Bytes) : Bytes → Option Nat
  | [] => if needle.isEmpty then some 0 else none
  | b :: bytes =>
    if needle.isPrefixOf (b :: bytes) then some 0 else (findBytes? needle bytes).map (· + 1)

/-- The needle lies within the bytes at the offset where it is found. -/
theorem findBytes?_add_length_le {needle bytes : Bytes} {offset : Nat}
    (h : findBytes? needle bytes = some offset) : offset + needle.length ≤ bytes.length := by
  induction bytes generalizing offset with
  | nil =>
    simp only [findBytes?, List.isEmpty_iff, Option.ite_none_right_eq_some] at h
    obtain ⟨rfl, h⟩ := h
    rw [← Option.some.inj h]
    exact Nat.le_refl 0
  | cons b bytes ih =>
    rw [findBytes?] at h
    split at h
    · next hstart =>
      rw [← Option.some.inj h, Nat.zero_add]
      exact (List.isPrefixOf_iff_prefix.1 hstart).length_le
    · obtain ⟨n, hn, rfl⟩ := Option.map_eq_some_iff.1 h
      -- found one byte later than in the rest
      have hle := ih hn
      rw [List.length_cons]
      omega

/-- Bytes are a start of bytes as the texts are that they spell. -/
theorem toUtf8_prefix_iff {s t : Text} : toUtf8 s <+: toUtf8 t ↔ s <+: t := by
  constructor
  · intro ⟨rest, hrest⟩
    induction s generalizing t with
    | nil => exact List.nil_prefix
    | cons c s ih =>
      -- the bytes of `c` lead the bytes of `t`, so that decoding them gives `c` first
      have hread : t = c :: ofUtf8 (toUtf8 s ++ rest) := by
        rw [← ofUtf8_toUtf8 t, ← hrest, toUtf8_cons, List.append_assoc, ofUtf8_utf8OfChar_append]
      rw [hread, toUtf8_cons, toUtf8_cons, List.append_assoc] at hrest
      rw [hread]
      exact List.cons_prefix_cons.2 ⟨rfl, ih (List.append_cancel_left hrest)⟩
  · rintro ⟨rest, rfl⟩
    exact ⟨toUtf8 rest, (toUtf8_append s rest).symm⟩

/-- No occurrence starts at a byte that continues a sequence. -/
theorem findBytes?_append_of_isContinuation {lead : UInt8} {needle tail : Bytes}
    (hlead : isContinuation lead = false) (htail : ∀ b ∈ tail, isContinuation b = true)
    (bytes : Bytes) :
    findBytes? (lead :: needle) (tail ++ bytes) =
      (findBytes? (lead :: needle) bytes).map (· + tail.length) := by
  induction tail with
  | nil => simp
  | cons b tail ih =>
    -- the needle starts with no continuation byte, so it cannot start inside a character
    have hb : lead ≠ b := by
      rintro rfl
      rw [htail lead List.mem_cons_self] at hlead
      exact absurd hlead (by decide)
    have hstart : (lead :: needle).isPrefixOf (b :: (tail ++ bytes)) = false := by
      simp only [List.isPrefixOf, beq_false_of_ne hb, Bool.false_and]
    rw [List.cons_append, findBytes?, hstart, ih fun d hd => htail d (List.mem_cons_of_mem b hd)]
    simp only [Bool.false_eq_true, if_false, Option.map_map]
    rfl

/-- The bytes of a text are found where the text is, and what precedes them is what precedes
the text. -/
theorem findBytes?_toUtf8 (needle t : Text) :
    findBytes? (toUtf8 needle) (toUtf8 t) =
      (cut? needle t).map fun (left, _) => (toUtf8 left).length := by
  cases needle with
  | nil =>
    -- nothing is found at once
    have hbytes : ∀ bytes, findBytes? [] bytes = some 0 := by
      intro bytes
      cases bytes <;> rfl
    cases t with
    | nil => rfl
    | cons c t => exact hbytes _
  | cons d needle =>
    obtain ⟨first, others, hfirst, hlead, -⟩ := exists_utf8OfChar d
    have hneedle : toUtf8 (d :: needle) = first :: (others ++ toUtf8 needle) := by
      rw [toUtf8_cons, hfirst, List.cons_append]
    induction t with
    | nil =>
      rw [hneedle]
      rfl
    | cons c t ih =>
      obtain ⟨lead, tail, hbytes, -, htail⟩ := exists_utf8OfChar c
      have hstart : (toUtf8 (d :: needle)).isPrefixOf (toUtf8 (c :: t)) =
          (after? (d :: needle) (c :: t)).isSome := by
        rw [Bool.eq_iff_iff, List.isPrefixOf_iff_prefix, toUtf8_prefix_iff]
        exact startsWith_iff.symm
      rw [toUtf8_cons c, hbytes, List.cons_append] at hstart
      rw [toUtf8_cons c, hbytes, List.cons_append, findBytes?, hstart]
      rw [cut?, cutBy?, ← after?]
      cases after? (d :: needle) (c :: t) with
      | some right => rfl
      | none =>
        -- nor does the needle start within the character, so the search goes on behind it
        rw [hneedle, findBytes?_append_of_isContinuation hlead htail, ← hneedle, ih]
        simp only [Option.isSome_none, Bool.false_eq_true, if_false, Option.map_map]
        congr 1
        funext cut
        simp only [Function.comp_apply, toUtf8_cons, hbytes, List.length_append, List.length_cons]
        omega

end Text

namespace Encoded

open Text

/-- A copy in ASCII lower case. -/
def asciiLower (s : Encoded) : Encoded where
  bytes := s.bytes.map lowerByte
  isUtf8 := by
    obtain ⟨bytes, t, rfl⟩ := s
    exact ⟨t.map Char.toLower, toUtf8_map_toLower t⟩

/-- A lower-cased copy has its boundaries where the original has them, so that an offset found in
the copy may cut the original. -/
theorem isBoundary_asciiLower (s : Encoded) (offset : Nat) :
    isBoundary s.asciiLower.bytes offset = isBoundary s.bytes offset :=
  isBoundary_map_lowerByte s.bytes offset

/-- The lower-cased copy of an encoded text is the encoded lower-cased text. -/
theorem asciiLower_ofText (t : Text) : (ofText t).asciiLower = ofText (t.map Char.toLower) := by
  rw [asciiLower, ofText]
  simp only [ofText, toUtf8_map_toLower]

/-- A lower-cased copy is as long as the original. -/
theorem length_asciiLower (s : Encoded) : s.asciiLower.length = s.length := List.length_map _

/-- Lower-casing ASCII letters does not change how many bytes a text takes. -/
theorem length_ofText_map_toLower (t : Text) :
    (ofText (t.map Char.toLower)).length = (ofText t).length := by
  rw [← asciiLower_ofText, length_asciiLower]

/-- Texts that differ at most in the case of ASCII letters are of one length. -/
theorem length_ofText_eq_of_map_toLower {s t : Text}
    (h : s.map Char.toLower = t.map Char.toLower) : (ofText s).length = (ofText t).length := by
  rw [← length_ofText_map_toLower s, h, length_ofText_map_toLower]

/-- What follows a start of the copy is the copy of what follows it. -/
theorem sliceFrom_asciiLower (l r : Text) :
    (ofText (l ++ r)).asciiLower.sliceFrom (ofText l).length = .ok (ofText r).asciiLower := by
  rw [asciiLower_ofText, asciiLower_ofText, List.map_append, ← length_ofText_map_toLower]
  exact sliceFrom_ofText_append (l.map Char.toLower) (r.map Char.toLower)

/-- The offset of the first occurrence of `needle`. -/
def find? (s needle : Encoded) : Option Nat := findBytes? needle.bytes s.bytes

/-- Searching the encoded text finds what cutting the text at the needle leaves to the left: the
offset is the length of the left half. -/
theorem find?_ofText (needle t : Text) :
    (ofText t).find? (ofText needle) =
      (cut? needle t).map fun (left, _) => (ofText left).length :=
  findBytes?_toUtf8 needle t

/-- A needle in lower case is found in a lower-case copy where it stands in any case. -/
theorem find?_asciiLower {needle : Text} (hneedle : needle.map Char.toLower = needle) (t : Text) :
    (ofText t).asciiLower.find? (ofText needle) =
      (cutAnyCase? needle t).map fun (left, _) => (ofText left).length := by
  have hcut := cutBy?_map Char.toLower needle t
  rw [hneedle] at hcut
  rw [asciiLower_ofText, find?_ofText, hcut, cutAnyCase?_eq_cutBy?, Option.map_map]
  congr 1
  funext cut
  exact length_ofText_map_toLower cut.1

/-- A match in any case is as long as the needle, so it ends where the needle would. -/
theorem exists_start_of_cutAnyCase? {needle t left rest : Text}
    (h : cutAnyCase? needle t = some (left, rest)) (before : Text) :
    ∃ start, before ++ t = start ++ rest ∧ (ofText start).length =
      (ofText before).length + (ofText left).length + (ofText needle).length := by
  rw [cutAnyCase?_eq_cutBy?] at h
  obtain ⟨found, rfl, hfound⟩ := cutBy?_eq_some h
  refine ⟨before ++ left ++ found, ?_, ?_⟩
  · simp only [List.append_assoc]
  · rw [length_ofText_append, length_ofText_append, length_ofText_eq_of_map_toLower hfound]

/-- What is found lies within the text. -/
theorem find?_add_length_le {s needle : Encoded} {offset : Nat}
    (h : s.find? needle = some offset) : offset + needle.length ≤ s.length :=
  findBytes?_add_length_le h

/-! ## Search for a character -/

/-- The offset of the first character that satisfies `p`. -/
def findWhere? (s : Encoded) (p : Char → Bool) : Option Nat :=
  if s.text.any p then some (ofText (s.text.takeWhile (!p ·))).length else none

/-- Up to the first character that satisfies `p`, or to the end, no character does. -/
theorem findWhere?_getD (t : Text) (p : Char → Bool) :
    ((ofText t).findWhere? p).getD (ofText t).length = (ofText (t.takeWhile (!p ·))).length := by
  rw [findWhere?, text_ofText]
  split
  · rfl
  · next hnone =>
    have hall : ∀ c ∈ t, (!p c) = true := by simpa using hnone
    rw [List.takeWhile_eq_self_iff.2 hall]
    rfl

/-- Cutting at the first character that satisfies `p`, or at the end, is never refused, and gives
the two halves `takeWhile` and `dropWhile` give. -/
theorem splitAt_findWhere? (t : Text) (p : Char → Bool) :
    (ofText t).splitAt (((ofText t).findWhere? p).getD (ofText t).length) =
      .ok (ofText (t.takeWhile (!p ·)), ofText (t.dropWhile (!p ·))) := by
  have hsplit := splitAt_ofText_append (t.takeWhile (!p ·)) (t.dropWhile (!p ·))
  rwa [List.takeWhile_append_dropWhile, ← findWhere?_getD] at hsplit

/-- The first half alone. -/
theorem sliceTo_findWhere? (t : Text) (p : Char → Bool) :
    (ofText t).sliceTo (((ofText t).findWhere? p).getD (ofText t).length) =
      .ok (ofText (t.takeWhile (!p ·))) := by
  have hslice := sliceTo_ofText_append (t.takeWhile (!p ·)) (t.dropWhile (!p ·))
  rwa [List.takeWhile_append_dropWhile, ← findWhere?_getD] at hslice

end Encoded

end Mailroom
