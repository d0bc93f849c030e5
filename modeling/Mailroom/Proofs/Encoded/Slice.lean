import Mailroom.Proofs.Text.Utf8

/-!
# Texts as bytes, and their slices

A text that is held as its UTF-8 bytes is cut at byte offsets, and a cut is refused where it
would divide a character.  Whether it does can be told from one byte: only the bytes after the
first one of a sequence have the form of a continuation.

`Encoded` is the view of such bytes as a text: `text` reads them and `ofText` writes them.

## Key results

* `isBoundary_iff`          the offsets that divide no character are the lengths of starts
* `splitAt_ofText_append`   a cut at the length of a start gives it and what follows it
* `splitAt_eq_error_iff`    there are no other cuts
-/

namespace Mailroom

open Text

/-! ## Bytes of a character -/

namespace Text

/-- The byte can only continue a sequence. -/
def isContinuation (b : UInt8) : Bool := 0x80 ≤ b.toNat && b.toNat < 0xC0

/-- Whether a byte continues a sequence, by its number. -/
theorem isContinuation_ofNat {n : Nat} (h : n < 256) :
    isContinuation (UInt8.ofNat n) = (decide (0x80 ≤ n) && decide (n < 0xC0)) := by
  rw [isContinuation, UInt8.toNat_ofNat_of_lt' h]

/-- The bytes of a character after the first one continue its sequence, and the first one does
not. -/
theorem exists_utf8OfChar (c : Char) : ∃ lead tail, utf8OfChar c = lead :: tail ∧
    isContinuation lead = false ∧ ∀ b ∈ tail, isContinuation b = true := by
  have hvalid : c.toNat < 0xD800 ∨ (0xDFFF < c.toNat ∧ c.toNat < 0x110000) := c.valid
  -- the bytes behind the first carry six bits each, below a fixed mark
  have htail (ns : List Nat) :
      ∀ b ∈ ns.map fun n => UInt8.ofNat (0x80 + n % 0x40), isContinuation b = true := by
    intro b hb
    obtain ⟨n, -, rfl⟩ := List.mem_map.1 hb
    rw [isContinuation_ofNat (by omega)]
    simp only [Bool.and_eq_true, decide_eq_true_eq]
    omega
  -- the first byte lies outside of their range
  have hlead {n : Nat} (h : n < 256) (h' : n < 0x80 ∨ 0xC0 ≤ n) :
      isContinuation (UInt8.ofNat n) = false := by
    rw [isContinuation_ofNat h]
    simp only [Bool.and_eq_false_iff, decide_eq_false_iff_not]
    omega
  simp only [utf8OfChar]
  split
  · exact ⟨_, _, rfl, hlead (by omega) (by omega), htail []⟩
  split
  · exact ⟨_, _, rfl, hlead (by omega) (by omega), htail [c.toNat]⟩
  split
  · exact ⟨_, _, rfl, hlead (by omega) (by omega), htail [c.toNat / 0x40, c.toNat]⟩
  · exact ⟨_, _, rfl, hlead (by omega) (by omega),
      htail [c.toNat / 0x1000, c.toNat / 0x40, c.toNat]⟩

/-- The bytes of a text start with those of its first character. -/
theorem toUtf8_cons (c : Char) (t : Text) : toUtf8 (c :: t) = utf8OfChar c ++ toUtf8 t :=
  List.flatMap_cons

/-- The bytes of two texts follow each other. -/
theorem toUtf8_append (l r : Text) : toUtf8 (l ++ r) = toUtf8 l ++ toUtf8 r :=
  List.flatMap_append

/-- An ASCII character is a byte. -/
theorem utf8OfChar_of_lt {c : Char} (h : c.toNat < 0x80) :
    utf8OfChar c = [UInt8.ofNat c.toNat] := by
  simp only [utf8OfChar, if_pos h]

/-- An ASCII text has as many bytes as characters. -/
theorem length_toUtf8_of_lt {t : Text} (h : ∀ c ∈ t, c.toNat < 0x80) :
    (toUtf8 t).length = t.length := by
  induction t with
  | nil => rfl
  | cons c t ih =>
    rw [toUtf8_cons, utf8OfChar_of_lt (h c List.mem_cons_self), List.length_append,
      ih fun d hd => h d (List.mem_cons_of_mem c hd), List.length_cons, Nat.add_comm]
    rfl

/-! ## Boundaries of characters -/

/-- The offset divides no character: no byte that continues a sequence stands there.  Nothing
stands at the end, and beyond it there is no offset. -/
def isBoundary (bytes : Bytes) (offset : Nat) : Bool :=
  match bytes[offset]? with
  | some b => offset == 0 || !isContinuation b
  | none => offset == bytes.length

/-- The length of a start of a text is a boundary. -/
theorem isBoundary_toUtf8_append (l r : Text) :
    isBoundary (toUtf8 (l ++ r)) (toUtf8 l).length = true := by
  rw [toUtf8_append, isBoundary, List.getElem?_append_right (Nat.le_refl _), Nat.sub_self]
  cases r with
  | nil => simp [toUtf8]
  | cons c r =>
    obtain ⟨lead, tail, hbytes, hlead, -⟩ := exists_utf8OfChar c
    simp [toUtf8_cons, hbytes, hlead]

/-- There are no other boundaries. -/
theorem exists_append_of_isBoundary {t : Text} {offset : Nat}
    (h : isBoundary (toUtf8 t) offset = true) :
    ∃ l r, t = l ++ r ∧ (toUtf8 l).length = offset := by
  induction t generalizing offset with
  | nil =>
    have hzero : offset = 0 := by simpa [isBoundary, toUtf8] using h
    exact ⟨[], [], rfl, hzero.symm⟩
  | cons c t ih =>
    obtain ⟨lead, tail, hbytes, -, htail⟩ := exists_utf8OfChar c
    rw [toUtf8_cons, hbytes, List.cons_append] at h
    cases offset with
    | zero => exact ⟨[], c :: t, rfl, rfl⟩
    | succ m =>
      by_cases hm : m < tail.length
      · -- within the character the bytes continue its sequence
        have hbyte : (lead :: (tail ++ toUtf8 t))[m + 1]? = some tail[m] := by
          rw [List.getElem?_cons_succ, List.getElem?_append_left hm, List.getElem?_eq_getElem hm]
        rw [isBoundary, hbyte] at h
        simp [htail tail[m] (List.getElem_mem hm)] at h
      · -- behind it the same byte stands in the rest of the text
        have hbyte : (lead :: (tail ++ toUtf8 t))[m + 1]? = (toUtf8 t)[m - tail.length]? := by
          rw [List.getElem?_cons_succ, List.getElem?_append_right (by omega)]
        have hrest : isBoundary (toUtf8 t) (m - tail.length) = true := by
          rw [isBoundary, hbyte] at h
          rw [isBoundary]
          cases hget : (toUtf8 t)[m - tail.length]? with
          | some b => simp_all
          | none =>
            simp only [hget, List.length_cons, List.length_append, beq_iff_eq] at h ⊢
            omega
        obtain ⟨l, r, rfl, hl⟩ := ih hrest
        refine ⟨c :: l, r, rfl, ?_⟩
        rw [toUtf8_cons, hbytes, List.length_append, hl, List.length_cons]
        omega

/-- The boundaries are the lengths of the starts of the text. -/
theorem isBoundary_iff {t : Text} {offset : Nat} :
    isBoundary (toUtf8 t) offset = true ↔ ∃ l r, t = l ++ r ∧ (toUtf8 l).length = offset := by
  constructor
  · exact exists_append_of_isBoundary
  · rintro ⟨l, r, rfl, rfl⟩
    exact isBoundary_toUtf8_append l r

end Text

/-! ## Encoded texts -/

/-- A text as the bytes that spell it. -/
structure Encoded where
  bytes : Bytes
  isUtf8 : ∃ t, toUtf8 t = bytes
  deriving DecidableEq

/-- A cut at an offset that divides a character or lies beyond the end. -/
structure BadCut where
  bytes : Bytes
  offset : Nat
  deriving DecidableEq, Repr

/-- What is computed with cuts. -/
abbrev Sliced := Except BadCut

namespace Encoded

/-- The text that the bytes spell. -/
def text (s : Encoded) : Text := ofUtf8 s.bytes

/-- The text as bytes. -/
def ofText (t : Text) : Encoded := ⟨toUtf8 t, t, rfl⟩

/-- A text is read back from its bytes. -/
@[simp] theorem text_ofText (t : Text) : (ofText t).text = t := ofUtf8_toUtf8 t

/-- Bytes that spell a text are its bytes. -/
@[simp] theorem ofText_text (s : Encoded) : ofText s.text = s := by
  obtain ⟨bytes, t, rfl⟩ := s
  show ofText (ofUtf8 (toUtf8 t)) = ofText t
  rw [ofUtf8_toUtf8]

/-- The number of bytes. -/
def length (s : Encoded) : Nat := s.bytes.length

/-- The bytes of two texts add up. -/
theorem length_ofText_append (l r : Text) :
    (ofText (l ++ r)).length = (ofText l).length + (ofText r).length := by
  show (toUtf8 (l ++ r)).length = (toUtf8 l).length + (toUtf8 r).length
  rw [toUtf8_append, List.length_append]

/-- Of an ASCII text, bytes and characters are as many. -/
theorem length_ofText_of_lt {t : Text} (h : ∀ c ∈ t, c.toNat < 0x80) :
    (ofText t).length = t.length :=
  length_toUtf8_of_lt h

/-- Only the empty text has no bytes. -/
theorem length_ofText_eq_zero_iff {t : Text} : (ofText t).length = 0 ↔ t = [] := by
  cases t with
  | nil => simp [length, ofText, toUtf8]
  | cons c t =>
    obtain ⟨lead, tail, hbytes, -, -⟩ := exists_utf8OfChar c
    simp [length, ofText, toUtf8_cons, hbytes]

section Boundary

variable {s : Encoded} {offset : Nat} (h : isBoundary s.bytes offset = true)

include h

/-- A boundary divides an encoded text into two. -/
theorem exists_of_isBoundary : ∃ l r, s = ofText (l ++ r) ∧ (ofText l).length = offset := by
  obtain ⟨bytes, t, rfl⟩ := s
  obtain ⟨l, r, rfl, hl⟩ := isBoundary_iff.1 h
  exact ⟨l, r, rfl, hl⟩

/-- The bytes before a boundary spell a text. -/
theorem exists_toUtf8_take : ∃ t, toUtf8 t = s.bytes.take offset := by
  obtain ⟨l, r, rfl, rfl⟩ := exists_of_isBoundary h
  show ∃ t, toUtf8 t = (toUtf8 (l ++ r)).take (toUtf8 l).length
  exact ⟨l, by rw [toUtf8_append, List.take_left]⟩

/-- So do those from it on. -/
theorem exists_toUtf8_drop : ∃ t, toUtf8 t = s.bytes.drop offset := by
  obtain ⟨l, r, rfl, rfl⟩ := exists_of_isBoundary h
  show ∃ t, toUtf8 t = (toUtf8 (l ++ r)).drop (toUtf8 l).length
  exact ⟨r, by rw [toUtf8_append, List.drop_left]⟩

end Boundary

/-! ## Slices -/

/-- The bytes up to an offset, and those from there on. -/
def splitAt (s : Encoded) (offset : Nat) : Sliced (Encoded × Encoded) :=
  if h : isBoundary s.bytes offset = true then
    .ok (⟨s.bytes.take offset, exists_toUtf8_take h⟩, ⟨s.bytes.drop offset, exists_toUtf8_drop h⟩)
  else .error ⟨s.bytes, offset⟩

/-- The bytes up to an offset. -/
def sliceTo (s : Encoded) (offset : Nat) : Sliced Encoded := do
  let (left, _) ← s.splitAt offset
  return left

/-- The bytes from an offset on. -/
def sliceFrom (s : Encoded) (offset : Nat) : Sliced Encoded := do
  let (_, right) ← s.splitAt offset
  return right

/-- A cut at the length of a start gives that start and what follows it. -/
theorem splitAt_ofText_append (l r : Text) :
    (ofText (l ++ r)).splitAt (ofText l).length = .ok (ofText l, ofText r) := by
  have hboundary : isBoundary (ofText (l ++ r)).bytes (ofText l).length = true :=
    isBoundary_toUtf8_append l r
  have htake : (ofText (l ++ r)).bytes.take (ofText l).length = toUtf8 l := by
    show (toUtf8 (l ++ r)).take (toUtf8 l).length = toUtf8 l
    rw [toUtf8_append, List.take_left]
  have hdrop : (ofText (l ++ r)).bytes.drop (ofText l).length = toUtf8 r := by
    show (toUtf8 (l ++ r)).drop (toUtf8 l).length = toUtf8 r
    rw [toUtf8_append, List.drop_left]
  rw [splitAt, dif_pos hboundary]
  simp only [htake, hdrop]
  rfl

/-- A cut gives two texts that make up the whole one, the first as long as was asked for. -/
theorem splitAt_eq_ok_iff {s left right : Encoded} {offset : Nat} :
    s.splitAt offset = .ok (left, right) ↔
      s.text = left.text ++ right.text ∧ left.length = offset := by
  constructor
  · intro h
    have hboundary : isBoundary s.bytes offset = true := by
      rw [splitAt] at h
      split at h
      · assumption
      · exact nomatch h
    -- a cut that is made is made at a boundary
    obtain ⟨l, r, rfl, rfl⟩ := exists_of_isBoundary hboundary
    obtain ⟨rfl, rfl⟩ := Prod.mk.inj (Except.ok.inj (h.symm.trans (splitAt_ofText_append l r)))
    simp only [text_ofText, and_self]
  · rintro ⟨htext, rfl⟩
    have hsplit := splitAt_ofText_append left.text right.text
    rwa [← htext, ofText_text, ofText_text, ofText_text] at hsplit

/-- A cut is refused exactly if no start of the text has the length that is asked for. -/
theorem splitAt_eq_error_iff {s : Encoded} {offset : Nat} {refused : BadCut} :
    s.splitAt offset = .error refused ↔
      refused = ⟨s.bytes, offset⟩ ∧ ∀ l r, s.text = l ++ r → (ofText l).length ≠ offset := by
  by_cases hboundary : isBoundary s.bytes offset = true
  · obtain ⟨l, r, rfl, rfl⟩ := exists_of_isBoundary hboundary
    rw [splitAt_ofText_append]
    constructor
    · intro h
      exact nomatch h
    · rintro ⟨-, h⟩
      exact absurd rfl (h l r (text_ofText _))
  · -- the length of a start would be a boundary
    have hnone : ∀ l r, s.text = l ++ r → (ofText l).length ≠ offset := by
      rintro l r htext rfl
      rw [← ofText_text s, htext] at hboundary
      exact hboundary (isBoundary_toUtf8_append l r)
    rw [splitAt, dif_neg hboundary]
    constructor
    · intro h
      exact ⟨(Except.error.inj h).symm, hnone⟩
    · rintro ⟨rfl, -⟩
      rfl

example : ((ofText ['a', 'é', 'b']).splitAt 2).toOption = none := by decide
example : ((ofText ['a', 'é', 'b']).splitAt 3).toOption =
    some (ofText ['a', 'é'], ofText ['b']) := by
  decide

/-- The slice up to the length of a start is that start. -/
theorem sliceTo_ofText_append (l r : Text) :
    (ofText (l ++ r)).sliceTo (ofText l).length = .ok (ofText l) := by
  rw [sliceTo, splitAt_ofText_append]
  rfl

/-- The slice from there on is what follows it. -/
theorem sliceFrom_ofText_append (l r : Text) :
    (ofText (l ++ r)).sliceFrom (ofText l).length = .ok (ofText r) := by
  rw [sliceFrom, splitAt_ofText_append]
  rfl

/-- A slice to the end has the bytes that are left. -/
theorem length_sliceFrom {s rest : Encoded} {offset : Nat} (h : s.sliceFrom offset = .ok rest) :
    rest.length = s.length - offset := by
  rw [sliceFrom, splitAt] at h
  split at h
  · rw [← Except.ok.inj h]
    exact List.length_drop
  · exact nomatch h

end Encoded

end Mailroom
