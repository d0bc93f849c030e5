import Mailroom.Proofs.Encoded.Search
import Mailroom.Proofs.Plain.Wrap

/-!
# Soft line breaks by byte offsets

A line that is broken is cut behind its quote marks and at both ends of each of its words.  The
quote marks are counted as characters and their number is used as an offset, which is right as
each of them is one byte.

## Key results

* `quoteMark_ofText`   the quote marks of a line are cut off whole
* `tokens_ofText`      every word is cut off with the spaces before it
* `wrap_ofText`        no cut is refused when a text is broken into lines
-/

namespace Mailroom.Encoded

open Text Plain

/-- The quote marks that a line starts with, with one space after them if there is one. -/
def quoteMark (line : Encoded) : Sliced Encoded :=
  let marks := (line.text.takeWhile (· == '>')).length
  if 0 < marks then do
    let rest ← line.sliceFrom marks
    if startsWith [' '] rest.text then line.sliceTo (marks + 1) else line.sliceTo marks
  else line.sliceTo marks

/-- The first word of a text with the spaces before it, and what follows it. -/
def firstToken (t : Encoded) : Sliced (Token × Encoded) := do
  let (gap, rest) ← t.splitAt ((t.findWhere? (· != ' ')).getD t.length)
  let (word, rest) ← rest.splitAt ((rest.findWhere? (· == ' ')).getD rest.length)
  return (⟨gap.text, word.text⟩, rest)

/-- The first word with the spaces behind it ends where a character starts, so that both cuts are
taken. -/
theorem firstToken_ofText (t : Text) :
    (ofText t).firstToken = .ok (Plain.firstToken t, ofText (afterToken t)) := by
  have hgap : (fun c : Char => !(c != ' ')) = (· == ' ') := by
    funext c
    exact Bool.not_not _
  rw [firstToken, splitAt_findWhere?, hgap]
  show ((ofText (t.dropWhile (· == ' '))).splitAt _ >>= fun _ => _) = _
  rw [splitAt_findWhere?]
  show Except.ok (Token.mk (ofText _).text (ofText _).text, _) = _
  rw [text_ofText, text_ofText]
  rfl

/-- The words of a line, each with the spaces before it. -/
def tokens (t : Encoded) : Sliced (List Token) :=
  if _hempty : t.length = 0 then return []
  else
    match _hfirst : t.firstToken with
    | .error cut => .error cut
    | .ok (token, rest) => do
      let more ← tokens rest
      return token :: more
termination_by t.text.length
decreasing_by
  -- what is left is what follows the first word of the text
  have hself := firstToken_ofText t.text
  rw [ofText_text, _hfirst] at hself
  obtain ⟨-, rfl⟩ := Prod.mk.inj (Except.ok.inj hself)
  rw [text_ofText]
  cases hlist : t.text with
  | nil =>
    rw [← ofText_text t, hlist] at _hempty
    exact absurd (length_ofText_eq_zero_iff.2 rfl) _hempty
  | cons c u => exact length_afterToken_lt c u

/-- Cutting off the first token again and again gives the tokens of the text. -/
theorem tokens_ofText (t : Text) : (ofText t).tokens = .ok (Plain.tokens t) := by
  induction t using Plain.tokens.induct with
  | case1 =>
    rw [tokens, dif_pos (length_ofText_eq_zero_iff.2 rfl), Plain.tokens]
    rfl
  | case2 c t ih =>
    have hlength : (ofText (c :: t)).length ≠ 0 :=
      mt length_ofText_eq_zero_iff.1 (List.cons_ne_nil c t)
    have htoken := firstToken_ofText (c :: t)
    rw [tokens, dif_neg hlength, Plain.tokens]
    -- the definition keeps the equation of the cut, for its termination
    split
    · next cut hcut => simp [htoken] at hcut
    · next token rest hfirst =>
      obtain ⟨rfl, rfl⟩ := Prod.mk.inj (Except.ok.inj (htoken.symm.trans hfirst))
      rw [ih]
      rfl

/-- The quote mark is a run of ASCII characters and at most one space, and is cut off without a
refusal. -/
theorem quoteMark_ofText (line : Text) :
    (ofText line).quoteMark = .ok (ofText (Plain.quoteMark line)) := by
  obtain ⟨marks, t, rfl, hmarks, ht⟩ := exists_marks line
  -- each mark is one byte
  have hascii : ∀ c ∈ marks, c.toNat < 0x80 := by
    intro c hc
    rw [hmarks c hc]
    decide
  have hlength : (ofText marks).length = marks.length := length_ofText_of_lt hascii
  have hfrom : (ofText (marks ++ t)).sliceFrom marks.length = .ok (ofText t) := by
    rw [← hlength]
    exact sliceFrom_ofText_append marks t
  have hto : (ofText (marks ++ t)).sliceTo marks.length = .ok (ofText marks) := by
    rw [← hlength]
    exact sliceTo_ofText_append marks t
  rw [quoteMark, text_ofText]
  simp only [takeWhile_marks_append hmarks ht, quoteMark_marks_append hmarks ht, hfrom, hto,
    List.length_pos_iff]
  by_cases hne : marks ≠ []
  · rw [if_pos hne]
    show (if startsWith [' '] (ofText t).text then _ else _) = _
    rw [text_ofText, startsWith_singleton]
    by_cases hspace : t.head? = some ' '
    · -- the space after the marks is one byte more
      obtain ⟨u, rfl⟩ := List.head?_eq_some_iff.1 hspace
      have hmark : (ofText (marks ++ [' '])).length = marks.length + 1 := by
        rw [length_ofText_append, hlength]
        rfl
      have hsplit : marks ++ ' ' :: u = marks ++ [' '] ++ u := by simp
      rw [if_pos (by simp), if_pos ⟨hne, rfl⟩, ← hmark, hsplit]
      exact sliceTo_ofText_append (marks ++ [' ']) u
    · rw [if_neg (by simpa using hspace), if_neg fun h => hspace h.2]
  · rw [if_neg hne, if_neg fun h => hne h.1]

/-- The lines that one line becomes. -/
def wrapLine (width : Nat) (line : Encoded) : Sliced (List Text) :=
  if width == 0 || line.text.length ≤ width then return [line.text]
  else do
    let mark ← line.quoteMark
    let rest ← line.sliceFrom mark.length
    let words ← rest.tokens
    return fill width mark.text words

/-- A line is cut behind its quote mark and then token by token; the words are put together again as
they are in the text. -/
theorem wrapLine_ofText (width : Nat) (line : Text) :
    (ofText line).wrapLine width = .ok (Plain.wrapLine width line) := by
  -- what is left of a line behind its quote mark
  have hafter : (ofText line).sliceFrom (ofText (Plain.quoteMark line)).length =
      .ok (ofText (afterMark line)) := by
    have hslice := sliceFrom_ofText_append (Plain.quoteMark line) (afterMark line)
    rwa [quoteMark_append_afterMark] at hslice
  rw [wrapLine, Plain.wrapLine, quoteMark_ofText, text_ofText]
  split
  · rfl
  · show ((ofText line).sliceFrom (ofText (Plain.quoteMark line)).length >>= fun _ => _) = _
    rw [hafter]
    show ((ofText (afterMark line)).tokens >>= fun _ => _) = _
    rw [tokens_ofText, text_ofText]
    rfl

/-- The text with its long lines broken and LF as its line break. -/
def wrap (width : Nat) (t : Encoded) : Sliced Text := do
  let wrapped ← (lines (normalizeBreaks t.text)).mapM fun line => (ofText line).wrapLine width
  return unlines wrapped.flatten

/-- No line of a text is refused: wrapping the encoded text is wrapping the text. -/
theorem wrap_ofText (width : Nat) (t : Text) :
    (ofText t).wrap width = .ok (Plain.wrap width t) := by
  have hline : (fun line => (ofText line).wrapLine width) =
      fun line => pure (Plain.wrapLine width line) :=
    funext (wrapLine_ofText width)
  rw [wrap, hline, List.mapM_pure, text_ofText]
  rfl

end Mailroom.Encoded
