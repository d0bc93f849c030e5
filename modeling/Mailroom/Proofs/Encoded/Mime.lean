import Mailroom.Mime.HeaderBlock
import Mailroom.Proofs.Encoded.Search
import Mailroom.Proofs.Mime.Boundary

/-!
# Boundaries and headers, read by byte offsets

The readers of boundaries and of part headers on encoded texts, which they cut where a search
tells them to.  What stands in any case is looked for in a lower-case copy, and the text itself
is cut at the offset that is found there.  No cut is refused, and what is read is what the
readers of texts read.

## Key results

* `findBoundary_ofText`       the boundary that a text declares
* `transferEncoding_ofText`   the transfer encoding that a part declares
* `strip_ofText`              a part without its header block
-/

namespace Mailroom.Encoded

open Text Mime

/-! ## Boundaries -/

/-- The token at the start of a text, cut off behind the opening quote and before the closing
one, or before the first semicolon or white space. -/
def boundaryToken (t : Encoded) : Sliced Encoded :=
  match t.text.head? with
  | some quote =>
    if quote == '"' || quote == '\'' then do
      let inner ← t.sliceFrom 1
      match inner.find? (ofText [quote]) with
      | some stop => inner.sliceTo stop
      | none => return ofText (firstLine inner.text)
    else bare
  | none => bare
where
  bare : Sliced Encoded := t.sliceTo ((t.findWhere? fun c => c == ';' || isBlank c).getD t.length)

/-- The boundary that a text declares after the word itself. -/
def declaredBoundary (t : Encoded) : Sliced (Option Text) :=
  match after? ['='] (trimStart t.text) with
  | some value => do
    let token ← (ofText (trimStart value)).boundaryToken
    let boundary := unquote token.text
    return if boundary.isEmpty then none else some boundary
  | none => return none

/-- The word that declares a boundary. -/
def boundaryWord : Encoded := ofText "boundary".toList

/-- The first boundary that a text declares behind an offset, with a lower-case copy in which
the word is looked for. -/
def findBoundaryFrom (t copy : Encoded) (offset : Nat) : Sliced (Option Text) :=
  match _htail : copy.sliceFrom offset with
  | .error cut => .error cut
  | .ok tail =>
    match _hfind : tail.find? boundaryWord with
    | none => return none
    | some found => do
      let start := offset + found + boundaryWord.length
      let rest ← t.sliceFrom start
      match ← rest.declaredBoundary with
      | some boundary => return some boundary
      | none => findBoundaryFrom t copy start
termination_by copy.length - offset
decreasing_by
  -- the word is not empty and lies within the rest of the copy
  have hword : boundaryWord.length = 8 := by decide
  have hle := find?_add_length_le _hfind
  have hlength := length_sliceFrom _htail
  omega

/-- The first boundary that a text declares. -/
def findBoundary (t : Encoded) : Sliced (Option Text) := findBoundaryFrom t t.asciiLower 0

/-- The token behind `boundary=`, in quotation marks or bare, is cut out without a refusal. -/
theorem boundaryToken_ofText (t : Text) :
    (ofText t).boundaryToken = .ok (ofText (Boundary.token t)) := by
  have hbare : boundaryToken.bare (ofText t) =
      .ok (ofText (t.takeWhile fun c => !(c == ';' || isBlank c))) :=
    sliceTo_findWhere? t fun c => c == ';' || isBlank c
  rw [boundaryToken, text_ofText, hbare]
  cases t with
  | nil => rfl
  | cons quote inner =>
    simp only [List.head?_cons, Boundary.token]
    split
    · next hquote =>
      -- either quote is one byte
      have hone : (ofText [quote]).length = 1 := by
        simp only [Bool.or_eq_true, beq_iff_eq] at hquote
        obtain rfl | rfl := hquote
        · decide
        · decide
      have hinner : (ofText (quote :: inner)).sliceFrom 1 = .ok (ofText inner) := by
        rw [← hone]
        exact sliceFrom_ofText_append [quote] inner
      rw [hinner]
      show (match (ofText inner).find? (ofText [quote]) with
        | some stop => (ofText inner).sliceTo stop
        | none => return ofText (firstLine (ofText inner).text)) = _
      rw [find?_ofText, text_ofText]
      cases hcut : cut? [quote] inner with
      | none => rfl
      | some cut =>
        obtain ⟨quoted, rest⟩ := cut
        rw [cut?_eq_some hcut, List.append_assoc]
        exact sliceTo_ofText_append quoted ([quote] ++ rest)
    · rfl

/-- So is what one mention of `boundary` declares. -/
theorem declaredBoundary_ofText (t : Text) :
    (ofText t).declaredBoundary = .ok (Boundary.declared? t) := by
  rw [declaredBoundary, text_ofText, Boundary.declared?]
  cases after? ['='] (trimStart t) with
  | none => rfl
  | some value =>
    simp only [boundaryToken_ofText]
    show Except.ok (if (unquote (ofText _).text).isEmpty then _ else _) = _
    rw [text_ofText]
    rfl

section Loop

variable {t copy tail : Encoded} {offset : Nat} (htail : copy.sliceFrom offset = .ok tail)

include htail

/-- Without a further mention of `boundary` the loop ends, and nothing is declared. -/
theorem findBoundaryFrom_of_find?_eq_none (hfind : tail.find? boundaryWord = none) :
    findBoundaryFrom t copy offset = .ok none := by
  rw [findBoundaryFrom]
  split
  · next cut hcut => exact nomatch htail.symm.trans hcut
  · next tail' htail' =>
    obtain rfl := Except.ok.inj (htail.symm.trans htail')
    split
    · rfl
    · next found hfound => exact nomatch hfind.symm.trans hfound

/-- At a mention of `boundary` the loop ends with what the mention declares. Where that is nothing,
the loop goes on behind the mention. The mention is found in the lower-cased copy and read in the
original. -/
theorem findBoundaryFrom_of_find?_eq_some {rest : Encoded} {found : Nat}
    {declared : Option Text} (hfind : tail.find? boundaryWord = some found)
    (hrest : t.sliceFrom (offset + found + boundaryWord.length) = .ok rest)
    (hdeclared : rest.declaredBoundary = .ok declared) :
    findBoundaryFrom t copy offset =
      declared.elim (findBoundaryFrom t copy (offset + found + boundaryWord.length))
        (fun boundary => .ok (some boundary)) := by
  rw [findBoundaryFrom]
  split
  · next cut hcut => exact nomatch htail.symm.trans hcut
  · next tail' htail' =>
    obtain rfl := Except.ok.inj (htail.symm.trans htail')
    split
    · next hnone => exact nomatch hfind.symm.trans hnone
    · next found' hfound =>
      obtain rfl := Option.some.inj (hfind.symm.trans hfound)
      simp only [hrest]
      -- the function states the bind through its own match, which `show` brings out
      show (rest.declaredBoundary >>= fun declared => _) = _
      rw [hdeclared]
      cases declared with
      | some boundary => rfl
      | none => rfl

end Loop

/-- A start of the text is as long in the copy, so both are cut at the same offset, and what is
left of the copy is searched for the word. -/
theorem findBoundaryFrom_ofText (before t : Text) :
    findBoundaryFrom (ofText (before ++ t)) (ofText (before ++ t)).asciiLower
      (ofText before).length = .ok (Boundary.find? t) := by
  have hword : "boundary".toList.map Char.toLower = "boundary".toList := by decide
  induction t using Boundary.find?.induct generalizing before with
  | case1 t hcut =>
    have htail := sliceFrom_asciiLower before t
    have hfind : (ofText t).asciiLower.find? boundaryWord = none := by
      rw [boundaryWord, find?_asciiLower hword, hcut, Option.map_none]
    rw [findBoundaryFrom_of_find?_eq_none htail hfind, Boundary.find?_eq_none hcut]
  | case2 t left rest hcut ih =>
    have htail := sliceFrom_asciiLower before t
    have hfind : (ofText t).asciiLower.find? boundaryWord = some (ofText left).length := by
      rw [boundaryWord, find?_asciiLower hword, hcut, Option.map_some]
    -- the loop goes on behind what was found
    obtain ⟨start, hsplit, hstart⟩ := exists_start_of_cutAnyCase? hcut before
    have hrest : (ofText (before ++ t)).sliceFrom
        ((ofText before).length + (ofText left).length + boundaryWord.length) =
          .ok (ofText rest) := by
      rw [hsplit, boundaryWord, ← hstart]
      exact sliceFrom_ofText_append start rest
    have hloop := ih start
    rw [← hsplit, hstart] at hloop
    rw [findBoundaryFrom_of_find?_eq_some htail hfind hrest (declaredBoundary_ofText rest),
      Boundary.find?_eq_or hcut]
    cases Boundary.declared? rest with
    | some boundary => rfl
    | none => exact hloop

/-- The loop over all mentions is never refused and finds the boundary found in the text. -/
theorem findBoundary_ofText (t : Text) : (ofText t).findBoundary = .ok (Boundary.find? t) :=
  findBoundaryFrom_ofText [] t

/-! ## Transfer encodings -/

/-- The word that declares a transfer encoding. -/
def encodingWord : Encoded := ofText "content-transfer-encoding".toList

/-- The value that is declared in what follows the word. -/
def declaredEncoding? (rest : Text) : Option Text :=
  (after? [':'] (rest.dropWhile fun c => c == ' ' || c == '\t')).bind fun rest =>
    let value := trim (dropEndWhile (· == ';') (trim (firstLine rest)))
    if value.isEmpty then none else some value

/-- The transfer encoding that a part declares. -/
def transferEncoding (part : Encoded) : Sliced (Option Text) :=
  match part.asciiLower.find? encodingWord with
  | none => return none
  | some found => do
    let rest ← part.sliceFrom (found + encodingWord.length)
    return declaredEncoding? rest.text

/-- The offset at which the lower-cased copy has the name of the header cuts the original too, so
that the value behind it is read without a refusal. -/
theorem transferEncoding_ofText (part : Text) :
    (ofText part).transferEncoding = .ok (HeaderBlock.transferEncoding? part) := by
  have hword : "content-transfer-encoding".toList.map Char.toLower =
      "content-transfer-encoding".toList := by
    decide
  rw [transferEncoding, encodingWord, find?_asciiLower hword, HeaderBlock.transferEncoding?]
  cases hcut : cutAnyCase? "content-transfer-encoding".toList part with
  | none => rfl
  | some cut =>
    obtain ⟨left, rest⟩ := cut
    obtain ⟨start, hsplit, hstart⟩ := exists_start_of_cutAnyCase? hcut []
    -- both cuts are at the end of the name: the length of what stands before it is the same in the
    -- copy
    have hrest : (ofText part).sliceFrom
        ((ofText left).length + (ofText "content-transfer-encoding".toList).length) =
          .ok (ofText rest) := by
      have hslice := sliceFrom_ofText_append start rest
      rwa [← hsplit, hstart, List.nil_append, length_ofText_eq_zero_iff.2 rfl, Nat.zero_add]
        at hslice
    simp only [Option.map_some, hrest, Option.bind_some]
    show Except.ok (declaredEncoding? (ofText rest).text) = _
    rw [text_ofText]
    rfl

/-! ## Header blocks -/

/-- The line starts with the name, in any ASCII case, and a colon.  It is not cut where that
would divide a character. -/
def hasName (line name : Encoded) : Sliced Bool :=
  if name.length < line.length && isBoundary line.bytes name.length then do
    let lead ← line.sliceTo name.length
    if equalsAnyCase lead.text name.text then
      let rest ← line.sliceFrom name.length
      return startsWith [':'] rest.text
    else return false
  else return false

/-- The line holds a known header. -/
def isHeader (line : Encoded) : Sliced Bool :=
  HeaderBlock.knownNames.anyM fun name => line.hasName (ofText name)

/-- The lines after the header block. -/
def dropFrom (folding : Bool) : List Text → Sliced (List Text)
  | [] => return []
  | line :: rest => do
    if folding && HeaderBlock.isContinuation line then
      dropFrom (HeaderBlock.isOpen line) rest
    else if ← (ofText (trimEnd line)).isHeader then
      dropFrom (HeaderBlock.isOpen line) rest
    else return line :: rest

/-- The part without its header block and without white space around what is left. -/
def strip (part : Encoded) : Sliced Text := do
  let kept ← dropFrom false (lines (trim part.text))
  return trim (unlines kept)

/-- The line is cut only where it is longer than the name and a character starts there. Elsewhere no
name can end, since a name that agrees up to case takes as many bytes. -/
theorem hasName_ofText (line name : Text) :
    (ofText line).hasName (ofText name) =
      .ok (match afterAnyCase? name line with
        | some rest => rest.head? == some ':'
        | none => false) := by
  rw [hasName]
  cases hafter : afterAnyCase? name line with
  | some rest =>
    -- the start of the line is as long as the name
    obtain ⟨start, rfl, hstart⟩ := afterBy?_eq_some_iff.1 hafter
    rw [← length_ofText_eq_of_map_toLower hstart]
    cases rest with
    | nil =>
      rw [List.append_nil, if_neg (by simp)]
      rfl
    | cons c rest =>
      have hlonger : (ofText start).length < (ofText (start ++ c :: rest)).length := by
        have hpos : (ofText (c :: rest)).length ≠ 0 :=
          mt length_ofText_eq_zero_iff.1 (List.cons_ne_nil c rest)
        rw [length_ofText_append]
        omega
      have hboundary :
          isBoundary (ofText (start ++ c :: rest)).bytes (ofText start).length = true :=
        isBoundary_toUtf8_append start (c :: rest)
      have hsame : equalsAnyCase start name = true := beq_iff_eq.2 hstart
      rw [if_pos (by simp [hlonger, hboundary]), sliceTo_ofText_append]
      show (if equalsAnyCase (ofText start).text (ofText name).text then _ else _) = _
      rw [text_ofText, text_ofText, if_pos hsame, sliceFrom_ofText_append]
      show Except.ok (startsWith [':'] (ofText (c :: rest)).text) = _
      rw [text_ofText, startsWith_singleton]
  | none =>
    split
    · next hcut =>
      simp only [Bool.and_eq_true, decide_eq_true_eq] at hcut
      obtain ⟨l, r, hline, hl⟩ := exists_of_isBoundary hcut.2
      obtain rfl : line = l ++ r := by
        rw [← text_ofText line, hline, text_ofText]
      have hdiffer : equalsAnyCase l name = false := by
        rw [equalsAnyCase, beq_eq_false_iff_ne]
        intro hsame
        exact nomatch hafter.symm.trans (afterBy?_eq_some_iff.2 ⟨l, rfl, hsame⟩)
      rw [← hl, sliceTo_ofText_append]
      show (if equalsAnyCase (ofText l).text (ofText name).text then _ else _) = _
      rw [text_ofText, text_ofText, if_neg (by simp [hdiffer])]
      rfl
    · rfl

/-- Whether a line starts a header. -/
theorem isHeader_ofText (line : Text) :
    (ofText line).isHeader = .ok (HeaderBlock.isHeader line) := by
  have hname : (fun name => (ofText line).hasName (ofText name)) = fun name => pure _ :=
    funext (hasName_ofText line)
  rw [isHeader, hname, List.anyM_pure]
  rfl

/-- Dropping headers cuts nothing but the first bytes of a line. -/
theorem dropFrom_eq (folding : Bool) (ls : List Text) :
    dropFrom folding ls = .ok (HeaderBlock.dropFrom folding ls) := by
  induction ls generalizing folding with
  | nil => rfl
  | cons line rest ih =>
    rw [dropFrom, HeaderBlock.dropFrom, isHeader_ofText]
    cases folding && HeaderBlock.isContinuation line with
    | true => exact ih _
    | false =>
      cases HeaderBlock.isHeader (trimEnd line) with
      | true => exact ih _
      | false => rfl

/-- The header block of a part is stripped without a refusal. -/
theorem strip_ofText (part : Text) : (ofText part).strip = .ok (HeaderBlock.strip part) := by
  rw [strip, dropFrom_eq, text_ofText]
  rfl

end Mailroom.Encoded
