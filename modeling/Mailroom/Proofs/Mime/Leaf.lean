import Mailroom.Proofs.Base64
import Mailroom.Proofs.Mime.HeaderBlock
import Mailroom.Proofs.Text.Utf8

/-!
# Writing leaves

The counterpart of `Leaf.parse?` and `Leaf.text`: a leaf is written as a header block that
declares its kind and, for base64, its encoding, an empty line and its payload.  Reading
looks for the kind and the encoding in the whole part, so what a payload mentions can mislead
it.  A payload that mentions the transfer encoding is taken for base64, but holds a dash and
so cannot be decoded; one that mentions plain text in a leaf of HTML has to be ruled out.

## Key results

* `sniffKind_of_infix`   a piece of a part mentions no kind that the part does not mention
* `parse?_part`          a written leaf is read back with its kind
* `text_leaf`            and with its text
-/

namespace Mailroom.Mime

open Text

/-! ## Sniffing -/

/-- A part has no kind if it mentions neither kind of text. -/
theorem sniffKind_eq_none_iff {t : Text} :
    sniffKind t = none ↔ ¬ Kind.plain.name <:+: t ∧ ¬ Kind.html.name <:+: t := by
  rw [← contains_iff, ← contains_iff, sniffKind]
  cases contains Kind.plain.name t <;> cases contains Kind.html.name t <;> simp

/-- Two parts are sniffed alike when they mention the same kinds, but plain text hides HTML. -/
theorem sniffKind_eq_iff {s t : Text} : sniffKind s = sniffKind t ↔
    (Kind.plain.name <:+: s ↔ Kind.plain.name <:+: t) ∧
      (Kind.plain.name <:+: t ∨ (Kind.html.name <:+: s ↔ Kind.html.name <:+: t)) := by
  simp only [← contains_iff, sniffKind]
  cases contains Kind.plain.name s <;> cases contains Kind.plain.name t <;>
    cases contains Kind.html.name s <;> cases contains Kind.html.name t <;> simp

/-- A piece of a part mentions no kind of text that the part does not mention. -/
theorem sniffKind_of_infix {s t : Text} (h : s <:+: t) (ht : sniffKind t = none) :
    sniffKind s = none := by
  rw [sniffKind_eq_none_iff] at ht ⊢
  exact ⟨fun hs => ht.1 (hs.trans h), fun hs => ht.2 (hs.trans h)⟩

/-- Only a part without a kind gives no leaf. -/
theorem parse?_eq_none_iff {t : Text} : Leaf.parse? t = none ↔ sniffKind t = none := by
  rw [Leaf.parse?, Option.map_eq_none_iff]

/-! ## Written leaves -/

/-- The content of a leaf to be written: a text as it stands, or a text in base64, where
white space may stand anywhere in the payload, such as the line breaks of folding. -/
inductive Content where
  | verbatim (text : Text)
  | base64 (text payload : Text)
      (spells : payload.filter (!isBlank ·) = Base64.encode (toUtf8 text))

namespace Content

/-- The content as it is written. -/
def payload : Content → Text
  | .verbatim text => text
  | .base64 _ payload _ => payload

/-- The content as it is read back.  White space around a text that is written as it stands
is not kept. -/
def shown : Content → Text
  | .verbatim text => trim text
  | .base64 text _ _ => text

/-- The header line that declares the encoding, after the line break before it. -/
def encodingHeader : Content → Text
  | .verbatim _ => []
  | .base64 .. => "\nContent-Transfer-Encoding: base64".toList

/-- A text that is written as it stands declares no encoding. -/
theorem encodingHeader_verbatim (text : Text) : (verbatim text).encodingHeader = [] := rfl

/-- A text in base64 declares it, whatever its payload. -/
theorem encodingHeader_base64 (text payload : Text)
    (spells : payload.filter (!isBlank ·) = Base64.encode (toUtf8 text)) :
    (base64 text payload spells).encodingHeader =
      "\nContent-Transfer-Encoding: base64".toList := rfl

end Content

/-- The header line that declares a kind of text. -/
def Kind.header : Kind → Text
  | .plain => "Content-Type: text/plain".toList
  | .html => "Content-Type: text/html".toList

/-- A leaf to be written. -/
structure Draft where
  kind : Kind
  content : Content

namespace Draft

/-- The header block of a leaf. -/
def headers (d : Draft) : Text := d.kind.header ++ d.content.encodingHeader

/-- The leaf as it is written. -/
def written (d : Draft) : Text := d.headers ++ '\n' :: '\n' :: d.content.payload

/-- The leaf as it stands between two delimiters. -/
def part (d : Draft) : Text := '\n' :: (d.written ++ ['\n'])

/-- A leaf of HTML does not mention plain text. -/
def IsTold (d : Draft) : Prop := d.kind = .html → ¬ Kind.plain.name <:+: d.written

instance (d : Draft) : Decidable d.IsTold :=
  inferInstanceAs (Decidable (d.kind = .html → ¬ Kind.plain.name <:+: d.written))

/-- The leaf that is read back. -/
def leaf (d : Draft) : Leaf :=
  ⟨d.kind, TransferEncoding.detect d.part, trim d.content.payload⟩

/-- The line breaks around a leaf add no mention of a word. -/
theorem infix_part_iff {needle : Text} {d : Draft} (hne : needle ≠ []) (hn : '\n' ∉ needle) :
    needle <:+: d.part ↔ needle <:+: d.written := by
  rw [part]
  exact infix_cons_append_iff hne hn

/-- The header line of a kind, with the name of the kind at its end. -/
theorem header_eq (kind : Kind) : kind.header = "Content-Type: ".toList ++ kind.name := by
  cases kind <;> decide +kernel

/-- A part of a leaf is not blank. -/
theorem isBlankText_part (d : Draft) : isBlankText d.part = false := by
  have hmem : 'C' ∈ d.part := by
    simp [part, written, headers, header_eq]
  rw [← Bool.not_eq_true, isBlankText_iff]
  exact fun h => absurd (h 'C' hmem) (by decide)

/-- The headers of a written leaf are a header block. -/
theorem isBlock_headers (d : Draft) : HeaderBlock.IsBlock d.headers := by
  obtain ⟨kind, content⟩ := d
  cases content with
  | verbatim text =>
    show HeaderBlock.IsBlock (kind.header ++ [])
    cases kind <;> decide +kernel
  | base64 text payload spells =>
    show HeaderBlock.IsBlock (kind.header ++ "\nContent-Transfer-Encoding: base64".toList)
    cases kind <;> decide +kernel

/-- Reading drops the header block. -/
theorem strip_part (d : Draft) : HeaderBlock.strip d.part = trim d.content.payload :=
  HeaderBlock.strip_append (a := ['\n']) (b := ['\n']) rfl rfl d.isBlock_headers _

/-- Sniffing finds the declared kind. -/
theorem sniffKind_part {d : Draft} (hd : d.IsTold) : sniffKind d.part = some d.kind := by
  have hkind : contains d.kind.name d.part = true := by
    rw [contains_iff]
    exact ⟨'\n' :: "Content-Type: ".toList,
      d.content.encodingHeader ++ '\n' :: '\n' :: d.content.payload ++ ['\n'],
      by simp [part, written, headers, header_eq]⟩
  rw [sniffKind]
  cases hk : d.kind with
  | plain =>
    rw [hk] at hkind
    rw [hkind, if_pos rfl]
  | html =>
    -- plain text is looked for first
    have hplain : ¬ contains Kind.plain.name d.part = true := by
      rw [contains_iff, infix_part_iff (by decide) (by decide)]
      exact hd hk
    rw [hk] at hkind
    rw [if_neg hplain, hkind, if_pos rfl]

/-- A written leaf is read back with its kind. -/
theorem parse?_part {d : Draft} (hd : d.IsTold) : Leaf.parse? d.part = some d.leaf := by
  rw [Leaf.parse?, sniffKind_part hd, strip_part]
  rfl

/-! ## The text of a written leaf -/

/-- The encoding of a leaf in base64 is found in its header block. -/
theorem detect_base64 (kind : Kind) (text payload : Text)
    (spells : payload.filter (!isBlank ·) = Base64.encode (toUtf8 text)) :
    TransferEncoding.detect (Draft.part ⟨kind, .base64 text payload spells⟩) = .base64 := by
  have hclear : ClearBy Char.toLower HeaderBlock.encodingName
      ('\n' :: (kind.header ++ ['\n'])) := by
    have hfree : ¬ HeaderBlock.encodingName.map Char.toLower <:+:
        ('\n' :: (kind.header ++ ['\n'])).map Char.toLower := by
      rw [← contains_iff]
      cases kind <;> decide +kernel
    refine clearBy_of_getLast? (c := '\n') hfree ?_ (by decide +kernel)
    rw [← List.cons_append, List.getLast?_concat]
  have hname : "Content-Transfer-Encoding".toList.map Char.toLower =
      HeaderBlock.encodingName.map Char.toLower := by decide +kernel
  have hpart : Draft.part ⟨kind, .base64 text payload spells⟩ =
      '\n' :: (kind.header ++ ['\n']) ++ "Content-Transfer-Encoding".toList ++
        (": base64".toList ++ '\n' :: ('\n' :: payload ++ ['\n'])) := by
    simp [part, written, headers, Content.encodingHeader_base64, Content.payload]
  -- the first mention of the encoding is the one in the header block
  have hcut : cutAnyCase? HeaderBlock.encodingName
      (Draft.part ⟨kind, .base64 text payload spells⟩) =
        some ('\n' :: (kind.header ++ ['\n']),
          ": base64".toList ++ '\n' :: ('\n' :: payload ++ ['\n'])) := by
    rw [hpart]
    exact cutBy?_of_clearBy hclear (by decide +kernel) hname _
  have hvalue : HeaderBlock.transferEncoding? (Draft.part ⟨kind, .base64 text payload spells⟩) =
      some "base64".toList := by
    rw [HeaderBlock.transferEncoding?_eq, hcut]
    rfl
  rw [TransferEncoding.detect, hvalue]
  rfl

/-- White space does not count in base64, so a folded payload spells its text. -/
theorem base64Text?_trim {text payload : Text}
    (spells : payload.filter (!isBlank ·) = Base64.encode (toUtf8 text)) :
    base64Text? (trim payload) = some text := by
  rw [base64Text?, filter_trim, spells, Base64.dropEndWhile_encode, Base64.ofDigits?_digits,
    Option.map_some, ofUtf8_toUtf8]

/-- A text that is taken for base64 though it is written as it stands names the transfer
encoding itself, and so holds a dash. -/
theorem dash_mem_of_detect {kind : Kind} {text : Text}
    (h : TransferEncoding.detect (Draft.part ⟨kind, .verbatim text⟩) = .base64) : '-' ∈ text := by
  have hdeclared : ∃ value,
      HeaderBlock.transferEncoding? (Draft.part ⟨kind, .verbatim text⟩) = some value := by
    rw [← Option.isSome_iff_exists, ← Option.ne_none_iff_isSome]
    intro hnone
    rw [TransferEncoding.detect, hnone] at h
    exact nomatch h
  obtain ⟨value, hvalue⟩ := hdeclared
  have hname := HeaderBlock.infix_toLower_of_transferEncoding? hvalue
  have hmap : (Draft.part ⟨kind, .verbatim text⟩).map Char.toLower =
      '\n' :: ((kind.header.map Char.toLower ++ '\n' :: ([] ++ '\n' :: text.map Char.toLower))
        ++ ['\n']) := by
    simp [part, written, headers, Content.encodingHeader_verbatim, Content.payload]
  have hline : ¬ HeaderBlock.encodingName <:+: kind.header.map Char.toLower := by
    rw [← contains_iff]
    cases kind <;> decide +kernel
  -- the name stands in one line, and that is not the header line
  have hnewline : '\n' ∉ HeaderBlock.encodingName := by decide
  rw [hmap, infix_cons_append_iff (by decide) hnewline, infix_append_cons_iff hnewline,
    infix_append_cons_iff hnewline, List.infix_nil] at hname
  rcases hname with hname | hname | hname
  · exact absurd hname hline
  · exact absurd hname (by decide)
  · exact HeaderBlock.dash_mem_of_infix_toLower hname

/-- A text with a dash is not in base64. -/
theorem base64Text?_eq_none {text : Text} (h : '-' ∈ text) : base64Text? (trim text) = none := by
  have hfilter : '-' ∈ text.filter (!isBlank ·) := List.mem_filter.2 ⟨h, by decide⟩
  obtain ⟨b, hb, heq⟩ := exists_eq_dropEndWhile_append (· == '=') (text.filter (!isBlank ·))
  rw [heq] at hfilter
  rw [base64Text?, filter_trim]
  -- the dash is not cut off with the padding
  rcases List.mem_append.1 hfilter with hmem | hmem
  · rw [Base64.ofDigits?_eq_none_of_mem hmem Base64.not_isDigit_dash, Option.map_none]
  · exact absurd (hb '-' hmem) (by decide)

/-- A written leaf is read back with its text. -/
theorem text_leaf (d : Draft) : d.leaf.text = d.content.shown := by
  obtain ⟨kind, content⟩ := d
  cases content with
  | base64 text payload spells =>
    rw [Leaf.text, leaf, detect_base64]
    simp only [Content.payload, base64Text?_trim spells, Option.getD_some, Content.shown]
  | verbatim text =>
    rw [Leaf.text, leaf]
    split
    · rfl
    · next h =>
      -- taken for base64, the text still stands for itself
      simp only [Content.payload, base64Text?_eq_none (dash_mem_of_detect h), Option.getD_none,
        Content.shown]

end Draft

end Mailroom.Mime
