import Mailroom.Proofs.Mime.Segment
import Mailroom.Proofs.Text.LineBreaks

/-!
# Line breaks of bodies

A body with LF line breaks and the same body with CR LF are extracted alike.  Both are taken
apart at the same places: the boundary is found in both, a boundary that a body declares over
several lines with the line breaks of that body, and the parts, their headers, kinds and
encodings are the same but for line breaks.  A payload in base64 gives the same text, and what
is written as it stands keeps its line breaks in HTML and loses the difference in the layout of
plain text.

A boundary from a header may hold a CR.  It then delimits nothing in either body, because a CR
of the body is followed by a LF.

## Key results

* `find?_toCrlf`         the boundary that a text declares
* `parts_toCrlf`         the parts of a body
* `strip_toCrlf`         what is left without the header block
* `leaves?_toCrlf`       the leaves of a container
* `extract_toCrlf`       the extraction of a body
-/

namespace Mailroom.Mime

open Text

namespace Boundary

/-! ## Boundaries -/

/-- The token of the changed text, which a CR may follow. -/
theorem exists_token_toCrlf (t : Text) :
    ∃ b, isBlankText b = true ∧ token (toCrlf t) = toCrlf (token t) ++ b := by
  cases t with
  | nil => exact ⟨[], rfl, rfl⟩
  | cons c t =>
    by_cases hc : c = '\n'
    · subst hc
      exact ⟨[], rfl, rfl⟩
    · rw [toCrlf_cons hc, token, token]
      split
      · next hquote =>
        have hcr : '\r' ∉ [c] := by
          intro h
          rw [← List.mem_singleton.1 h] at hquote
          exact absurd hquote (by decide)
        rw [cut?_toCrlf (by simp) hcr (by simpa using Ne.symm hc)]
        -- a quote that is not closed leaves the first line
        cases cut? [c] t with
        | some sides => exact ⟨[], rfl, (List.append_nil _).symm⟩
        | none =>
          obtain ⟨b, hb, hfirst⟩ := exists_firstLine_toCrlf t
          exact ⟨b, hb, by simpa [toCrlf_eq_self (newline_not_mem_firstLine t)] using hfirst⟩
      · -- a bare token ends before white space
        have hbare : '\n' ∉ (c :: t).takeWhile fun c => !(c == ';' || isBlank c) :=
          fun h => absurd (List.all_eq_true.1 List.all_takeWhile '\n' h) (by decide)
        have htake := takeWhile_toCrlf (p := fun c => !(c == ';' || isBlank c)) (by decide)
          (by decide) (c :: t)
        refine ⟨[], rfl, ?_⟩
        rw [List.append_nil, toCrlf_eq_self hbare, ← htake, toCrlf_cons hc]

/-- The token of a boundary parameter is the token, its line breaks changed. -/
theorem unquote_token_toCrlf (t : Text) :
    unquote (token (toCrlf t)) = toCrlf (unquote (token t)) := by
  obtain ⟨b, hb, h⟩ := exists_token_toCrlf t
  rw [h, unquote_append_blank hb, unquote_toCrlf]

/-- What one mention of `boundary` declares depends on the line breaks no further. -/
theorem declared?_toCrlf (t : Text) : declared? (toCrlf t) = (declared? t).map toCrlf := by
  rw [declared?, declared?, trimStart_toCrlf, after?_toCrlf (by decide) (by decide)]
  cases after? ['='] (trimStart t) with
  | none => rfl
  | some value =>
    simp only [Option.map_some, Option.bind_some, trimStart_toCrlf, unquote_token_toCrlf,
      isEmpty_toCrlf]
    split <;> rfl

/-- The boundary that a text declares. -/
theorem find?_toCrlf (t : Text) : find? (toCrlf t) = (find? t).map toCrlf := by
  have hword := cutAnyCase?_toCrlf (show "boundary".toList ≠ [] by decide) (by decide) (by decide)
  fun_induction find? t with
  | case1 t hcut =>
    -- the next mention of the word is at the same place, and each decides alike
    have hcut' := hword t
    rw [hcut] at hcut'
    rw [find?_eq_none hcut']
    rfl
  | case2 t left rest hcut ih =>
    have hcut' := hword t
    rw [hcut] at hcut'
    rw [find?_eq_or hcut', declared?_toCrlf, ih]
    cases declared? rest <;> rfl

/-! ## Parts -/

/-- The delimiter of a boundary with its line breaks changed. -/
theorem delimiter_toCrlf (boundary : Text) :
    delimiter (toCrlf boundary) = toCrlf (delimiter boundary) := rfl

/-- The parts of a body, when the boundary has changed with it. -/
theorem parts_toCrlf {boundary body : Text} (hboundary : '\r' ∉ boundary) (hbody : '\r' ∉ body) :
    parts (toCrlf boundary) (toCrlf body) = (parts boundary body).map toCrlf := by
  -- a delimiter without a line break is found at the same places
  have hdelimiter : '\r' ∉ delimiter boundary := by simpa [delimiter] using hboundary
  have hstart : (fun p => !startsWith ['-', '-'] p) ∘ toCrlf = fun p => !startsWith ['-', '-'] p :=
    funext fun p => congrArg not (startsWith_toCrlf (by decide) (by decide) p)
  have hblank : (fun p => !isBlankText p) ∘ toCrlf = fun p => !isBlankText p :=
    funext fun p => congrArg not (isBlankText_toCrlf p)
  rw [parts, parts, isEmpty_toCrlf]
  split
  · rfl
  · rw [delimiter_toCrlf, splitOn_toCrlf hdelimiter hbody, ← List.map_drop, List.takeWhile_map,
      hstart, List.filter_map, hblank]

/-- A body in which the delimiter does not occur has no parts. -/
theorem parts_eq_nil {boundary body : Text} (h : ¬ delimiter boundary <:+: body) :
    parts boundary body = [] := by
  have hcut : cut? (delimiter boundary) body = none := by
    rw [← contains_iff, contains, Bool.not_eq_true, Option.isSome_eq_false_iff,
      Option.isNone_iff_eq_none] at h
    exact h
  rw [parts, splitOn_eq_of_cut?_eq_none hcut]
  split <;> rfl

/-- The parts of a body, when the boundary comes from elsewhere and has no line breaks. -/
theorem parts_toCrlf_of_trimmed {boundary body : Text} (htrim : trim boundary = boundary)
    (hlf : '\n' ∉ boundary) (hbody : '\r' ∉ body) :
    parts boundary (toCrlf body) = (parts boundary body).map toCrlf := by
  by_cases hcr : '\r' ∈ boundary
  · -- the CR would stand before a LF, which the boundary does not hold
    obtain ⟨s, u, hsu⟩ := List.append_of_mem hcr
    cases u with
    | nil =>
      have hlast : (trim boundary).getLast? = some '\r' := by
        rw [htrim, hsu, List.getLast?_append]
        rfl
      exact absurd (not_isBlank_of_getLast?_trim hlast) (by decide)
    | cons c u =>
      have hpair : ['\r', c] <:+: delimiter boundary :=
        ⟨'-' :: '-' :: s, u, by simp [delimiter, hsu]⟩
      have hc : c ≠ '\n' := by
        rintro rfl
        exact hlf (hsu ▸ by simp)
      rw [parts_eq_nil fun h => hc (eq_newline_of_infix_toCrlf hbody (hpair.trans h)),
        parts_eq_nil fun h => hbody (h.subset (hpair.subset (by simp)))]
      rfl
  · have h := parts_toCrlf hcr hbody
    rwa [toCrlf_eq_self hlf] at h

end Boundary

namespace HeaderBlock

/-! ## Header blocks -/

/-- A CR at the end of a line is white space. -/
theorem trimEnd_append_cr (line : Text) : trimEnd (line ++ ['\r']) = trimEnd line :=
  trimEnd_append_blank (by decide) line

/-- A CR at the end does not change whether a header goes on in the next line. -/
theorem isOpen_append_cr (line : Text) : isOpen (line ++ ['\r']) = isOpen line := by
  rw [isOpen, trimEnd_append_cr, isOpen]

/-- A CR at the end does not change whether a line continues a header. -/
theorem isContinuation_append_cr (line : Text) :
    isContinuation (line ++ ['\r']) = isContinuation line := by
  have hstart {lead : Text} (hlead : '\r' ∉ lead) :
      startsWith lead (line ++ ['\r']) = startsWith lead line := by
    rw [Bool.eq_iff_iff, startsWith_iff, startsWith_iff]
    exact prefix_append_cons_iff hlead
  rw [isContinuation, hstart (by decide), hstart (by decide), isContinuation]

/-- The lines after the header block. -/
theorem dropFrom_crlfLines (folding : Bool) (ls : List Text) :
    dropFrom folding (crlfLines ls) = crlfLines (dropFrom folding ls) := by
  induction ls generalizing folding with
  | nil => rfl
  | cons l ls ih =>
    by_cases hls : ls = []
    · subst hls
      rw [crlfLines, dropFrom]
      split <;> rfl
    · -- no test on a line sees a CR at its end
      rw [crlfLines_cons hls, dropFrom, dropFrom, trimEnd_append_cr, isOpen_append_cr,
        isContinuation_append_cr]
      split
      · exact ih _
      · exact (crlfLines_cons hls l).symm

/-- What is left without the header block. -/
theorem strip_toCrlf (part : Text) : strip (toCrlf part) = toCrlf (strip part) := by
  have hlines : ∀ l ∈ dropFrom false (lines (trim part)), '\n' ∉ l := by
    intro l hl
    exact newline_not_mem_of_mem_lines ((dropFrom_suffix false _).subset hl)
  rw [strip, trim_toCrlf, lines_toCrlf, dropFrom_crlfLines, unlines_crlfLines hlines, trim_toCrlf,
    strip]

/-- The transfer encoding that a part declares. -/
theorem transferEncoding?_toCrlf (part : Text) :
    transferEncoding? (toCrlf part) = transferEncoding? part := by
  rw [transferEncoding?_eq, transferEncoding?_eq,
    cutAnyCase?_toCrlf (by decide) (by decide) (by decide)]
  -- what is read behind the name is one line, trimmed of the CR
  cases cutAnyCase? encodingName part with
  | none => rfl
  | some sides =>
    obtain ⟨left, rest⟩ := sides
    simp only [Option.map_some, Option.bind_some]
    rw [dropWhile_toCrlf (by decide), after?_toCrlf (by decide) (by decide)]
    cases after? [':'] (rest.dropWhile fun c => c == ' ' || c == '\t') with
    | none => rfl
    | some value => simp only [Option.map_some, Option.bind_some, trim_firstLine_toCrlf]

end HeaderBlock

/-! ## Leaves -/

/-- The kind of a part is read off words without a line break. -/
theorem sniffKind_toCrlf (part : Text) : sniffKind (toCrlf part) = sniffKind part := by
  rw [sniffKind, contains_toCrlf (by decide) (by decide) (by decide),
    contains_toCrlf (by decide) (by decide) (by decide), sniffKind]

/-- The words that announce an alternative hold no line break either. -/
theorem sniffAlternative_toCrlf (part : Text) :
    sniffAlternative (toCrlf part) = sniffAlternative part :=
  contains_toCrlf (by decide) (by decide) (by decide) part

/-- The leaf with CR LF line breaks in its content. -/
def Leaf.toCrlf (l : Leaf) : Leaf := ⟨l.kind, l.encoding, Text.toCrlf l.raw⟩

/-- A part gives the same leaf, the line breaks of its raw text changed. -/
theorem parse?_toCrlf (part : Text) :
    Leaf.parse? (toCrlf part) = (Leaf.parse? part).map Leaf.toCrlf := by
  rw [Leaf.parse?, Leaf.parse?, sniffKind_toCrlf, Option.map_map, TransferEncoding.detect,
    HeaderBlock.transferEncoding?_toCrlf, HeaderBlock.strip_toCrlf]
  rfl

/-- The decoder drops all white space first, so it does not see the line breaks. -/
theorem base64Text?_toCrlf (raw : Text) : base64Text? (toCrlf raw) = base64Text? raw := by
  rw [base64Text?, filter_toCrlf (by decide) (by decide), base64Text?]

/-- The text of a leaf is the same but for line breaks. -/
theorem ofCrlf_text_toCrlf {l : Leaf} (hraw : '\r' ∉ l.raw) :
    ofCrlf l.toCrlf.text = ofCrlf l.text := by
  have hcontent : ofCrlf (toCrlf l.raw) = ofCrlf l.raw := by
    rw [ofCrlf_toCrlf hraw, ofCrlf_eq_self hraw]
  rw [Leaf.text, Leaf.text, Leaf.toCrlf]
  -- base64 gives one text for both, and what stands for itself differs in line breaks
  cases l.encoding with
  | none => exact hcontent
  | base64 =>
    simp only [base64Text?_toCrlf]
    cases base64Text? l.raw with
    | none => exact hcontent
    | some t => rfl

/-! ## The leaves of a container -/

/-- One boundary divides the changed body where another one divides the body. -/
def DividesAlike (boundary boundary' : Option Text) (body : Text) : Prop :=
  segments? boundary' (toCrlf body) = (segments? boundary body).map (·.map toCrlf)

/-- A boundary that stands in the body changes with it. -/
theorem dividesAlike_of_body {boundary : Option Text} {body : Text}
    (hboundary : ∀ b, boundary = some b → '\r' ∉ b) (hbody : '\r' ∉ body) :
    DividesAlike boundary (boundary.map toCrlf) body := by
  cases boundary with
  | none => rfl
  | some b =>
    rw [DividesAlike, segments?, segments?, Option.map_some, Option.map_some, Option.map_some,
      Boundary.parts_toCrlf (hboundary b rfl) hbody]
    cases Boundary.parts b body <;> rfl

/-- A boundary that stands in a header stays as it is. -/
theorem dividesAlike_of_header {boundary : Option Text} {header body : Text}
    (hboundary : ∀ b, boundary = some b → IsValueOf b header) (hheader : '\n' ∉ header)
    (hbody : '\r' ∉ body) : DividesAlike boundary boundary body := by
  cases boundary with
  | none => rfl
  | some b =>
    obtain ⟨hpiece, htrim⟩ := hboundary b rfl
    have hlf : '\n' ∉ b := fun h => hheader (hpiece.subset h)
    rw [DividesAlike, segments?, segments?, Option.map_some, Option.map_some,
      Boundary.parts_toCrlf_of_trimmed htrim hlf hbody]
    cases Boundary.parts b body <;> rfl

/-- The leaves of a list of parts, one by one. -/
theorem filterMap_parse?_toCrlf (ps : List Text) :
    (ps.map toCrlf).filterMap Leaf.parse? = (ps.filterMap Leaf.parse?).map Leaf.toCrlf := by
  have hparse : Leaf.parse? ∘ toCrlf = fun p => (Leaf.parse? p).map Leaf.toCrlf :=
    funext parse?_toCrlf
  rw [List.filterMap_map, hparse, List.map_filterMap]

/-- The leaves of alternatives in a part. -/
theorem nestedLeaves_toCrlf {segment : Text} (h : '\r' ∉ segment) :
    nestedLeaves (toCrlf segment) = (nestedLeaves segment).map Leaf.toCrlf := by
  -- the boundary and what is left of the part are pieces of it
  have hboundary : ∀ b, Boundary.find? segment = some b → '\r' ∉ b := by
    intro b hb hcr
    exact h ((Boundary.isValueOf_of_find? hb).piece.subset hcr)
  have hstrip : '\r' ∉ HeaderBlock.strip segment := by
    intro hcr
    exact h ((HeaderBlock.infix_strip segment).subset hcr)
  have hdivides := dividesAlike_of_body hboundary hstrip
  rw [DividesAlike] at hdivides
  rw [nestedLeaves, Boundary.find?_toCrlf, HeaderBlock.strip_toCrlf, hdivides, nestedLeaves,
    ← filterMap_parse?_toCrlf]
  cases segments? (Boundary.find? segment) (HeaderBlock.strip segment) <;> rfl

/-- The leaves that a part contributes. -/
theorem segmentLeaves_toCrlf (container : Container) {segment : Text} (h : '\r' ∉ segment) :
    segmentLeaves container (toCrlf segment) =
      (segmentLeaves container segment).map Leaf.toCrlf := by
  rw [segmentLeaves, sniffAlternative_toCrlf, segmentLeaves]
  split
  · exact nestedLeaves_toCrlf h
  · rw [parse?_toCrlf]
    cases Leaf.parse? segment <;> rfl

/-- The leaves of a container. -/
theorem leaves?_toCrlf (container : Container) {boundary boundary' : Option Text} {body : Text}
    (hdivides : DividesAlike boundary boundary' body) (hbody : '\r' ∉ body) :
    leaves? container boundary' (toCrlf body) =
      (leaves? container boundary body).map (·.map Leaf.toCrlf) := by
  rw [DividesAlike] at hdivides
  rw [leaves?, leaves?, hdivides]
  cases hs : segments? boundary body with
  | none => rfl
  | some segments =>
    obtain ⟨b, -, rfl, -⟩ := segments?_eq_some_iff.1 hs
    have hread : ((Boundary.parts b body).map toCrlf).flatMap (segmentLeaves container) =
        ((Boundary.parts b body).flatMap (segmentLeaves container)).map Leaf.toCrlf := by
      rw [List.flatMap_map, List.map_flatMap, List.flatMap_def, List.flatMap_def]
      -- a part of the body holds no CR, being an infix of it
      refine congrArg _ (List.map_congr_left fun p hp => segmentLeaves_toCrlf container ?_)
      exact fun h => hbody ((Boundary.infix_of_mem_parts hp).subset h)
    simp only [Option.map_some, hread]

/-! ## Extraction -/

/-- The layout of plain text does not tell the line breaks apart. -/
theorem plain_congr (layout : Plain.Layout) {s t : Text} (h : ofCrlf s = ofCrlf t) :
    layout.plain s = layout.plain t := by
  rw [Plain.Layout.plain, Plain.Layout.plain, Plain.stripMarkup, Plain.stripMarkup,
    normalizeBreaks_congr h]

/-- The last text of a kind is the same but for line breaks. -/
theorem map_ofCrlf_lastText? (kind : Kind) {ls : List Leaf} (h : ∀ l ∈ ls, '\r' ∉ l.raw) :
    (lastText? kind (ls.map Leaf.toCrlf)).map ofCrlf = (lastText? kind ls).map ofCrlf := by
  have hkind : (fun l : Leaf => l.kind == kind) ∘ Leaf.toCrlf = fun l => l.kind == kind := rfl
  -- the same leaf is the last one of its kind
  rw [lastText?, lastText?, ← List.map_reverse, List.find?_map, hkind, Option.map_map,
    Option.map_map, Option.map_map]
  cases hl : ls.reverse.find? fun l => l.kind == kind with
  | none => rfl
  | some l =>
    have hmem : l ∈ ls := List.mem_reverse.1 (List.mem_of_find?_eq_some hl)
    exact congrArg some (ofCrlf_text_toCrlf (h l hmem))

/-- Two extractions are the same but for the line breaks of HTML. -/
structure Extraction.Agree (e e' : Extraction) : Prop where
  plain : e.plain = e'.plain
  html : e.html.map ofCrlf = e'.html.map ofCrlf
  warnings : e.warnings = e'.warnings

/-- The body of a container. -/
theorem extractContainer_toCrlf (layout : Plain.Layout) (container : Container)
    {boundary boundary' : Option Text} {body : Text}
    (hdivides : DividesAlike boundary boundary' body) (hbody : '\r' ∉ body) :
    Extraction.Agree (extractContainer layout container boundary' (toCrlf body))
      (extractContainer layout container boundary body) := by
  rw [extractContainer, extractContainer, leaves?_toCrlf container hdivides hbody]
  cases hl : leaves? container boundary body with
  | none =>
    -- both bodies are shown whole
    have hplain : layout.plain (toCrlf body) = layout.plain body :=
      plain_congr layout (by rw [ofCrlf_toCrlf hbody, ofCrlf_eq_self hbody])
    exact ⟨congrArg some hplain, rfl, rfl⟩
  | some ls =>
    have hraw : ∀ l ∈ ls, '\r' ∉ l.raw := by
      intro l hmem h
      exact hbody ((infix_raw_of_leaves? hl hmem).subset h)
    have hlast (kind : Kind) := map_ofCrlf_lastText? kind hraw
    refine ⟨?_, hlast .html, rfl⟩
    -- equal but for line breaks, so laid out alike
    have hplain := hlast .plain
    show (lastText? .plain (ls.map Leaf.toCrlf)).map layout.plain =
      (lastText? .plain ls).map layout.plain
    cases hs : lastText? .plain (ls.map Leaf.toCrlf) with
    | none =>
      rw [hs, Option.map_none, eq_comm, Option.map_eq_none_iff] at hplain
      rw [hplain]
    | some s =>
      rw [hs, Option.map_some, eq_comm, Option.map_eq_some_iff] at hplain
      obtain ⟨t, ht, hst⟩ := hplain
      rw [ht, Option.map_some, Option.map_some, plain_congr layout hst]

/-- The boundaries of a container divide a body and the changed body alike. -/
theorem dividesAlike_containerBoundary? (container : Container) {header body : Text}
    (hheader : '\n' ∉ header) (hbody : '\r' ∉ body) :
    DividesAlike (containerBoundary? container header body)
      (containerBoundary? container header (toCrlf body)) body := by
  rw [containerBoundary?.eq_def, containerBoundary?.eq_def]
  cases hb : (ContentType.parse header).boundary? with
  | some b =>
    rw [Option.some_or, Option.some_or]
    refine dividesAlike_of_header (fun b' hb' => ?_) hheader hbody
    exact ContentType.isValueOf_of_boundary? (hb.trans hb')
  | none =>
    rw [Option.none_or, Option.none_or]
    cases container with
    | alternative =>
      simp only [Boundary.find?_toCrlf]
      -- it stands in the body, so its line breaks change with those of the body
      refine dividesAlike_of_body (fun b hb hcr => ?_) hbody
      exact hbody ((Boundary.isValueOf_of_find? hb).piece.subset hcr)
    | mixed =>
      exact dividesAlike_of_header (fun b hb => Boundary.isValueOf_of_find? hb) hheader hbody

/-- A body with CR LF line breaks is extracted like the same body with LF, under any header
but that of HTML, whose text is shown as plain text with the line breaks it has. -/
theorem extract_toCrlf (layout : Plain.Layout) {header body : Text} (hheader : '\n' ∉ header)
    (htype : (ContentType.parse header).mediaType ≠ .text .html) (hbody : '\r' ∉ body) :
    Extraction.Agree (extract layout header (toCrlf body)) (extract layout header body) := by
  have hplain : layout.plain (toCrlf body) = layout.plain body :=
    plain_congr layout (by rw [ofCrlf_toCrlf hbody, ofCrlf_eq_self hbody])
  rw [extract, extract]
  split
  · exact ⟨congrArg some hplain, rfl, rfl⟩
  · next h => exact absurd h htype
  · exact extractContainer_toCrlf layout _ (dividesAlike_containerBoundary? _ hheader hbody) hbody
  · exact ⟨congrArg some hplain, rfl, rfl⟩

/-- HTML of two lines between delimiters that go over two lines themselves. -/
def foldedBody : Text :=
  "boundary=\"a\nb\"\n--a\nb\nContent-Type: text/html\n\n<p>\n</p>\n--a\nb--".toList

/-- The HTML has the line breaks of its body. -/
theorem extract_toCrlf_folded :
    Extraction.Agree (extract {} "multipart/alternative".toList (toCrlf foldedBody))
        (extract {} "multipart/alternative".toList foldedBody) ∧
      (extract {} "multipart/alternative".toList (toCrlf foldedBody)).html =
        some "<p>\r\n</p>".toList :=
  ⟨extract_toCrlf {} (by decide +kernel) (by decide +kernel) (by decide +kernel),
    by decide +kernel⟩

end Mailroom.Mime
