import Mailroom.Proofs.Mime.Leaf
import Mailroom.Proofs.Mime.TransferEncoding

/-!
# Headers in another letter case

The names of headers and the name of an encoding are compared in any ASCII case, so a part whose
header block is written in another case declares the same encoding and leaves the same text.  The
kind of a part is sniffed from media types as they are spelled, so it can change: a part stays the
leaf that it is exactly when the text settles the kind or the block goes on to spell it.

## Key results

* `isHeader_congr`             a line stays a header
* `dropFrom_append_congr`      a block of lines is dropped in any case
* `detect_congr`               the declared encoding is compared in any case
* `strip_congr`                what is left of a part does not depend on the case of its headers
* `parse?_congr_iff`           when a part stays the leaf that it is
* `not_parse?_congr_capitals`  a media type in capitals is not sniffed
-/

namespace Mailroom.Mime

open Text

namespace HeaderBlock

/-- The part with the given header block, after white space `a` and before the text `rest`. -/
def headed (a headers rest : Text) : Text := a ++ (headers ++ '\n' :: rest)

/-! ## The lines of a block -/

/-- Whether a line is a header can be read from its lower-case form. -/
theorem isHeader_eq_any (line : Text) : isHeader line = knownNames.any fun name =>
    (after? (name.map Char.toLower) (line.map Char.toLower)).bind List.head? == some ':' := by
  refine congrArg knownNames.any (funext fun name => ?_)
  have hafter : afterAnyCase? name line = afterBy? (sameBy Char.toLower) name line := rfl
  rw [afterBy?_map, hafter]
  cases afterBy? (sameBy Char.toLower) name line with
  | none => rfl
  | some rest =>
    -- a colon follows the name in the line when one follows it in the lower-case form
    cases rest with
    | nil => rfl
    | cons c rest => exact (toLower_beq (d := ':') (by decide) c).symm

/-- A header is one in any case. -/
theorem isHeader_congr {line line' : Text} (h : line.map Char.toLower = line'.map Char.toLower) :
    isHeader line = isHeader line' := by
  rw [isHeader_eq_any, h, isHeader_eq_any]

/-- Whether a header goes on in the next line has nothing to do with letter case. -/
theorem isOpen_map_toLower (line : Text) : isOpen (line.map Char.toLower) = isOpen line := by
  rw [isOpen, trimEnd_map_toLower, List.getLast?_map, isOpen]
  cases (trimEnd line).getLast? with
  | none => rfl
  | some c => exact toLower_beq (d := ';') (by decide) c

/-- Nor has whether a line continues one. -/
theorem isContinuation_map_toLower (line : Text) :
    isContinuation (line.map Char.toLower) = isContinuation line := by
  have hstart {lead : Text} (hlead : lead.all (!Char.isAlpha ·) = true) :
      startsWith lead (line.map Char.toLower) = startsWith lead line := by
    have hall : ∀ c ∈ lead, c.isAlpha = false := by simpa using hlead
    rw [Bool.eq_iff_iff, startsWith_iff, startsWith_iff, prefix_map_toLower_iff hall]
  rw [isContinuation, hstart (by decide), hstart (by decide), isContinuation]

/-- Lines that are dropped as a whole are dropped in any case. -/
theorem dropFrom_append_congr {ls ls' : List Text}
    (hcase : ls.map (·.map Char.toLower) = ls'.map (·.map Char.toLower)) {folding : Bool}
    (hdrop : dropFrom folding ls = []) (rest : List Text) :
    dropFrom folding (ls ++ rest) = dropFrom folding (ls' ++ rest) := by
  induction ls generalizing ls' folding with
  | nil =>
    rw [List.map_nil, eq_comm, List.map_eq_nil_iff] at hcase
    rw [hcase]
  | cons line ls ih =>
    cases ls' with
    | nil => exact absurd hcase (List.cons_ne_nil _ _)
    | cons line' ls' =>
      rw [List.map_cons, List.map_cons, List.cons.injEq] at hcase
      obtain ⟨hline, hls⟩ := hcase
      -- both lines are read alike, so both are dropped
      have hheader : isHeader (trimEnd line) = isHeader (trimEnd line') := by
        rw [isHeader_trimEnd, isHeader_trimEnd, isHeader_congr hline]
      have hopen : isOpen line = isOpen line' := by
        rw [← isOpen_map_toLower line, hline, isOpen_map_toLower]
      have hcontinuation : isContinuation line = isContinuation line' := by
        rw [← isContinuation_map_toLower line, hline, isContinuation_map_toLower]
      rw [dropFrom] at hdrop
      rw [List.cons_append, List.cons_append, dropFrom, dropFrom, ← hheader, ← hopen,
        ← hcontinuation]
      split at hdrop
      · next h => rw [if_pos h, if_pos h, ih hls hdrop]
      · exact absurd hdrop (List.cons_ne_nil _ _)

/-- A header starts with the first letter of the known names. -/
theorem head?_of_isHeaderLine {line : Text} (h : IsHeaderLine line) :
    (line.map Char.toLower).head? = some 'c' := by
  have hnames : ∀ name ∈ knownNames, (name.map Char.toLower).head? = some 'c' := by decide +kernel
  obtain @⟨name, spelling, rest, hname, hspelling⟩ := h
  rw [List.map_append, beq_iff_eq.1 hspelling, List.head?_append, hnames name hname, Option.some_or]

/-- A header block starts with a letter, so nothing is trimmed off its start. -/
theorem trimStart_append_headers {headers : Text} (h : (headers.map Char.toLower).head? = some 'c')
    {a : Text} (ha : isBlankText a = true) (rest : Text) :
    trimStart (a ++ (headers ++ rest)) = headers ++ rest := by
  rw [trimStart_append_blank ha]
  refine trimStart_eq_self fun c hc => ?_
  cases headers with
  | nil => exact nomatch h
  | cons d headers =>
    rw [List.cons_append, List.head?_cons, Option.some.injEq] at hc
    rw [List.map_cons, List.head?_cons, Option.some.injEq, hc] at h
    rw [← isBlank_toLower, h]
    decide

/-- What is left of a part does not depend on the case of its headers. -/
theorem strip_congr {headers headers' a : Text} (hheaders : IsHeaders (lines headers))
    (hcase : headers.map Char.toLower = headers'.map Char.toLower) (ha : isBlankText a = true)
    (rest : Text) :
    strip (headed a headers rest) = strip (headed a headers' rest) := by
  have hhead := head?_of_isHeaderLine (isHeaderLine_of_isHeaders hheaders)
  have hlines : (lines headers).map (·.map Char.toLower) =
      (lines headers').map (·.map Char.toLower) := by
    rw [← lines_map_toLower, hcase, lines_map_toLower]
  -- both blocks are dropped to their ends, and the lines behind them go on alike
  rw [strip_eq_trim_dropFrom, strip_eq_trim_dropFrom, headed, headed,
    trimStart_append_headers hhead ha, trimStart_append_headers (hcase ▸ hhead) ha, lines_append,
    lines_append, dropFrom_append_congr hlines (isHeaders_iff.1 hheaders)]

/-! ## The transfer encoding -/

/-- The encoding in a value keeps its letter case, whatever that is. -/
theorem encodingIn?_map_toLower (value : Text) :
    encodingIn? (value.map Char.toLower) = (encodingIn? value).map (·.map Char.toLower) := by
  have hsemicolon : ∀ c : Char, (c.toLower == ';') = (c == ';') := toLower_beq (by decide)
  rw [encodingIn?, trim_map_toLower, dropEndWhile_map_toLower hsemicolon, trim_map_toLower,
    encodingIn?]
  simp only [List.isEmpty_map]
  split <;> rfl

/-- So does a declared encoding: colons, white space and semicolons have no letter case. -/
theorem declaration?_map_toLower (rest : Text) :
    declaration? (rest.map Char.toLower) = (declaration? rest).map (·.map Char.toLower) := by
  -- none of the characters that are looked for is a letter
  have hindent : ∀ c : Char, (c.toLower == ' ' || c.toLower == '\t') = (c == ' ' || c == '\t') := by
    intro c
    rw [toLower_beq (by decide), toLower_beq (by decide)]
  have hafter (t : Text) :
      after? [':'] (t.map Char.toLower) = (after? [':'] t).map (·.map Char.toLower) := by
    cases t with
    | nil => rfl
    | cons c t =>
      rw [List.map_cons, after?_singleton_cons, after?_singleton_cons, BEq.comm,
        toLower_beq (by decide), BEq.comm]
      split <;> rfl
  have hvalue : (encodingIn? ∘ fun value => value.map Char.toLower) =
      Option.map (·.map Char.toLower) ∘ encodingIn? := by
    funext value
    rw [Function.comp_apply, encodingIn?_map_toLower, Function.comp_apply]
  rw [declaration?, dropWhile_map_toLower hindent, hafter, Option.bind_map, hvalue, declaration?,
    Option.map_bind]

/-- The encoding that a part declares, in lower case, is read from the part in lower case. -/
theorem map_transferEncoding? (part : Text) :
    (transferEncoding? part).map (·.map Char.toLower) =
      (cut? (encodingName.map Char.toLower) (part.map Char.toLower)).bind
        fun (_, rest) => declaration? (firstLine rest) := by
  rw [cutBy?_map, transferEncoding?_eq_bind, cutAnyCase?_eq_cutBy?]
  cases cutBy? (sameBy Char.toLower) encodingName part with
  | none => rfl
  | some sides =>
    show (declaration? (firstLine sides.2)).map _ =
      declaration? (firstLine (sides.2.map Char.toLower))
    rw [firstLine_map_toLower, declaration?_map_toLower]

end HeaderBlock

open HeaderBlock (headed)

/-- The encoding of a part does not depend on the case of its letters. -/
theorem TransferEncoding.detect_congr {part part' : Text}
    (hcase : part.map Char.toLower = part'.map Char.toLower) :
    TransferEncoding.detect part = TransferEncoding.detect part' := by
  -- the encoding counts in lower case only
  have hbase64 (t : Text) : TransferEncoding.detect t = .base64 ↔
      (HeaderBlock.transferEncoding? t).map (·.map Char.toLower) =
        some ("base64".toList.map Char.toLower) := by
    rw [HeaderBlock.detect_eq_base64_iff, Option.map_eq_some_iff]
    simp only [equalsAnyCase, beq_iff_eq]
  have hiff : TransferEncoding.detect part = .base64 ↔ TransferEncoding.detect part' = .base64 := by
    rw [hbase64, hbase64, HeaderBlock.map_transferEncoding?, hcase,
      ← HeaderBlock.map_transferEncoding?]
  cases h : TransferEncoding.detect part <;> cases h' : TransferEncoding.detect part' <;> simp_all

/-! ## The kind -/

/-- White space before a text does not count in what it mentions. -/
theorem infix_blank_append_iff {needle a t : Text} (hneedle : needle.all (!isBlank ·) = true)
    (hne : needle ≠ []) (ha : isBlankText a = true) : needle <:+: a ++ t ↔ needle <:+: t := by
  rw [isBlankText_iff] at ha
  induction a with
  | nil => rfl
  | cons c a ih =>
    -- no occurrence crosses the character, which is foreign to the needle
    have hc : c ∉ needle := not_mem_of_isBlank hneedle (ha c List.mem_cons_self)
    have hcons := infix_append_cons_iff (l := []) (r := a ++ t) hc
    rw [List.nil_append] at hcons
    rw [List.cons_append, hcons, List.infix_nil, ih fun d hd => ha d (List.mem_cons_of_mem c hd)]
    simp [hne]

/-- Two alternatives to `r` come to the same exactly if `r` holds or they are equivalent. -/
private theorem or_iff_or_right_iff {p q r : Prop} : (p ∨ r ↔ q ∨ r) ↔ r ∨ (p ↔ q) := by
  by_cases r <;> simp_all

/-- A part stays the leaf that it is when its headers are written in another case, exactly when
each kind is mentioned by the text or by both forms of the headers or by neither; a part that
mentions plain text is no HTML in any case. -/
theorem parse?_congr_iff {a headers headers' : Text} (ha : isBlankText a = true)
    (hheaders : HeaderBlock.IsHeaders (lines headers))
    (hcase : equalsAnyCase headers headers' = true) (rest : Text) :
    TransferEncoding.detect (headed a headers' rest) =
      TransferEncoding.detect (headed a headers rest) ∧
    HeaderBlock.strip (headed a headers' rest) = HeaderBlock.strip (headed a headers rest) ∧
    (Leaf.parse? (headed a headers' rest) = Leaf.parse? (headed a headers rest) ↔
      (Kind.plain.name <:+: rest ∨
        (Kind.plain.name <:+: headers' ↔ Kind.plain.name <:+: headers)) ∧
      (Kind.plain.name <:+: rest ∨ Kind.plain.name <:+: headers ∨ Kind.html.name <:+: rest ∨
        (Kind.html.name <:+: headers' ↔ Kind.html.name <:+: headers))) := by
  rw [equalsAnyCase, beq_iff_eq] at hcase
  have hdetect : TransferEncoding.detect (headed a headers' rest) =
      TransferEncoding.detect (headed a headers rest) :=
    TransferEncoding.detect_congr (by simp only [headed, List.map_append, hcase])
  have hstrip := (HeaderBlock.strip_congr hheaders hcase ha rest).symm
  refine ⟨hdetect, hstrip, ?_⟩
  -- a kind is mentioned in the block or behind it
  have hmention (kind : Kind) (block : Text) :
      kind.name <:+: headed a block rest ↔ kind.name <:+: block ∨ kind.name <:+: rest := by
    have hsolid : kind.name.all (!isBlank ·) = true := by cases kind <;> decide
    have hne : kind.name ≠ [] := by cases kind <;> decide
    have hnewline : '\n' ∉ kind.name := by cases kind <;> decide
    rw [headed, infix_blank_append_iff hsolid hne ha, infix_append_cons_iff hnewline]
  -- only the kind of the leaf can differ
  have hkind : Leaf.parse? (headed a headers' rest) = Leaf.parse? (headed a headers rest) ↔
      sniffKind (headed a headers' rest) = sniffKind (headed a headers rest) := by
    rw [Leaf.parse?, Leaf.parse?, hdetect, hstrip]
    exact Option.map_inj_right fun _ _ h => (Leaf.mk.inj h).1
  rw [hkind, sniffKind_eq_iff, hmention, hmention, hmention, hmention, or_iff_or_right_iff,
    or_iff_or_right_iff, or_comm (b := Kind.plain.name <:+: rest), or_assoc]

/-- A header block in the usual case. -/
def plainHeaders : Text :=
  unlines (["Content-Type: text/plain;", "\tcharset=utf-8",
    "Content-Transfer-Encoding: base64"].map String.toList)

/-- The same block in capitals, but for the media type. -/
def capitalHeaders : Text :=
  unlines (["CONTENT-TYPE: text/plain;", "\tCHARSET=UTF-8",
    "CONTENT-TRANSFER-ENCODING: BASE64"].map String.toList)

/-- Capitals in the names of headers and in the encoding make no difference. -/
theorem parse?_congr_capitalNames :
    HeaderBlock.IsHeaders (lines plainHeaders) ∧
    equalsAnyCase plainHeaders capitalHeaders = true ∧
    Leaf.parse? (headed ['\n'] capitalHeaders "\naGk=\n".toList) =
      Leaf.parse? (headed ['\n'] plainHeaders "\naGk=\n".toList) := by
  have hheaders : HeaderBlock.IsHeaders (lines plainHeaders) := by decide +kernel
  have hcase : equalsAnyCase plainHeaders capitalHeaders = true := by decide +kernel
  have hleaf := (parse?_congr_iff (a := ['\n']) (by decide) hheaders hcase "\naGk=\n".toList).2.2
  refine ⟨hheaders, hcase, hleaf.2 ?_⟩
  simp only [← contains_iff]
  decide +kernel

/-- A media type in capitals is not sniffed. -/
theorem not_parse?_congr_capitals :
    HeaderBlock.IsHeaders (lines "Content-Type: text/html".toList) ∧
    equalsAnyCase "Content-Type: text/html".toList "Content-Type: TEXT/HTML".toList = true ∧
    Leaf.parse? (headed [] "Content-Type: text/html".toList "\n<p>Hi</p>".toList) =
      some ⟨.html, .none, "<p>Hi</p>".toList⟩ ∧
    Leaf.parse? (headed [] "Content-Type: TEXT/HTML".toList "\n<p>Hi</p>".toList) = none := by
  decide +kernel

end Mailroom.Mime
