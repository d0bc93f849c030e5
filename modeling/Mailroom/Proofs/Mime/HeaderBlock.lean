import Mailroom.Mime.Leaf
import Mailroom.Proofs.Text.Lines
import Mailroom.Proofs.Text.Search
import Mailroom.Proofs.Text.Trim

/-!
# What is left without the header block

A part whose header block is closed by an empty line is left with the trimmed text after that
line, whatever that text looks like: the empty line ends the block before any look-alike of a
header.  The search for the transfer encoding does read on, so a look-alike in the text is
found there; it then holds a dash.

## Key results

* `infix_strip`    what is left is a piece of the part
* `strip_eq_trim_dropFrom`   the end of a part need not be trimmed before its headers are dropped
* `strip_append`   a header block and an empty line leave the trimmed text after them
* `dash_mem_of_infix_toLower`   a text that names the transfer encoding holds a dash
-/

namespace Mailroom.Mime.HeaderBlock

open Text

/-- What is left of the lines are the last of them. -/
theorem dropFrom_suffix (folding : Bool) (ls : List Text) : dropFrom folding ls <:+ ls := by
  fun_induction dropFrom folding ls with
  | case1 => exact List.suffix_refl _
  | case2 folding line rest h ih => exact ih.trans (List.suffix_cons line rest)
  | case3 => exact List.suffix_refl _

/-- What is left is a piece of the part. -/
theorem infix_strip (part : Text) : strip part <:+: part := by
  -- the lines that are left are the last ones of the trimmed part
  have hdrop := unlines_suffix (dropFrom_suffix false (lines (trim part)))
  rw [unlines_lines] at hdrop
  exact (infix_trim _).trans (hdrop.isInfix.trans (infix_trim part))

/-! ## White space at the end -/

/-- White space at its end does not open a line. -/
theorem isOpen_append_blank {b : Text} (hb : isBlankText b = true) (line : Text) :
    isOpen (line ++ b) = isOpen line := by
  rw [isOpen, trimEnd_append_blank hb, isOpen]

/-- White space at its end does not indent a line that holds something else. -/
theorem isContinuation_append_blank {b line : Text} {c : Char} (hc : line.getLast? = some c)
    (hsolid : isBlank c = false) : isContinuation (line ++ b) = isContinuation line := by
  have hstart {lead : Text} (hlead : isBlankText lead = true) :
      startsWith lead (line ++ b) = startsWith lead line := by
    rw [Bool.eq_iff_iff, startsWith_iff, startsWith_iff]
    refine ⟨fun h => ?_, fun h => h.trans (List.prefix_append line b)⟩
    -- a start that is longer than the line would hold its last character
    refine (List.prefix_or_prefix_of_prefix h (List.prefix_append line b)).resolve_right ?_
    intro hline
    have hmem := hline.subset (List.mem_of_getLast? hc)
    rw [isBlankText_iff.1 hlead c hmem] at hsolid
    exact nomatch hsolid
  rw [isContinuation, hstart (by decide), hstart (by decide), isContinuation]

/-- What is left of blank lines is blank. -/
theorem isBlankText_unlines_of_suffix {t : Text} {ls : List Text} (ht : isBlankText t = true)
    (h : ls <:+ lines t) : isBlankText (unlines ls) = true := by
  have hsuffix := unlines_suffix h
  rw [unlines_lines] at hsuffix
  exact isBlankText_of_subset ht hsuffix.subset

/-- White space behind a single line goes on in that line and in lines of its own, and makes no
difference to what is left. -/
theorem trim_dropFrom_line_append_blank {l b : Text} {c : Char} (hl : '\n' ∉ l)
    (hc : l.getLast? = some c) (hsolid : isBlank c = false) (hb : isBlankText b = true)
    (folding : Bool) :
    trim (unlines (dropFrom folding (lines (l ++ b)))) = trim (unlines (dropFrom folding [l])) := by
  obtain ⟨b₁, bs, hbs⟩ := List.exists_cons_of_ne_nil (lines_ne_nil b)
  have hlines : lines (l ++ b) = (l ++ b₁) :: bs := by
    rw [lines_append_of_not_mem hl, hbs, List.modifyHead_cons]
  have hb₁ : isBlankText b₁ = true := by
    have hmem : b₁ ∈ lines b := hbs ▸ List.mem_cons_self
    have hpiece : b₁ <:+: b := infix_of_mem_splitWhere hmem
    exact isBlankText_of_subset hb hpiece.subset
  rw [hlines, dropFrom, dropFrom, isContinuation_append_blank hc hsolid, trimEnd_append_blank hb₁,
    isOpen_append_blank hb₁]
  split
  · -- what is left is blank
    have hdrop : dropFrom (isOpen l) bs <:+ lines b := by
      rw [hbs]
      exact (dropFrom_suffix _ bs).trans (List.suffix_cons b₁ bs)
    rw [trim_eq_nil (isBlankText_unlines_of_suffix hb hdrop)]
    rfl
  · -- nothing is dropped
    rw [← hlines, unlines_lines, unlines_singleton]
    exact trim_append_blankEnd hb l

/-- White space at the end of a part makes no difference to what is left of it. -/
theorem trim_dropFrom_append_blank {u b : Text} {c : Char} (hc : u.getLast? = some c)
    (hsolid : isBlank c = false) (hb : isBlankText b = true) (folding : Bool) :
    trim (unlines (dropFrom folding (lines (u ++ b)))) =
      trim (unlines (dropFrom folding (lines u))) := by
  induction hlines : lines u generalizing u folding with
  | nil => exact absurd hlines (lines_ne_nil u)
  | cons l ls ih =>
    have hu : unlines (l :: ls) = u := by rw [← hlines, unlines_lines]
    have hl : '\n' ∉ l := newline_not_mem_of_mem_lines (hlines ▸ List.mem_cons_self)
    by_cases hls : ls = []
    · rw [hls, unlines_singleton] at hu
      rw [hls]
      rw [← hu] at hc ⊢
      exact trim_dropFrom_line_append_blank hl hc hsolid hb folding
    · rw [unlines_cons hls] at hu
      subst hu
      have hrest : lines (unlines ls) = ls := by
        rw [lines_append, lines_eq_singleton hl] at hlines
        exact List.cons.inj hlines |>.2
      have hlast : (unlines ls).getLast? = some c := by
        cases hrest : unlines ls with
        | nil =>
          rw [hrest, List.getLast?_concat, Option.some.injEq] at hc
          rw [← hc] at hsolid
          exact absurd hsolid (by decide)
        | cons d t =>
          rw [hrest, List.getLast?_append, List.getLast?_cons_cons] at hc
          simpa using hc
      rw [List.append_assoc, List.cons_append, lines_append, lines_eq_singleton hl,
        List.singleton_append, dropFrom, dropFrom]
      -- the line is dropped, or it stands before everything that is left
      split
      · exact ih hlast (isOpen l) hrest
      · have hall : l ++ '\n' :: (unlines ls ++ b) = l ++ '\n' :: unlines ls ++ b := by simp
        rw [unlines_cons (lines_ne_nil _), unlines_lines, unlines_cons hls, hall]
        exact trim_append_blankEnd hb _

/-- Only the start of a part has to be trimmed before its headers are dropped. -/
theorem strip_eq_trim_dropFrom (part : Text) :
    strip part = trim (unlines (dropFrom false (lines (trimStart part)))) := by
  -- what the trimming takes off the end would be trimmed off what is left
  obtain ⟨b, hb, hpart⟩ := exists_eq_dropEndWhile_append isBlank (trimStart part)
  have htrim : trim part = dropEndWhile isBlank (trimStart part) := rfl
  rw [← htrim] at hpart
  rw [strip, hpart]
  cases hlast : (trim part).getLast? with
  | none =>
    have hblank := isBlankText_iff.2 hb
    rw [List.getLast?_eq_none_iff.1 hlast, List.nil_append,
      trim_eq_nil (isBlankText_unlines_of_suffix hblank (dropFrom_suffix _ _))]
    rfl
  | some c =>
    exact (trim_dropFrom_append_blank hlast (not_isBlank_of_getLast?_trim hlast)
      (isBlankText_iff.2 hb) false).symm

/-! ## Header blocks -/

/-- Header lines that nothing continues are dropped. -/
theorem dropFrom_append {hs : List Text}
    (h : ∀ line ∈ hs, isHeader (trimEnd line) = true ∧ isOpen line = false) (rest : List Text) :
    dropFrom false (hs ++ rest) = dropFrom false rest := by
  induction hs with
  | nil => rfl
  | cons line hs ih =>
    obtain ⟨hheader, hopen⟩ := h line List.mem_cons_self
    rw [List.cons_append, dropFrom, hheader, Bool.or_true, if_pos rfl, hopen]
    exact ih fun l hl => h l (List.mem_cons_of_mem line hl)

/-- An empty line ends the header block. -/
theorem dropFrom_nil_cons (rest : List Text) : dropFrom false ([] :: rest) = [] :: rest := rfl

/-- Header lines that nothing continues, without white space around them. -/
structure IsBlock (headers : Text) : Prop where
  ne_nil : headers ≠ []
  trimmed : trim headers = headers
  closed : ∀ line ∈ lines headers, isHeader (trimEnd line) = true ∧ isOpen line = false

instance (headers : Text) : Decidable (IsBlock headers) :=
  decidable_of_iff (headers ≠ [] ∧ trim headers = headers ∧
    ∀ line ∈ lines headers, isHeader (trimEnd line) = true ∧ isOpen line = false)
    ⟨fun h => ⟨h.1, h.2.1, h.2.2⟩, fun h => ⟨h.1, h.2, h.3⟩⟩

/-- A header block and an empty line leave the trimmed text after them. -/
theorem strip_append {headers a b : Text} (ha : isBlankText a = true) (hb : isBlankText b = true)
    (hblock : IsBlock headers) (t : Text) :
    strip (a ++ (headers ++ '\n' :: '\n' :: t) ++ b) = trim t := by
  obtain ⟨hne, htrim, hclosed⟩ := hblock
  have hstart : trimStart (a ++ (headers ++ '\n' :: '\n' :: t) ++ b) =
      headers ++ '\n' :: '\n' :: (t ++ b) := by
    have hreassoc : a ++ (headers ++ '\n' :: '\n' :: t) ++ b =
        a ++ (headers ++ '\n' :: '\n' :: (t ++ b)) := by simp
    rw [hreassoc, trimStart_append_blank ha]
    refine trimStart_eq_self fun c hc => not_isBlank_of_head?_trim (t := headers) ?_
    obtain ⟨d, rest, rfl⟩ := List.exists_cons_of_ne_nil hne
    rw [htrim]
    exact hc
  -- behind the block comes an empty line, which ends it
  have hlines : lines ('\n' :: (t ++ b)) = [] :: lines (t ++ b) := lines_append [] _
  have hblank : isBlankText ['\n'] = true := by decide
  rw [strip_eq_trim_dropFrom, hstart, lines_append, dropFrom_append hclosed, hlines,
    dropFrom_nil_cons, ← hlines, unlines_lines]
  exact trim_append_blank hblank hb t

/-! ## Transfer encoding -/

/-- The name of the header that declares a transfer encoding, in lower case. -/
def encodingName : Text := "content-transfer-encoding".toList

/-- How the encoding is read, step by step. -/
theorem transferEncoding?_eq (part : Text) : transferEncoding? part =
    (cutAnyCase? encodingName part).bind fun (_, rest) =>
    (after? [':'] (rest.dropWhile fun c => c == ' ' || c == '\t')).bind fun rest =>
      let value := trim (dropEndWhile (· == ';') (trim (firstLine rest)))
      if value.isEmpty then none else some value := rfl

/-- A declaration of a transfer encoding spells the name of its header. -/
theorem infix_toLower_of_transferEncoding? {part value : Text}
    (h : transferEncoding? part = some value) : encodingName <:+: part.map Char.toLower := by
  rw [transferEncoding?_eq] at h
  obtain ⟨⟨left, right⟩, hcut, -⟩ := Option.bind_eq_some_iff.1 h
  exact infix_map_toLower_of_cutAnyCase? hcut

/-- A text that spells the name of the header holds a dash. -/
theorem dash_mem_of_infix_toLower {t : Text} (h : encodingName <:+: t.map Char.toLower) :
    '-' ∈ t := by
  -- only a dash has the dash for its lower case
  have hdash : '-' ∈ t.map Char.toLower := h.subset (by decide)
  obtain ⟨c, hc, hlower⟩ := List.mem_map.1 hdash
  rwa [← eq_of_toLower_eq (by decide) hlower]

end Mailroom.Mime.HeaderBlock
