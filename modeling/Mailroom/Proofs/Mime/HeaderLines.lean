import Mathlib.Data.List.Chain
import Mailroom.Proofs.Mime.HeaderBlock

/-!
# The lines of a header block

A header block is headers, each with the lines that continue it.  This is said here without a
reader, and the lines that the reader drops are the longest such block that the part starts with:
whatever the block is, a line is dropped as a header or as the continuation of the line before it,
and which of the two it is makes no difference to what follows.

## Key results

* `isHeader_iff`             a line is a header by the name it starts with
* `exists_headers_append`    the lines that are dropped are a header block
* `dropFrom_headers_append`  a header block is dropped to its end
* `strip_longest`            the text that is left is what follows the longest header block
* `strip_strip_iff`          stripping again changes nothing unless the text starts with a header
-/

namespace Mailroom.Mime.HeaderBlock

open Text

/-! ## Lines -/

/-- The line starts with one of four names in any ASCII case and a colon right after it. -/
inductive IsHeaderLine : Text → Prop
  | mk {name spelling rest : Text}
      (hname : name ∈ ["Content-Type".toList, "Content-Transfer-Encoding".toList,
        "Content-ID".toList, "Content-Disposition".toList])
      (hspelling : equalsAnyCase spelling name = true) : IsHeaderLine (spelling ++ ':' :: rest)

/-- A line goes on in the next one: it ends in a semicolon, white space aside, and the next one is
indented. -/
def Continues (line next : Text) : Prop :=
  (trimEnd line).getLast? = some ';' ∧ ("    ".toList <+: next ∨ "\t".toList <+: next)

/-- The test for a header line finds the header lines and no others. -/
theorem isHeader_iff {line : Text} : isHeader line = true ↔ IsHeaderLine line := by
  have hafter (name rest : Text) : afterAnyCase? name line = some rest ↔
      ∃ spelling, line = spelling ++ rest ∧ spelling.map Char.toLower = name.map Char.toLower := by
    show afterBy? (sameBy Char.toLower) name line = some rest ↔ _
    exact afterBy?_eq_some_iff
  rw [isHeader, List.any_eq_true]
  constructor
  · rintro ⟨name, hname, h⟩
    split at h
    · next rest hrest =>
      obtain ⟨spelling, rfl, hspelling⟩ := (hafter name rest).1 hrest
      obtain ⟨rest, rfl⟩ := List.head?_eq_some_iff.1 (beq_iff_eq.1 h)
      exact .mk hname (beq_iff_eq.2 hspelling)
    · exact nomatch h
  · rintro @⟨name, spelling, rest, hname, hspelling⟩
    have hrest := (hafter name (':' :: rest)).2 ⟨spelling, rfl, beq_iff_eq.1 hspelling⟩
    exact ⟨name, hname, by rw [hrest]; rfl⟩

/-- White space at its end does not make a line a header. -/
theorem isHeader_trimEnd (line : Text) : isHeader (trimEnd line) = isHeader line := by
  rw [Bool.eq_iff_iff, isHeader_iff, isHeader_iff]
  constructor
  · intro h
    obtain ⟨b, hb⟩ := prefix_trimEnd line
    generalize trimEnd line = trimmed at h hb
    obtain @⟨name, spelling, rest, hname, hspelling⟩ := h
    rw [← hb, List.append_assoc]
    exact .mk hname hspelling
  · rintro @⟨name, spelling, rest, hname, hspelling⟩
    -- trimming the end stops at the colon of the header, if not before
    have hcolon : ∀ c, (spelling ++ [':']).getLast? = some c → isBlank c = false := by
      rw [List.getLast?_concat]
      rintro _ ⟨⟩
      decide
    have hreassoc : spelling ++ ':' :: rest = spelling ++ [':'] ++ rest := by simp
    rw [hreassoc, trimEnd, dropEndWhile_append_of_getLast? hcolon, List.append_assoc]
    exact .mk hname hspelling

/-- So does the test for a folded line. -/
theorem continues_iff {line next : Text} :
    (isOpen line && isContinuation next) = true ↔ Continues line next := by
  rw [Bool.and_eq_true, isOpen, beq_iff_eq, isContinuation, Bool.or_eq_true, startsWith_iff,
    startsWith_iff]
  rfl

/-! ## Blocks -/

/-- Headers, each with the lines that continue it. -/
inductive IsHeaders : List Text → Prop
  | nil : IsHeaders []
  | cons {line : Text} {folds rest : List Text} (hheader : IsHeaderLine line)
      (hfolds : (line :: folds).IsChain Continues) (h : IsHeaders rest) :
      IsHeaders (line :: (folds ++ rest))

/-- The lines that are dropped after a line are lines that continue it and headers. -/
theorem exists_folds_append (line : Text) (ls : List Text) :
    ∃ folds headers, ls = folds ++ (headers ++ dropFrom (isOpen line) ls) ∧
      (line :: folds).IsChain Continues ∧ IsHeaders headers := by
  induction ls generalizing line with
  | nil => exact ⟨[], [], rfl, List.isChain_singleton line, .nil⟩
  | cons next ls ih =>
    obtain ⟨folds, headers, hls, hfolds, hheaders⟩ := ih next
    -- the next line goes to the folds, starts a header of its own or ends the block
    by_cases hcontinues : (isOpen line && isContinuation next) = true
    · rw [dropFrom, hcontinues, Bool.true_or, if_pos rfl]
      refine ⟨next :: folds, headers, congrArg (next :: ·) hls, ?_, hheaders⟩
      exact List.isChain_cons_cons.2 ⟨continues_iff.1 hcontinues, hfolds⟩
    · rw [dropFrom, isHeader_trimEnd, Bool.eq_false_iff.2 hcontinues, Bool.false_or]
      by_cases hheader : isHeader next = true
      · rw [if_pos hheader]
        refine ⟨[], next :: (folds ++ headers), ?_, List.isChain_singleton line, ?_⟩
        · conv => lhs; rw [hls]
          simp only [List.nil_append, List.cons_append, List.append_assoc]
        · exact .cons (isHeader_iff.1 hheader) hfolds hheaders
      · rw [if_neg hheader]
        exact ⟨[], [], rfl, List.isChain_singleton line, .nil⟩

/-- The lines that are dropped are a header block. -/
theorem exists_headers_append (ls : List Text) :
    ∃ headers, ls = headers ++ dropFrom false ls ∧ IsHeaders headers := by
  -- nothing continues an empty line
  obtain ⟨folds, headers, hls, hfolds, hheaders⟩ := exists_folds_append [] ls
  cases folds with
  | nil => exact ⟨headers, hls, hheaders⟩
  | cons next folds => exact absurd (List.isChain_cons_cons.1 hfolds).1.1 (by decide)

/-- The lines that continue a line are dropped after it. -/
theorem dropFrom_folds_append {line : Text} {folds : List Text}
    (h : (line :: folds).IsChain Continues) (rest : List Text) :
    ∃ folding, dropFrom (isOpen line) (folds ++ rest) = dropFrom folding rest := by
  induction folds generalizing line with
  | nil => exact ⟨isOpen line, rfl⟩
  | cons next folds ih =>
    obtain ⟨hcontinues, hfolds⟩ := List.isChain_cons_cons.1 h
    obtain ⟨folding, hdrop⟩ := ih hfolds
    refine ⟨folding, ?_⟩
    rw [List.cons_append, dropFrom, continues_iff.2 hcontinues, Bool.true_or, if_pos rfl, hdrop]

/-- A header block is dropped to its end. -/
theorem dropFrom_headers_append {headers : List Text} (h : IsHeaders headers) (folding : Bool)
    (rest : List Text) :
    ∃ folding', dropFrom folding (headers ++ rest) = dropFrom folding' rest := by
  induction h generalizing folding with
  | nil => exact ⟨folding, rfl⟩
  | @cons line folds headers hheader hfolds h ih =>
    obtain ⟨folding₁, hdrop₁⟩ := dropFrom_folds_append hfolds (headers ++ rest)
    obtain ⟨folding₂, hdrop₂⟩ := ih folding₁
    refine ⟨folding₂, ?_⟩
    rw [List.cons_append, dropFrom, isHeader_trimEnd, isHeader_iff.2 hheader, Bool.or_true,
      if_pos rfl, List.append_assoc, hdrop₁, hdrop₂]

/-- Lines are a header block when all of them are dropped. -/
theorem isHeaders_iff {ls : List Text} : IsHeaders ls ↔ dropFrom false ls = [] := by
  constructor
  · intro h
    obtain ⟨folding, hdrop⟩ := dropFrom_headers_append h false []
    rwa [List.append_nil] at hdrop
  · intro hdrop
    obtain ⟨headers, hls, hheaders⟩ := exists_headers_append ls
    rw [hdrop, List.append_nil] at hls
    rwa [hls]

instance (ls : List Text) : Decidable (IsHeaders ls) := decidable_of_iff _ isHeaders_iff.symm

/-! ## The longest block -/

/-- The lines are a header block and the rest, and no longer header block starts them. -/
structure IsLongestBlock (ls headers rest : List Text) : Prop where
  append : ls = headers ++ rest
  isHeaders : IsHeaders headers
  longest : ∀ headers', headers' <+: ls → IsHeaders headers' → headers' <+: headers

/-- What is dropped is the longest header block. -/
theorem exists_isLongestBlock (ls : List Text) :
    ∃ headers, IsLongestBlock ls headers (dropFrom false ls) := by
  obtain ⟨headers, hls, hheaders⟩ := exists_headers_append ls
  refine ⟨headers, hls, hheaders, ?_⟩
  rintro headers' ⟨rest, hrest⟩ hheaders'
  -- what is left after the one block is left of what follows the other
  obtain ⟨folding, hdrop⟩ := dropFrom_headers_append hheaders' false rest
  have hlength := (dropFrom_suffix folding rest).length_le
  rw [← hdrop, hrest] at hlength
  have htotal := congrArg List.length (hrest.trans hls)
  simp only [List.length_append] at htotal
  exact List.prefix_of_prefix_length_le ⟨rest, hrest⟩ ⟨_, hls.symm⟩ (by omega)

/-- The longest header block is what is dropped, so what follows it can be computed. -/
theorem isLongestBlock_iff {ls headers rest : List Text} :
    IsLongestBlock ls headers rest ↔ ls = headers ++ rest ∧ rest = dropFrom false ls := by
  obtain ⟨headers', hdropped⟩ := exists_isLongestBlock ls
  constructor
  · intro h
    -- each of two longest blocks starts with the other
    have hprefix := hdropped.longest headers ⟨rest, h.append.symm⟩ h.isHeaders
    have hprefix' := h.longest headers' ⟨_, hdropped.append.symm⟩ hdropped.isHeaders
    have heq : headers = headers' :=
      hprefix.eq_of_length (Nat.le_antisymm hprefix.length_le hprefix'.length_le)
    have htotal := h.append.symm.trans hdropped.append
    rw [heq] at htotal
    exact ⟨h.append, List.append_cancel_left htotal⟩
  · rintro ⟨happend, hrest⟩
    -- what stands before the same rest is the same block
    have htotal := happend.symm.trans hdropped.append
    rw [hrest] at htotal
    rwa [hrest, List.append_cancel_right htotal]

instance (ls headers rest : List Text) : Decidable (IsLongestBlock ls headers rest) :=
  decidable_of_iff _ isLongestBlock_iff.symm

/-- The last line is indented, but the header before it does not end in a semicolon. -/
example : dropFrom false (["Content-Type: a;", "\tb; ", "    c", "content-id:", "    d"].map
    String.toList) = ["    d".toList] := by
  decide

/-- What is left of a part is the text behind the longest header block that the trimmed part starts
with, without the white space at its two ends. -/
theorem strip_longest (part : Text) :
    ∃ headers rest a b, IsLongestBlock (lines (trim part)) headers rest ∧
      strip part = trim (unlines rest) ∧
      isBlankText a = true ∧ isBlankText b = true ∧ unlines rest = a ++ strip part ++ b := by
  obtain ⟨headers, hblock⟩ := exists_isLongestBlock (lines (trim part))
  obtain ⟨a, b, ha, hb, hrest⟩ :=
    exists_eq_append_trim (unlines (dropFrom false (lines (trim part))))
  exact ⟨headers, _, a, b, hblock, rfl, ha, hb, hrest⟩

/-! ## Stripping again -/

/-- An empty line is no header line, and ends a block. -/
theorem not_isHeaderLine_nil : ¬ IsHeaderLine [] := by
  rw [← isHeader_iff]
  decide

/-- What follows a line does not make it a header. -/
theorem isHeaderLine_append_newline {l r : Text} :
    IsHeaderLine (l ++ '\n' :: r) ↔ IsHeaderLine l := by
  -- what makes a header, the name and the colon, holds no line break
  have hnames : ∀ name ∈ knownNames, '\n' ∉ name.map Char.toLower := by decide +kernel
  constructor
  · generalize ht : l ++ '\n' :: r = t
    rintro @⟨name, spelling, rest, hname, hspelling⟩
    -- the name and its colon end before the line break
    have hnewline : '\n' ∉ spelling ++ [':'] := by
      intro hmem
      rw [List.mem_append, List.mem_singleton] at hmem
      rcases hmem with hmem | hmem
      · have hlower := List.mem_map_of_mem (f := Char.toLower) hmem
        rw [beq_iff_eq.1 hspelling] at hlower
        exact hnames name hname hlower
      · exact absurd hmem (by decide)
    have hstart : spelling ++ [':'] <+: l ++ '\n' :: r := ⟨rest, by rw [ht]; simp⟩
    obtain ⟨rest, rfl⟩ := (prefix_append_cons_iff hnewline).1 hstart
    rw [List.append_assoc]
    exact .mk hname hspelling
  · rintro @⟨name, spelling, rest, hname, hspelling⟩
    rw [List.append_assoc]
    exact .mk hname hspelling

/-- A text starts with a header when its first line does. -/
theorem isHeaderLine_iff_of_lines {t l : Text} {ls : List Text} (h : lines t = l :: ls) :
    IsHeaderLine t ↔ IsHeaderLine l := by
  rw [← unlines_lines t, h]
  by_cases hls : ls = []
  · rw [hls, unlines_singleton]
  · rw [unlines_cons hls, isHeaderLine_append_newline]

/-- A text starts with a header when it is a header block. -/
theorem isHeaderLine_of_isHeaders {t : Text} (h : IsHeaders (lines t)) : IsHeaderLine t := by
  generalize hlines : lines t = ls at h
  cases h with
  | nil => exact absurd hlines (lines_ne_nil t)
  | cons hheader hfolds h => exact (isHeaderLine_iff_of_lines hlines).2 hheader

/-- A text starts with a header when its first line that is not blank does. -/
theorem isHeaderLine_trimStart_unlines_iff {ls : List Text} :
    IsHeaderLine (trimStart (unlines ls)) ↔
      ∃ line, ls.find? (!isBlankText ·) = some line ∧ IsHeaderLine (trimStart line) := by
  induction ls with
  | nil =>
    show IsHeaderLine [] ↔ _
    simp [not_isHeaderLine_nil]
  | cons l ls ih =>
    by_cases hls : ls = []
    · subst hls
      rw [unlines_singleton]
      cases hl : isBlankText l with
      | true => simp [hl, trimStart_eq_nil_iff.2 hl, not_isHeaderLine_nil]
      | false => simp [hl]
    · rw [unlines_cons hls]
      cases hl : isBlankText l with
      | true =>
        -- a blank line is cut off with its line break
        have hblank : isBlankText (l ++ ['\n']) = true := isBlankText_append.2 ⟨hl, by decide⟩
        have hreassoc : l ++ '\n' :: unlines ls = l ++ ['\n'] ++ unlines ls := by simp
        rw [hreassoc, trimStart_append_blank hblank, ih, List.find?_cons_of_neg (by simp [hl])]
      | false =>
        rw [trimStart_append hl, isHeaderLine_append_newline, List.find?_cons_of_pos (by simp [hl])]
        simp

/-- A trimmed text stays as it is exactly when it starts with no header. -/
theorem strip_eq_self_iff {t : Text} (ht : trim t = t) : strip t = t ↔ ¬ IsHeaderLine t := by
  obtain ⟨l, ls, hlines⟩ := List.exists_cons_of_ne_nil (lines_ne_nil t)
  have hunlines : unlines (l :: ls) = t := by rw [← hlines, unlines_lines]
  -- the first line decides whether anything is dropped
  have hheader : IsHeaderLine t ↔ isHeader (trimEnd l) = true := by
    rw [isHeader_trimEnd, isHeader_iff, isHeaderLine_iff_of_lines hlines]
  rw [strip, ht, hlines, dropFrom, Bool.false_and, Bool.false_or, hheader]
  split
  · next h =>
    -- what is left is shorter by the header
    have hl : 0 < l.length := by
      rw [List.length_pos_iff]
      rintro rfl
      exact absurd h (by decide)
    have hshort : (unlines ls).length < t.length := by
      rw [← hunlines]
      by_cases hls : ls = []
      · rw [hls, unlines_singleton]
        exact hl
      · rw [unlines_cons hls, List.length_append, List.length_cons]
        omega
    have hdrop := (unlines_suffix (dropFrom_suffix (isOpen l) ls)).length_le
    have htrim := (infix_trim (unlines (dropFrom (isOpen l) ls))).length_le
    simp only [h, not_true_eq_false, iff_false]
    intro heq
    rw [heq] at htrim
    omega
  · next h => simp [h, hunlines, ht]

/-- Stripping what is left of a part changes it no more, exactly when the first line behind the
header block that is not blank is no header itself. -/
theorem strip_strip_iff {part : Text} {headers rest : List Text}
    (h : IsLongestBlock (lines (trim part)) headers rest) :
    strip (strip part) = strip part ↔
      ∀ line, rest.find? (!isBlankText ·) = some line → ¬ IsHeaderLine (trimStart line) := by
  have hstrip : strip part = trimEnd (trimStart (unlines rest)) := by
    rw [strip, ← (isLongestBlock_iff.1 h).2, trim]
  have htrim : trim (strip part) = strip part := by rw [strip, trim_trim]
  -- the second run sees the trimmed text, whose first line is the first one that is not blank
  rw [strip_eq_self_iff htrim, hstrip, ← isHeader_iff, isHeader_trimEnd, isHeader_iff,
    isHeaderLine_trimStart_unlines_iff]
  simp

/-- A part whose text names a header in its first line and holds one in its second. -/
def proseUnderHeader : Text :=
  "\nContent-Type: text/plain;\n    format=flowed\n\n  \nContent types\nContent-ID: a name\n".toList

/-- A name without its colon is no header, and a header further down does no harm. -/
theorem strip_strip_proseUnderHeader :
    IsLongestBlock (lines (trim proseUnderHeader))
      (["Content-Type: text/plain;", "    format=flowed"].map String.toList)
      (["", "  ", "Content types", "Content-ID: a name"].map String.toList) ∧
    strip (strip proseUnderHeader) = strip proseUnderHeader := by
  have hblock : IsLongestBlock (lines (trim proseUnderHeader))
      (["Content-Type: text/plain;", "    format=flowed"].map String.toList)
      (["", "  ", "Content types", "Content-ID: a name"].map String.toList) := by
    decide +kernel
  refine ⟨hblock, (strip_strip_iff hblock).2 ?_⟩
  intro line hline
  have hfirst : some "Content types".toList = some line := hline
  rw [← Option.some.inj hfirst, ← isHeader_iff]
  decide

/-- A text that starts with a header itself is stripped away by the second run. -/
theorem not_strip_strip_headerAsText :
    strip "Content-Type: text/plain\n\nContent-ID: the name".toList = "Content-ID: the name".toList ∧
    strip (strip "Content-Type: text/plain\n\nContent-ID: the name".toList) ≠
      strip "Content-Type: text/plain\n\nContent-ID: the name".toList := by
  decide +kernel

end Mailroom.Mime.HeaderBlock
