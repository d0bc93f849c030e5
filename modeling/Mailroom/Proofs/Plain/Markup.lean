import Mathlib.Data.List.DropRight
import Mathlib.Data.List.Flatten
import Mailroom.Plain.Markup
import Mailroom.Proofs.Text.LineBreaks

/-!
# Text without markup

What the search for markup finds, and what is left of a text: its lines, each without markup of
its own, from the first to the last of which something is left.  A line without markup loses only
the white space at its end, whatever stands around it and whatever lays out the lines with markup.
If there is no markup at all, nothing is laid out.

## Key results

* `hasMarkup_iff`                      a line has markup when a tag or a reference stands in it
* `stripMarkup_eq_unlines_keptLines`   what is left of a text
* `lines_stripMarkup`                  the lines that are left of a text without markup
* `sublist_lines_stripMarkup`          the lines without markup are left of every text
-/

namespace Mailroom.Plain

open Text

/-! ## The search for markup -/

/-- What marks a line as one with markup: the start of a tag, or a character reference. -/
inductive IsMarkup : Text → Prop
  | tag (c : Char) (hc : c.isAlpha ∨ c = '/' ∨ c = '!') : IsMarkup ['<', c]
  | reference (sign name : Text) (hsign : sign = [] ∨ sign = ['#']) (hne : name ≠ [])
      (hname : ∀ c ∈ name, c.isAlphanum) : IsMarkup ('&' :: (sign ++ name ++ [';']))

/-- No line of the text has markup. -/
def MarkupFree (t : Text) : Prop :=
  ∀ line ∈ lines (normalizeBreaks t), ∀ m, IsMarkup m → ¬ m <:+: line

/-- The name of a reference: letters and digits, one at least, and a semicolon. -/
theorem startsName_iff {t : Text} : startsName t = true ↔
    ∃ name, name ≠ [] ∧ (∀ c ∈ name, c.isAlphanum) ∧ name ++ [';'] <+: t := by
  simp only [startsName, Bool.and_eq_true, Bool.not_eq_true', List.isEmpty_eq_false_iff,
    beq_iff_eq]
  constructor
  · rintro ⟨hne, hhead⟩
    obtain ⟨r, hr⟩ := List.head?_eq_some_iff.1 hhead
    refine ⟨t.takeWhile Char.isAlphanum, hne, List.all_eq_true.1 List.all_takeWhile, r, ?_⟩
    rw [List.append_assoc, List.singleton_append, ← hr, List.takeWhile_append_dropWhile]
  · rintro ⟨name, hne, hname, r, rfl⟩
    -- the semicolon ends the name
    have hsemi : ¬ Char.isAlphanum ';' = true := by decide
    rw [List.append_assoc, List.singleton_append, List.takeWhile_append_of_pos hname,
      List.dropWhile_append_of_pos hname, List.takeWhile_cons_of_neg hsemi,
      List.dropWhile_cons_of_neg hsemi, List.append_nil]
    exact ⟨hne, rfl⟩

/-- A tag opens at `<` in front of a letter, a slash or an exclamation mark. -/
theorem opensTag_iff {t : Text} : opensTag t = true ↔
    ∃ c : Char, (c.isAlpha ∨ c = '/' ∨ c = '!') ∧ ['<', c] <+: t := by
  constructor
  · intro h
    unfold opensTag at h
    split at h
    · next c r =>
      simp only [Bool.or_eq_true, beq_iff_eq, or_assoc] at h
      exact ⟨c, h, r, rfl⟩
    · exact nomatch h
  · rintro ⟨c, hc, r, rfl⟩
    simpa [opensTag, or_assoc] using hc

/-- A reference opens at `&`, with or without a number sign in front of its name. -/
theorem opensReference_iff {t : Text} : opensReference t = true ↔
    ∃ sign u, (sign = [] ∨ sign = ['#']) ∧ startsName u = true ∧ t = '&' :: (sign ++ u) := by
  constructor
  · intro h
    unfold opensReference at h
    split at h
    · next u => exact ⟨['#'], u, .inr rfl, h, rfl⟩
    · next u _ => exact ⟨[], u, .inl rfl, h, rfl⟩
    · exact nomatch h
  · rintro ⟨sign, u, rfl | rfl, hname, rfl⟩
    · -- a name does not start with the number sign
      have hsign : ∀ v, u = '#' :: v → False := by
        rintro v rfl
        exact absurd hname (by simp [startsName])
      rw [List.nil_append, opensReference]
      · exact hname
      · exact hsign
    · exact hname

/-- Markup opens at the start of the text. -/
theorem opens_iff {t : Text} :
    (opensTag t || opensReference t) = true ↔ ∃ m, IsMarkup m ∧ m <+: t := by
  rw [Bool.or_eq_true, opensTag_iff, opensReference_iff]
  constructor
  · rintro (⟨c, hc, hpre⟩ | ⟨sign, u, hsign, hname, rfl⟩)
    · exact ⟨_, .tag c hc, hpre⟩
    · obtain ⟨name, hne, hall, r, rfl⟩ := startsName_iff.1 hname
      exact ⟨_, .reference sign name hsign hne hall, r, by simp⟩
  · rintro ⟨m, hm, r, rfl⟩
    cases hm with
    | tag c hc => exact .inl ⟨c, hc, r, rfl⟩
    -- a name is read up to its semicolon, whatever follows
    | reference sign name hsign hne hall =>
      have hname : startsName (name ++ [';'] ++ r) = true :=
        startsName_iff.2 ⟨name, hne, hall, r, rfl⟩
      exact .inr ⟨sign, name ++ [';'] ++ r, hsign, hname, by simp⟩

/-- A line has markup when a tag or a reference stands somewhere in it. -/
theorem hasMarkup_iff {line : Text} : hasMarkup line = true ↔ ∃ m, IsMarkup m ∧ m <:+: line := by
  induction line with
  | nil =>
    have hnil : ¬ ∃ m, IsMarkup m ∧ m <:+: [] := by
      rintro ⟨m, hm, hinfix⟩
      rw [List.infix_nil.1 hinfix] at hm
      exact nomatch hm
    exact iff_of_false (by simp [hasMarkup]) hnil
  | cons c line ih =>
    -- markup opens here or later
    rw [hasMarkup, Bool.or_eq_true, opens_iff, ih, ← exists_or]
    simp only [← and_or_left, List.infix_cons_iff]

instance (t : Text) : Decidable (MarkupFree t) :=
  decidable_of_iff (∀ line ∈ lines (normalizeBreaks t), hasMarkup line = false) <| by
    simp only [MarkupFree, ← Bool.not_eq_true, hasMarkup_iff, not_exists, not_and]

/-! ## What is left of a text -/

/-- The text without empty lines at its start. -/
theorem dropWhile_newline_unlines {ls : List Text} (h : ∀ l ∈ ls, l.head? ≠ some '\n') :
    (unlines ls).dropWhile (· == '\n') = unlines (ls.dropWhile List.isEmpty) := by
  induction ls with
  | nil => rfl
  | cons l ls ih =>
    have hrest := ih fun m hm => h m (List.mem_cons_of_mem l hm)
    cases l with
    | nil =>
      rw [List.dropWhile_cons_of_pos rfl, ← hrest]
      by_cases hls : ls = []
      · rw [hls]
        rfl
      · rw [unlines_cons hls]
        rfl
    | cons c l =>
      -- the first line that is not empty stops the dropping at its first character
      have hc : ¬ c = '\n' := by simpa using h _ List.mem_cons_self
      rw [List.dropWhile_cons_of_neg (by simp)]
      by_cases hls : ls = []
      · rw [hls, unlines_singleton, List.dropWhile_cons_of_neg (by simp [hc])]
      · rw [unlines_cons hls, List.cons_append, List.dropWhile_cons_of_neg (by simp [hc])]

/-- The text without empty lines at its end. -/
theorem trimEnd_unlines {ls : List Text} (h : ∀ l ∈ ls, trimEnd l = l) :
    trimEnd (unlines ls) = unlines (ls.rdropWhile List.isEmpty) := by
  induction ls using List.reverseRecOn with
  | nil => rfl
  | append_singleton ls l ih =>
    have hrest := ih fun m hm => h m (List.mem_append_left [l] hm)
    rw [List.rdropWhile_concat]
    cases hl : l.isEmpty with
    | true =>
      obtain rfl := List.isEmpty_iff.1 hl
      rw [if_pos rfl, ← hrest]
      by_cases hls : ls = []
      · rw [hls]
        rfl
      · rw [unlines_append hls (by simp), unlines_singleton]
        exact trimEnd_append_blank (by decide) _
    | false =>
      -- the last character of the text is that of its last line
      obtain ⟨front, hfront⟩ := unlines_suffix (List.suffix_append ls [l])
      have hlast : (unlines (ls ++ [l])).getLast? = l.getLast? := by
        have hl : l ≠ [] := List.isEmpty_eq_false_iff.1 hl
        rw [← hfront, unlines_singleton, List.getLast?_append_of_ne_nil front hl]
      rw [if_neg (by simp)]
      refine dropEndWhile_eq_self fun c hc => ?_
      rw [hlast, ← h l (by simp)] at hc
      exact not_of_getLast?_dropEndWhile hc

/-! ## Lines without their markup -/

/-- What becomes of the lines of a text, from the first to the last of which something is left. -/
def keptLines (render : Text → Text) (t : Text) : List Text :=
  (((lines (normalizeBreaks t)).map (cleanLine render)).dropWhile List.isEmpty).rdropWhile
    List.isEmpty

/-- A line without markup loses no more than the white space at its end. -/
theorem cleanLine_eq_trimEnd (render : Text → Text) {line : Text}
    (h : ∀ m, IsMarkup m → ¬ m <:+: line) : cleanLine render line = trimEnd line := by
  have hfree : ¬ hasMarkup line = true := by
    rw [hasMarkup_iff]
    rintro ⟨m, hm, hinfix⟩
    exact h m hm hinfix
  rw [cleanLine, if_neg hfree]

/-- No line has white space at its end after cleaning. -/
theorem trimEnd_cleanLine (render : Text → Text) (line : Text) :
    trimEnd (cleanLine render line) = cleanLine render line := by
  rw [cleanLine]
  split
  · exact trimEnd_trimEnd _
  · exact trimEnd_trimEnd line

/-- What becomes of a line does not start with a line break, whatever lays it out. -/
theorem head?_cleanLine_ne_newline (render : Text → Text) {line : Text} (h : '\n' ∉ line) :
    (cleanLine render line).head? ≠ some '\n' := by
  rw [cleanLine]
  split
  · intro hhead
    exact absurd (not_isBlank_of_head?_trim hhead) (by decide)
  · intro hhead
    exact h ((prefix_trimEnd line).subset (List.mem_of_head? hhead))

/-- What is left of a text is made of the lines that are kept. -/
theorem stripMarkup_eq_unlines_keptLines (render : Text → Text) (t : Text) :
    stripMarkup render t = unlines (keptLines render t) := by
  have hhead : ∀ l ∈ (lines (normalizeBreaks t)).map (cleanLine render),
      l.head? ≠ some '\n' := by
    intro l hl
    obtain ⟨line, hline, rfl⟩ := List.mem_map.1 hl
    exact head?_cleanLine_ne_newline render (newline_not_mem_of_mem_lines hline)
  -- so empty lines are all that trimming the end of the text takes away
  have htrimmed : ∀ l ∈ ((lines (normalizeBreaks t)).map (cleanLine render)).dropWhile
      List.isEmpty, trimEnd l = l := by
    intro l hl
    obtain ⟨line, -, rfl⟩ := List.mem_map.1 ((List.dropWhile_suffix List.isEmpty).subset hl)
    exact trimEnd_cleanLine render line
  simp only [stripMarkup, dropWhile_newline_unlines hhead, trimEnd_unlines htrimmed, keptLines]

/-! ## Texts without markup -/

/-- The lines of the text without white space at their ends, and without the empty ones at the
start and at the end. -/
def bareLines (t : Text) : List Text :=
  let kept := (((lines (normalizeBreaks t)).map trimEnd).dropWhile List.isEmpty).rdropWhile
    List.isEmpty
  -- a text has at least one line
  if kept.isEmpty then [[]] else kept

/-- At least one line is left of every text. -/
theorem bareLines_ne_nil (t : Text) : bareLines t ≠ [] := by
  rw [bareLines]
  split
  · exact List.cons_ne_nil [] []
  · next h => exact fun hnil => h (List.isEmpty_iff.2 hnil)

/-- What is left of a text are lines of it without white space at their ends. -/
theorem mem_bareLines {t l : Text} (hl : l ∈ bareLines t) :
    l = [] ∨ ∃ line ∈ lines (normalizeBreaks t), trimEnd line = l := by
  rw [bareLines] at hl
  split at hl
  · exact .inl (List.mem_singleton.1 hl)
  · have hdrop := (List.rdropWhile_prefix List.isEmpty _).subset hl
    exact .inr (List.mem_map.1 ((List.dropWhile_suffix List.isEmpty).subset hdrop))

/-- The lines that are left are trimmed at their ends. -/
theorem trimEnd_of_mem_bareLines {t l : Text} (hl : l ∈ bareLines t) : trimEnd l = l := by
  rcases mem_bareLines hl with rfl | ⟨line, -, rfl⟩
  · rfl
  · exact trimEnd_trimEnd line

/-- The characters that are left are characters of the text, without its line breaks. -/
theorem mem_of_mem_bareLines {t l : Text} (hl : l ∈ bareLines t) {c : Char} (hc : c ∈ l) :
    c ∈ normalizeBreaks t ∧ c ≠ '\n' := by
  rcases mem_bareLines hl with rfl | ⟨line, hline, rfl⟩
  · exact nomatch hc
  · have hmem : c ∈ line := (prefix_trimEnd line).subset hc
    refine ⟨(infix_of_mem_splitWhere hline).subset hmem, ?_⟩
    rintro rfl
    exact newline_not_mem_of_mem_lines hline hmem

/-- What is left of a text without markup. -/
theorem stripMarkup_eq_unlines (render : Text → Text) {t : Text} (ht : MarkupFree t) :
    stripMarkup render t = unlines (bareLines t) := by
  have hclean : (lines (normalizeBreaks t)).map (cleanLine render) =
      (lines (normalizeBreaks t)).map trimEnd :=
    List.map_congr_left fun line hline => cleanLine_eq_trimEnd render (ht line hline)
  rw [stripMarkup_eq_unlines_keptLines, keptLines, hclean, bareLines]
  split
  · next h =>
    rw [List.isEmpty_iff.1 h]
    rfl
  · rfl

/-- The lines of what is left of a text without markup. -/
theorem lines_stripMarkup (render : Text → Text) {t : Text} (ht : MarkupFree t) :
    lines (stripMarkup render t) = bareLines t := by
  rw [stripMarkup_eq_unlines render ht]
  exact lines_unlines (bareLines_ne_nil t) fun l hl hmem => (mem_of_mem_bareLines hl hmem).2 rfl

/-! ## Lines without markup beside others -/

/-- There is something on the line, but no markup. -/
def IsPlainLine (line : Text) : Prop :=
  isBlankText line = false ∧ ∀ m, IsMarkup m → ¬ m <:+: line

instance (line : Text) : Decidable (IsPlainLine line) :=
  decidable_of_iff (isBlankText line = false ∧ hasMarkup line = false) <| by
    simp only [IsPlainLine, ← Bool.not_eq_true, hasMarkup_iff, not_exists, not_and]

/-- The lines of a text on which there is something, but no markup. -/
def plainLines (t : Text) : List Text := (lines (normalizeBreaks t)).filter (IsPlainLine ·)

/-- The plain lines of a text are among its lines. -/
theorem mem_plainLines {t line : Text} :
    line ∈ plainLines t ↔ line ∈ lines (normalizeBreaks t) ∧ IsPlainLine line := by
  rw [plainLines, List.mem_filter, decide_eq_true_iff]

/-- A plain line is not laid out, only trimmed at its end. -/
theorem IsPlainLine.cleanLine_eq (render : Text → Text) {line : Text} (h : IsPlainLine line) :
    cleanLine render line = trimEnd line :=
  cleanLine_eq_trimEnd render h.2

/-- Something is left of a plain line, so it is not dropped with the empty lines at either end. -/
theorem IsPlainLine.isEmpty_trimEnd {line : Text} (h : IsPlainLine line) :
    (trimEnd line).isEmpty = false := by
  obtain ⟨b, hb, hline⟩ := exists_eq_dropEndWhile_append isBlank line
  change line = trimEnd line ++ b at hline
  refine List.isEmpty_eq_false_iff.2 fun hnil => ?_
  rw [hnil, List.nil_append] at hline
  rw [← hline] at hb
  exact absurd (isBlankText_iff.2 hb) (by simp [h.1])

/-- What is dropped at the start satisfies the predicate, so no other element is. -/
theorem filter_not_dropWhile {α : Type} (p : α → Bool) (l : List α) :
    (l.dropWhile p).filter (!p ·) = l.filter (!p ·) := by
  have hdropped : (l.takeWhile p).filter (!p ·) = [] := by
    rw [List.filter_eq_nil_iff]
    intro a ha
    simp [List.all_eq_true.1 List.all_takeWhile a ha]
  conv => rhs; rw [← List.takeWhile_append_dropWhile (p := p) (l := l)]
  rw [List.filter_append, hdropped, List.nil_append]

/-- Every line of which something is left is kept. -/
theorem filter_keptLines (render : Text → Text) (t : Text) :
    (keptLines render t).filter (!·.isEmpty) =
      ((lines (normalizeBreaks t)).map (cleanLine render)).filter (!·.isEmpty) := by
  rw [keptLines, List.rdropWhile, List.filter_reverse, filter_not_dropWhile, List.filter_reverse,
    List.reverse_reverse, filter_not_dropWhile]

/-- The lines without markup are kept, whatever becomes of the others. -/
theorem sublist_keptLines (render : Text → Text) (t : Text) :
    ((plainLines t).map trimEnd).Sublist (keptLines render t) := by
  have hclean : (plainLines t).map trimEnd = (plainLines t).map (cleanLine render) :=
    List.map_congr_left fun line hline => ((mem_plainLines.1 hline).2.cleanLine_eq render).symm
  -- something is left of a line without markup
  have hleft : (plainLines t).Sublist
      ((lines (normalizeBreaks t)).filter ((!·.isEmpty) ∘ cleanLine render)) := by
    refine List.monotone_filter_right _ fun line hline => ?_
    have hplain : IsPlainLine line := of_decide_eq_true hline
    rw [Function.comp_apply, hplain.cleanLine_eq, hplain.isEmpty_trimEnd]
    rfl
  have hkept := hleft.map (cleanLine render)
  rw [← List.filter_map, ← filter_keptLines] at hkept
  rw [hclean]
  exact hkept.trans List.filter_sublist

/-- What is left of a text does not start with a line break, since the empty lines at its start are
dropped. -/
theorem head?_stripMarkup_ne_newline (render : Text → Text) (t : Text) :
    (stripMarkup render t).head? ≠ some '\n' := by
  intro hhead
  have hne : stripMarkup render t ≠ [] := by
    intro hnil
    rw [hnil] at hhead
    exact nomatch hhead
  rw [stripMarkup] at hhead hne
  rw [head?_eq_of_prefix_ne_nil (prefix_trimEnd _) hne] at hhead
  have hnot := List.head?_dropWhile_not (· == '\n')
    (unlines ((lines (normalizeBreaks t)).map (cleanLine render)))
  rw [hhead] at hnot
  exact absurd hnot (by decide)

/-- The lines without markup are lines of what is left of the text, in their order and without the
white space at their ends, whatever lays out the others.  What is left starts with no line break and
ends with no white space. -/
theorem sublist_lines_stripMarkup (render : Text → Text) (t : Text) :
    ((plainLines t).map trimEnd).Sublist (lines (stripMarkup render t)) ∧
      (stripMarkup render t).head? ≠ some '\n' ∧
      ∀ c, (stripMarkup render t).getLast? = some c → isBlank c = false := by
  refine ⟨?_, head?_stripMarkup_ne_newline render t, fun c => not_of_getLast?_dropEndWhile⟩
  have hkept := sublist_keptLines render t
  -- a plain line that is trimmed is still one line
  have hsingle : ∀ l ∈ (plainLines t).map trimEnd, lines l = [l] := by
    intro l hl
    obtain ⟨line, hline, rfl⟩ := List.mem_map.1 hl
    have hnewline := newline_not_mem_of_mem_lines (mem_plainLines.1 hline).1
    exact lines_eq_singleton fun hmem => hnewline ((prefix_trimEnd line).subset hmem)
  rw [stripMarkup_eq_unlines_keptLines]
  by_cases hnil : keptLines render t = []
  · rw [hnil, List.sublist_nil] at hkept
    rw [hkept]
    exact List.nil_sublist _
  · -- a kept line may have become several, but one without markup has not
    have hlines := hkept.flatMap lines
    rwa [List.flatMap_congr hsingle, List.flatMap_singleton',
      ← lines_unlines_eq_flatMap hnil] at hlines

/-- Markup around a line that becomes several lines, and markup that becomes nothing. -/
example :
    plainLines "<p>\r  one\t\r\n&lt;\n \n< two\n<br>".toList =
        ["  one\t".toList, "< two".toList] ∧
      lines (stripMarkup (fun line => if line.length = 3 then "a\r\n\nb".toList else [])
        "<p>\r  one\t\r\n&lt;\n \n< two\n<br>".toList) =
        ["a\r", "", "b", "  one", "", "", "< two"].map String.toList := by
  decide +kernel

end Mailroom.Plain
