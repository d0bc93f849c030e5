import Mathlib.Data.List.TakeWhile
import Mailroom.Proofs.Plain.Groups

/-!
# Lines that fit

How far the lines of a broken text keep to the width.  A line is too long, spaces at its end
aside, only where no break could have helped: it is its quote marks and a single word, or no word
at all.  A break stands only where the next word would not have fit.  So the lines of a broken
text are not broken again, even where a word that starts with a quote mark has come to stand at
the start of a line and is taken for a quotation there.

## Key results

* `wrapLine_eq_self_iff`         which lines are left as they are
* `isFilled_wrapLine`            the lines that a line becomes are as long as they can be
* `exists_filled_groups_wrap`    so are those of a broken text
* `wrap_wrap_of_le`              breaking a broken text again changes nothing
-/

namespace Mailroom.Plain

open Text

/-! ## Spaces and words -/

/-- A line without the spaces at its end. -/
def trimSpaces (line : Text) : Text := dropEndWhile (· == ' ') line

/-- Spaces added at the end of a line are trimmed from it. -/
theorem trimSpaces_append_spaces {spaces : Text} (h : ∀ c ∈ spaces, c = ' ') (t : Text) :
    trimSpaces (t ++ spaces) = trimSpaces t :=
  dropEndWhile_append fun c hc => by simp [h c hc]

/-- Trimming makes no line longer. -/
theorem length_trimSpaces_le (line : Text) : (trimSpaces line).length ≤ line.length :=
  length_dropEndWhile_le _ line

/-- A word goes on to its end. -/
theorem ne_space_of_mem_word {word : Text} (h : ' ' ∉ word) : ∀ c ∈ word, (c != ' ') = true := by
  intro c hc
  rw [bne_iff_ne]
  rintro rfl
  exact h hc

/-- Nothing is cut off beyond a word. -/
theorem trimSpaces_append_word {word : Text} (hne : word ≠ []) (hword : ' ' ∉ word)
    (t rest : Text) :
    trimSpaces (t ++ word ++ rest) = t ++ word ++ trimSpaces rest := by
  refine dropEndWhile_append_of_getLast? (fun c hc => ?_) rest
  rw [List.getLast?_append_of_ne_nil _ hne] at hc
  rw [beq_eq_false_iff_ne]
  rintro rfl
  exact hword (List.mem_of_getLast? hc)

/-- A text holds at most one word: there are only spaces before and behind it. -/
inductive AtMostOneWord : Text → Prop
  | mk {gap word spaces : Text} (hgap : ∀ c ∈ gap, c = ' ') (hword : ' ' ∉ word)
      (hspaces : ∀ c ∈ spaces, c = ' ') : AtMostOneWord (gap ++ (word ++ spaces))

/-- A line of spaces has no word. -/
theorem atMostOneWord_of_spaces {t : Text} (h : ∀ c ∈ t, c = ' ') : AtMostOneWord t :=
  @AtMostOneWord.mk [] [] t (by simp) (by simp) h

/-- The end of a text with at most one word has no other. -/
theorem AtMostOneWord.of_suffix {s t : Text} (ht : AtMostOneWord t) (h : s <:+ t) :
    AtMostOneWord s := by
  obtain @⟨gap, word, spaces, hgap, hword, hspaces⟩ := ht
  obtain ⟨front, hfront⟩ := h
  rcases List.append_eq_append_iff.1 hfront with ⟨gap', rfl, rfl⟩ | ⟨front', rfl, hrest⟩
  · exact .mk (fun c hc => hgap c (List.mem_append_right _ hc)) hword hspaces
  · rcases List.append_eq_append_iff.1 hrest.symm with ⟨word', rfl, rfl⟩ | ⟨spaces', rfl, rfl⟩
    · have hword' : ' ' ∉ word' := fun hc => hword (List.mem_append_right _ hc)
      exact @AtMostOneWord.mk [] word' spaces (by simp) hword' hspaces
    · exact atMostOneWord_of_spaces fun c hc => hspaces c (List.mem_append_right _ hc)

/-- Only spaces follow the one word. -/
theorem AtMostOneWord.eq_space_of_mem_afterToken {t : Text} (ht : AtMostOneWord t) :
    ∀ c ∈ afterToken t, c = ' ' := by
  obtain @⟨gap, word, spaces, hgap, hword, hspaces⟩ := ht
  rw [afterToken, List.dropWhile_append_of_pos fun c hc => by simp [hgap c hc]]
  cases word with
  -- without a word all of the line is spaces
  | nil =>
    intro c hc
    have hdrop := (List.dropWhile_suffix (· != ' ')).subset hc
    exact hspaces c ((List.dropWhile_suffix (· == ' ')).subset hdrop)
  | cons d word =>
    have hd : ¬ (d == ' ') = true := by
      rw [beq_iff_eq]
      rintro rfl
      exact hword List.mem_cons_self
    rw [List.cons_append, List.dropWhile_cons_of_neg (p := (· == ' ')) hd, ← List.cons_append,
      List.dropWhile_append_of_pos (ne_space_of_mem_word hword)]
    intro c hc
    exact hspaces c ((List.dropWhile_suffix (· != ' ')).subset hc)

/-- There is no word in spaces. -/
theorem word_eq_nil_of_spaces {t : Text} (ht : ∀ c ∈ t, c = ' ') {token : Token}
    (h : token ∈ tokens t) : token.word = [] := by
  refine List.eq_nil_iff_forall_not_mem.2 fun c hc => ?_
  have hmem : c ∈ (tokens t).flatMap Token.text :=
    List.mem_flatMap.2 ⟨token, h, List.mem_append_right _ hc⟩
  rw [flatMap_text_tokens] at hmem
  exact space_not_mem_word h (ht c hmem ▸ hc)

/-! ## Lines that are not broken -/

/-- Words that all fit are not broken off. -/
theorem fillFrom_eq_singleton {width : Nat} {mark current : Text} {toks : List Token}
    (h : ∀ front token back, toks = front ++ token :: back → token.word ≠ [] →
      (current ++ front.flatMap Token.text ++ token.text).length ≤ width) :
    fillFrom width mark current toks = [current ++ toks.flatMap Token.text] := by
  induction toks generalizing current with
  | nil => simp [fillFrom]
  | cons token rest ih =>
    -- the first word fits, or is empty and stays in any case
    have hfits : (token.word.isEmpty ||
        decide (current.length + token.gap.length + token.word.length ≤ width)) = true := by
      rw [Bool.or_eq_true, List.isEmpty_iff, decide_eq_true_eq]
      refine or_iff_not_imp_left.2 fun hword => ?_
      have hlength := h [] token rest rfl hword
      simpa [Token.text, Nat.add_assoc] using hlength
    have htext : current ++ token.gap ++ token.word = current ++ token.text := by
      rw [Token.text, List.append_assoc]
    rw [fillFrom, if_pos hfits, htext, ih, List.flatMap_cons, List.append_assoc]
    intro front token' back hrest hword
    have hlength := h (token :: front) token' back (by rw [hrest]; rfl) hword
    simpa only [List.flatMap_cons, List.append_assoc] using hlength

/-- A line that fits but for the spaces at its end, or that has at most one word, is left as it
is. -/
theorem wrapLine_eq_self {width : Nat} {line : Text}
    (h : (trimSpaces line).length ≤ width ∨ AtMostOneWord (afterMark line)) :
    wrapLine width line = [line] := by
  obtain ⟨hline, -⟩ | ⟨token, rest, htoks, hline⟩ := wrapLine_cases width line
  · exact hline
  · have htext := flatMap_text_tokens (afterMark line)
    have hself : line = quoteMark line ++ token.text ++ rest.flatMap Token.text := by
      rw [htoks, List.flatMap_cons] at htext
      rw [List.append_assoc, htext, quoteMark_append_afterMark]
    rw [hline, fillFrom_eq_singleton, ← hself]
    intro front last back hrest hne
    have hlast : last ∈ (tokens (afterMark line)).tail := by
      rw [htoks, List.tail_cons, hrest]
      exact List.mem_append_right _ List.mem_cons_self
    rcases h with hfits | hone
    · -- a later word ends a part of the line
      have hword : ' ' ∉ last.word := space_not_mem_word (List.mem_of_mem_tail hlast)
      have hsplit : last.text = last.gap ++ last.word := rfl
      rw [hrest, List.flatMap_append, List.flatMap_cons, hsplit] at hself
      simp only [← List.append_assoc] at hself
      rw [hself, trimSpaces_append_word hne hword, List.length_append] at hfits
      rw [hsplit, ← List.append_assoc]
      exact (Nat.le_add_right _ _).trans hfits
    · -- there is no later word
      rw [tail_tokens] at hlast
      exact absurd (word_eq_nil_of_spaces hone.eq_space_of_mem_afterToken hlast) hne

/-! ## Lines within the width -/

/-- A line is its quote marks, some spaces and one word. -/
inductive IsMarkedWord (mark : Text) : Text → Prop
  | mk {gap word : Text} (hgap : ∀ c ∈ gap, c = ' ') (hne : word ≠ []) (hword : ' ' ∉ word) :
      IsMarkedWord mark (mark ++ (gap ++ word))

/-- Without the spaces at its end the line is within the width, or it has a single word. -/
def IsBounded (width : Nat) (mark line : Text) : Prop :=
  (trimSpaces line).length ≤ width ∨ IsMarkedWord mark (trimSpaces line)

/-- A line within the width is bounded. -/
theorem isBounded_of_length_le {width : Nat} {mark line : Text} (h : line.length ≤ width) :
    IsBounded width mark line :=
  .inl ((length_trimSpaces_le line).trans h)

/-- So is a line of a single word, however long the word is. -/
theorem isBounded_of_word {width : Nat} {mark gap word : Text} (hgap : ∀ c ∈ gap, c = ' ')
    (hne : word ≠ []) (hword : ' ' ∉ word) : IsBounded width mark (mark ++ (gap ++ word)) := by
  have hself : trimSpaces (mark ++ gap ++ word) = mark ++ gap ++ word := by
    have htrim := trimSpaces_append_word hne hword (mark ++ gap) []
    have hnil : trimSpaces [] = [] := rfl
    rwa [List.append_nil, hnil, List.append_nil] at htrim
  right
  rw [← List.append_assoc, hself, List.append_assoc]
  exact .mk hgap hne hword

/-- Spaces at the end of a line do not count. -/
theorem IsBounded.append_spaces {width : Nat} {mark line spaces : Text}
    (h : IsBounded width mark line) (hspaces : ∀ c ∈ spaces, c = ' ') :
    IsBounded width mark (line ++ spaces) := by
  rwa [IsBounded, trimSpaces_append_spaces hspaces]

/-- Every line that goes on from a bounded one is bounded. -/
theorem isBounded_of_mem_fillFrom {width : Nat} {mark current : Text} {toks : List Token}
    (htoks : ∀ token ∈ toks, (∀ c ∈ token.gap, c = ' ') ∧ ' ' ∉ token.word)
    (hcurrent : IsBounded width mark current) {l : Text}
    (hl : l ∈ fillFrom width mark current toks) : IsBounded width mark l := by
  induction toks generalizing current with
  | nil =>
    rw [fillFrom, List.mem_singleton] at hl
    rwa [hl]
  | cons token rest ih =>
    obtain ⟨hgap, hword⟩ := htoks token List.mem_cons_self
    have hrest := fun t ht => htoks t (List.mem_cons_of_mem token ht)
    rw [fillFrom] at hl
    split at hl
    · next hstay =>
      -- an empty word stays on the line as well, and adds spaces alone
      refine ih hrest ?_ hl
      rw [Bool.or_eq_true, List.isEmpty_iff, decide_eq_true_eq] at hstay
      rcases hstay with hnil | hfits
      · rw [hnil, List.append_nil]
        exact hcurrent.append_spaces hgap
      · refine isBounded_of_length_le ?_
        simpa [Nat.add_assoc] using hfits
    · next hbreak =>
      rcases List.mem_cons.1 hl with rfl | hl
      · exact hcurrent.append_spaces hgap
      · have hne : token.word ≠ [] := by
          rintro hnil
          simp [hnil] at hbreak
        -- the next line starts behind the mark with a word, of any length
        have hnext : IsBounded width mark (mark ++ ([] ++ token.word)) :=
          isBounded_of_word (by simp) hne hword
        exact ih hrest hnext hl

/-- There is a first word unless the text is nothing but spaces. -/
theorem eq_space_of_word_eq_nil {t : Text} {token : Token} {rest : List Token}
    (htoks : tokens t = token :: rest) (h : token.word = []) : ∀ c ∈ t, c = ' ' := by
  cases t with
  | nil => simp
  | cons c t =>
    rw [tokens, List.cons.injEq] at htoks
    -- a word goes on from the first character behind the spaces
    have hrest : (c :: t).dropWhile (· == ' ') = [] := by
      by_contra hne
      obtain ⟨d, u, hdrop⟩ := List.exists_cons_of_ne_nil hne
      have hnot := List.head?_dropWhile_not (· == ' ') (c :: t)
      have hkeep : (d != ' ') = true := by simpa [hdrop, bne] using hnot
      rw [← htoks.1, firstToken, hdrop, List.takeWhile_cons_of_pos (p := (· != ' ')) hkeep] at h
      exact List.cons_ne_nil _ _ h
    intro d hd
    simpa using List.dropWhile_eq_nil_iff.1 hrest d hd

/-- The lines that a line becomes are bounded, unless it has no word. -/
theorem isBounded_of_mem_wrapLine {width : Nat} (hwidth : 0 < width) {line l : Text}
    (hl : l ∈ wrapLine width line) :
    IsBounded width (quoteMark line) l ∨ l = line ∧ ∀ c ∈ afterMark line, c = ' ' := by
  -- a line without a word is left as it is, however long
  by_cases hblank : ∀ c ∈ afterMark line, c = ' '
  · rw [wrapLine_eq_self (.inr (atMostOneWord_of_spaces hblank)), List.mem_singleton] at hl
    exact .inr ⟨hl, hblank⟩
  · left
    obtain ⟨hline, hshort⟩ | ⟨token, rest, htoks, hline⟩ := wrapLine_cases width line
    · rw [hline, List.mem_singleton] at hl
      rw [hl]
      rcases hshort with hzero | hfits | hnil
      · omega
      · exact isBounded_of_length_le hfits
      · exact absurd (by simp [hnil]) hblank
    · have hwords : ∀ t ∈ tokens (afterMark line), (∀ c ∈ t.gap, c = ' ') ∧ ' ' ∉ t.word :=
        fun _ ht => ⟨eq_space_of_mem_gap ht, space_not_mem_word ht⟩
      rw [htoks] at hwords
      obtain ⟨hgap, hword⟩ := hwords token List.mem_cons_self
      have hne : token.word ≠ [] := fun hnil => hblank (eq_space_of_word_eq_nil htoks hnil)
      rw [hline] at hl
      exact isBounded_of_mem_fillFrom (fun t ht => hwords t (List.mem_cons_of_mem token ht))
        (isBounded_of_word hgap hne hword) hl

/-- The next line starts with the quote marks and a word that would not have fit into the line. -/
def IsForced (width : Nat) (mark line next : Text) : Prop :=
  mark <+: next ∧ width < line.length + ((next.drop mark.length).takeWhile (· != ' ')).length

/-- A break stands only where the next word does not fit. -/
theorem isChain_fillFrom {width : Nat} {mark current : Text} {toks : List Token}
    (htoks : ∀ token ∈ toks, ' ' ∉ token.word) :
    (fillFrom width mark current toks).IsChain (IsForced width mark) := by
  induction toks generalizing current with
  | nil => exact List.isChain_singleton current
  | cons token rest ih =>
    have hrest := fun t ht => htoks t (List.mem_cons_of_mem token ht)
    rw [fillFrom]
    split
    · exact ih hrest
    · next hbreak =>
      obtain ⟨r, ls, hlines⟩ := exists_fillFrom_eq_cons width mark token.word rest
      have hchain : (fillFrom width mark (mark ++ token.word) rest).IsChain (IsForced width mark) :=
        ih hrest
      rw [hlines] at hchain ⊢
      refine List.isChain_cons_cons.2 ⟨⟨List.prefix_append _ _, ?_⟩, hchain⟩
      -- the next line starts with the word that did not fit
      have hword : ' ' ∉ token.word := htoks token List.mem_cons_self
      rw [List.drop_left, List.takeWhile_append_of_pos (ne_space_of_mem_word hword)]
      simp only [Bool.or_eq_true, decide_eq_true_eq, not_or] at hbreak
      simp only [List.length_append]
      omega

/-- Every break of a line is forced: the first word of the next line does not fit any more. -/
theorem isChain_isForced_wrapLine (width : Nat) (line : Text) :
    (wrapLine width line).IsChain (IsForced width (quoteMark line)) := by
  obtain ⟨hline, -⟩ | ⟨token, rest, htoks, hline⟩ := wrapLine_cases width line
  · rw [hline]
    exact List.isChain_singleton line
  · rw [hline]
    refine isChain_fillFrom fun t ht => space_not_mem_word (t := afterMark line) ?_
    rw [htoks]
    exact List.mem_cons_of_mem token ht

/-! ## Broken texts -/

/-- The lines of the group are as long as the width allows. -/
structure IsFilled (width : Nat) (line mark : Text) (group : List Text) : Prop where
  /-- A line that is not bounded is the whole line, which then has no word. -/
  bounded : ∀ l ∈ group, IsBounded width mark l ∨
    l = line ∧ ∃ spaces, line = mark ++ spaces ∧ ∀ c ∈ spaces, c = ' '
  /-- No break comes too early. -/
  forced : group.IsChain (IsForced width mark)

/-- A broken line is filled. -/
theorem isFilled_wrapLine {width : Nat} (hwidth : 0 < width) (line : Text) :
    IsFilled width line (quoteMark line) (wrapLine width line) := by
  refine ⟨fun l hl => ?_, isChain_isForced_wrapLine width line⟩
  refine (isBounded_of_mem_wrapLine hwidth hl).imp_right fun ⟨hself, hblank⟩ => ⟨hself, ?_⟩
  exact ⟨afterMark line, (quoteMark_append_afterMark line).symm, hblank⟩

/-- The lines of a broken text are the groups that make up its lines, and each group is as long as
the width allows. -/
theorem exists_filled_groups_wrap {width : Nat} (hwidth : 0 < width) (t : Text) :
    ∃ groups : List (List Text), lines (wrap width t) = groups.flatten ∧
      List.Forall₂ (fun line group => ∃ mark, IsQuoteMark line mark ∧ IsGroupOf line mark group ∧
        IsFilled width line mark group) (lines (normalizeBreaks t)) groups := by
  refine exists_groups_of_wrapLine fun line => ?_
  exact ⟨quoteMark line, isQuoteMark_iff.2 rfl, isGroupOf_wrapLine width line,
    isFilled_wrapLine hwidth line⟩

/-- A quotation with words of many lengths, and an empty line of a deeper one. -/
def longWords : Text := "> one  two elsewhere to  \r\n>>>>>>>>> ".toList

/-- Two of its lines are longer than the width. -/
theorem exists_filled_groups_wrap_longWords :
    0 < 8 ∧ lines (wrap 8 longWords) =
        ["> one  ", "> two ", "> elsewhere ", "> to  ", ">>>>>>>>> "].map String.toList ∧
      ∃ groups : List (List Text), lines (wrap 8 longWords) = groups.flatten ∧
        List.Forall₂ (fun line group => ∃ mark, IsQuoteMark line mark ∧
          IsGroupOf line mark group ∧ IsFilled 8 line mark group)
          (lines (normalizeBreaks longWords)) groups := by
  exact ⟨by decide, by decide +kernel, exists_filled_groups_wrap (by decide) longWords⟩

/-- An empty line of a quotation. -/
def deepQuote : Text := ">>>> ".toList

/-- Quote marks are not broken, so they may be longer than the width without any word. -/
theorem not_isBounded_deepQuote :
    lines (normalizeBreaks deepQuote) = [deepQuote] ∧ IsQuoteMark deepQuote deepQuote ∧
      lines (wrap 3 deepQuote) = [deepQuote] ∧ ¬ IsBounded 3 deepQuote deepQuote := by
  have hmark : deepQuote = quoteMark deepQuote := by decide
  refine ⟨by decide, isQuoteMark_iff.2 hmark, by decide +kernel, ?_⟩
  rintro (hfits | hword)
  · exact absurd hfits (by decide)
  · -- the line is shorter than its quote marks without their space
    have hlength : ∀ {l : Text}, IsMarkedWord deepQuote l → deepQuote.length ≤ l.length := by
      rintro _ ⟨-, -, -⟩
      exact (List.prefix_append _ _).length_le
    exact absurd (hlength hword) (by decide)

/-! ## Breaking again -/

/-- The quote marks that a line is broken with are quote marks of the lines that it becomes. -/
theorem quoteMark_prefix_quoteMark_append (line t : Text) :
    quoteMark line <+: quoteMark (quoteMark line ++ t) := by
  obtain ⟨marks, hmarks, ⟨hne, hmark⟩ | ⟨hmark, -, -⟩⟩ := quoteMark_cases line
  · -- the space ends the marks, whatever follows it
    have hreassoc : marks ++ [' '] ++ t = marks ++ ' ' :: t := by simp
    refine ⟨[], ?_⟩
    rw [List.append_nil, hmark, hreassoc, quoteMark_marks_append hmarks (by simp),
      if_pos ⟨hne, rfl⟩]
  · -- more of them may follow
    obtain ⟨more, u, rfl, hmore, hu⟩ := exists_marks t
    have hall : ∀ c ∈ marks ++ more, c = '>' := fun c hc =>
      (List.mem_append.1 hc).elim (hmarks c) (hmore c)
    rw [hmark, ← List.append_assoc, quoteMark_marks_append hall hu]
    split
    · rw [List.append_assoc]
      exact List.prefix_append _ _
    · exact List.prefix_append _ _

/-- What is put behind the quote marks of a line may begin with marks that are counted among them.
What stands behind all of them is an end of it. -/
theorem afterMark_suffix (line t : Text) : afterMark (quoteMark line ++ t) <:+ t := by
  obtain ⟨more, hmore⟩ := quoteMark_prefix_quoteMark_append line t
  have hself := quoteMark_append_afterMark (quoteMark line ++ t)
  rw [← hmore, List.append_assoc] at hself
  exact ⟨more, List.append_cancel_left hself⟩

/-- A line behind whose quote marks a single word stands has no other words, whatever are taken for
its quote marks. -/
theorem atMostOneWord_of_isMarkedWord {line l : Text}
    (h : IsMarkedWord (quoteMark line) (trimSpaces l)) : AtMostOneWord (afterMark l) := by
  obtain ⟨spaces, hspaces, hl⟩ := exists_eq_dropEndWhile_append (· == ' ') l
  change l = trimSpaces l ++ spaces at hl
  generalize trimSpaces l = trimmed at h hl
  obtain @⟨gap, word, hgap, -, hword⟩ := h
  -- behind the marks of the line there are spaces, one word and spaces
  have hone : AtMostOneWord (gap ++ (word ++ spaces)) :=
    .mk hgap hword fun c hc => by simpa using hspaces c hc
  have hline : l = quoteMark line ++ (gap ++ (word ++ spaces)) := by
    rw [hl]
    simp only [List.append_assoc]
  rw [hline]
  exact hone.of_suffix (afterMark_suffix line _)

/-- Each line that is made of one is such that it would be left as it is. -/
theorem fits_or_atMostOneWord_of_mem_wrapLine {width : Nat} (hwidth : 0 < width) {line l : Text}
    (hl : l ∈ wrapLine width line) :
    (trimSpaces l).length ≤ width ∨ AtMostOneWord (afterMark l) := by
  obtain (hfits | hword) | ⟨rfl, hblank⟩ := isBounded_of_mem_wrapLine hwidth hl
  · exact .inl hfits
  · exact .inr (atMostOneWord_of_isMarkedWord hword)
  · exact .inr (atMostOneWord_of_spaces hblank)

/-- The lines that are left as they are. -/
theorem wrapLine_eq_self_iff {width : Nat} (hwidth : 0 < width) {line : Text} :
    wrapLine width line = [line] ↔
      (trimSpaces line).length ≤ width ∨ AtMostOneWord (afterMark line) := by
  refine ⟨fun h => ?_, wrapLine_eq_self⟩
  have hself : line ∈ wrapLine width line := by rw [h, List.mem_singleton]
  exact fits_or_atMostOneWord_of_mem_wrapLine hwidth hself

/-- No line of a broken line is broken again at a width that is no smaller, nor without one. -/
theorem wrapLine_of_mem_wrapLine {width width' : Nat} (hwidth : 0 < width)
    (h : width' = 0 ∨ width ≤ width') {line l : Text} (hl : l ∈ wrapLine width line) :
    wrapLine width' l = [l] := by
  rcases h with rfl | hle
  · rfl
  · refine wrapLine_eq_self ?_
    exact (fits_or_atMostOneWord_of_mem_wrapLine hwidth hl).imp_left fun hfits => hfits.trans hle

/-- Breaking a broken text again changes nothing, at a width that is no smaller or without one. -/
theorem wrap_wrap_of_le {width width' : Nat} (hwidth : 0 < width)
    (h : width' = 0 ∨ width ≤ width') (t : Text) :
    wrap width' (wrap width t) = wrap width t := by
  have hlines : (lines (wrap width t)).flatMap (wrapLine width') = lines (wrap width t) := by
    rw [lines_wrap, List.flatMap_assoc]
    refine List.flatMap_congr fun line _ => ?_
    have hself : ∀ l ∈ wrapLine width line, wrapLine width' l = [l] := fun l hl =>
      wrapLine_of_mem_wrapLine hwidth h hl
    rw [List.flatMap_congr hself, List.flatMap_singleton']
  rw [wrap, normalizeBreaks_eq_self (cr_not_mem_wrap width t), hlines, unlines_lines]

/-- A line of which two breaks make quotations. -/
def falseQuote : Text := "aaaa >b  >>cccccc > d".toList

/-- They are not broken again. -/
theorem wrap_wrap_of_le_falseQuote :
    0 < 5 ∧ (6 = 0 ∨ 5 ≤ 6) ∧
      lines (wrap 5 falseQuote) = ["aaaa ", ">b  ", ">>cccccc ", "> d"].map String.toList ∧
      wrap 6 (wrap 5 falseQuote) = wrap 5 falseQuote := by
  refine ⟨by decide, by decide, by decide +kernel, ?_⟩
  exact wrap_wrap_of_le (by decide) (by decide) falseQuote

end Mailroom.Plain
