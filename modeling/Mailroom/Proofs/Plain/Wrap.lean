import Mathlib.Data.List.Chain
import Mailroom.Plain.Wrap
import Mailroom.Proofs.Text.LineBreaks

/-!
# Broken lines

The lines that one line becomes are its quote marks before every piece of the rest.  The pieces
are the rest of the line in its order, and a break stands only between a space and a word that
is not the first.  `Fills` says this without widths: it is the relation between tokens and the
pieces that some choice of breaks makes of them, and `fillFrom` is one such choice.

## Key results

* `getLast?_gap`          a space stands before every word but the first
* `wrapLine_cases`        a line stays as it is, or its tokens are filled into lines
* `exists_wrapLine_eq`    a line becomes its quote marks before the pieces of the rest
* `quoteMark_append`      the first piece is enough to find the quote marks again
* `lines_wrap`            the lines of the broken text are those of its lines in order
-/

namespace Mailroom.Plain

open Text

/-! ## Tokens -/

/-- The first token of a text that is not empty holds something, so that the rest is shorter. -/
theorem text_firstToken_ne_nil (c : Char) (t : Text) : (firstToken (c :: t)).text ≠ [] := by
  intro h
  have htext := text_firstToken_append (c :: t)
  have hlt := length_afterToken_lt c t
  rw [h, List.nil_append] at htext
  rw [htext] at hlt
  exact Nat.lt_irrefl _ hlt

/-- What follows a word starts with a space, if there is anything. -/
theorem head?_afterToken {t : Text} {c : Char} (h : (afterToken t).head? = some c) : c = ' ' := by
  simpa using not_of_head?_dropWhile h

/-- A text that starts with a space has a first token with a gap. -/
theorem getLast?_gap_firstToken (t : Text) :
    (firstToken (' ' :: t)).gap.getLast? = some ' ' := by
  have hgap : (firstToken (' ' :: t)).gap = ' ' :: t.takeWhile (· == ' ') := rfl
  rw [hgap]
  rcases List.eq_nil_or_concat (t.takeWhile (· == ' ')) with hnil | ⟨front, c, hconcat⟩
  · rw [hnil]
    rfl
  · have hc : c ∈ t.takeWhile (· == ' ') := by simp [hconcat]
    have hspace : c = ' ' := by simpa using List.all_eq_true.1 List.all_takeWhile c hc
    rw [hconcat, hspace, List.concat_eq_append, ← List.cons_append, List.getLast?_concat]

/-- A space stands before every word but the first. -/
theorem getLast?_gap {t : Text} {token : Token} (h : token ∈ (tokens t).tail) :
    token.gap.getLast? = some ' ' := by
  -- the tokens of a text that follows a word all have a gap
  have hall : ∀ u : Text, (∀ c, u.head? = some c → c = ' ') →
      ∀ token ∈ tokens u, token.gap.getLast? = some ' ' := by
    intro u
    fun_induction tokens u with
    | case1 => simp
    | case2 c u ih =>
      intro hu token htoken
      obtain rfl := hu c rfl
      rcases List.mem_cons.1 htoken with rfl | htoken
      · exact getLast?_gap_firstToken u
      · exact ih (fun _ => head?_afterToken) token htoken
  cases t with
  | nil => simp [tokens] at h
  | cons c t =>
    rw [tokens, List.tail_cons] at h
    exact hall _ (fun _ => head?_afterToken) token h

/-- The characters of a gap are spaces. -/
theorem eq_space_of_mem_gap {t : Text} {token : Token} (h : token ∈ tokens t) :
    ∀ c ∈ token.gap, c = ' ' := by
  fun_induction tokens t with
  | case1 => exact absurd h List.not_mem_nil
  | case2 c t ih =>
    rcases List.mem_cons.1 h with rfl | h
    · intro c hc
      simpa using List.all_eq_true.1 List.all_takeWhile c hc
    · exact ih h

/-- A word holds no space. -/
theorem space_not_mem_word {t : Text} {token : Token} (h : token ∈ tokens t) :
    ' ' ∉ token.word := by
  fun_induction tokens t with
  | case1 => exact absurd h List.not_mem_nil
  | case2 c t ih =>
    rcases List.mem_cons.1 h with rfl | h
    · intro hspace
      have hword := List.all_eq_true.1 List.all_takeWhile ' ' hspace
      exact absurd hword (by decide)
    · exact ih h

/-- The later tokens are those of what follows the first word. -/
theorem tail_tokens (t : Text) : (tokens t).tail = tokens (afterToken t) := by
  cases t with
  | nil =>
    have hnil : afterToken [] = [] := rfl
    rw [hnil, tokens, List.tail_nil]
  | cons c t => rw [tokens, List.tail_cons]

/-! ## Quote marks -/

/-- What follows the quote marks of a line. -/
def afterMark (line : Text) : Text := line.drop (quoteMark line).length

/-- Every line is some quote marks and a text that starts with none. -/
theorem exists_marks (line : Text) :
    ∃ marks t, line = marks ++ t ∧ (∀ c ∈ marks, c = '>') ∧ t.head? ≠ some '>' := by
  refine ⟨line.takeWhile (· == '>'), line.dropWhile (· == '>'), ?_, ?_, ?_⟩
  · exact List.takeWhile_append_dropWhile.symm
  · intro c hc
    simpa using List.all_eq_true.1 List.all_takeWhile c hc
  · intro h
    exact absurd (not_of_head?_dropWhile h) (by decide)

/-- The quote marks of a line end where something else stands. -/
theorem takeWhile_marks_append {marks t : Text} (hmarks : ∀ c ∈ marks, c = '>')
    (ht : t.head? ≠ some '>') : (marks ++ t).takeWhile (· == '>') = marks := by
  refine takeWhile_append_of_head? (fun c hc => by simp [hmarks c hc]) fun c hc => ?_
  rw [beq_eq_false_iff_ne]
  rintro rfl
  exact ht hc

/-- The space after the quote marks belongs to them. -/
theorem quoteMark_marks_append {marks t : Text} (hmarks : ∀ c ∈ marks, c = '>')
    (ht : t.head? ≠ some '>') : quoteMark (marks ++ t) =
      if marks ≠ [] ∧ t.head? = some ' ' then marks ++ [' '] else marks := by
  rw [quoteMark, takeWhile_marks_append hmarks ht, List.drop_left]
  simp only [Bool.and_eq_true, Bool.not_eq_true', List.isEmpty_eq_false_iff, beq_iff_eq, ne_eq]

/-- A line starts with its quote marks. -/
theorem quoteMark_prefix_line (line : Text) : quoteMark line <+: line := by
  obtain ⟨marks, t, rfl, hmarks, ht⟩ := exists_marks line
  rw [quoteMark_marks_append hmarks ht]
  split
  · next h =>
    obtain ⟨u, rfl⟩ := List.head?_eq_some_iff.1 h.2
    exact ⟨u, by simp⟩
  · exact List.prefix_append marks t

/-- A line is its quote marks and what follows them. -/
theorem quoteMark_append_afterMark (line : Text) : quoteMark line ++ afterMark line = line :=
  List.prefix_iff_eq_append.1 (quoteMark_prefix_line line)

/-- The quote marks end with a space, or no more of them follow. -/
theorem quoteMark_cases (line : Text) : ∃ marks, (∀ c ∈ marks, c = '>') ∧
    (marks ≠ [] ∧ quoteMark line = marks ++ [' '] ∨
      quoteMark line = marks ∧ (afterMark line).head? ≠ some '>' ∧
        ¬ (marks ≠ [] ∧ (afterMark line).head? = some ' ')) := by
  obtain ⟨marks, t, rfl, hmarks, ht⟩ := exists_marks line
  refine ⟨marks, hmarks, ?_⟩
  by_cases hspace : marks ≠ [] ∧ t.head? = some ' '
  · exact .inl ⟨hspace.1, by rw [quoteMark_marks_append hmarks ht, if_pos hspace]⟩
  · -- the quote marks are all marks that there are
    have hmark : quoteMark (marks ++ t) = marks := by
      rw [quoteMark_marks_append hmarks ht, if_neg hspace]
    have hafter : afterMark (marks ++ t) = t := by rw [afterMark, hmark, List.drop_left]
    rw [hafter]
    exact .inr ⟨hmark, ht, hspace⟩

/-- The first piece is enough to find the quote marks again. -/
theorem quoteMark_append {line p : Text} (hp : p <+: afterMark line)
    (hne : p = [] → afterMark line = []) : quoteMark (quoteMark line ++ p) = quoteMark line := by
  have hhead : p.head? = (afterMark line).head? := by
    by_cases hnil : p = []
    · rw [hne hnil, hnil]
    · exact head?_eq_of_prefix_ne_nil hp hnil
  obtain ⟨marks, hmarks, ⟨hne, hmark⟩ | ⟨hmark, hquote, hspace⟩⟩ := quoteMark_cases line
  · have hreassoc : marks ++ [' '] ++ p = marks ++ ' ' :: p := by simp
    rw [hmark, hreassoc, quoteMark_marks_append hmarks (by simp), if_pos ⟨hne, rfl⟩]
  · rw [← hhead] at hquote hspace
    rw [hmark, quoteMark_marks_append hmarks hquote, if_neg hspace]

/-! ## Breaks -/

/-- The pieces go on with the text by the tokens, each of which stays in the piece or starts
a new one with its word. -/
inductive Fills : Text → List Token → List Text → Prop
  | done (s : Text) : Fills s [] [s]
  | same {s : Text} {token : Token} {rest : List Token} {pieces : List Text}
      (h : Fills (s ++ token.text) rest pieces) : Fills s (token :: rest) pieces
  | next {s : Text} {token : Token} {rest : List Token} {pieces : List Text}
      (hword : token.word ≠ []) (h : Fills token.word rest pieces) :
      Fills s (token :: rest) ((s ++ token.gap) :: pieces)

namespace Fills

variable {s : Text} {toks : List Token} {pieces : List Text}

/-- Nothing is lost or added. -/
theorem flatten (h : Fills s toks pieces) : pieces.flatten = s ++ toks.flatMap Token.text := by
  induction h with
  | done s => simp
  | same h ih => rw [ih, List.flatMap_cons, List.append_assoc]
  | next hword h ih =>
    rw [List.flatten_cons, ih, List.flatMap_cons, Token.text]
    simp only [List.append_assoc]

/-- The first piece goes on with the text. -/
theorem exists_eq_cons (h : Fills s toks pieces) : ∃ r ps, pieces = (s ++ r) :: ps := by
  induction h with
  | done s => exact ⟨[], [], by simp⟩
  | @same s token rest pieces h ih =>
    obtain ⟨r, ps, hpieces⟩ := ih
    exact ⟨token.text ++ r, ps, by rw [hpieces, List.append_assoc]⟩
  | @next s token rest pieces hword h ih => exact ⟨token.gap, pieces, rfl⟩

/-- A break stands between a space and a word. -/
theorem isChain (h : Fills s toks pieces) (htoks : ∀ token ∈ toks, token.gap.getLast? = some ' ') :
    pieces.IsChain fun p q =>
      p.getLast? = some ' ' ∧ ∃ token ∈ toks, token.word ≠ [] ∧ token.word <+: q := by
  induction h with
  | done s => exact List.isChain_singleton _
  | @same s token rest pieces h ih =>
    have hrest := ih fun t ht => htoks t (List.mem_cons_of_mem token ht)
    exact hrest.imp fun p q ⟨hp, t, ht, hq⟩ => ⟨hp, t, List.mem_cons_of_mem token ht, hq⟩
  | @next s token rest pieces hword h ih =>
    have hrest := ih fun t ht => htoks t (List.mem_cons_of_mem token ht)
    obtain ⟨r, ps, rfl⟩ := h.exists_eq_cons
    -- the new piece starts with the word of the token
    refine List.isChain_cons_cons.2 ⟨⟨?_, token, List.mem_cons_self, hword, ?_⟩, ?_⟩
    · rw [List.getLast?_append, htoks token List.mem_cons_self]
      rfl
    · exact List.prefix_append token.word r
    · exact hrest.imp fun p q ⟨hp, t, ht, hq⟩ => ⟨hp, t, List.mem_cons_of_mem token ht, hq⟩

end Fills

/-- Filling lines is one choice of breaks. -/
theorem exists_fillFrom_eq (width : Nat) (mark s : Text) (toks : List Token) :
    ∃ pieces, fillFrom width mark (mark ++ s) toks = pieces.map (mark ++ ·) ∧
      Fills s toks pieces := by
  induction toks generalizing s with
  | nil => exact ⟨[s], rfl, .done s⟩
  | cons token rest ih =>
    rw [fillFrom]
    split
    · obtain ⟨pieces, hlines, hfills⟩ := ih (s ++ token.text)
      refine ⟨pieces, ?_, .same hfills⟩
      rw [← hlines, Token.text]
      simp only [List.append_assoc]
    · next hbreak =>
      -- an empty word never starts a line
      have hword : token.word ≠ [] := by
        rintro h
        simp [h] at hbreak
      obtain ⟨pieces, hlines, hfills⟩ := ih token.word
      refine ⟨(s ++ token.gap) :: pieces, ?_, .next hword hfills⟩
      rw [hlines, List.map_cons, List.append_assoc]

/-- The first of the lines goes on with the text. -/
theorem exists_fillFrom_eq_cons (width : Nat) (mark s : Text) (toks : List Token) :
    ∃ r ls, fillFrom width mark (mark ++ s) toks = (mark ++ (s ++ r)) :: ls := by
  obtain ⟨pieces, hlines, hfills⟩ := exists_fillFrom_eq width mark s toks
  obtain ⟨r, ps, rfl⟩ := hfills.exists_eq_cons
  exact ⟨r, ps.map (mark ++ ·), hlines⟩

/-- The pieces of a text that is broken between spaces and words. -/
structure IsBroken (t : Text) (pieces : List Text) : Prop where
  ne_nil : pieces ≠ []
  flatten : pieces.flatten = t
  /-- A break stands between a space and a word that is not the first. -/
  isChain : pieces.IsChain fun p q =>
    p.getLast? = some ' ' ∧ ∃ token ∈ (tokens t).tail, token.word ≠ [] ∧ token.word <+: q

/-- A text that is not broken is a single piece. -/
theorem isBroken_singleton (t : Text) : IsBroken t [t] :=
  ⟨List.cons_ne_nil t [], by simp, List.isChain_singleton t⟩

namespace IsBroken

variable {t : Text} {pieces : List Text}

/-- The first piece is a start of the text, and empty only with it. -/
theorem exists_eq_cons (h : IsBroken t pieces) :
    ∃ p ps, pieces = p :: ps ∧ p <+: t ∧ (p = [] → t = []) := by
  obtain ⟨p, ps, rfl⟩ := List.exists_cons_of_ne_nil h.ne_nil
  have htext : p ++ ps.flatten = t := h.flatten
  refine ⟨p, ps, rfl, ⟨ps.flatten, htext⟩, ?_⟩
  rintro rfl
  -- a space ends a piece that another one follows
  cases ps with
  | nil => exact htext.symm
  | cons q qs => exact nomatch (List.isChain_cons_cons.1 h.isChain).1.1

/-- The last piece is an end of the text, and empty only with it. -/
theorem exists_eq_concat (h : IsBroken t pieces) :
    ∃ ps p, pieces = ps ++ [p] ∧ p <:+ t ∧ (p = [] → t = []) := by
  obtain ⟨ps, p, rfl⟩ := (List.eq_nil_or_concat' pieces).resolve_left h.ne_nil
  have htext : ps.flatten ++ p = t := by simpa using h.flatten
  refine ⟨ps, p, rfl, ⟨ps.flatten, htext⟩, ?_⟩
  rintro rfl
  -- a piece that follows another one starts with a word
  rcases List.eq_nil_or_concat' ps with rfl | ⟨qs, q, rfl⟩
  · exact htext.symm
  · have hlast := (List.isChain_append.1 h.isChain).2.2 q (by simp) [] (by simp)
    obtain ⟨token, -, hword, hprefix⟩ := hlast.2
    exact absurd (List.prefix_nil.1 hprefix) hword

/-- Every other piece starts with a word that is not the first of the text. -/
theorem exists_word_of_mem_tail (h : IsBroken t pieces) {q : Text} (hq : q ∈ pieces.tail) :
    ∃ token ∈ (tokens t).tail, token.word ≠ [] ∧ token.word <+: q := by
  obtain ⟨p, ps, rfl, -, -⟩ := h.exists_eq_cons
  have hchain := h.isChain
  clear h
  -- by the pieces: each but the first stands behind a break
  induction ps generalizing p with
  | nil => simp at hq
  | cons r ps ih =>
    obtain ⟨hbreak, hrest⟩ := List.isChain_cons_cons.1 hchain
    rcases List.mem_cons.1 hq with rfl | hq
    · exact hbreak.2
    · exact ih r hq hrest

end IsBroken

/-- A line stays as it is, or its tokens but the first are filled into lines.  The first token
follows the quote marks. -/
theorem wrapLine_cases (width : Nat) (line : Text) :
    wrapLine width line = [line] ∧ (width = 0 ∨ line.length ≤ width ∨ afterMark line = []) ∨
      ∃ token rest, tokens (afterMark line) = token :: rest ∧
        wrapLine width line =
          fillFrom width (quoteMark line) (quoteMark line ++ token.text) rest := by
  by_cases hshort : width = 0 ∨ line.length ≤ width
  · have hline : wrapLine width line = [line] := by rw [wrapLine, if_pos (by simpa using hshort)]
    exact .inl ⟨hline, hshort.imp_right .inl⟩
  · have hline : wrapLine width line = fill width (quoteMark line) (tokens (afterMark line)) := by
      rw [wrapLine, if_neg (by simpa using hshort), afterMark]
    rw [hline]
    cases htext : afterMark line with
    -- quote marks alone are the line
    | nil =>
      have hself := quoteMark_append_afterMark line
      rw [htext, List.append_nil] at hself
      rw [tokens, fill, hself]
      exact .inl ⟨rfl, .inr (.inr rfl)⟩
    | cons c t =>
      rw [tokens, fill, List.append_assoc]
      exact .inr ⟨_, _, rfl, rfl⟩

/-- A line becomes its quote marks before the pieces of the rest. -/
theorem exists_wrapLine_eq (width : Nat) (line : Text) :
    ∃ pieces, wrapLine width line = pieces.map (quoteMark line ++ ·) ∧
      IsBroken (afterMark line) pieces := by
  obtain ⟨hline, -⟩ | ⟨token, rest, htoks, hline⟩ := wrapLine_cases width line
  · refine ⟨[afterMark line], ?_, isBroken_singleton _⟩
    rw [hline, List.map_singleton, quoteMark_append_afterMark]
  · have htext := flatMap_text_tokens (afterMark line)
    -- the words that can start a line have a space before them
    have hgap : ∀ token ∈ (tokens (afterMark line)).tail, token.gap.getLast? = some ' ' :=
      fun _ h => getLast?_gap h
    rw [htoks] at htext hgap
    obtain ⟨pieces, hlines, hfills⟩ := exists_fillFrom_eq width (quoteMark line) token.text rest
    refine ⟨pieces, hline.trans hlines, ?_, ?_, ?_⟩
    · obtain ⟨r, ps, rfl⟩ := hfills.exists_eq_cons
      exact List.cons_ne_nil _ _
    · rw [hfills.flatten, ← List.flatMap_cons, htext]
    · rw [htoks]
      exact hfills.isChain hgap

/-! ## The broken text -/

/-- Every line becomes one line at least. -/
theorem wrapLine_ne_nil (width : Nat) (line : Text) : wrapLine width line ≠ [] := by
  obtain ⟨pieces, hlines, hbroken⟩ := exists_wrapLine_eq width line
  rw [hlines, Ne, List.map_eq_nil_iff]
  exact hbroken.ne_nil

/-- Breaking a line brings in no other characters. -/
theorem mem_of_mem_wrapLine {width : Nat} {line l : Text} {c : Char}
    (hl : l ∈ wrapLine width line) (hc : c ∈ l) : c ∈ line := by
  obtain ⟨pieces, hlines, hbroken⟩ := exists_wrapLine_eq width line
  rw [hlines] at hl
  obtain ⟨p, hp, rfl⟩ := List.mem_map.1 hl
  rw [← quoteMark_append_afterMark line]
  rcases List.mem_append.1 hc with hc | hc
  · exact List.mem_append_left _ hc
  · have hflat : c ∈ pieces.flatten := List.mem_flatten.2 ⟨p, hp, hc⟩
    rw [hbroken.flatten] at hflat
    exact List.mem_append_right _ hflat

/-- The lines of the broken text are those of its lines in order. -/
theorem lines_wrap (width : Nat) (t : Text) :
    lines (wrap width t) = (lines (normalizeBreaks t)).flatMap (wrapLine width) := by
  rw [wrap]
  apply lines_unlines
  -- there is a line, and no line holds a line break
  · obtain ⟨line, rest, hlines⟩ := List.exists_cons_of_ne_nil (lines_ne_nil (normalizeBreaks t))
    rw [hlines, List.flatMap_cons]
    exact List.append_ne_nil_of_left_ne_nil (wrapLine_ne_nil width line) _
  · intro l hl hnewline
    obtain ⟨line, hline, hl⟩ := List.mem_flatMap.1 hl
    exact newline_not_mem_of_mem_lines hline (mem_of_mem_wrapLine hl hnewline)

/-- No CR is left: line breaks are LF after wrapping. -/
theorem cr_not_mem_wrap (width : Nat) (t : Text) : '\r' ∉ wrap width t := by
  intro hmem
  obtain ⟨l, hl, hc⟩ := (mem_unlines hmem).resolve_left (by decide)
  obtain ⟨line, hline, hl⟩ := List.mem_flatMap.1 hl
  have hcr := (infix_of_mem_splitWhere hline).subset (mem_of_mem_wrapLine hl hc)
  exact cr_not_mem_normalizeBreaks t hcr

end Mailroom.Plain
