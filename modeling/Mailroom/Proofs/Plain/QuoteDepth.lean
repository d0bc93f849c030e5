import Mailroom.Proofs.Plain.Wrap

/-!
# The depth of quotations

Every line that a quoted line becomes starts with its quote marks, so breaking never lessens the
depth of a quotation.  It can add to it: a line broken before a word that starts with a quote
mark goes on with that word right after the marks, unless a space parts them.  A line keeps its
depth at every width exactly when it has no such word, the first one aside.

## Key results

* `quoteDepth_le_of_mem_wrapLine`    no line that a line becomes is quoted less
* `quoteDepth_of_mem_wrapLine`       a line without such a word keeps its depth
* `quoteDepth_wrap_iff`              no other line keeps it at every width
* `not_quoteDepth_unquoted`          a break turns a line into a quotation
-/

namespace Mailroom.Plain

open Text

/-- How deep a line is quoted: the number of quote marks at its start. -/
def quoteDepth (line : Text) : Nat := (line.takeWhile (· == '>')).length

/-- A space ends the quote marks of the line, or no word but the first starts with one. -/
def KeepsDepth (line : Text) : Prop :=
  (quoteMark line).getLast? = some ' ' ∨
    ∀ token ∈ (tokens (afterMark line)).tail, token.word.head? ≠ some '>'

instance (line : Text) : Decidable (KeepsDepth line) := inferInstanceAs (Decidable (_ ∨ _))

/-! ## Depth of a line -/

/-- A text that is not quoted starts with no mark. -/
theorem quoteDepth_eq_zero_iff {t : Text} : quoteDepth t = 0 ↔ t.head? ≠ some '>' := by
  cases t with
  | nil => simp [quoteDepth]
  | cons c t =>
    by_cases hc : c = '>' <;> simp [quoteDepth, hc]

/-- Marks before a text add to its depth. -/
theorem quoteDepth_marks_append {marks : Text} (hmarks : ∀ c ∈ marks, c = '>') (t : Text) :
    quoteDepth (marks ++ t) = marks.length + quoteDepth t := by
  rw [quoteDepth, List.takeWhile_append_of_pos fun c hc => by simp [hmarks c hc],
    List.length_append, quoteDepth]

/-- Behind the quote marks of a line other marks count only if no space comes between. -/
theorem quoteDepth_quoteMark_append (line p : Text) :
    quoteDepth (quoteMark line ++ p) = quoteDepth line +
      if (quoteMark line).getLast? = some ' ' then 0 else quoteDepth p := by
  have hself := quoteMark_append_afterMark line
  obtain ⟨marks, hmarks, ⟨-, hmark⟩ | ⟨hmark, hquote, -⟩⟩ := quoteMark_cases line
  · have hspace (t : Text) : quoteDepth (' ' :: t) = 0 := quoteDepth_eq_zero_iff.2 (by simp)
    -- behind the space nothing more is counted
    have hdepth (t : Text) : quoteDepth (quoteMark line ++ t) = marks.length := by
      rw [hmark, List.append_assoc, quoteDepth_marks_append hmarks, List.singleton_append, hspace,
        Nat.add_zero]
    have hline : quoteDepth line = marks.length := by
      rw [← hdepth (afterMark line), hself]
    rw [hdepth, hline, if_pos (by rw [hmark, List.getLast?_concat]), Nat.add_zero]
  · have hline : quoteDepth line = marks.length := by
      rw [← hself, hmark, quoteDepth_marks_append hmarks, quoteDepth_eq_zero_iff.2 hquote,
        Nat.add_zero]
    have hend : marks.getLast? ≠ some ' ' := by
      intro h
      exact absurd (hmarks ' ' (List.mem_of_getLast? h)) (by decide)
    rw [hmark, quoteDepth_marks_append hmarks, hline, if_neg hend]

/-! ## Broken lines -/

/-- No line that a line becomes is quoted less. -/
theorem quoteDepth_le_of_mem_wrapLine {width : Nat} {line l : Text}
    (hl : l ∈ wrapLine width line) : quoteDepth line ≤ quoteDepth l := by
  obtain ⟨pieces, hlines, -⟩ := exists_wrapLine_eq width line
  rw [hlines] at hl
  obtain ⟨p, -, rfl⟩ := List.mem_map.1 hl
  rw [quoteDepth_quoteMark_append]
  exact Nat.le_add_right _ _

/-- Without a space after the marks, no other mark follows them. -/
theorem head?_afterMark {line : Text} (hend : (quoteMark line).getLast? ≠ some ' ') :
    (afterMark line).head? ≠ some '>' := by
  obtain ⟨marks, -, ⟨-, hmark⟩ | ⟨-, hquote, -⟩⟩ := quoteMark_cases line
  · exact absurd (by rw [hmark, List.getLast?_concat]) hend
  · exact hquote

/-- A line whose breaks stand before words without quote marks keeps its depth. -/
theorem quoteDepth_of_mem_wrapLine {width : Nat} {line l : Text} (hline : KeepsDepth line)
    (hl : l ∈ wrapLine width line) : quoteDepth l = quoteDepth line := by
  obtain ⟨pieces, hlines, hbroken⟩ := exists_wrapLine_eq width line
  rw [hlines] at hl
  obtain ⟨p, hp, rfl⟩ := List.mem_map.1 hl
  rw [quoteDepth_quoteMark_append]
  split
  · rfl
  · next hend =>
    rw [Nat.add_eq_left, quoteDepth_eq_zero_iff]
    have hp : p <+: afterMark line ∨ p ∈ pieces.tail := by
      obtain ⟨first, ps, rfl, hprefix, -⟩ := hbroken.exists_eq_cons
      refine (List.mem_cons.1 hp).imp_left ?_
      rintro rfl
      exact hprefix
    intro hhead
    have hne : p ≠ [] := by
      rintro rfl
      exact nomatch hhead
    rcases hp with hprefix | hp
    · -- the first piece starts as the text does
      exact head?_afterMark hend (head?_eq_of_prefix_ne_nil hprefix hne ▸ hhead)
    · -- any other piece starts with a word
      obtain ⟨token, htoken, hword, hstart⟩ := hbroken.exists_word_of_mem_tail hp
      exact hline.resolve_left hend token htoken (head?_eq_of_prefix_ne_nil hstart hword ▸ hhead)

/-! ## The narrowest lines -/

/-- No two words fit into a line of one character. -/
theorem exists_mem_fillFrom_one {mark current : Text} {toks : List Token}
    (hcurrent : current ≠ []) (hgap : ∀ token ∈ toks, token.gap ≠ []) {token : Token}
    (h : token ∈ toks) (hword : token.word ≠ []) :
    ∃ l ∈ fillFrom 1 mark current toks, mark ++ token.word <+: l := by
  induction toks generalizing current with
  | nil => exact nomatch h
  | cons first rest ih =>
    have hrest := fun t ht => hgap t (List.mem_cons_of_mem first ht)
    rw [fillFrom]
    by_cases hfirst : first.word = []
    · have htoken : token ∈ rest := by
        refine (List.mem_cons.1 h).resolve_left ?_
        rintro rfl
        exact hword hfirst
      have hne : current ++ first.gap ++ first.word ≠ [] := by simp [hcurrent]
      rw [if_pos (by simp [hfirst])]
      exact ih hne hrest htoken
    · have hcurrent := List.length_pos_iff.2 hcurrent
      have hgapFirst := List.length_pos_iff.2 (hgap first List.mem_cons_self)
      have hlong : ¬ (first.word.isEmpty ||
          decide (current.length + first.gap.length + first.word.length ≤ 1)) = true := by
        simp only [Bool.or_eq_true, List.isEmpty_iff, decide_eq_true_eq, hfirst, false_or]
        omega
      rw [if_neg hlong]
      rcases List.mem_cons.1 h with rfl | htoken
      · obtain ⟨r, ls, hfill⟩ := exists_fillFrom_eq_cons 1 mark token.word rest
        refine ⟨mark ++ (token.word ++ r), ?_, ?_⟩
        · rw [hfill]
          exact List.mem_cons_of_mem _ List.mem_cons_self
        · exact (List.prefix_append_right_inj mark).2 (List.prefix_append token.word r)
      · have hne : mark ++ first.word ≠ [] := by simp [hfirst]
        obtain ⟨l, hl, hstart⟩ := ih hne hrest htoken
        exact ⟨l, List.mem_cons_of_mem _ hl, hstart⟩

/-- At the smallest width a line starts with every word but the first. -/
theorem exists_mem_wrapLine_one {line : Text} {token : Token}
    (htoken : token ∈ (tokens (afterMark line)).tail) (hword : token.word ≠ []) :
    ∃ l ∈ wrapLine 1 line, quoteMark line ++ token.word <+: l := by
  have hgap : ∀ t ∈ (tokens (afterMark line)).tail, t.gap ≠ [] := by
    intro t ht hnil
    have hspace := getLast?_gap ht
    rw [hnil] at hspace
    cases hspace
  cases htext : afterMark line with
  | nil =>
    rw [htext, tokens] at htoken
    cases htoken
  | cons c t =>
    rw [htext, tokens, List.tail_cons] at htoken hgap
    -- two words make the line longer than the width
    have hlong : 1 < line.length := by
      have hrest : 0 < (afterToken (c :: t)).length := by
        refine List.length_pos_iff.2 fun hnil => ?_
        rw [hnil, tokens] at htoken
        cases htoken
      have hlt := length_afterToken_lt c t
      rw [← quoteMark_append_afterMark line, List.length_append, htext]
      omega
    obtain ⟨-, hshort⟩ | ⟨first, rest, htoks, hline⟩ := wrapLine_cases 1 line
    · rw [htext] at hshort
      rcases hshort with hzero | hfits | hnil
      · omega
      · omega
      · exact absurd hnil (List.cons_ne_nil c t)
    · rw [htext, tokens, List.cons.injEq] at htoks
      obtain ⟨rfl, rfl⟩ := htoks
      have hcurrent : quoteMark line ++ (firstToken (c :: t)).text ≠ [] :=
        List.append_ne_nil_of_right_ne_nil _ (text_firstToken_ne_nil c t)
      rw [hline]
      exact exists_mem_fillFrom_one hcurrent hgap htoken hword

/-- A line that keeps its depth at the smallest width has no word that would add to it. -/
theorem keepsDepth_of_wrapLine_one {line : Text}
    (h : ∀ l ∈ wrapLine 1 line, quoteDepth l = quoteDepth line) : KeepsDepth line := by
  unfold KeepsDepth
  by_cases hend : (quoteMark line).getLast? = some ' '
  · exact .inl hend
  · right
    intro token htoken hhead
    have hword : token.word ≠ [] := by
      intro hnil
      rw [hnil] at hhead
      exact nomatch hhead
    obtain ⟨l, hl, r, rfl⟩ := exists_mem_wrapLine_one htoken hword
    -- the line that starts with the word is quoted more deeply
    have hdepth := h _ hl
    rw [List.append_assoc, quoteDepth_quoteMark_append, if_neg hend, Nat.add_eq_left,
      quoteDepth_eq_zero_iff] at hdepth
    have hstart := head?_eq_of_prefix_ne_nil (List.prefix_append token.word r) hword
    exact hdepth (hstart ▸ hhead)

/-! ## Texts -/

/-- The lines of a broken text come from its lines, and no line becomes less deeply quoted.  A
line keeps its depth at every width exactly when no break can stand before a quote mark. -/
theorem quoteDepth_wrap_iff (t : Text) :
    (∀ width, lines (wrap width t) = (lines (normalizeBreaks t)).flatMap (wrapLine width)) ∧
      ∀ line ∈ lines (normalizeBreaks t),
        (∀ width, ∀ l ∈ wrapLine width line, quoteDepth line ≤ quoteDepth l) ∧
        ((∀ width, ∀ l ∈ wrapLine width line, quoteDepth l = quoteDepth line) ↔
          KeepsDepth line) := by
  refine ⟨fun width => lines_wrap width t, fun line _ => ⟨?_, ?_, ?_⟩⟩
  · intro width l hl
    exact quoteDepth_le_of_mem_wrapLine hl
  · intro h
    exact keepsDepth_of_wrapLine_one (h 1)
  · intro hkeeps width l hl
    exact quoteDepth_of_mem_wrapLine hkeeps hl

/-- A quotation with a quote mark before one of its words. -/
def reply : Text := ">> one >two three".toList

/-- The space after the first quote marks keeps the other one from adding to them. -/
theorem quoteDepth_reply :
    reply ∈ lines (normalizeBreaks reply) ∧ KeepsDepth reply ∧
      lines (wrap 8 reply) = [">> one ".toList, ">> >two ".toList, ">> three".toList] ∧
      ∀ l ∈ wrapLine 8 reply, quoteDepth l = quoteDepth reply := by
  have hline : reply ∈ lines (normalizeBreaks reply) := by decide +kernel
  have hkeeps : KeepsDepth reply := by decide +kernel
  refine ⟨hline, hkeeps, by decide +kernel, ?_⟩
  exact ((quoteDepth_wrap_iff reply).2 reply hline).2.2 hkeeps 8

/-- A line of two words that is no quotation. -/
def unquoted : Text := "aaaa >b".toList

/-- A break before its second word makes a quotation of it. -/
theorem not_quoteDepth_unquoted :
    lines (normalizeBreaks unquoted) = [unquoted] ∧ quoteDepth unquoted = 0 ∧
      lines (wrap 5 unquoted) = ["aaaa ".toList, ">b".toList] ∧
      ¬ ∀ l ∈ wrapLine 5 unquoted, quoteDepth l = quoteDepth unquoted := by
  decide +kernel

end Mailroom.Plain
