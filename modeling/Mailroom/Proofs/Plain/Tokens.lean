import Mailroom.Proofs.Plain.Wrap

/-!
# Cutting a text into words

A text is cut into tokens round by round.  Each round takes the spaces that the text starts with
and the word behind them, and goes on with what is left.  Nothing in the form of this loop says
that it ends: a gap may be empty, and so may a word.  They are never empty together, because a
text that starts with no space starts with a word, so every round takes a character and there are
no more rounds than characters.

A round ends before a space or at the end of the text.  So every token but the first has a gap,
and a token without a word can only be the last one.  This tells the tokens of a text from any
other way to cut it into gaps and words.

## Key results

* `round_iff`             what a round cuts off
* `Rounds.length_add_le`  every round takes a character
* `rounds_nil_iff`        the rounds end with the tokens of the text
* `isCutInto_iff`         the tokens are the only pieces of their form
* `rounds_tokens`         all of it for every text
-/

namespace Mailroom.Plain

open Text

/-! ## One round -/

/-- A round cuts the token off a text that is not empty: all the spaces at its start, and the
characters behind them up to the next space. -/
structure Round (t : Text) (token : Token) (rest : Text) : Prop where
  ne_nil : t ≠ []
  text_append : token.text ++ rest = t
  gap : ∀ c ∈ token.gap, c = ' '
  word : ' ' ∉ token.word
  gap_ends : (token.word ++ rest).head? ≠ some ' '
  word_ends : ∀ c ∈ rest.head?, c = ' '

variable {t rest : Text} {token : Token} {toks : List Token}

/-- Every text that is not empty goes through a round, in one way. -/
theorem round_iff : Round t token rest ↔ t ≠ [] ∧ token = firstToken t ∧ rest = afterToken t := by
  constructor
  · rintro ⟨hne, rfl, hgap, hword, hgapEnds, hwordEnds⟩
    have hgap' : ∀ c ∈ token.gap, (c == ' ') = true := fun c hc => by simp [hgap c hc]
    have hword' : ∀ c ∈ token.word, (c != ' ') = true := by
      intro c hc
      rw [bne_iff_ne]
      rintro rfl
      exact hword hc
    have hgapEnds' : ∀ c ∈ (token.word ++ rest).head?, (c == ' ') = false := by
      intro c hc
      rw [beq_eq_false_iff_ne]
      rintro rfl
      exact hgapEnds hc
    have hwordEnds' : ∀ c ∈ rest.head?, (c != ' ') = false := fun c hc => by
      simp [hwordEnds c hc]
    refine ⟨hne, ?_, ?_⟩
    · rw [firstToken, Token.text, List.append_assoc, takeWhile_append_of_head? hgap' hgapEnds',
        dropWhile_append_of_head? hgap' hgapEnds', takeWhile_append_of_head? hword' hwordEnds']
    · rw [afterToken, Token.text, List.append_assoc, dropWhile_append_of_head? hgap' hgapEnds',
        dropWhile_append_of_head? hword' hwordEnds']
  · rintro ⟨hne, rfl, rfl⟩
    obtain ⟨c, u, rfl⟩ := List.exists_cons_of_ne_nil hne
    have hmem : firstToken (c :: u) ∈ tokens (c :: u) := by
      rw [tokens]
      exact List.mem_cons_self
    refine ⟨hne, text_firstToken_append _, eq_space_of_mem_gap hmem, space_not_mem_word hmem, ?_,
      fun _ => head?_afterToken⟩
    -- the word and the rest are what stands behind the spaces
    have hrest : (firstToken (c :: u)).word ++ afterToken (c :: u) =
        (c :: u).dropWhile (· == ' ') := List.takeWhile_append_dropWhile
    rw [hrest]
    intro hspace
    exact absurd (not_of_head?_dropWhile hspace) (by decide)

/-- There is a round as long as something is left. -/
theorem round_firstToken (c : Char) (t : Text) :
    Round (c :: t) (firstToken (c :: t)) (afterToken (c :: t)) :=
  round_iff.2 ⟨List.cons_ne_nil c t, rfl, rfl⟩

/-- A round takes at least one character. -/
theorem Round.length_lt (h : Round t token rest) : rest.length < t.length := by
  obtain ⟨hne, rfl, rfl⟩ := round_iff.1 h
  obtain ⟨c, u, rfl⟩ := List.exists_cons_of_ne_nil hne
  exact length_afterToken_lt c u

/-- A round takes the first of the tokens. -/
theorem Round.tokens_eq (h : Round t token rest) : tokens t = token :: tokens rest := by
  obtain ⟨hne, rfl, rfl⟩ := round_iff.1 h
  obtain ⟨c, u, rfl⟩ := List.exists_cons_of_ne_nil hne
  rw [tokens]

/-! ## All rounds -/

/-- Rounds have cut the tokens off the text, one behind the other, and `rest` is left of it. -/
inductive Rounds (t : Text) : List Token → Text → Prop
  | start : Rounds t [] t
  | next {toks : List Token} {token : Token} {rest rest' : Text} (h : Rounds t toks rest)
      (hround : Round rest token rest') : Rounds t (toks ++ [token]) rest'

/-- There are no more rounds than characters that they have taken. -/
theorem Rounds.length_add_le (h : Rounds t toks rest) : toks.length + rest.length ≤ t.length := by
  induction h with
  | start => simp
  | next h hround ih =>
    have hlt := hround.length_lt
    rw [List.length_append, List.length_singleton]
    omega

/-- The tokens that are cut off and those of what is left are the tokens of the text. -/
theorem Rounds.tokens_eq (h : Rounds t toks rest) : tokens t = toks ++ tokens rest := by
  induction h with
  | start => rfl
  | next h hround ih => rw [ih, hround.tokens_eq, List.append_assoc, List.singleton_append]

/-- The rounds go on until nothing is left. -/
theorem Rounds.finish (h : Rounds t toks rest) : Rounds t (toks ++ tokens rest) [] := by
  fun_induction tokens rest generalizing toks with
  | case1 => rwa [List.append_nil]
  | case2 c u ih =>
    have hfinish := ih (h.next (round_firstToken c u))
    rwa [List.append_assoc, List.singleton_append] at hfinish

/-- The rounds end with the tokens of the text, and with no others. -/
theorem rounds_nil_iff : Rounds t toks [] ↔ toks = tokens t := by
  constructor
  · intro h
    rw [h.tokens_eq, tokens, List.append_nil]
  · rintro rfl
    exact Rounds.start.finish

/-! ## The form of the tokens -/

/-- The text is cut into gaps of spaces and words without one.  No token is empty, only the first
may have no gap and only the last no word. -/
structure IsCutInto (t : Text) (toks : List Token) : Prop where
  flatMap_text : toks.flatMap Token.text = t
  text_ne_nil : ∀ token ∈ toks, token.text ≠ []
  gap : ∀ token ∈ toks, ∀ c ∈ token.gap, c = ' '
  word : ∀ token ∈ toks, ' ' ∉ token.word
  gap_ne_nil : ∀ token ∈ toks.tail, token.gap ≠ []
  word_ne_nil : ∀ token ∈ toks.dropLast, token.word ≠ []

/-- A token is followed by a space or by nothing, so a token without a word is the last one. -/
theorem Round.eq_nil_of_word_eq_nil (h : Round t token rest) (hword : token.word = []) :
    rest = [] := by
  have hends := h.gap_ends
  rw [hword, List.nil_append] at hends
  cases rest with
  | nil => rfl
  | cons c u => exact absurd (congrArg some (h.word_ends c rfl)) hends

/-- No token is empty. -/
theorem text_ne_nil_of_mem_tokens (h : token ∈ tokens t) : token.text ≠ [] := by
  fun_induction tokens t with
  | case1 => exact absurd h List.not_mem_nil
  | case2 c u ih =>
    rcases List.mem_cons.1 h with rfl | h
    · exact text_firstToken_ne_nil c u
    · exact ih h

/-- Only the last token may have no word. -/
theorem word_ne_nil_of_mem_dropLast (h : token ∈ (tokens t).dropLast) : token.word ≠ [] := by
  fun_induction tokens t with
  | case1 => exact absurd h List.not_mem_nil
  | case2 c u ih =>
    intro hword
    cases hrest : tokens (afterToken (c :: u)) with
    | nil =>
      rw [hrest] at h
      exact absurd h List.not_mem_nil
    | cons second more =>
      rw [hrest, List.dropLast_cons_of_ne_nil (List.cons_ne_nil second more), ← hrest] at h
      rcases List.mem_cons.1 h with rfl | h
      · -- a round without a word takes all that is left, so no token would follow
        have hround := round_firstToken c u
        rw [hround.eq_nil_of_word_eq_nil hword, tokens] at hrest
        exact List.cons_ne_nil _ _ hrest.symm
      · exact ih h hword

/-- The tokens of a text are cut as `IsCutInto` says. -/
theorem isCutInto_tokens (t : Text) : IsCutInto t (tokens t) where
  flatMap_text := flatMap_text_tokens t
  text_ne_nil _ := text_ne_nil_of_mem_tokens
  gap _ := eq_space_of_mem_gap
  word _ := space_not_mem_word
  gap_ne_nil token h := by
    intro hnil
    have hspace := getLast?_gap h
    rw [hnil] at hspace
    exact nomatch hspace
  word_ne_nil _ := word_ne_nil_of_mem_dropLast

namespace IsCutInto

/-- What follows the first token is cut into the others. -/
theorem tail (h : IsCutInto t (token :: toks)) : IsCutInto (toks.flatMap Token.text) toks where
  flatMap_text := rfl
  text_ne_nil token' h' := h.text_ne_nil token' (List.mem_cons_of_mem token h')
  gap token' h' := h.gap token' (List.mem_cons_of_mem token h')
  word token' h' := h.word token' (List.mem_cons_of_mem token h')
  gap_ne_nil token' h' := h.gap_ne_nil token' (List.mem_of_mem_tail h')
  word_ne_nil token' h' := by
    have hne : toks ≠ [] := by
      rintro rfl
      exact nomatch h'
    apply h.word_ne_nil
    rw [List.dropLast_cons_of_ne_nil hne]
    exact List.mem_cons_of_mem token h'

/-- The first token is what a round cuts off. -/
theorem round (h : IsCutInto t (token :: toks)) : Round t token (toks.flatMap Token.text) := by
  have htext := h.flatMap_text
  rw [List.flatMap_cons] at htext
  refine ⟨?_, htext, h.gap token List.mem_cons_self, h.word token List.mem_cons_self, ?_, ?_⟩
  · rw [← htext]
    exact List.append_ne_nil_of_left_ne_nil (h.text_ne_nil token List.mem_cons_self) _
  · intro hspace
    cases hword : token.word with
    | nil =>
      -- a token without a word is the last one
      cases toks with
      | nil => simp [hword] at hspace
      | cons second more => exact h.word_ne_nil token (by simp) hword
    | cons c u =>
      rw [hword, List.cons_append, List.head?_cons, Option.some.injEq] at hspace
      exact h.word token List.mem_cons_self (by simp [hword, hspace])
  · cases toks with
    | nil => simp
    | cons second more =>
      -- the next token starts with a space
      obtain ⟨c, u, hgap⟩ := List.exists_cons_of_ne_nil (h.gap_ne_nil second List.mem_cons_self)
      have hc : c = ' ' := h.gap second (by simp) c (by simp [hgap])
      simp [Token.text, hgap, hc]

/-- The text ends with a space where the last token has no word. -/
theorem exists_word_eq_nil_iff (h : IsCutInto t toks) :
    (∃ token ∈ toks, token.word = []) ↔ t.getLast? = some ' ' := by
  rcases List.eq_nil_or_concat' toks with rfl | ⟨front, last, rfl⟩
  · have hnil : t = [] := h.flatMap_text.symm
    simp [hnil]
  · have hlast : last ∈ front ++ [last] := by simp
    have htext := h.flatMap_text
    rw [List.flatMap_append, List.flatMap_singleton] at htext
    have hfront := h.word_ne_nil
    rw [List.dropLast_concat] at hfront
    -- only the last token can be without a word
    have hword : (∃ token ∈ front ++ [last], token.word = []) ↔ last.word = [] := by
      constructor
      · rintro ⟨token, hmem, hnil⟩
        rcases List.mem_append.1 hmem with hmem | hmem
        · exact absurd hnil (hfront token hmem)
        · rwa [← List.mem_singleton.1 hmem]
      · exact fun hnil => ⟨last, hlast, hnil⟩
    rw [hword, ← htext, List.getLast?_append_of_ne_nil _ (h.text_ne_nil last hlast), Token.text]
    by_cases hnil : last.word = []
    · have hgap : last.gap ≠ [] := by
        have hne := h.text_ne_nil last hlast
        rwa [Token.text, hnil, List.append_nil] at hne
      rw [hnil, List.append_nil, List.getLast?_eq_some_getLast hgap,
        h.gap last hlast _ (List.getLast_mem hgap)]
      simp
    · rw [List.getLast?_append_of_ne_nil _ hnil]
      refine iff_of_false hnil fun hspace => ?_
      exact h.word last hlast (List.mem_of_getLast? hspace)

end IsCutInto

/-- The tokens of a text are the only way to cut it into gaps and words. -/
theorem isCutInto_iff : IsCutInto t toks ↔ toks = tokens t := by
  constructor
  · intro h
    induction toks generalizing t with
    | nil =>
      have hnil : t = [] := h.flatMap_text.symm
      rw [hnil, tokens]
    | cons token toks ih => rw [h.round.tokens_eq, ← ih h.tail]
  · rintro rfl
    exact isCutInto_tokens t

/-- The rounds that cut a text take a character each, so there are no more of them than characters,
and there is another one while something is left.  They end with the tokens of the text.  These
give the text back, are cut in the only way in which each but the first has a gap and each but the
last a word, and the last has none exactly where the text ends with a space. -/
theorem rounds_tokens (t : Text) :
    (∀ toks rest, Rounds t toks rest →
      toks.length + rest.length ≤ t.length ∧
      (∀ token rest', Round rest token rest' → rest'.length < rest.length) ∧
      (rest ≠ [] → ∃ token rest', Round rest token rest')) ∧
    (∀ toks, Rounds t toks [] ↔ toks = tokens t) ∧
    (∀ toks, IsCutInto t toks ↔ toks = tokens t) ∧
    ((∃ token ∈ tokens t, token.word = []) ↔ t.getLast? = some ' ') := by
  refine ⟨fun toks rest h => ⟨h.length_add_le, fun _ _ => Round.length_lt, fun hne => ?_⟩,
    fun _ => rounds_nil_iff, fun _ => isCutInto_iff, (isCutInto_tokens t).exists_word_eq_nil_iff⟩
  exact ⟨firstToken rest, afterToken rest, round_iff.2 ⟨hne, rfl, rfl⟩⟩

/-- An indented line with a space at its end. -/
def indented : Text := "  a  bc ".toList

/-- Two more rounds follow the first, and the last of them takes a gap without a word. -/
theorem rounds_tokens_indented :
    Rounds indented [⟨"  ".toList, "a".toList⟩] "  bc ".toList ∧
      (∃ token rest', Round "  bc ".toList token rest' ∧ rest'.length < "  bc ".toList.length) ∧
      tokens indented =
        [⟨"  ".toList, "a".toList⟩, ⟨"  ".toList, "bc".toList⟩, ⟨" ".toList, []⟩] ∧
      ∃ token ∈ tokens indented, token.word = [] := by
  have hrun : Rounds indented [⟨"  ".toList, "a".toList⟩] "  bc ".toList :=
    .next .start (round_iff.2 (by decide))
  have hsecond : Rounds indented [⟨"  ".toList, "a".toList⟩, ⟨"  ".toList, "bc".toList⟩] [' '] :=
    .next hrun (round_iff.2 (by decide))
  have hend : Rounds indented
      [⟨"  ".toList, "a".toList⟩, ⟨"  ".toList, "bc".toList⟩, ⟨" ".toList, []⟩] [] :=
    .next hsecond (round_iff.2 (by decide))
  obtain ⟨hrounds, hnil, -, hword⟩ := rounds_tokens indented
  obtain ⟨-, hless, hmore⟩ := hrounds _ _ hrun
  obtain ⟨token, rest', hround⟩ := hmore (by decide)
  exact ⟨hrun, ⟨token, rest', hround, hless token rest' hround⟩, ((hnil _).1 hend).symm,
    hword.2 (by decide)⟩

end Mailroom.Plain
