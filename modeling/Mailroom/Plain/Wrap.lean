import Mailroom.Text.Basic

/-!
# Soft line breaks

A line longer than the width is broken before the first word that does not fit.  The spaces
before that word stay at the end of the broken line, where they tell the break from a hard
one, and every line of a quotation repeats its quote marks.  Words are never divided, so a
line may stay too long; the width zero breaks nothing.

## Key results

* `flatMap_text_tokens`   a text is the concatenation of its tokens
-/

namespace Mailroom.Plain

open Text

/-- A word with the spaces before it. -/
structure Token where
  gap : Text
  word : Text
  deriving DecidableEq, Repr

/-- The characters of a token. -/
def Token.text (token : Token) : Text := token.gap ++ token.word

/-- The first word of a text with the spaces before it. -/
def firstToken (t : Text) : Token :=
  ⟨t.takeWhile (· == ' '), (t.dropWhile (· == ' ')).takeWhile (· != ' ')⟩

/-- What follows the first word of a text. -/
def afterToken (t : Text) : Text := (t.dropWhile (· == ' ')).dropWhile (· != ' ')

/-- A text is its first token and what follows it. -/
theorem text_firstToken_append (t : Text) : (firstToken t).text ++ afterToken t = t := by
  rw [firstToken, Token.text, afterToken, List.append_assoc, List.takeWhile_append_dropWhile,
    List.takeWhile_append_dropWhile]

/-- The first token of a text that is not empty is not empty. -/
theorem length_afterToken_lt (c : Char) (t : Text) :
    (afterToken (c :: t)).length < (c :: t).length := by
  have hle (p : Char → Bool) (u : Text) : (u.dropWhile p).length ≤ u.length :=
    (List.dropWhile_suffix p).length_le
  -- the first character goes with the gap if it is a space, and else with the word
  by_cases h : c = ' '
  · subst h
    have h1 := hle (· == ' ') t
    have h2 := hle (· != ' ') (t.dropWhile (· == ' '))
    simp only [afterToken, List.dropWhile_cons, beq_self_eq_true, if_true, List.length_cons]
    omega
  · have h1 := hle (· != ' ') t
    simp only [afterToken, List.dropWhile_cons, beq_iff_eq, h, if_false, bne_iff_ne, ne_eq,
      not_false_eq_true, if_true, List.length_cons]
    omega

/-- The words of a line, each with the spaces before it.  Spaces at the end of the line come
with an empty word. -/
def tokens : Text → List Token
  | [] => []
  | c :: t => firstToken (c :: t) :: tokens (afterToken (c :: t))
termination_by t => t.length
decreasing_by exact length_afterToken_lt c t

/-- A text is the concatenation of its tokens. -/
theorem flatMap_text_tokens (t : Text) : (tokens t).flatMap Token.text = t := by
  fun_induction tokens t with
  | case1 => rfl
  | case2 c t ih => rw [List.flatMap_cons, ih, text_firstToken_append]

/-- The quote marks that a line starts with, with one space after them if there is one. -/
def quoteMark (line : Text) : Text :=
  let marks := line.takeWhile (· == '>')
  if !marks.isEmpty && (line.drop marks.length).head? == some ' ' then marks ++ [' '] else marks

/-- Goes on with the line `current` by the given tokens, breaking it where the next word
does not fit.  Every new line starts with `mark`. -/
def fillFrom (width : Nat) (mark current : Text) : List Token → List Text
  | [] => [current]
  | token :: rest =>
    -- spaces at the end of the line never break it
    if token.word.isEmpty || current.length + token.gap.length + token.word.length ≤ width then
      fillFrom width mark (current ++ token.gap ++ token.word) rest
    else (current ++ token.gap) :: fillFrom width mark (mark ++ token.word) rest

/-- The lines that the given tokens fill, each after `mark`.  There is no break before the
first word. -/
def fill (width : Nat) (mark : Text) : List Token → List Text
  | [] => [mark]
  | token :: rest => fillFrom width mark (mark ++ token.gap ++ token.word) rest

/-- The lines that one line becomes. -/
def wrapLine (width : Nat) (line : Text) : List Text :=
  if width == 0 || line.length ≤ width then [line]
  else
    let mark := quoteMark line
    fill width mark (tokens (line.drop mark.length))

/-- The text with its long lines broken and LF as its line break. -/
def wrap (width : Nat) (t : Text) : Text :=
  unlines ((lines (normalizeBreaks t)).flatMap (wrapLine width))

end Mailroom.Plain
