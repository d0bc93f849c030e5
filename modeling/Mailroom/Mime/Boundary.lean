import Mailroom.Text.Quoted

/-!
# Boundaries

The parts of a container stand between delimiters, two dashes and a boundary that the
container declares.  The declaration is looked for anywhere in a text.  What precedes the
first delimiter is no part, nor is anything from the closing delimiter on, which two more
dashes follow.
-/

namespace Mailroom.Mime.Boundary

open Text

/-- The token at the start of a text: up to the closing quote, or to the end of the line
when the quote is not closed, after an opening quote; otherwise up to the first semicolon or
white space. -/
def token (t : Text) : Text :=
  let bare := t.takeWhile fun c => !(c == ';' || isBlank c)
  match t with
  | [] => []
  | quote :: inner =>
    if quote == '"' || quote == '\'' then
      match cut? [quote] inner with
      | some (quoted, _) => quoted
      | none => firstLine inner
    else bare

/-- The boundary that a text declares after the word itself: an equals sign and a token
that is not empty without its quotes. -/
def declared? (t : Text) : Option Text :=
  (after? ['='] (trimStart t)).bind fun value =>
    let boundary := unquote (token (trimStart value))
    if boundary.isEmpty then none else some boundary

/-- The first boundary that a text declares. -/
def find? (t : Text) : Option Text :=
  match _h : cutAnyCase? "boundary".toList t with
  | none => none
  | some (_, rest) => (declared? rest).or (find? rest)
termination_by t.length
decreasing_by exact length_lt_of_cutBy? (by decide) _h

/-- The delimiter of the parts of a container. -/
def delimiter (boundary : Text) : Text := '-' :: '-' :: boundary

/-- The parts of a body, blank ones left out.  An empty boundary delimits nothing. -/
def parts (boundary body : Text) : List Text :=
  if boundary.isEmpty then []
  else
    -- without what precedes the first delimiter, up to the closing one
    (((splitOn (delimiter boundary) body).drop 1).takeWhile
      (!startsWith ['-', '-'] ·)).filter (!isBlankText ·)

end Mailroom.Mime.Boundary
