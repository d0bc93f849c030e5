import Mailroom.Text.Blank

/-!
# Markup in plain text

A plain text may carry stray tags and character references.  They are looked for line by
line: a line that holds any is laid out as a document of its own, and every other line is
kept as it stands but for white space at its end.  A bracket before a space is no markup.

The function that lays out a document is a parameter.
-/

namespace Mailroom.Plain

open Text

/-- A tag opens at the start of the text. -/
def opensTag : Text → Bool
  | '<' :: c :: _ => c.isAlpha || c == '/' || c == '!'
  | _ => false

/-- ASCII letters and digits, at least one, and a semicolon stand at the start of the
text. -/
def startsName (t : Text) : Bool :=
  !(t.takeWhile Char.isAlphanum).isEmpty && (t.dropWhile Char.isAlphanum).head? == some ';'

/-- A character reference opens at the start of the text. -/
def opensReference : Text → Bool
  | '&' :: '#' :: t => startsName t
  | '&' :: t => startsName t
  | _ => false

/-- A tag or a character reference opens somewhere in the text. -/
def hasMarkup : Text → Bool
  | [] => false
  | c :: t => opensTag (c :: t) || opensReference (c :: t) || hasMarkup t

/-- A line without its markup. -/
def cleanLine (render : Text → Text) (line : Text) : Text :=
  if hasMarkup line then trim (render line) else trimEnd line

/-- A plain text without the markup in its lines, without empty lines at its start and
without white space at its end. -/
def stripMarkup (render : Text → Text) (t : Text) : Text :=
  let cleaned := unlines ((lines (normalizeBreaks t)).map (cleanLine render))
  trimEnd (cleaned.dropWhile (· == '\n'))

end Mailroom.Plain
