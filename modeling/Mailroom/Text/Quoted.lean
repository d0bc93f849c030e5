import Mailroom.Text.Blank

/-!
# Quoted values

A value of a header may stand between double or between single quotes.  Only one pair is
taken off, and white space does not count on either side of it.
-/

namespace Mailroom.Text

/-- What stands between two marks `quote` at the two ends of the text. -/
def between? (quote : Char) : Text → Option Text
  | [] => none
  | c :: t =>
    if c == quote && t.getLast? == some quote then some t.dropLast else none

/-- The text without the white space around it and one pair of quotes around that, the
rest trimmed as well.  Double quotes are tried before single ones. -/
def unquote (t : Text) : Text :=
  let inner := trim t
  trim (((between? '"' inner).or (between? '\'' inner)).getD inner)

end Mailroom.Text
