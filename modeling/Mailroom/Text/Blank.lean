import Mailroom.Text.Basic

/-!
# White space

The characters with the Unicode property `White_Space`, and the operations that disregard
them at the ends of a text or between its words.

## Key results

* `length_trim_le`   trimming never lengthens a text
-/

namespace Mailroom.Text

/-- The characters with the property `White_Space`. -/
def isBlank (c : Char) : Bool :=
  let n := c.toNat
  (0x09 ≤ n && n ≤ 0x0D) || n == 0x20 || n == 0x85 || n == 0xA0 || n == 0x1680
    || (0x2000 ≤ n && n ≤ 0x200A) || n == 0x2028 || n == 0x2029 || n == 0x202F || n == 0x205F
    || n == 0x3000

/-- The text without the white space at its start. -/
def trimStart (t : Text) : Text := t.dropWhile isBlank

/-- The text without the characters at its end that satisfy `p`. -/
def dropEndWhile (p : Char → Bool) (t : Text) : Text := (t.reverse.dropWhile p).reverse

/-- The text without the white space at its end. -/
def trimEnd (t : Text) : Text := dropEndWhile isBlank t

/-- The text without the white space at its two ends. -/
def trim (t : Text) : Text := trimEnd (trimStart t)

theorem length_trim_le (t : Text) : (trim t).length ≤ t.length := by
  have hle (u : Text) : (u.dropWhile isBlank).length ≤ u.length :=
    (List.dropWhile_suffix isBlank).length_le
  have hstart := hle t
  have hend := hle (t.dropWhile isBlank).reverse
  simp only [trim, trimEnd, dropEndWhile, trimStart, List.length_reverse] at *
  omega

/-- Nothing is left of the text but white space. -/
def isBlankText (t : Text) : Bool := t.all isBlank

/-- The maximal runs of characters that are not white space. -/
def words (t : Text) : List Text := (splitWhere isBlank t).filter (!·.isEmpty)

/-- The words of the text with one space between neighbours. -/
def collapse (t : Text) : Text := join [' '] (words t)

end Mailroom.Text
