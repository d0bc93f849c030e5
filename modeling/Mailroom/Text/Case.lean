import Mailroom.Text.Basic
import Mailroom.Text.CaseTable

/-!
# Lower case

The full lower-case mapping of Unicode.  It agrees with the ASCII one on ASCII letters, and
differs from a map over the characters in two places: capital I with a dot becomes two
characters, and a capital sigma at the end of a word takes its final form.
-/

namespace Mailroom.Text

/-- The code point lies in one of the closed ranges. -/
def inRanges (ranges : List (Nat × Nat)) (n : Nat) : Bool :=
  ranges.any fun (low, high) => low ≤ n && n ≤ high

/-- The character is skipped when a neighbouring letter is looked for. -/
def isCaseIgnorable (c : Char) : Bool := inRanges caseIgnorableRanges c.toNat

/-- The character is a letter with case.  Characters that are also case-ignorable are left
out: they are never asked for. -/
def isCased (c : Char) : Bool := inRanges casedRanges c.toNat

/-- The first character that is not case-ignorable is a letter with case. -/
def meetsCased (t : Text) : Bool :=
  match t.dropWhile isCaseIgnorable with
  | [] => false
  | c :: _ => isCased c

/-- The lower-case form of a character that has one of a single character, and otherwise
the character itself. -/
def lowerChar (c : Char) : Char :=
  match lowerRuns.findSome? (·.lower? c.toNat) with
  | some n => Char.ofNat n
  | none => c

/-- The lower-case form of a capital sigma between the text `before` it, given backwards,
and the text `after` it: final when a letter precedes and none follows. -/
def lowerSigma (before after : Text) : Char :=
  if meetsCased before && !meetsCased after then 'ς' else 'σ'

/-- The lower-case form of a text that stands after `before`, given backwards. -/
def lowerAfter (before : Text) : Text → Text
  | [] => []
  | c :: t =>
    let form :=
      -- the two characters whose form is not that of a table
      if c == 'Σ' then [lowerSigma before t]
      else if c == 'İ' then ['i', '\u0307']
      else [lowerChar c]
    form ++ lowerAfter (c :: before) t

/-- The lower-case form of a text. -/
def lower (t : Text) : Text := lowerAfter [] t

end Mailroom.Text
