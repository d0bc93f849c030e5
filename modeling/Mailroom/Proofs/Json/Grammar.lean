import Mailroom.Json.Parser

/-!
# The grammar of JSON

Which texts stand for which values, rule by rule and without a reader.  White space may stand
before and after every token.  A string may spell a character in several ways, and of the
halves of surrogate pairs it may hold pairs alone, since no text has a lone one.

## Key results

* `Written`   the rules for values, items and members
* `IsText`    a whole text with the value that it stands for
-/

namespace Mailroom.Json

open Text

/-- White space between tokens. -/
def IsGap (t : Text) : Prop := ∀ c ∈ t, c = ' ' ∨ c = '\t' ∨ c = '\n' ∨ c = '\r'

/-! ## Strings -/

/-- The letters of single-letter escapes, each with the character that it stands for. -/
def escapes : List (Char × Char) :=
  [('"', '"'), ('\\', '\\'), ('/', '/'), ('b', '\x08'), ('f', '\x0c'), ('n', '\n'), ('r', '\r'),
    ('t', '\t')]

/-- The first text, between quotes, spells the second one. -/
inductive Spells : Text → Text → Prop
  | nil : Spells [] []
  /-- A character that stands for itself. -/
  | plain {c : Char} {t s : Text} (hquote : c ≠ '"') (hescape : c ≠ '\\')
      (hcontrol : 0x20 ≤ c.toNat) (h : Spells t s) : Spells (c :: t) (c :: s)
  | escape {c d : Char} {t s : Text} (hc : (c, d) ∈ escapes) (h : Spells t s) :
      Spells ('\\' :: c :: t) (d :: s)
  /-- A character by its code point. -/
  | unit {a b c d : Char} {n : Nat} {t s : Text} (hn : unit? a b c d = some n)
      (hscalar : n < 0xD800 ∨ 0xE000 ≤ n) (h : Spells t s) :
      Spells ('\\' :: 'u' :: a :: b :: c :: d :: t) (Char.ofNat n :: s)
  /-- A character by the two halves of a surrogate pair. -/
  | pair {a b c d a' b' c' d' : Char} {m n : Nat} {t s : Text} (hm : unit? a b c d = some m)
      (hhigh : 0xD800 ≤ m ∧ m < 0xDC00) (hn : unit? a' b' c' d' = some n)
      (hlow : 0xDC00 ≤ n ∧ n < 0xE000) (h : Spells t s) :
      Spells ('\\' :: 'u' :: a :: b :: c :: d :: '\\' :: 'u' :: a' :: b' :: c' :: d' :: t)
        (Char.ofNat (0x10000 + (m - 0xD800) * 0x400 + (n - 0xDC00)) :: s)

/-! ## Numbers -/

/-- One or more decimal digits. -/
def IsDigits (t : Text) : Prop := t ≠ [] ∧ ∀ c ∈ t, c.isDigit

/-- The integer part of a number: a zero stands alone. -/
def IsIntegerPart (t : Text) : Prop := t = ['0'] ∨ IsDigits t ∧ t.head? ≠ some '0'

/-- The fraction of a number, which may be missing. -/
def IsFraction (t : Text) : Prop := t = [] ∨ ∃ digits, IsDigits digits ∧ t = '.' :: digits

/-- The exponent of a number, which may be missing. -/
def IsExponent (t : Text) : Prop :=
  t = [] ∨ ∃ e sign digits, (e = 'e' ∨ e = 'E') ∧ (sign = [] ∨ sign = ['+'] ∨ sign = ['-']) ∧
    IsDigits digits ∧ t = e :: (sign ++ digits)

/-- The ways to write a number. -/
inductive WrittenNumber : Number → Text → Prop
  | nat {digits : Text} (h : IsIntegerPart digits) :
      WrittenNumber (.integer (natOfDigits digits)) digits
  | neg {digits : Text} (h : IsIntegerPart digits) (hne : natOfDigits digits ≠ 0) :
      WrittenNumber (.integer (-(natOfDigits digits : Int))) ('-' :: digits)
  /-- A number with a fraction or an exponent, or minus zero, is kept as it is written. -/
  | decimal {sign digits fraction exponent : Text} (hsign : sign = [] ∨ sign = ['-'])
      (hdigits : IsIntegerPart digits) (hfraction : IsFraction fraction)
      (hexponent : IsExponent exponent)
      (h : fraction ≠ [] ∨ exponent ≠ [] ∨ sign = ['-'] ∧ natOfDigits digits = 0) :
      WrittenNumber (.decimal (sign ++ digits ++ fraction ++ exponent))
        (sign ++ digits ++ fraction ++ exponent)

/-! ## Values -/

/-- What a piece of JSON stands for. -/
inductive Phrase where
  | value (v : Json)
  /-- A value with white space around it. -/
  | item (v : Json)
  /-- The items of an array, at least one. -/
  | items (items : List Json)
  | member (member : Text × Json)
  /-- The members of an object, at least one. -/
  | members (members : List (Text × Json))

/-- The ways to write a phrase. -/
inductive Written : Phrase → Text → Prop
  | null : Written (.value .null) "null".toList
  | true : Written (.value (.bool true)) "true".toList
  | false : Written (.value (.bool false)) "false".toList
  | number {n : Number} {t : Text} (h : WrittenNumber n t) : Written (.value (.number n)) t
  | string {t s : Text} (h : Spells t s) : Written (.value (.string s)) ('"' :: t ++ ['"'])
  | noItems {gap : Text} (hgap : IsGap gap) : Written (.value (.array [])) ('[' :: gap ++ [']'])
  | array {items : List Json} {t : Text} (h : Written (.items items) t) :
      Written (.value (.array items)) ('[' :: t ++ [']'])
  | noMembers {gap : Text} (hgap : IsGap gap) :
      Written (.value (.object [])) ('\x7b' :: gap ++ ['\x7d'])
  | object {members : List (Text × Json)} {t : Text} (h : Written (.members members) t) :
      Written (.value (.object members)) ('\x7b' :: t ++ ['\x7d'])
  | item {v : Json} {before t after : Text} (hbefore : IsGap before) (h : Written (.value v) t)
      (hafter : IsGap after) : Written (.item v) (before ++ t ++ after)
  | lastItem {v : Json} {t : Text} (h : Written (.item v) t) : Written (.items [v]) t
  | nextItem {v : Json} {items : List Json} {t rest : Text} (h : Written (.item v) t)
      (hrest : Written (.items items) rest) : Written (.items (v :: items)) (t ++ ',' :: rest)
  | member {name s : Text} {v : Json} {before after t : Text} (hbefore : IsGap before)
      (hname : Spells s name) (hafter : IsGap after) (h : Written (.item v) t) :
      Written (.member (name, v)) (before ++ '"' :: s ++ '"' :: after ++ ':' :: t)
  | lastMember {m : Text × Json} {t : Text} (h : Written (.member m) t) :
      Written (.members [m]) t
  | nextMember {m : Text × Json} {members : List (Text × Json)} {t rest : Text}
      (h : Written (.member m) t) (hrest : Written (.members members) rest) :
      Written (.members (m :: members)) (t ++ ',' :: rest)

/-- The whole text stands for the value. -/
def IsText (v : Json) (t : Text) : Prop := Written (.item v) t

end Mailroom.Json
