import Mailroom.Json.Basic
import Mailroom.Text.Hex

/-!
# Reading JSON

A reader takes a text and gives what it has read with the text that is left.  Every step
of the reader of values consumes a character, so the length of the text bounds the number
of nested and consecutive steps and serves as its fuel.
-/

namespace Mailroom.Json

open Text

/-- White space between the tokens of JSON. -/
def isSpace (c : Char) : Bool := c == ' ' || c == '\t' || c == '\n' || c == '\r'

/-- The text without the white space at its start. -/
def skipSpace (t : Text) : Text := t.dropWhile isSpace

/-- The number that four hexadecimal digits spell. -/
def unit? (a b c d : Char) : Option Nat := do
  return (((← hexValue? a) * 16 + (← hexValue? b)) * 16 + (← hexValue? c)) * 16 + (← hexValue? d)

/-- The first half of a surrogate pair. -/
def isHighSurrogate (n : Nat) : Bool := 0xD800 ≤ n && n < 0xDC00

/-- The second half of a surrogate pair. -/
def isLowSurrogate (n : Nat) : Bool := 0xDC00 ≤ n && n < 0xE000

/-- The character of a single-letter escape. -/
def escaped? (c : Char) : Option Char :=
  if c == '"' || c == '\\' || c == '/' then some c
  else if c == 'b' then some '\x08'
  else if c == 'f' then some '\x0c'
  else if c == 'n' then some '\n'
  else if c == 'r' then some '\r'
  else if c == 't' then some '\t'
  else none

/-- The rest of a string whose opening quote has been read.  Halves of surrogate pairs are
joined, and refused when alone; control characters must be escaped. -/
def readString : Text → Option (Text × Text)
  | [] => none
  | '"' :: rest => some ([], rest)
  | '\\' :: 'u' :: a :: b :: c :: d :: rest => do
    let first ← unit? a b c d
    if isHighSurrogate first then
      -- a first half needs its second half at once
      match rest with
      | '\\' :: 'u' :: e :: f :: g :: h :: rest =>
        let second ← unit? e f g h
        if isLowSurrogate second then
          let (t, left) ← readString rest
          return (Char.ofNat (0x10000 + (first - 0xD800) * 0x400 + (second - 0xDC00)) :: t, left)
        else none
      | _ => none
    else if isLowSurrogate first then none
    else
      let (t, left) ← readString rest
      return (Char.ofNat first :: t, left)
  | '\\' :: c :: rest => do
    let character ← escaped? c
    let (t, left) ← readString rest
    return (character :: t, left)
  | c :: rest =>
    if c == '\\' || c.toNat < 0x20 then none
    else do
      let (t, left) ← readString rest
      return (c :: t, left)

/-- The number that decimal digits spell. -/
def natOfDigits (digits : Text) : Nat :=
  digits.foldl (fun n c => n * 10 + (c.toNat - 0x30)) 0

/-- The digits of the integer part of a number: a zero stands alone. -/
def readIntegerPart (t : Text) : Option (Text × Text) :=
  match t with
  | '0' :: rest => some (['0'], rest)
  | _ =>
    let digits := t.takeWhile Char.isDigit
    if digits.isEmpty then none else some (digits, t.dropWhile Char.isDigit)

/-- The fraction of a number, empty when there is none. -/
def readFraction : Text → Option (Text × Text)
  | '.' :: t =>
    let digits := t.takeWhile Char.isDigit
    if digits.isEmpty then none else some ('.' :: digits, t.dropWhile Char.isDigit)
  | t => some ([], t)

/-- The exponent of a number, empty when there is none. -/
def readExponent (t : Text) : Option (Text × Text) :=
  match t with
  | [] => some ([], [])
  | c :: rest =>
    if c == 'e' || c == 'E' then
      let sign := (rest.take 1).filter fun s => s == '+' || s == '-'
      let digits := (rest.drop sign.length).takeWhile Char.isDigit
      if digits.isEmpty then none
      else some (c :: sign ++ digits, (rest.drop sign.length).dropWhile Char.isDigit)
    else some ([], c :: rest)

/-- A number at the start of a text. -/
def readNumber (t : Text) : Option (Number × Text) := do
  let negative := t.head? == some '-'
  let (digits, t) ← readIntegerPart (if negative then t.drop 1 else t)
  let (fraction, t) ← readFraction t
  let (exponent, t) ← readExponent t
  let sign : Text := if negative then ['-'] else []
  let n := natOfDigits digits
  -- minus zero is kept as it is written, since an integer has no sign of its own
  if fraction.isEmpty && exponent.isEmpty && !(negative && n == 0) then
    return (.integer (if negative then -(n : Int) else n), t)
  else
    return (.decimal (sign ++ digits ++ fraction ++ exponent), t)

mutual

/-- A value at the start of a text, white space before it skipped. -/
def readValue : Nat → Text → Option (Json × Text)
  | 0, _ => none
  | fuel + 1, t =>
    match skipSpace t with
    | [] => none
    | 'n' :: 'u' :: 'l' :: 'l' :: rest => some (.null, rest)
    | 't' :: 'r' :: 'u' :: 'e' :: rest => some (.bool true, rest)
    | 'f' :: 'a' :: 'l' :: 's' :: 'e' :: rest => some (.bool false, rest)
    | '"' :: rest => (readString rest).map fun (s, left) => (.string s, left)
    | '[' :: rest =>
      match skipSpace rest with
      | ']' :: left => some (.array [], left)
      | _ => (readItems fuel rest).map fun (items, left) => (.array items, left)
    | '\x7b' :: rest =>
      match skipSpace rest with
      | '\x7d' :: left => some (.object [], left)
      | _ => (readMembers fuel rest).map fun (members, left) => (.object members, left)
    | c :: rest => (readNumber (c :: rest)).map fun (n, left) => (.number n, left)

/-- One or more items of an array, and its closing bracket. -/
def readItems : Nat → Text → Option (List Json × Text)
  | 0, _ => none
  | fuel + 1, t =>
    match readValue fuel t with
    | none => none
    | some (item, rest) =>
      match skipSpace rest with
      | ']' :: left => some ([item], left)
      | ',' :: left => (readItems fuel left).map fun (items, left) => (item :: items, left)
      | _ => none

/-- One or more members of an object, and its closing brace. -/
def readMembers : Nat → Text → Option (List (Text × Json) × Text)
  | 0, _ => none
  | fuel + 1, t =>
    match skipSpace t with
    | '"' :: rest =>
      match readString rest with
      | none => none
      | some (name, rest) =>
        match skipSpace rest with
        | ':' :: rest =>
          match readValue fuel rest with
          | none => none
          | some (value, rest) =>
            match skipSpace rest with
            | '\x7d' :: left => some ([(name, value)], left)
            | ',' :: left =>
              (readMembers fuel left).map fun (members, left) => ((name, value) :: members, left)
            | _ => none
        | _ => none
    | _ => none

end

/-- The value that a text holds, with nothing but white space around it. -/
def parse? (t : Text) : Option Json :=
  match readValue (t.length + 1) t with
  | some (value, rest) => if (skipSpace rest).isEmpty then some value else none
  | none => none

end Mailroom.Json
