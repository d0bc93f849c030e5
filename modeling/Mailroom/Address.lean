import Mailroom.Text.Blank

/-!
# Addresses

An address is a bare email, or a display name followed by the email in angle brackets.  The
name may stand in double quotes.  The email is what stands in the last pair of brackets,
which ends the text; the name is the shortest text that reaches an opening bracket.  White
space at the start of the text and an opening quote belong to the name only if there is no
name without them.
-/

namespace Mailroom

open Text

/-- An email address with its display name. -/
structure Address where
  email : Text
  name : Option Text
  deriving DecidableEq, Repr, Inhabited

namespace Address

/-- What stands before the email in brackets that ends the text, and that email.  An email is
not empty and holds no closing bracket; it starts after the first opening bracket that
leaves such an email. -/
def cutEmail? (t : Text) : Option (Text × Text) :=
  match t.reverse with
  | '>' :: inner =>
    -- what stands between the last two closing brackets, and all before it
    let between := (inner.takeWhile (· != '>')).reverse
    let head := (inner.dropWhile (· != '>')).reverse
    match cut? ['<'] between with
    | none => none
    | some (left, email) => if email.isEmpty then none else some (head ++ left, email)
  | _ => none

/-- The text without the white space at its end and a quote before that. -/
def withoutClosingQuote (t : Text) : Text :=
  let trimmed := trimEnd t
  if trimmed.getLast? == some '"' then trimmed.dropLast else trimmed

/-- The shortest name that an email follows, and that email.  A name is not empty and stands
on one line. -/
def splitName? : Text → Option (Text × Text)
  | [] => none
  | c :: t =>
    match cutEmail? t with
    | none => none
    | some (left, email) =>
      let name := c :: withoutClosingQuote left
      if name.contains '\n' then none else some (name, email)

/-- The texts that may start with the name, in the order in which they are tried: what
follows all white space and an opening quote, what follows the white space, and that with
one character of the white space before it, the last that is no line break.  To keep more
of the white space never helps: a name that starts with two characters of it could start
with the second. -/
def nameStarts (t : Text) : List Text :=
  let rest := t.dropWhile isBlank
  let unquoted :=
    match rest with
    | '"' :: inner => [inner]
    | _ => []
  let held := ((t.takeWhile isBlank).reverse.find? (· != '\n')).toList.map (· :: rest)
  unquoted ++ rest :: held

/-- The address that a text spells. -/
def parse (t : Text) : Address :=
  match (nameStarts t).findSome? splitName? with
  | some (name, email) => ⟨trim email, some name⟩
  | none => ⟨trim t, none⟩

/-- The addresses of a list divided by commas, blank entries left out. -/
def parseList (t : Text) : List Address :=
  (((fields ',' t).map trim).filter (!·.isEmpty)).map parse

/-- The address with its email as name, if it has none. -/
def orEmailAsName (address : Address) : Address :=
  { address with name := some (address.name.getD address.email) }

end Address

end Mailroom
