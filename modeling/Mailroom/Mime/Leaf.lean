import Mailroom.Base64
import Mailroom.Mime.HeaderBlock
import Mailroom.Mime.MediaType
import Mailroom.Text.Utf8

/-!
# Leaves

A leaf is a part that holds text.  Its kind is guessed from the media types that occur
anywhere in the part, headers and content alike, and not read from its headers.
-/

namespace Mailroom.Mime

open Text

/-- The kind of a part that mentions a kind of text, plain text before HTML. -/
def sniffKind (part : Text) : Option Kind :=
  if contains Kind.plain.name part then some .plain
  else if contains Kind.html.name part then some .html
  else none

/-- The part mentions alternatives. -/
def sniffAlternative (part : Text) : Bool := contains Container.alternative.name part

/-- How the content of a part is written.  All encodings but base64 are read as none. -/
inductive TransferEncoding where
  | none
  | base64
  deriving DecidableEq, Repr

/-- The transfer encoding of a part. -/
def TransferEncoding.detect (part : Text) : TransferEncoding :=
  match HeaderBlock.transferEncoding? part with
  | some value => if equalsAnyCase value "base64".toList then .base64 else .none
  | Option.none => .none

/-- A part that holds text. -/
structure Leaf where
  kind : Kind
  encoding : TransferEncoding
  /-- The content without the headers. -/
  raw : Text
  deriving DecidableEq, Repr

/-- The text that base64 content spells.  White space and padding do not count. -/
def base64Text? (raw : Text) : Option Text :=
  let digits := dropEndWhile (· == '=') (raw.filter (!isBlank ·))
  (Base64.ofDigits? digits).map ofUtf8

namespace Leaf

/-- The leaf that a part is, if it mentions a kind of text. -/
def parse? (part : Text) : Option Leaf :=
  (sniffKind part).map fun kind =>
    ⟨kind, TransferEncoding.detect part, HeaderBlock.strip part⟩

/-- The text of a leaf.  Content that is not in the encoding it claims stands for itself. -/
def text (leaf : Leaf) : Text :=
  match leaf.encoding with
  | .none => leaf.raw
  | .base64 => (base64Text? leaf.raw).getD leaf.raw

end Leaf

end Mailroom.Mime
