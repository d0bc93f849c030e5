import Mailroom.Text.Blank

/-!
# The header of a part

A part starts with a block of headers.  Its end is the first line that is not one of the
known headers, nor the continuation of one.  A header continues on the next line if it ends
in a semicolon and that line is indented.

The transfer encoding is looked for by its name alone, wherever that stands in the part.
-/

namespace Mailroom.Mime.HeaderBlock

open Text

/-- The headers of a part. -/
def knownNames : List Text :=
  ["Content-Type", "Content-Transfer-Encoding", "Content-ID", "Content-Disposition"].map
    String.toList

/-- The line holds a known header: its name in any ASCII case and a colon. -/
def isHeader (line : Text) : Bool :=
  knownNames.any fun name =>
    match afterAnyCase? name line with
    | some rest => rest.head? == some ':'
    | none => false

/-- The line is indented enough to continue a header. -/
def isContinuation (line : Text) : Bool :=
  startsWith [' ', ' ', ' ', ' '] line || startsWith ['\t'] line

/-- A header that ends in this line goes on in the next one if that is indented. -/
def isOpen (line : Text) : Bool := (trimEnd line).getLast? == some ';'

/-- The lines after the header block.  `folding` tells that the line before may be
continued. -/
def dropFrom (folding : Bool) : List Text → List Text
  | [] => []
  | line :: rest =>
    if (folding && isContinuation line) || isHeader (trimEnd line) then
      dropFrom (isOpen line) rest
    else line :: rest

/-- The part without its header block and without white space around what is left. -/
def strip (part : Text) : Text := trim (unlines (dropFrom false (lines (trim part))))

/-- The transfer encoding that the part declares. -/
def transferEncoding? (part : Text) : Option Text :=
  (cutAnyCase? "content-transfer-encoding".toList part).bind fun (_, rest) =>
  (after? [':'] (rest.dropWhile fun c => c == ' ' || c == '\t')).bind fun rest =>
    let value := trim (dropEndWhile (· == ';') (trim (firstLine rest)))
    if value.isEmpty then none else some value

end Mailroom.Mime.HeaderBlock
