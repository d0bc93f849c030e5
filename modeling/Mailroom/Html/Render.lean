import Mailroom.Html.Tag

/-!
# HTML as plain text

White space is collapsed first, so that the only line breaks of the rendering are those
that tags bring.  Then the document is read from the left: text has its character
references decoded, and each tag contributes its mark.  What is written grows at its end,
so it is kept last character first until the document is read.
-/

namespace Mailroom.Html

open Text

/-- The rendering so far, last character first, ends with an empty line. -/
def endsParagraph (out : Text) : Bool := startsWith (lineBreak ++ lineBreak).reverse out

/-- Adds a text to the rendering so far, last character first. -/
def write (out t : Text) : Text := t.reverseAux out

/-- Adds a mark to the rendering so far.  At its start and after an empty line, white space
at the start of the mark is dropped. -/
def put (out mark : Text) : Text :=
  if out.isEmpty || endsParagraph out then write out (trimStart mark) else write out mark

/-- A link as it is shown. -/
def showLink (label target : Text) : Text := label ++ " (".toList ++ target ++ [')']

/-- What follows a mark is shorter than the text, by the bracket at least. -/
private theorem length_rest_lt {s plain inside rest : Text} {mark : Mark}
    (hc : cut? ['<'] s = some (plain, inside)) (hm : readMark inside = (mark, rest)) :
    rest.length < s.length := by
  have hinside := length_lt_of_cutBy? (by decide) hc
  have hrest := length_readMark_le inside
  rw [hm] at hrest
  exact Nat.lt_of_le_of_lt hrest hinside

/-- So is the label of a link. -/
private theorem length_label_lt {s plain inside label target rest : Text}
    (hc : cut? ['<'] s = some (plain, inside))
    (hm : readMark inside = (.link label target, rest)) : label.length < s.length :=
  Nat.lt_of_le_of_lt (length_label_readMark_le hm) (length_lt_of_cutBy? (by decide) hc)

/-- Goes on with the rendering `out`, last character first, by the rest `s` of a document
whose white space is collapsed.  The label of a link is a piece of it, so that it needs no
collapsing of its own. -/
def renderAfter (out s : Text) : Text :=
  match _hc : cut? ['<'] s with
  | none => write out (decodeReferences s)
  | some (plain, inside) =>
    let out := write out (decodeReferences plain)
    match _hm : readMark inside with
    | (.text t, rest) => renderAfter (put out t) rest
    | (.link label target, rest) =>
      renderAfter (put out (showLink (renderAfter [] label).reverse target)) rest
termination_by s.length
decreasing_by
  · exact length_rest_lt _hc _hm
  · exact length_label_lt _hc _hm
  · exact length_rest_lt _hc _hm

/-- The document as plain text, with CR LF as its line break. -/
def render (html : Text) : Text := (renderAfter [] (collapse html)).reverse

end Mailroom.Html
