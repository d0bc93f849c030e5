import Mailroom.Html.Render
import Mailroom.Plain.Markup
import Mailroom.Plain.Wrap

/-!
# Plain text bodies

How bodies are laid out as plain text: documents are rendered, plain text loses its markup,
and either way long lines are broken.
-/

namespace Mailroom.Plain

open Text

/-- A document as plain text, without white space around it. -/
def ofHtml (render : Text → Text) (html : Text) : Text := trim (render html)

/-- The choices of a layout. -/
structure Layout where
  /-- The greatest length of a line, or zero to break no line. -/
  width : Nat := 77
  /-- How a document is shown as plain text. -/
  render : Text → Text := Html.render

/-- The plain text body for text that is already plain. -/
def Layout.plain (layout : Layout) (t : Text) : Text :=
  wrap layout.width (stripMarkup layout.render t)

/-- The plain text body for a document. -/
def Layout.html (layout : Layout) (html : Text) : Text :=
  wrap layout.width (ofHtml layout.render html)

end Mailroom.Plain
