import Mailroom.Proofs.Mailer.Headers
import Mailroom.Proofs.Message.Body

/-!
# The chunks of a body

A message holds its body in chunks, and whatever shows the body joins them first.  So messages
that differ in their chunks alone make the same mail if these join to the same text.  To format
a message is to join its chunks ahead of time: it can be done before the mail is built or left
out, and formatting again has nothing left to join.

## Key results

* `build_of_isBody`   a mail depends on the text that the chunks join to
* `build_format`      formatting does not change what is built, nor does a second formatting
-/

namespace Mailroom

open Text

namespace Mailer

variable {mailer : Mailer} {msg : Message} {chunks : List Text}

/-- The body is shown under each of its content types as the text that its chunks join to. -/
theorem readFields_of_isBody (h : msg.IsBody chunks) (values : HeaderField → List Text)
    (draft : Draft) :
    mailer.readFields { msg with body := chunks } values draft =
      mailer.readFields msg values draft := by
  have hextraction : mailer.extraction { msg with body := chunks } = mailer.extraction msg := by
    funext header
    show Mime.extract mailer.layout header (join ['\n', '\n'] chunks) = _
    rw [h, ← extraction]
  simp only [readFields, hextraction]

theorem draft_of_isBody (h : msg.IsBody chunks)
    (hchoice : mailer.filterCategories { msg with body := chunks } (mailer.defaultCategories msg) =
      mailer.filterCategories msg (mailer.defaultCategories msg)) :
    mailer.draft { msg with body := chunks } = mailer.draft msg := by
  have hopening : mailer.openingSteps { msg with body := chunks } = mailer.openingSteps msg := by
    rw [openingSteps, categories_congr hchoice rfl]
    rfl
  rw [draft_eq_readFields, hopening, readFields_of_isBody h, draft_eq_readFields mailer msg]
  -- the other fields of the message are the same, and the chunks are read nowhere else
  rfl

/-- What becomes of a message depends on the text of its body and not on how this is divided
into chunks, if the choice of the categories does not depend on more. -/
theorem build_of_isBody (h : msg.IsBody chunks)
    (hchoice : mailer.filterCategories { msg with body := chunks } (mailer.defaultCategories msg) =
      mailer.filterCategories msg (mailer.defaultCategories msg)) :
    mailer.build { msg with body := chunks } = mailer.build msg := by
  rw [build, draft_of_isBody h hchoice, build]
  rfl

/-- A message may be formatted before a mail is built from it, once or several times, if the
choice of the categories does not depend on the chunks of the body. -/
theorem build_format (mailer : Mailer) (msg : Message)
    (hchoice : mailer.filterCategories msg.format (mailer.defaultCategories msg) =
      mailer.filterCategories msg (mailer.defaultCategories msg)) :
    mailer.build msg.format = mailer.build msg ∧ msg.format.format = msg.format := by
  constructor
  · exact build_of_isBody msg.isBody_singleton hchoice
  · exact msg.format_format

end Mailer

/-- A mailer that adds the name of a message to its categories. -/
def keyAdding : Mailer :=
  { keyed with filterCategories := fun msg given => given ++ [msg.key] }

/-- A message with an empty chunk and a line break for a chunk, shown under two content types. -/
def chunked : Message :=
  { Message.ofKey "shop".toList "order".toList with
    body := ["Hi".toList, [], "\n".toList, "<b>there</b>".toList]
    headers := [("Content-Type".toList, "text/html".toList),
      ("content-type".toList, "text/plain".toList)] }

/-- Formatted or not, the message is shown with its chunks joined. -/
theorem build_format_chunked :
    keyAdding.build chunked.format = keyAdding.build chunked ∧
      ∃ prepared, keyAdding.build chunked.format = .ok (.ready prepared) ∧
        prepared.payload.content =
          [⟨"text/plain".toList, "Hi there".toList⟩,
            ⟨"text/html".toList, "Hi\n\n\n\n\n\n\n<b>there</b>".toList⟩,
            ⟨"text/plain".toList, "Hi\n\n\n\n\n\n\nthere".toList⟩] := by
  have hformat := (Mailer.build_format keyAdding chunked rfl).1
  have hready := Mailer.build_eq_ready_iff.2
    ⟨(by decide : isBlankText (keyAdding.apiKey chunked) = false), rfl, rfl⟩
  exact ⟨hformat, _, hformat.trans hready, by decide +kernel⟩

end Mailroom
