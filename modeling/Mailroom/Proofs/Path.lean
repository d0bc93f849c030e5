import Mailroom.Path
import Mailroom.Proofs.Text.Utf8

/-!
# Paths that are texts

A text is the only one that spells its path, so a path is spelled by one text or by none.  The
bytes of a path that is not UTF-8 are lost when it is shown: what is shown spells another path.

## Key results

* `text?_eq_some_iff`   the text that spells a path
* `isSome_text?_iff`    which paths there is a text for
-/

namespace Mailroom.Path

open Text

variable {path : Path} {t : Text}

/-- The path is UTF-8: a text spells it. -/
def IsUtf8 (path : Path) : Prop := ∃ t, path = ofText t

/-- The path of a text is shown as the text. -/
@[simp] theorem shown_ofText (t : Text) : (ofText t).shown = t := ofUtf8_toUtf8 t

/-- A path has the text that spells it. -/
theorem text?_eq_some_iff : path.text? = some t ↔ path = ofText t := by
  constructor
  · intro h
    rw [text?] at h
    split at h
    · next hspelled =>
      rw [← Option.some.inj h, ofText, hspelled]
    · exact absurd h.symm (Option.some_ne_none t)
  · rintro rfl
    rw [text?, shown_ofText, ofText, if_pos rfl]

/-- A path has a text exactly if it is UTF-8. -/
theorem isSome_text?_iff : path.text?.isSome ↔ path.IsUtf8 := by
  rw [Option.isSome_iff_exists]
  exact exists_congr fun _ => text?_eq_some_iff

end Mailroom.Path
