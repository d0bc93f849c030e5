import Mailroom.Mime.Extraction
import Mailroom.Proofs.Plain.Wrap

/-!
# The width of plain text bodies

Every plain text body of an extraction is laid out once, and the lines are broken as the last
step of it.  So the width of the layout breaks the lines of the plain text that no width would
give, however documents are rendered, and has no other effect.

## Key results

* `wrap_wrap_zero`        a text in which no line is broken is broken like the text it comes from
* `extract_eq_wrap`       the width breaks the lines of the plain text and does no more
-/

namespace Mailroom.Plain

open Text

/-- The width zero changes line breaks alone. -/
theorem wrap_zero (t : Text) : wrap 0 t = normalizeBreaks t := by
  have hline : wrapLine 0 = fun line => [line] := rfl
  rw [wrap, hline, List.flatMap_singleton', unlines_lines]

/-- A text whose line breaks are all LF already is broken like the text it comes from. -/
theorem wrap_normalizeBreaks (width : Nat) (t : Text) :
    wrap width (normalizeBreaks t) = wrap width t := by
  rw [wrap, normalizeBreaks_eq_self (cr_not_mem_normalizeBreaks t), ← wrap]

/-- Laying out without a width and breaking the lines later is breaking them at once. -/
theorem wrap_wrap_zero (width : Nat) (t : Text) : wrap width (wrap 0 t) = wrap width t := by
  rw [wrap_zero, wrap_normalizeBreaks]

end Mailroom.Plain

namespace Mailroom.Mime

open Text Plain

variable (render : Text → Text) (width : Nat)

/-- The plain text bodies of the two kinds of texts differ in their line breaks alone. -/
theorem plain_eq_wrap (t : Text) :
    Layout.plain ⟨width, render⟩ t = wrap width (Layout.plain ⟨0, render⟩ t) :=
  (wrap_wrap_zero width _).symm

/-- Markup is laid out first and then wrapped. -/
theorem html_eq_wrap (html : Text) :
    Layout.html ⟨width, render⟩ html = wrap width (Layout.html ⟨0, render⟩ html) :=
  (wrap_wrap_zero width _).symm

/-- The last plain leaf of a container, or its whole body, is laid out once. -/
theorem extractContainer_eq_wrap (container : Container) (boundary : Option Text) (body : Text) :
    extractContainer ⟨width, render⟩ container boundary body =
      { extractContainer ⟨0, render⟩ container boundary body with
        plain :=
          (extractContainer ⟨0, render⟩ container boundary body).plain.map (wrap width) } := by
  unfold extractContainer
  cases leaves? container boundary body with
  | none =>
    rw [plain_eq_wrap]
    rfl
  | some leaves =>
    -- only the plain text is laid out by the width
    have hplain : Layout.plain ⟨width, render⟩ = wrap width ∘ Layout.plain ⟨0, render⟩ := by
      funext t
      rw [Function.comp_apply, plain_eq_wrap]
    simp only [Option.map_map, hplain]

/-- The width of a layout breaks the lines of the plain text that is extracted without it, and
has no effect on the HTML and the warnings. -/
theorem extract_eq_wrap (header body : Text) :
    extract ⟨width, render⟩ header body =
      { extract ⟨0, render⟩ header body with
        plain := (extract ⟨0, render⟩ header body).plain.map (wrap width) } := by
  unfold extract
  split
  · rw [plain_eq_wrap]
    rfl
  · rw [html_eq_wrap]
    rfl
  · exact extractContainer_eq_wrap render width _ _ body
  · rw [plain_eq_wrap]
    rfl

/-- A body that is rendered with CR LF line breaks is broken after them. -/
example : (extract ⟨5, fun _ => "one\r\ntwo three".toList⟩ "text/html".toList []).plain =
    some "one\ntwo \nthree".toList := by
  decide +kernel

end Mailroom.Mime
