import Mailroom.Proofs.Mime.Segment

/-!
# Bodies of which nothing is left

A container that has parts is never shown whole, so its body is lost when no part contributes a
leaf, and then no warning tells of it.  Parts of other types are left out on purpose.  A part
that mentions a kind of text contributes a leaf, unless it also mentions alternatives, stands
in a mixed container and is searched for alternatives in vain: it is skipped with all its text,
and without the warning that a container without parts has.  Nothing but that makes a body with
a part of a known kind vanish.

## Key results

* `hasOutcome_iff`             when anything of a container is shown or reported
* `not_hasOutcome_lostBody`    a text that mentions alternatives is lost
-/

namespace Mailroom.Mime

open Text Boundary

/-- Something is shown, or a warning tells why not. -/
def Extraction.HasOutcome (e : Extraction) : Prop :=
  e.plain.isSome ∨ e.html.isSome ∨ e.warnings ≠ []

instance (e : Extraction) : Decidable e.HasOutcome :=
  inferInstanceAs (Decidable (_ ∨ _ ∨ _))

/-- A leaf of the kind has a text to show. -/
theorem isSome_lastText?_iff {kind : Kind} {ls : List Leaf} :
    (lastText? kind ls).isSome ↔ ∃ l ∈ ls, l.kind = kind := by
  rw [lastText?, Option.isSome_map, List.find?_isSome]
  simp

/-- Every leaf is of a kind that is shown. -/
theorem isSome_lastText?_or_iff {ls : List Leaf} :
    (lastText? .plain ls).isSome ∨ (lastText? .html ls).isSome ↔ ls ≠ [] := by
  rw [isSome_lastText?_iff, isSome_lastText?_iff]
  constructor
  · rintro (⟨l, hl, -⟩ | ⟨l, hl, -⟩)
    · exact List.ne_nil_of_mem hl
    · exact List.ne_nil_of_mem hl
  · intro hne
    obtain ⟨l, ls', rfl⟩ := List.exists_cons_of_ne_nil hne
    cases hk : l.kind with
    | plain => exact .inl ⟨l, List.mem_cons_self, hk⟩
    | html => exact .inr ⟨l, List.mem_cons_self, hk⟩

/-- A container leaves no trace when it has parts, but no leaves. -/
theorem hasOutcome_extractContainer_iff (layout : Plain.Layout) {container : Container}
    {boundary : Option Text} {body : Text} :
    (extractContainer layout container boundary body).HasOutcome ↔
      leaves? container boundary body ≠ some [] := by
  rw [extractContainer]
  cases hl : leaves? container boundary body with
  | none => simp [Extraction.HasOutcome]
  | some ls =>
    have hshown :
        Extraction.HasOutcome ⟨(lastText? .plain ls).map layout.plain, lastText? .html ls, []⟩ ↔
          (lastText? .plain ls).isSome ∨ (lastText? .html ls).isSome := by
      simp [Extraction.HasOutcome]
    rw [hshown, isSome_lastText?_or_iff]
    simp

/-- A container with parts shows or reports something exactly when one of them mentions a kind
of text and is not searched for alternatives in vain. -/
theorem hasOutcome_iff (layout : Plain.Layout) {header body boundary : Text}
    {container : Container} (htype : (ContentType.parse header).mediaType = .multipart container)
    (hboundary : containerBoundary? container header body = some boundary)
    (hparts : parts boundary body ≠ []) :
    (extract layout header body).HasOutcome ↔
      ∃ s ∈ parts boundary body, sniffKind s ≠ none ∧ ¬ IsSearchedInVain container s := by
  have hsegments : segments? (some boundary) body = some (parts boundary body) :=
    segments?_eq_some_iff.2 ⟨boundary, rfl, rfl, hparts⟩
  have hextract : extract layout header body =
      extractContainer layout container (some boundary) body := by
    rw [extract, htype]
    simp only [hboundary]
  rw [hextract, hasOutcome_extractContainer_iff, leaves?, hsegments, Option.map_some, Ne,
    Option.some.injEq, List.flatMap_eq_nil_iff, Classical.not_forall]
  refine exists_congr fun s => ?_
  rw [Classical.not_imp, segmentLeaves_eq_nil_iff, not_or]

/-- A mixed body with a text that mentions alternatives. -/
def lostBody : Text :=
  "--A\nContent-Type: text/plain\n\nThis is no multipart/alternative.\n--A--".toList

/-- The text is a part of a known kind, and yet nothing is left of the body. -/
theorem not_hasOutcome_lostBody :
    (ContentType.parse "multipart/mixed; boundary=A".toList).mediaType = .multipart .mixed ∧
      containerBoundary? .mixed "multipart/mixed; boundary=A".toList lostBody = some "A".toList ∧
      (∃ s ∈ parts "A".toList lostBody, sniffKind s = some .plain) ∧
      ¬ (extract {} "multipart/mixed; boundary=A".toList lostBody).HasOutcome := by
  decide +kernel

/-- A mixed body with a part like that, and with alternatives that are found. -/
def keptBody : Text :=
  "--A\ntext/plain, multipart/alternative\n--A\nmultipart/alternative; boundary=B\n\n".toList ++
    "--B\ntext/html\n--B--\n--A--".toList

/-- One part that is not searched in vain is enough. -/
theorem hasOutcome_keptBody :
    (extract {} "multipart/mixed; boundary=A".toList keptBody).HasOutcome := by
  have htype : (ContentType.parse "multipart/mixed; boundary=A".toList).mediaType =
      .multipart .mixed := by decide +kernel
  have hboundary : containerBoundary? .mixed "multipart/mixed; boundary=A".toList keptBody =
      some "A".toList := by decide +kernel
  rw [hasOutcome_iff {} htype hboundary (by decide +kernel)]
  decide +kernel

end Mailroom.Mime
