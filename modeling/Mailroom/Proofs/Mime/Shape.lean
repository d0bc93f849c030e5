import Mailroom.Proofs.Mime.Segment

/-!
# What every extraction looks like

A body is shown as the text that it is, by the leaves of its container, or whole as plain text,
either because its container cannot be taken apart or because its type is not known.  Only the
last two come with a warning, and `IsShown` says when each of these ways is taken.  All that
holds of warnings and slots is read off its cases.

## Key results

* `containerBoundary?_eq_some_iff`   where the boundary of a container is found
* `isShown_extract`                  the ways to show a body
* `extract_shape`                    when there is a warning, which one, and what is shown then
-/

namespace Mailroom.Mime

open Text Boundary

/-! ## Media types -/

/-- The names of the media types that are known. -/
def knownTypes : List Text :=
  ["text/plain", "text/html", "multipart/alternative", "multipart/mixed"].map String.toList

namespace ContentType

variable {type : ContentType}

/-- A type is taken for a text exactly by its whole name. -/
theorem mediaType_eq_text_iff {kind : Kind} :
    type.mediaType = .text kind ↔ type.name = kind.name := by
  constructor
  · intro h
    rw [← MediaType.name_ofName type.name, ← mediaType, h, MediaType.name]
  · intro h
    rw [mediaType, h]
    cases kind <;> rfl

/-- So is one taken for a container. -/
theorem mediaType_eq_multipart_iff {container : Container} :
    type.mediaType = .multipart container ↔ type.name = container.name := by
  constructor
  · intro h
    rw [← MediaType.name_ofName type.name, ← mediaType, h, MediaType.name]
  · intro h
    rw [mediaType, h]
    cases container <;> rfl

/-- The media types that are told apart are those with one of the known names. -/
theorem name_not_mem_knownTypes_iff :
    type.name ∉ knownTypes ↔ ∃ name, type.mediaType = .other name := by
  constructor
  · intro h
    cases hmedia : type.mediaType with
    | text kind =>
      rw [mediaType_eq_text_iff.1 hmedia] at h
      exact absurd (by cases kind <;> decide) h
    | multipart container =>
      rw [mediaType_eq_multipart_iff.1 hmedia] at h
      exact absurd (by cases container <;> decide) h
    | other name => exact ⟨name, rfl⟩
  · intro ⟨name, hother⟩ hmem
    -- a type of another name is none of the four, of either sort
    have hkind : ∀ kind : Kind, type.name ≠ kind.name := by
      intro kind hname
      rw [mediaType_eq_text_iff.2 hname] at hother
      exact nomatch hother
    have hcontainer : ∀ container : Container, type.name ≠ container.name := by
      intro container hname
      rw [mediaType_eq_multipart_iff.2 hname] at hother
      exact nomatch hother
    simp only [knownTypes, List.map_cons, List.map_nil, List.mem_cons, List.not_mem_nil,
      or_false] at hmem
    obtain hplain | hhtml | halternative | hmixed := hmem
    · exact hkind .plain hplain
    · exact hkind .html hhtml
    · exact hcontainer .alternative halternative
    · exact hcontainer .mixed hmixed

end ContentType

/-! ## The boundary of a container -/

/-- The text that is searched when the content type of a container gives no boundary:
alternatives declare it in their body, and a mixed container in its header. -/
def Container.searched (header body : Text) : Container → Text
  | .alternative => body
  | .mixed => header

/-- The container goes by the boundary: its content type gives it, or gives none but an empty
one, and the boundary is the first that is declared in the text that is searched. -/
inductive GoesBy (container : Container) (header body boundary : Text) : Prop where
  | given (hgiven : (ContentType.parse header).attribute? "boundary".toList = some boundary)
      (hne : boundary ≠ [])
  | declared
      (hnone : ∀ b, (ContentType.parse header).attribute? "boundary".toList = some b → b = [])
      (hfound : Boundary.find? (container.searched header body) = some boundary)

/-- No container goes by an empty boundary: what a content type gives is tested for it, and what is
declared is a token. -/
theorem GoesBy.ne_nil {container : Container} {header body boundary : Text}
    (h : GoesBy container header body boundary) : boundary ≠ [] := by
  cases h with
  | given _ hne => exact hne
  | declared _ hfound => exact ne_nil_of_find? hfound

/-- The boundary of a container is the one that it goes by. -/
theorem containerBoundary?_eq_some_iff {container : Container} {header body boundary : Text} :
    containerBoundary? container header body = some boundary ↔
      GoesBy container header body boundary := by
  -- the containers differ in what is searched, and in nothing else
  have hsearched : containerBoundary? container header body =
      (ContentType.parse header).boundary?.or (find? (container.searched header body)) := by
    cases container <;> rfl
  rw [hsearched, Option.or_eq_some_iff, ContentType.boundary?, Option.filter_eq_some_iff,
    Option.filter_eq_none_iff]
  constructor
  · rintro (⟨hgiven, hne⟩ | ⟨hnone, hfound⟩)
    · exact .given hgiven (by simpa using hne)
    · exact .declared (fun b hb => by simpa using hnone b hb) hfound
  · intro h
    cases h with
    | given hgiven hne => exact .inl ⟨hgiven, by simpa using hne⟩
    | declared hnone hfound => exact .inr ⟨fun b hb => by simpa using hnone b hb, hfound⟩

/-- The container cannot be taken apart: it goes by no boundary but the empty one, or by one at
which its body has no segment. -/
def IsMalformed (container : Container) (header body : Text) : Prop :=
  (∀ boundary, boundary ≠ [] → ¬ GoesBy container header body boundary) ∨
    ∃ boundary, GoesBy container header body boundary ∧ parts boundary body = []

/-- A body gives no leaves, not even an empty list of them, exactly if its container is malformed.
-/
theorem leaves?_eq_none_iff {container : Container} {header body : Text} :
    leaves? container (containerBoundary? container header body) body = none ↔
      IsMalformed container header body := by
  rw [leaves?, Option.map_eq_none_iff, IsMalformed, segments?]
  cases hboundary : containerBoundary? container header body with
  | none =>
    have hnot : ∀ boundary, ¬ GoesBy container header body boundary := by
      intro boundary
      rw [← containerBoundary?_eq_some_iff, hboundary]
      exact (Option.some_ne_none boundary).symm
    simp [hnot]
  | some b =>
    have hb := containerBoundary?_eq_some_iff.1 hboundary
    -- a container goes by one boundary at most
    have honly : ∀ boundary, GoesBy container header body boundary ↔ boundary = b := by
      intro boundary
      rw [← containerBoundary?_eq_some_iff, hboundary, Option.some.injEq, eq_comm]
    simp only [honly, Option.map_some, Option.filter_some, exists_eq_left]
    constructor
    · intro hnone
      exact .inr (by simpa using hnone)
    · intro hmalformed
      have hparts := hmalformed.resolve_left fun hnot => hnot b hb.ne_nil rfl
      simp [hparts]

/-! ## The ways to show a body -/

/-- How a body is shown: as the text that it is, by the leaves of its container, or whole as plain
text with a warning, because the container is malformed or the type is not known. -/
inductive IsShown (layout : Plain.Layout) (header body : Text) : Extraction → Prop where
  | plain (hname : (ContentType.parse header).name = Kind.plain.name) :
    IsShown layout header body ⟨some (layout.plain body), none, []⟩
  | html (hname : (ContentType.parse header).name = Kind.html.name) :
    IsShown layout header body ⟨some (layout.html body), some body, []⟩
  | leaves {container : Container} {ls : List Leaf}
      (hname : (ContentType.parse header).name = container.name)
      (hleaves : leaves? container (containerBoundary? container header body) body = some ls) :
    IsShown layout header body ⟨(lastText? .plain ls).map layout.plain, lastText? .html ls, []⟩
  | malformed {container : Container}
      (hname : (ContentType.parse header).name = container.name)
      (hmalformed : IsMalformed container header body) :
    IsShown layout header body ⟨some (layout.plain body), none, [.malformedBoundary container]⟩
  | unsupported (hname : (ContentType.parse header).name ∉ knownTypes) :
    IsShown layout header body ⟨some (layout.plain body), none, [.unsupportedType (trim header)]⟩

/-- Every extraction is one of the five ways to show a body. -/
theorem isShown_extract (layout : Plain.Layout) (header body : Text) :
    IsShown layout header body (extract layout header body) := by
  rw [extract]
  -- the media type decides, and a container goes by its leaves
  split
  · next hmedia => exact .plain (ContentType.mediaType_eq_text_iff.1 hmedia)
  · next hmedia => exact .html (ContentType.mediaType_eq_text_iff.1 hmedia)
  · next container hmedia =>
    have hname := ContentType.mediaType_eq_multipart_iff.1 hmedia
    rw [extractContainer]
    split
    · next ls hleaves => exact .leaves hname hleaves
    · next hnone => exact .malformed hname (leaves?_eq_none_iff.1 hnone)
  · next name hmedia =>
    exact .unsupported (ContentType.name_not_mem_knownTypes_iff.2 ⟨name, hmedia⟩)

/-- Both texts are known types. -/
theorem Kind.name_mem_knownTypes (kind : Kind) : kind.name ∈ knownTypes := by
  cases kind <;> decide

/-- Both containers are known types. -/
theorem Container.name_mem_knownTypes (container : Container) : container.name ∈ knownTypes := by
  cases container <;> decide

/-- No text has the name of a container, so that the ways to show a body exclude each other. -/
theorem Kind.name_ne_container (kind : Kind) (container : Container) :
    kind.name ≠ container.name := by
  cases kind <;> cases container <;> decide

/-- The two containers have different names. -/
theorem Container.name_injective : Function.Injective Container.name := by
  intro a b h
  cases a <;> cases b
  · rfl
  · exact absurd h (by decide)
  · exact absurd h (by decide)
  · rfl

namespace IsShown

variable {layout : Plain.Layout} {header body : Text} {e : Extraction}

/-- No way to show a body gives more than one warning. -/
theorem length_warnings_le (h : IsShown layout header body e) : e.warnings.length ≤ 1 := by
  cases h <;> simp

/-- A type is reported exactly when it is not known. -/
theorem unsupportedType_mem_iff (h : IsShown layout header body e) :
    (∃ value, .unsupportedType value ∈ e.warnings) ↔
      (ContentType.parse header).name ∉ knownTypes := by
  cases h with
  | plain hname => simp [hname, Kind.name_mem_knownTypes, -Kind.name_plain]
  | html hname => simp [hname, Kind.name_mem_knownTypes, -Kind.name_html]
  | leaves hname _ => simp [hname, Container.name_mem_knownTypes]
  | malformed hname _ => simp [hname, Container.name_mem_knownTypes]
  | unsupported hname => simp [hname]

/-- A container is reported exactly when it is malformed. -/
theorem malformedBoundary_mem_iff (h : IsShown layout header body e) (container : Container) :
    .malformedBoundary container ∈ e.warnings ↔
      (ContentType.parse header).name = container.name ∧ IsMalformed container header body := by
  cases h with
  | plain hname => simp [hname, Kind.name_ne_container, -Kind.name_plain]
  | html hname => simp [hname, Kind.name_ne_container, -Kind.name_html]
  | leaves hname hleaves =>
    simp only [List.not_mem_nil, false_iff, not_and]
    intro hother
    -- a container with leaves is not malformed
    have hsame := Container.name_injective (hname.symm.trans hother)
    rw [← leaves?_eq_none_iff, ← hsame, hleaves]
    simp
  | malformed hname hmalformed =>
    simp only [List.mem_singleton, Warning.malformedBoundary.injEq]
    constructor
    · intro hsame
      rw [hsame]
      exact ⟨hname, hmalformed⟩
    · intro hother
      exact (Container.name_injective (hname.symm.trans hother.1)).symm
  | unsupported hname =>
    simp only [List.mem_singleton, reduceCtorEq, false_iff, not_and]
    intro hother
    rw [hother] at hname
    exact absurd container.name_mem_knownTypes hname

/-- With a warning the whole body is shown as plain text, and no HTML. -/
theorem eq_whole_of_warnings (h : IsShown layout header body e) (hne : e.warnings ≠ []) :
    e.html = none ∧ e.plain = some (layout.plain body) := by
  cases h <;> simp_all

end IsShown

namespace Extraction

/-- The content type is known exactly when no unknown one is reported. -/
theorem isSupported_eq_false_iff (e : Extraction) :
    e.isSupported = false ↔ ∃ value, .unsupportedType value ∈ e.warnings := by
  rw [isSupported, List.isEmpty_eq_false_iff_exists_mem]
  constructor
  · intro ⟨warning, hmem⟩
    obtain ⟨hmem, hkind⟩ := List.mem_filter.1 hmem
    cases warning with
    | unsupportedType value => exact ⟨value, hmem⟩
    | malformedBoundary container => exact nomatch hkind
  · intro ⟨value, hmem⟩
    exact ⟨_, List.mem_filter.2 ⟨hmem, rfl⟩⟩

/-- The bodies that are listed are the ones that are set, plain text first. -/
theorem contents_eq (e : Extraction) :
    e.contents = (e.plain.map fun t => (Kind.plain, t)).toList ++
      (e.html.map fun t => (Kind.html, t)).toList := by
  obtain ⟨plain, html, warnings⟩ := e
  cases plain <;> cases html <;> rfl

end Extraction

/-- An extraction has one warning at most.  It reports the content type exactly when that is none
of the known ones, and the boundary exactly when the body is of a container that goes by no
boundary or has no segment at it.  With a warning the whole body is shown as plain text alone.
The bodies are listed as they are set, plain text first. -/
theorem extract_shape (layout : Plain.Layout) (header body : Text) :
    let e := extract layout header body
    e.warnings.length ≤ 1 ∧
      ((∃ value, .unsupportedType value ∈ e.warnings) ↔
        (ContentType.parse header).name ∉ knownTypes) ∧
      (e.isSupported = false ↔ ∃ value, .unsupportedType value ∈ e.warnings) ∧
      (∀ container, .malformedBoundary container ∈ e.warnings ↔
        (ContentType.parse header).name = container.name ∧ IsMalformed container header body) ∧
      (e.warnings ≠ [] → e.html = none ∧ e.plain = some (layout.plain body)) ∧
      e.contents = (e.plain.map fun t => (Kind.plain, t)).toList ++
        (e.html.map fun t => (Kind.html, t)).toList := by
  have hshown := isShown_extract layout header body
  exact ⟨hshown.length_warnings_le, hshown.unsupportedType_mem_iff,
    Extraction.isSupported_eq_false_iff _, hshown.malformedBoundary_mem_iff,
    hshown.eq_whole_of_warnings, Extraction.contents_eq _⟩

end Mailroom.Mime
