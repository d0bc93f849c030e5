import Mailroom.Proofs.Encoded.Mime
import Mailroom.Proofs.Encoded.Wrap
import Mailroom.Proofs.Mime.LastLeaf

/-!
# Extraction from encoded bodies

The extraction of a body from its bytes, leaf by leaf in the order in which the leaves are
found, each plain text broken into lines as it is met.  All cuts are made by the readers of
boundaries and headers and by the breaking of lines, so none is refused, and what is extracted
is what is extracted from the text.

## Key results

* `foldlM_showLeaf`    leaves shown one after the other leave the last of each kind
* `extract_ofText`     what is extracted from the bytes of a body
* `no_cut_refused`     every reader of encoded texts ends without a refused cut
-/

namespace Mailroom.Encoded

open Text Mime

/-! ## Layout -/

/-- The plain text body for text that is already plain. -/
def plain (layout : Plain.Layout) (t : Text) : Sliced Text :=
  (ofText (Plain.stripMarkup layout.render t)).wrap layout.width

/-- The plain text body for a document. -/
def html (layout : Plain.Layout) (t : Text) : Sliced Text :=
  (ofText (Plain.ofHtml layout.render t)).wrap layout.width

/-- Laying out plain text, wrapping included, is never refused and gives what the layout gives. -/
theorem plain_eq (layout : Plain.Layout) (t : Text) : plain layout t = .ok (layout.plain t) :=
  wrap_ofText layout.width (Plain.stripMarkup layout.render t)

/-- Nor is laying out markup, whose rendered text is what is wrapped. -/
theorem html_eq (layout : Plain.Layout) (t : Text) : html layout t = .ok (layout.html t) :=
  wrap_ofText layout.width (Plain.ofHtml layout.render t)

/-! ## Leaves -/

/-- The transfer encoding of a part. -/
def detect (part : Encoded) : Sliced TransferEncoding := do
  match ← part.transferEncoding with
  | some value => return if equalsAnyCase value "base64".toList then .base64 else .none
  | none => return .none

/-- The encoding of a part. -/
theorem detect_ofText (part : Text) :
    (ofText part).detect = .ok (TransferEncoding.detect part) := by
  rw [detect, transferEncoding_ofText, TransferEncoding.detect]
  cases HeaderBlock.transferEncoding? part with
  | none => rfl
  | some value => rfl

/-- The leaf that a part is, if it mentions a kind of text. -/
def leaf (part : Encoded) : Sliced (Option Leaf) :=
  match sniffKind part.text with
  | none => return none
  | some kind => do
    let encoding ← part.detect
    let raw ← part.strip
    return some ⟨kind, encoding, raw⟩

/-- The leaf a part gives. -/
theorem leaf_ofText (part : Text) : (ofText part).leaf = .ok (Leaf.parse? part) := by
  rw [leaf, detect_ofText, strip_ofText, text_ofText, Leaf.parse?]
  cases sniffKind part with
  | none => rfl
  | some kind => rfl

/-- The leaves of alternatives that stand in a part of a mixed container. -/
def nestedLeaves (segment : Encoded) : Sliced (List Leaf) := do
  let boundary ← segment.findBoundary
  let body ← segment.strip
  let found ← ((segments? boundary body).getD []).mapM fun part => (ofText part).leaf
  return found.filterMap id

/-- The leaves of a nested alternative. -/
theorem nestedLeaves_ofText (segment : Text) :
    (ofText segment).nestedLeaves = .ok (Mime.nestedLeaves segment) := by
  -- no leaf is refused, so reading them one after the other is a map
  have hleaf : (fun part => (ofText part).leaf) = fun part => pure (Leaf.parse? part) :=
    funext leaf_ofText
  rw [nestedLeaves, findBoundary_ofText, strip_ofText, hleaf]
  simp only [List.mapM_pure]
  show Except.ok ((List.map Leaf.parse? _).filterMap id) = _
  rw [List.filterMap_map]
  rfl

/-- The leaves that a part of a container contributes. -/
def segmentLeaves (container : Container) (segment : Encoded) : Sliced (List Leaf) :=
  if container = .mixed && sniffAlternative segment.text then segment.nestedLeaves
  else do
    let found ← segment.leaf
    return found.toList

/-- The leaves of one part of a container. -/
theorem segmentLeaves_ofText (container : Container) (segment : Text) :
    (ofText segment).segmentLeaves container = .ok (Mime.segmentLeaves container segment) := by
  rw [segmentLeaves, nestedLeaves_ofText, leaf_ofText, text_ofText, Mime.segmentLeaves]
  split
  · rfl
  · rfl

/-- The leaves of a container, if it has parts. -/
def leaves (container : Container) (boundary : Option Text) (body : Encoded) :
    Sliced (Option (List Leaf)) :=
  match segments? boundary body.text with
  | none => return none
  | some segments => do
    let found ← segments.mapM fun segment => (ofText segment).segmentLeaves container
    return some found.flatten

/-- All the leaves of a container, none where the boundary or the delimiter is missing. -/
theorem leaves_ofText (container : Container) (boundary : Option Text) (body : Text) :
    (ofText body).leaves container boundary = .ok (leaves? container boundary body) := by
  -- nor is any part, so the parts are read as by a map
  have hsegment : (fun segment => (ofText segment).segmentLeaves container) =
      fun segment => pure (Mime.segmentLeaves container segment) :=
    funext (segmentLeaves_ofText container)
  rw [leaves, hsegment, text_ofText, leaves?]
  cases segments? boundary body with
  | none => rfl
  | some segments =>
    simp only [List.mapM_pure]
    rfl

/-! ## Extraction -/

/-- The extraction with a leaf in the place of an earlier one of its kind. -/
def showLeaf (layout : Plain.Layout) (e : Extraction) (l : Leaf) : Sliced Extraction :=
  match l.kind with
  | .plain => do
    let shown ← plain layout l.text
    return { e with plain := some shown }
  | .html => return { e with html := some l.text }

/-- Of the leaves that are shown one after the other the last of each kind is left. -/
theorem foldlM_showLeaf (layout : Plain.Layout) (ls : List Leaf) (e : Extraction) :
    ls.foldlM (showLeaf layout) e =
      .ok ⟨((lastText? .plain ls).map layout.plain).or e.plain,
        (lastText? .html ls).or e.html, e.warnings⟩ := by
  induction ls generalizing e with
  | nil => rfl
  | cons l ls ih =>
    have hlast (kind : Kind) : lastText? kind (l :: ls) =
        (lastText? kind ls).or (lastText? kind [l]) :=
      lastText?_append kind [l] ls
    obtain ⟨kind, encoding, raw⟩ := l
    rw [List.foldlM_cons, hlast, hlast, Option.map_or, Option.or_assoc, Option.or_assoc]
    -- the leaf shown now is overwritten by a later one of its kind only
    cases kind with
    | plain =>
      rw [showLeaf, plain_eq]
      exact ih _
    | html => exact ih _

/-- The body of a container that declares the given boundary. -/
def extractContainer (layout : Plain.Layout) (container : Container) (boundary : Option Text)
    (body : Encoded) : Sliced Extraction := do
  match ← body.leaves container boundary with
  | some ls => ls.foldlM (showLeaf layout) {}
  | none =>
    let shown ← plain layout body.text
    return ⟨some shown, none, [.malformedBoundary container]⟩

/-- The extraction of a container, with the warning for a body that is not divided. -/
theorem extractContainer_ofText (layout : Plain.Layout) (container : Container)
    (boundary : Option Text) (body : Text) :
    extractContainer layout container boundary (ofText body) =
      .ok (Mime.extractContainer layout container boundary body) := by
  rw [extractContainer, leaves_ofText, Mime.extractContainer, text_ofText, plain_eq]
  cases leaves? container boundary body with
  | none => rfl
  | some ls =>
    apply (foldlM_showLeaf layout ls {}).trans
    simp only [Option.or_none]

/-- The boundary of a container, looked for only if its content type has none. -/
def containerBoundary (container : Container) (header body : Encoded) : Sliced (Option Text) :=
  match (ContentType.parse header.text).boundary? with
  | some boundary => return some boundary
  | none =>
    match container with
    | .alternative => body.findBoundary
    | .mixed => header.findBoundary

/-- The boundary a container goes by: the one of the header, or else the one an announced
alternative declares. -/
theorem containerBoundary_ofText (container : Container) (header body : Text) :
    containerBoundary container (ofText header) (ofText body) =
      .ok (containerBoundary? container header body) := by
  rw [containerBoundary.eq_def, text_ofText, containerBoundary?.eq_def]
  cases (ContentType.parse header).boundary? with
  | some boundary => rfl
  | none =>
    cases container with
    | alternative => exact findBoundary_ofText body
    | mixed => exact findBoundary_ofText header

/-- The body under the given content type header. -/
def extract (layout : Plain.Layout) (header body : Encoded) : Sliced Extraction :=
  match (ContentType.parse header.text).mediaType with
  | .text .plain => do
    let shown ← plain layout body.text
    return ⟨some shown, none, []⟩
  | .text .html => do
    let shown ← html layout body.text
    return ⟨some shown, some body.text, []⟩
  | .multipart container => do
    let boundary ← containerBoundary container header body
    extractContainer layout container boundary body
  | .other _ => do
    let shown ← plain layout body.text
    return ⟨some shown, none, [.unsupportedType (trim header.text)]⟩

/-- No cut of the extraction is refused: on the encoded texts it gives what it gives on the texts.
-/
theorem extract_ofText (layout : Plain.Layout) (header body : Text) :
    extract layout (ofText header) (ofText body) = .ok (Mime.extract layout header body) := by
  rw [extract, Mime.extract, text_ofText, text_ofText, plain_eq, html_eq]
  cases (ContentType.parse header).mediaType with
  | text kind =>
    cases kind with
    | plain => rfl
    | html => rfl
  | multipart container =>
    simp only [containerBoundary_ofText]
    exact extractContainer_ofText layout container _ body
  | other name => rfl

/-- Whatever characters the bytes spell and at whatever width, every reader of encoded texts
ends without a refused cut and reads what it reads of a text. -/
theorem no_cut_refused (layout : Plain.Layout) (width : Nat) (header body part t : Encoded) :
    extract layout header body = .ok (Mime.extract layout header.text body.text) ∧
      part.strip = .ok (HeaderBlock.strip part.text) ∧
      t.findBoundary = .ok (Boundary.find? t.text) ∧
      part.transferEncoding = .ok (HeaderBlock.transferEncoding? part.text) ∧
      t.wrap width = .ok (Plain.wrap width t.text) := by
  have hextract := extract_ofText layout header.text body.text
  have hstrip := strip_ofText part.text
  have hboundary := findBoundary_ofText t.text
  have hencoding := transferEncoding_ofText part.text
  have hwrap := wrap_ofText width t.text
  simp only [ofText_text] at hextract hstrip hboundary hencoding hwrap
  exact ⟨hextract, hstrip, hboundary, hencoding, hwrap⟩

end Mailroom.Encoded
