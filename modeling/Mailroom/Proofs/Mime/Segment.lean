import Mailroom.Mime.Extraction
import Mailroom.Proofs.Mime.ContentType
import Mailroom.Proofs.Mime.Leaf

/-!
# What a segment contributes

The segments of a body are the pieces between its delimiters, and those of an alternatives
part are pieces of that part in turn.  So a segment that mentions no kind of text contributes
no leaf, at either level, and one that does contributes a leaf unless a mixed container
searches it for alternatives in vain.

## Key results

* `segments?_eq_some_iff`    when a body has segments, and which
* `segmentLeaves_eq_nil_iff` when a segment contributes nothing
* `infix_raw_of_leaves?`     the content of a leaf is a piece of the body
-/

namespace Mailroom.Mime

open Text Boundary

/-- The segments of a body are its parts by the boundary, if there is a boundary and one part at
least. -/
theorem segments?_eq_some_iff {boundary : Option Text} {body : Text} {segments : List Text} :
    segments? boundary body = some segments ↔
      ∃ b, boundary = some b ∧ parts b body = segments ∧ segments ≠ [] := by
  rw [segments?, Option.filter_eq_some_iff, Option.map_eq_some_iff]
  constructor
  · rintro ⟨⟨b, rfl, rfl⟩, hne⟩
    exact ⟨b, rfl, rfl, by simpa using hne⟩
  · rintro ⟨b, rfl, rfl, hne⟩
    exact ⟨⟨b, rfl, rfl⟩, by simpa using hne⟩

/-- The segments of the alternatives that a part may hold. -/
def innerSegments (segment : Text) : List Text :=
  (segments? (Boundary.find? segment) (HeaderBlock.strip segment)).getD []

/-- The nested leaves are those of the inner segments, which may be none. -/
theorem nestedLeaves_eq (segment : Text) :
    nestedLeaves segment = (innerSegments segment).filterMap Leaf.parse? := rfl

/-- An inner segment is a piece of the part. -/
theorem infix_of_mem_innerSegments {p segment : Text} (h : p ∈ innerSegments segment) :
    p <:+: segment := by
  rw [innerSegments] at h
  cases hs : segments? (Boundary.find? segment) (HeaderBlock.strip segment) with
  | none => simp [hs] at h
  | some segments =>
    obtain ⟨b, -, rfl, -⟩ := segments?_eq_some_iff.1 hs
    rw [hs, Option.getD_some] at h
    exact (infix_of_mem_parts h).trans (HeaderBlock.infix_strip segment)

/-- A segment that a mixed container searches for alternatives in vain: it declares no boundary,
or one that does not occur in it, or no segment of its alternatives mentions a kind of text. -/
structure IsSearchedInVain (container : Container) (segment : Text) : Prop where
  mixed : container = .mixed
  mentions : sniffAlternative segment = true
  unknown : ∀ p ∈ innerSegments segment, sniffKind p = none

instance (container : Container) (segment : Text) :
    Decidable (IsSearchedInVain container segment) :=
  decidable_of_iff (container = .mixed ∧ sniffAlternative segment = true ∧
    ∀ p ∈ innerSegments segment, sniffKind p = none)
    ⟨fun h => ⟨h.1, h.2.1, h.2.2⟩, fun h => ⟨h.1, h.2, h.3⟩⟩

/-- A segment contributes nothing when it mentions no kind of text or is searched in vain. -/
theorem segmentLeaves_eq_nil_iff {container : Container} {segment : Text} :
    segmentLeaves container segment = [] ↔
      sniffKind segment = none ∨ IsSearchedInVain container segment := by
  have hnested : nestedLeaves segment = [] ↔ ∀ p ∈ innerSegments segment, sniffKind p = none := by
    rw [nestedLeaves_eq, List.filterMap_eq_nil_iff]
    exact forall₂_congr fun p _ => parse?_eq_none_iff
  rw [segmentLeaves]
  split
  · next h =>
    simp only [Bool.and_eq_true, decide_eq_true_eq] at h
    rw [hnested]
    constructor
    · exact fun hn => .inr ⟨h.1, h.2, hn⟩
    · rintro (hn | hvain)
      · -- a piece of the segment mentions no more than the segment
        exact fun p hp => sniffKind_of_infix (infix_of_mem_innerSegments hp) hn
      · exact hvain.unknown
  · next h =>
    simp only [Bool.and_eq_true, decide_eq_true_eq, not_and] at h
    rw [Option.toList_eq_nil_iff, parse?_eq_none_iff]
    constructor
    · exact .inl
    · rintro (hn | hvain)
      · exact hn
      · exact absurd hvain.mentions (h hvain.mixed)

/-! ## The content of leaves -/

/-- The raw text of a leaf is a piece of its part. -/
theorem infix_raw_of_parse? {part : Text} {l : Leaf} (h : Leaf.parse? part = some l) :
    l.raw <:+: part := by
  rw [Leaf.parse?, Option.map_eq_some_iff] at h
  obtain ⟨kind, -, rfl⟩ := h
  exact HeaderBlock.infix_strip part

/-- So is that of every leaf of a segment, nested ones included. -/
theorem infix_raw_of_mem_segmentLeaves {container : Container} {segment : Text} {l : Leaf}
    (h : l ∈ segmentLeaves container segment) : l.raw <:+: segment := by
  rw [segmentLeaves] at h
  split at h
  · rw [nestedLeaves_eq, List.mem_filterMap] at h
    obtain ⟨p, hp, hl⟩ := h
    exact (infix_raw_of_parse? hl).trans (infix_of_mem_innerSegments hp)
  · exact infix_raw_of_parse? (Option.mem_toList.1 h)

/-- The content of a leaf is a piece of the body. -/
theorem infix_raw_of_leaves? {container : Container} {boundary : Option Text} {body : Text}
    {leaves : List Leaf} (h : leaves? container boundary body = some leaves) {l : Leaf}
    (hl : l ∈ leaves) : l.raw <:+: body := by
  rw [leaves?, Option.map_eq_some_iff] at h
  obtain ⟨segments, hs, rfl⟩ := h
  obtain ⟨b, -, rfl, -⟩ := segments?_eq_some_iff.1 hs
  obtain ⟨p, hp, hmem⟩ := List.mem_flatMap.1 hl
  exact (infix_raw_of_mem_segmentLeaves hmem).trans (infix_of_mem_parts hp)

end Mailroom.Mime
