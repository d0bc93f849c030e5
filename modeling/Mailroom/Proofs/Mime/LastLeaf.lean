import Mailroom.Proofs.Mime.Loss

/-!
# The last leaf of each kind

Of the leaves of a container only the last of each kind is shown.  So a segment that contributes
no leaf can stand anywhere or be left out, and neighbours may change places unless they contribute
leaves of one kind.  This is a fact about lists of leaves (`lastText?_append`), once it is known
that a body made of segments has exactly the leaves that these contribute, in their order
(`leaves?_enclose`).

## Key results

* `leaves?_enclose`       the leaves of a body are those of its segments
* `extract_rearranged`    what may be put in and what may change places
-/

namespace Mailroom.Mime

open Text Boundary

/-! ## Leaves of lists -/

/-- The last leaf of a kind is looked for in what stands behind first. -/
theorem lastText?_append (kind : Kind) (ls ms : List Leaf) :
    lastText? kind (ls ++ ms) = (lastText? kind ms).or (lastText? kind ls) := by
  simp only [lastText?, List.reverse_append, List.find?_append, Option.map_or]

/-- A kind has no text if there is no leaf of it. -/
theorem lastText?_eq_none_iff {kind : Kind} {ls : List Leaf} :
    lastText? kind ls = none ↔ ∀ l ∈ ls, l.kind ≠ kind := by
  rw [← Option.not_isSome_iff_eq_none, isSome_lastText?_iff]
  simp

/-- Leaves of different kinds may change places. -/
theorem lastText?_append_comm {ls ms : List Leaf} (h : ∀ l ∈ ls, ∀ m ∈ ms, l.kind ≠ m.kind)
    (kind : Kind) : lastText? kind (ls ++ ms) = lastText? kind (ms ++ ls) := by
  rw [lastText?_append, lastText?_append]
  -- one of the two lists has no leaf of the kind
  by_cases hl : ∀ l ∈ ls, l.kind ≠ kind
  · rw [lastText?_eq_none_iff.2 hl, Option.or_none, Option.none_or]
  · simp only [Classical.not_forall, Classical.not_not] at hl
    obtain ⟨l, hmem, hkind⟩ := hl
    have hm : ∀ m ∈ ms, m.kind ≠ kind := by
      intro m hm hsame
      exact h l hmem m hm (hkind.trans hsame.symm)
    rw [lastText?_eq_none_iff.2 hm, Option.or_none, Option.none_or]

/-! ## Leaves of bodies -/

/-- A blank segment contributes nothing. -/
theorem segmentLeaves_of_isBlankText {container : Container} {segment : Text}
    (h : isBlankText segment = true) : segmentLeaves container segment = [] := by
  apply segmentLeaves_eq_nil_iff.2
  -- the name of a kind is not blank
  have hfree : ∀ name : Text, 't' ∈ name → ¬ name <:+: segment := by
    intro name hmem hname
    have := isBlankText_iff.1 h 't' (hname.subset hmem)
    exact absurd this (by decide)
  exact .inl (sniffKind_eq_none_iff.2 ⟨hfree _ (by decide), hfree _ (by decide)⟩)

/-- Segments that make up a body: each fits between delimiters, and not all of them are blank. -/
structure AreBody (boundary : Text) (segments : List Text) : Prop where
  isPart : ∀ s ∈ segments, IsPart boundary s
  solid : ∃ s ∈ segments, isBlankText s = false

instance (boundary : Text) (segments : List Text) : Decidable (AreBody boundary segments) :=
  decidable_of_iff ((∀ s ∈ segments, IsPart boundary s) ∧ ∃ s ∈ segments, isBlankText s = false)
    ⟨fun h => ⟨h.1, h.2⟩, fun h => ⟨h.isPart, h.solid⟩⟩

namespace AreBody

variable {boundary : Text} {segments : List Text}

/-- Segments that make up a body do so in any order. -/
theorem perm {segments' : List Text} (h : AreBody boundary segments)
    (hperm : segments.Perm segments') : AreBody boundary segments' where
  isPart s hs := h.isPart s (hperm.mem_iff.2 hs)
  solid := by
    obtain ⟨s, hs, hblank⟩ := h.solid
    exact ⟨s, hperm.mem_iff.1 hs, hblank⟩

/-- One more part can stand before them. -/
theorem cons {p : Text} (h : AreBody boundary segments) (hp : IsPart boundary p) :
    AreBody boundary (p :: segments) where
  isPart s hs := by
    obtain rfl | hs := List.mem_cons.1 hs
    · exact hp
    · exact h.isPart s hs
  solid := by
    obtain ⟨s, hs, hblank⟩ := h.solid
    exact ⟨s, List.mem_cons_of_mem p hs, hblank⟩

end AreBody

/-- The leaves of a body are those that its segments contribute, in their order. -/
theorem leaves?_enclose {boundary : Text} (hb : IsQuotable boundary) (container : Container)
    (around : Surroundings boundary) {segments : List Text} (h : AreBody boundary segments) :
    leaves? container (some boundary) (enclose around segments) =
      some (segments.flatMap (segmentLeaves container)) := by
  have hparts := parts_enclose hb around h.isPart
  have hne : segments.filter (!isBlankText ·) ≠ [] := by
    obtain ⟨s, hs, hblank⟩ := h.solid
    apply List.ne_nil_of_mem (a := s)
    rw [List.mem_filter, hblank]
    exact ⟨hs, rfl⟩
  -- the blank segments that are left out contribute nothing
  have hleaves : (segments.filter (!isBlankText ·)).flatMap (segmentLeaves container) =
      segments.flatMap (segmentLeaves container) := by
    clear h hparts hne
    induction segments with
    | nil => rfl
    | cons s segments ih =>
      rw [List.filter_cons, List.flatMap_cons]
      split
      · rw [List.flatMap_cons, ih]
      · next hblank =>
        rw [segmentLeaves_of_isBlankText (by simpa using hblank), ih, List.nil_append]
  rw [leaves?, segments?_eq_some_iff.2 ⟨boundary, rfl, hparts, hne⟩, Option.map_some, hleaves]

/-! ## Extraction -/

/-- Both segments contribute a leaf of some kind. -/
def ShareKind (container : Container) (p q : Text) : Prop :=
  ∃ l ∈ segmentLeaves container p, ∃ m ∈ segmentLeaves container q, l.kind = m.kind

instance (container : Container) (p q : Text) : Decidable (ShareKind container p q) :=
  inferInstanceAs (Decidable (∃ l ∈ segmentLeaves container p, ∃ m ∈ segmentLeaves container q,
    l.kind = m.kind))

section Extract

variable (layout : Plain.Layout) {header boundary : Text} {container : Container}
  (hb : IsQuotable boundary) (hdeclares : Declares header container boundary)
  (around : Surroundings boundary)

include hb hdeclares

/-- A body made of segments shows the last leaf of each kind that they contribute. -/
theorem extract_enclose {segments : List Text} (h : AreBody boundary segments) :
    extract layout header (enclose around segments) =
      ⟨(lastText? .plain (segments.flatMap (segmentLeaves container))).map layout.plain,
        lastText? .html (segments.flatMap (segmentLeaves container)), []⟩ := by
  have hboundary : containerBoundary? container header (enclose around segments) =
      some boundary := by
    rw [containerBoundary?.eq_def, hdeclares.boundary, Option.some_or]
  rw [extract, hdeclares.mediaType]
  simp only [hboundary, extractContainer, leaves?_enclose hb container around h]

/-- Bodies whose segments contribute the same last leaf of each kind are shown alike. -/
theorem extract_enclose_congr {ps qs : List Text} (hps : AreBody boundary ps)
    (hqs : AreBody boundary qs)
    (hlast : ∀ kind, lastText? kind (ps.flatMap (segmentLeaves container)) =
      lastText? kind (qs.flatMap (segmentLeaves container))) :
    extract layout header (enclose around ps) = extract layout header (enclose around qs) := by
  rw [extract_enclose layout hb hdeclares around hps,
    extract_enclose layout hb hdeclares around hqs,
    hlast, hlast]

/-- Between the segments of a body a further one that contributes no leaf changes nothing, and
neighbours may change places unless both contribute a leaf of one kind. -/
theorem extract_rearranged (before after : List Text) :
    (∀ p, AreBody boundary (before ++ after) → IsPart boundary p →
        segmentLeaves container p = [] →
          extract layout header (enclose around (before ++ p :: after)) =
            extract layout header (enclose around (before ++ after))) ∧
      ∀ p q, AreBody boundary (before ++ p :: q :: after) → ¬ ShareKind container p q →
        extract layout header (enclose around (before ++ p :: q :: after)) =
          extract layout header (enclose around (before ++ q :: p :: after)) := by
  constructor
  · intro p hbody hp hnone
    have hinserted : AreBody boundary (before ++ p :: after) :=
      (hbody.cons hp).perm List.perm_middle.symm
    apply extract_enclose_congr layout hb hdeclares around hinserted hbody
    intro kind
    simp only [List.flatMap_append, List.flatMap_cons, hnone, List.nil_append]
  · intro p q hbody hshare
    have hswapped : AreBody boundary (before ++ q :: p :: after) :=
      hbody.perm (List.Perm.append_left before (List.Perm.swap q p after))
    apply extract_enclose_congr layout hb hdeclares around hbody hswapped
    intro kind
    have hdiffer : ∀ l ∈ segmentLeaves container p, ∀ m ∈ segmentLeaves container q,
        l.kind ≠ m.kind := by
      intro l hl m hm hsame
      exact hshare ⟨l, hl, m, hm, hsame⟩
    -- the leaves behind the two count before theirs, and the leaves before them after
    have hsplit (a b : Text) :
        lastText? kind ((before ++ a :: b :: after).flatMap (segmentLeaves container)) =
          ((lastText? kind (after.flatMap (segmentLeaves container))).or
            (lastText? kind (segmentLeaves container a ++ segmentLeaves container b))).or
              (lastText? kind (before.flatMap (segmentLeaves container))) := by
      simp only [List.flatMap_append, List.flatMap_cons, lastText?_append, Option.or_assoc]
    rw [hsplit, hsplit, lastText?_append_comm hdiffer]

end Extract

/-- A header that gives its boundary between double quotes among other attributes. -/
def quotedHeader : Text := "Multipart/Mixed; boundary=b; BOUNDARY = \"-=\" ; charset=utf-8".toList

/-- Alternatives with a plain text and an HTML. -/
def bothKinds : Text :=
  "\nContent-Type: multipart/alternative; boundary=i\n\n--i\ntext/plain\n\n--i\n".toList ++
    "Content-Type: text/html\n\n<b>1</b>\n--i--\n".toList

/-- A plain text that looks like a delimiter. -/
def dashedPlain : Text := "\nContent-Type: text/plain\n\n--=\n".toList

/-- An image between the two, or the two in the other order with an HTML after them. -/
theorem extract_rearranged_nested :
    extract {} quotedHeader (enclose (.nothing "-=".toList)
        [bothKinds, "\nContent-Type: image/png\n\n--\n".toList, dashedPlain]) =
      ⟨some "--=".toList, some "<b>1</b>".toList, []⟩ ∧
    extract {} quotedHeader (enclose (.nothing "-=".toList)
        [dashedPlain, "\ntext/html\n".toList, bothKinds]) =
      extract {} quotedHeader (enclose (.nothing "-=".toList)
        ["\ntext/html\n".toList, dashedPlain, bothKinds]) := by
  have hb : IsQuotable "-=".toList := by decide +kernel
  have hfields : fields ';' quotedHeader = "Multipart/Mixed".toList ::
      ([" boundary=b".toList] ++ (" BOUNDARY ".toList ++
        '=' :: ([' '] ++ '"' :: ("-=".toList ++ ['"']) ++ [' '])) ::
          [" charset=utf-8".toList]) := by decide +kernel
  have hdeclares : Declares quotedHeader .mixed "-=".toList :=
    declares_of_quoted hb hfields (by decide +kernel) (by decide +kernel) (by decide +kernel)
      rfl rfl (by decide +kernel)
  have hinsert := (extract_rearranged {} hb hdeclares (.nothing "-=".toList)
    [bothKinds] [dashedPlain]).1 "\nContent-Type: image/png\n\n--\n".toList
      (by decide +kernel) (by decide +kernel) (by decide +kernel)
  have hswap := (extract_rearranged {} hb hdeclares (.nothing "-=".toList)
    [] [bothKinds]).2 dashedPlain "\ntext/html\n".toList
      (by decide +kernel) (by decide +kernel)
  constructor
  · apply hinsert.trans
    decide +kernel
  · exact hswap

end Mailroom.Mime
