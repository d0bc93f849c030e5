import Mailroom.Proofs.Mime.Boundary
import Mailroom.Proofs.Text.Division

/-!
# Delimiters anywhere in a body

The delimiter of a container divides a body wherever it stands, and there is one way to divide it:
each time at the leftmost delimiter in what remains.  The first piece is no part, nor is any piece
from the closing delimiter on, nor a blank one.

Delimiters are looked for in the middle of a line, too.  So a part comes back whole exactly when it
does not hold the delimiter at all: otherwise the delimiter divides the part, and with two dashes
behind it the rest of the body is lost.

## Key results

* `parts_of_divides`            the pieces of a body and which of them are its parts
* `parts_enclose_iff`           when the parts of a body are the texts put into it
* `not_parts_enclose_midLine`   a part that only quotes the delimiter is cut off
-/

namespace Mailroom.Mime.Boundary

open Text

/-! ## The pieces of a body -/

/-- Without a delimiter nothing is delimited. -/
theorem parts_eq_nil_of_not_infix {boundary body : Text} (h : ¬ delimiter boundary <:+: body) :
    parts boundary body = [] := by
  rw [parts, splitOn_eq_singleton h]
  split <;> rfl

/-- There is one way to divide a body at its delimiters, each time at the leftmost one in what
remains of it.  No piece holds the delimiter, and its parts are the pieces that are not blank, from
behind the first delimiter up to the first piece that starts with two dashes.  An empty boundary
delimits nothing, and a body without a delimiter has no parts. -/
theorem parts_of_divides (boundary body : Text) :
    (boundary ≠ [] → ∃ preamble opened closed,
      (∀ pieces, Divides (delimiter boundary) body pieces ↔
        pieces = preamble :: (opened ++ closed)) ∧
      join (delimiter boundary) (preamble :: (opened ++ closed)) = body ∧
      (∀ piece ∈ preamble :: (opened ++ closed), ¬ delimiter boundary <:+: piece) ∧
      (∀ piece ∈ opened, ¬ ['-', '-'] <+: piece) ∧
      (∀ piece ∈ closed.head?, ['-', '-'] <+: piece) ∧
      parts boundary body = opened.filter (!isBlankText ·)) ∧
    (boundary = [] ∨ ¬ delimiter boundary <:+: body → parts boundary body = []) := by
  constructor
  · intro hne
    have hdivides := divides_splitOn (delimiter_ne_nil boundary) body
    obtain ⟨preamble, pieces, hsplit⟩ := List.exists_cons_of_ne_nil hdivides.ne_nil
    -- behind the preamble, the pieces are open up to the first that starts with dashes
    have hpieces : pieces.takeWhile (!startsWith ['-', '-'] ·) ++
        pieces.dropWhile (!startsWith ['-', '-'] ·) = pieces :=
      List.takeWhile_append_dropWhile
    refine ⟨preamble, pieces.takeWhile (!startsWith ['-', '-'] ·),
      pieces.dropWhile (!startsWith ['-', '-'] ·), ?_⟩
    rw [hpieces, ← hsplit]
    refine ⟨fun _ => divides_iff (delimiter_ne_nil boundary), hdivides.join_eq,
      fun _ => hdivides.not_infix_of_mem (delimiter_ne_nil boundary), ?_, ?_, ?_⟩
    · -- an open piece is one that the closing dashes do not start
      intro piece hpiece
      have hopen := List.all_eq_true.1 List.all_takeWhile piece hpiece
      rwa [Bool.not_eq_true', ← Bool.not_eq_true, startsWith_iff] at hopen
    · intro piece hpiece
      have hclose := List.head?_dropWhile_not (!startsWith ['-', '-'] ·) pieces
      rw [Option.mem_def.1 hpiece] at hclose
      simpa [startsWith_iff] using hclose
    · rw [parts, if_neg (by simpa using hne), hsplit, List.drop_one, List.tail_cons]
  · rintro (rfl | hfree)
    · rfl
    · exact parts_eq_nil_of_not_infix hfree

/-- A boundary made of a dash overlaps with itself in a row of dashes, where the leftmost delimiter
counts. -/
theorem parts_of_divides_dashes :
    "-".toList ≠ [] ∧
    (∀ pieces, Divides (delimiter "-".toList) "x----y---".toList pieces ↔
      pieces = ["x".toList, "-y".toList, []]) ∧
    parts "-".toList "x----y---".toList = ["-y".toList] ∧
    ¬ delimiter "-".toList <:+: "x--y".toList ∧ parts "-".toList "x--y".toList = [] := by
  obtain ⟨preamble, opened, closed, hall, -, -, -, -, -⟩ :=
    (parts_of_divides "-".toList "x----y---".toList).1 (by decide)
  have hdivides : Divides (delimiter "-".toList) "x----y---".toList
      ["x".toList, "-y".toList, []] :=
    (divides_iff (delimiter_ne_nil _)).2 (by decide +kernel)
  have hfree : ¬ delimiter "-".toList <:+: "x--y".toList := by
    rw [← contains_iff]
    decide
  refine ⟨by decide, fun pieces => ?_, by decide +kernel, hfree, ?_⟩
  · rw [hall, ← (hall _).1 hdivides]
  · exact (parts_of_divides "-".toList "x--y".toList).2 (.inr hfree)

/-! ## Texts put into a body -/

/-- A text of whole lines between two delimiters: it starts with the line break after the one,
ends with the line break before the other, and is not blank. -/
structure IsWholeLines (part : Text) : Prop where
  starts : part.head? = some '\n'
  ends : part.getLast? = some '\n'
  solid : isBlankText part = false

instance (part : Text) : Decidable (IsWholeLines part) :=
  decidable_of_iff (part.head? = some '\n' ∧ part.getLast? = some '\n' ∧ isBlankText part = false)
    ⟨fun h => ⟨h.1, h.2.1, h.2.2⟩, fun h => ⟨h.starts, h.ends, h.solid⟩⟩

/-- The parts of a body are the pieces of the texts put into it, up to the first that starts with
dashes.  They are the texts themselves exactly when none of these holds the delimiter anywhere. -/
theorem parts_enclose_iff {boundary : Text} (hne : boundary ≠ []) (hline : '\n' ∉ boundary)
    (around : Surroundings boundary) {ps : List Text} (hps : ∀ p ∈ ps, IsWholeLines p) :
    parts boundary (enclose around ps) =
        ((ps.flatMap (splitOn (delimiter boundary))).takeWhile (!startsWith ['-', '-'] ·)).filter
          (!isBlankText ·) ∧
      (parts boundary (enclose around ps) = ps ↔ ∀ p ∈ ps, ¬ delimiter boundary <:+: p) := by
  have hparts := parts_enclose_eq hne hline around fun p hp => (hps p hp).ends
  refine ⟨hparts, fun h p hp => ?_, fun hfree => ?_⟩
  · rw [← h] at hp
    exact not_infix_of_mem_parts hp
  · have hsolid : ∀ p ∈ ps, (!isBlankText p) = true := fun p hp => by rw [(hps p hp).solid]; rfl
    rw [hparts, takeWhile_flatMap_splitOn fun p hp => ⟨(hps p hp).starts, hfree p hp⟩,
      List.filter_eq_self.2 hsolid]

/-- A boundary may hold a space, and a part may start like the delimiter. -/
theorem parts_enclose_iff_spaced :
    ("x y".toList ≠ [] ∧ '\n' ∉ "x y".toList ∧
      ∀ p ∈ ["\n--x\n".toList, "\nlast\n".toList], IsWholeLines p) ∧
    parts "x y".toList (enclose (.nothing "x y".toList) ["\n--x\n".toList, "\nlast\n".toList]) =
      ["\n--x\n".toList, "\nlast\n".toList] := by
  have hps : ∀ p ∈ ["\n--x\n".toList, "\nlast\n".toList], IsWholeLines p := by decide
  have hfree : ∀ p ∈ ["\n--x\n".toList, "\nlast\n".toList], ¬ delimiter "x y".toList <:+: p := by
    simp only [← contains_iff]
    decide
  exact ⟨⟨by decide, by decide, hps⟩,
    (parts_enclose_iff (by decide) (by decide) (.nothing _) hps).2.2 hfree⟩

/-- A part that quotes the closing delimiter in the middle of a line is cut off there, though none
of its lines starts with a delimiter. -/
theorem not_parts_enclose_midLine :
    ("B".toList ≠ [] ∧ '\n' ∉ "B".toList ∧ IsWholeLines "\nsee a--B-- there\n".toList ∧
      ∀ line ∈ lines "\nsee a--B-- there\n".toList, ¬ delimiter "B".toList <+: line) ∧
    parts "B".toList (enclose (.nothing "B".toList) ["\nsee a--B-- there\n".toList]) =
      ["\nsee a".toList] ∧
    "\nsee a".toList ≠ "\nsee a--B-- there\n".toList := by
  refine ⟨⟨by decide, by decide, by decide, ?_⟩, by decide +kernel, by decide⟩
  simp only [← startsWith_iff]
  decide

end Mailroom.Mime.Boundary
