import Mathlib.Data.List.Forall2
import Mailroom.Proofs.Plain.Wrap

/-!
# The lines that make up a line

A broken text has a group of lines for each line of the text.  The lines of a group hold the line
piece by piece: each repeats its quote marks, and a break stands after a space and before a word,
so the words, the spaces between them and the quote marks can all be read off the group.

## Key results

* `isQuoteMark_iff`      the quote marks of a line, said without reading it
* `isGroupOf_wrapLine`   the lines that a line becomes make it up
* `exists_groups_wrap`   the lines of a broken text are the groups of its lines
-/

namespace Mailroom.Plain

open Text

/-! ## Quote marks -/

/-- `mark` is the quote marks of a line: all marks that it starts with, and the space after them if
there is one. -/
inductive IsQuoteMark : Text → Text → Prop
  | spaced {marks : Text} (rest : Text) (hmarks : ∀ c ∈ marks, c = '>') (hne : marks ≠ []) :
      IsQuoteMark (marks ++ ' ' :: rest) (marks ++ [' '])
  | bare {marks rest : Text} (hmarks : ∀ c ∈ marks, c = '>') (hmark : rest.head? ≠ some '>')
      (hspace : marks ≠ [] → rest.head? ≠ some ' ') : IsQuoteMark (marks ++ rest) marks

/-- A line has one quote mark, the one that it is broken with. -/
theorem isQuoteMark_iff {line mark : Text} : IsQuoteMark line mark ↔ mark = quoteMark line := by
  constructor
  · intro h
    cases h with
    | spaced rest hmarks hne =>
      have hhead : (' ' :: rest).head? ≠ some '>' := by simp
      rw [quoteMark_marks_append hmarks hhead, if_pos ⟨hne, rfl⟩]
    | bare hmarks hmark hspace =>
      rw [quoteMark_marks_append hmarks hmark, if_neg fun h => hspace h.1 h.2]
  · rintro rfl
    obtain ⟨marks, t, rfl, hmarks, ht⟩ := exists_marks line
    rw [quoteMark_marks_append hmarks ht]
    split
    · next h =>
      obtain ⟨rest, rfl⟩ := List.head?_eq_some_iff.1 h.2
      exact .spaced rest hmarks h.1
    · next h => exact .bare hmarks ht fun hne hspace => h ⟨hne, hspace⟩

/-! ## Groups -/

/-- The lines of the group make up the line, whose quote marks are `mark`. -/
structure IsGroupOf (line mark : Text) (group : List Text) : Prop where
  ne_nil : group ≠ []
  /-- Every line starts with the quote marks. -/
  marked : ∀ l ∈ group, mark <+: l
  /-- A line that goes on in another one ends with a space. -/
  ends : ∀ l ∈ group.dropLast, l.getLast? = some ' '
  /-- A line that goes on from another one does so with a word. -/
  starts : ∀ l ∈ group.tail, ∃ c, c ≠ ' ' ∧ mark ++ [c] <+: l
  /-- What the lines hold behind the quote marks is what the line holds there. -/
  whole : mark ++ group.flatMap (·.drop mark.length) = line

/-- A space ends every piece that another one follows. -/
theorem IsBroken.getLast?_of_mem_dropLast {t : Text} {pieces : List Text} (h : IsBroken t pieces)
    {p : Text} (hp : p ∈ pieces.dropLast) : p.getLast? = some ' ' := by
  have hchain := h.isChain
  clear h
  induction pieces with
  | nil => exact nomatch hp
  | cons q pieces ih =>
    cases pieces with
    | nil => exact nomatch hp
    | cons r pieces =>
      obtain ⟨hbreak, hrest⟩ := List.isChain_cons_cons.1 hchain
      rw [List.dropLast_cons_cons] at hp
      rcases List.mem_cons.1 hp with rfl | hp
      · exact hbreak.1
      · exact ih hp hrest

/-- A piece that follows another one starts with no space. -/
theorem IsBroken.exists_ne_space_of_mem_tail {t : Text} {pieces : List Text} (h : IsBroken t pieces)
    {p : Text} (hp : p ∈ pieces.tail) : ∃ c, c ≠ ' ' ∧ [c] <+: p := by
  obtain ⟨token, htoken, hword, hprefix⟩ := h.exists_word_of_mem_tail hp
  have hspace := space_not_mem_word (List.mem_of_mem_tail htoken)
  obtain ⟨c, word, hcons⟩ := List.exists_cons_of_ne_nil hword
  rw [hcons] at hspace hprefix
  refine ⟨c, ?_, (List.prefix_append [c] word).trans hprefix⟩
  rintro rfl
  exact hspace List.mem_cons_self

/-- The lines that a line becomes make it up. -/
theorem isGroupOf_wrapLine (width : Nat) (line : Text) :
    IsGroupOf line (quoteMark line) (wrapLine width line) := by
  -- the lines are the pieces of the text behind the mark, each with the mark before it
  obtain ⟨pieces, hlines, hbroken⟩ := exists_wrapLine_eq width line
  rw [hlines]
  constructor
  case ne_nil => exact mt List.map_eq_nil_iff.1 hbroken.ne_nil
  case marked =>
    intro l hl
    obtain ⟨p, -, rfl⟩ := List.mem_map.1 hl
    exact List.prefix_append _ p
  case ends =>
    intro l hl
    rw [← List.map_dropLast] at hl
    obtain ⟨p, hp, rfl⟩ := List.mem_map.1 hl
    rw [List.getLast?_append, hbroken.getLast?_of_mem_dropLast hp]
    rfl
  case starts =>
    intro l hl
    rw [← List.map_tail] at hl
    obtain ⟨p, hp, rfl⟩ := List.mem_map.1 hl
    obtain ⟨c, hc, hprefix⟩ := hbroken.exists_ne_space_of_mem_tail hp
    exact ⟨c, hc, (List.prefix_append_right_inj _).2 hprefix⟩
  case whole =>
    have hpieces : (pieces.map (quoteMark line ++ ·)).flatMap (·.drop (quoteMark line).length) =
        pieces.flatten := by
      simp only [List.flatMap_map, List.drop_left, List.flatMap_id']
    rw [hpieces, hbroken.flatten, quoteMark_append_afterMark]

/-! ## Texts -/

/-- What holds of the lines that a line becomes holds of groups of the lines of a broken text. -/
theorem exists_groups_of_wrapLine {width : Nat} {t : Text} {P : Text → List Text → Prop}
    (h : ∀ line, P line (wrapLine width line)) :
    ∃ groups : List (List Text), lines (wrap width t) = groups.flatten ∧
      List.Forall₂ P (lines (normalizeBreaks t)) groups := by
  refine ⟨(lines (normalizeBreaks t)).map (wrapLine width), ?_, ?_⟩
  · rw [lines_wrap, List.flatMap_def]
  · rw [List.forall₂_map_right_iff, List.forall₂_same]
    exact fun line _ => h line

/-- The lines of a broken text are groups in the order of the lines of the text, and each group
makes up its line. -/
theorem exists_groups_wrap (width : Nat) (t : Text) :
    ∃ groups : List (List Text), lines (wrap width t) = groups.flatten ∧
      List.Forall₂ (fun line group => ∃ mark, IsQuoteMark line mark ∧ IsGroupOf line mark group)
        (lines (normalizeBreaks t)) groups := by
  refine exists_groups_of_wrapLine fun line => ?_
  exact ⟨quoteMark line, isQuoteMark_iff.2 rfl, isGroupOf_wrapLine width line⟩

end Mailroom.Plain
