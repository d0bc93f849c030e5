import Mathlib.Data.List.SplitBy
import Mailroom.Plain.Layout
import Mailroom.Proofs.Plain.Markup
import Mailroom.Proofs.Plain.Wrap

/-!
# Reading broken lines

The reader of a plain text body sees only its lines.  A line that ends with a space goes on in
the next one, and the quote marks that a break repeated are those of the first of the lines that
belong together.  With these two rules every line is found again, since laid out text has no
other spaces at the ends of its lines.

## Key results

* `rejoin?_wrapLine`        the lines that one line became make it up again
* `flows_flatMap_wrapLine`  the lines that belong together are found by the spaces
* `rejoin?_flows_plain`     a body without markup is read back
-/

namespace Mailroom.Plain

open Text

/-- The lines that belong together: one that ends with a space goes on in the next. -/
def flows (ls : List Text) : List (List Text) := ls.splitBy fun l _ => l.getLast? == some ' '

/-- The line that was broken into the given ones.  The quote marks of the first are taken off
the others, which all have to start with them. -/
def rejoin? : List Text → Option Text
  | [] => none
  | first :: rest =>
    (rest.mapM (after? (quoteMark first))).map fun pieces => first ++ pieces.flatten

/-! ## A single line -/

/-- A lead that stands before every text is taken off every text. -/
theorem mapM_after?_map (lead : Text) (ps : List Text) :
    (ps.map (lead ++ ·)).mapM (after? lead) = some ps := by
  induction ps with
  | nil => rfl
  | cons p ps ih =>
    rw [List.map_cons, List.mapM_cons, after?_append, ih]
    rfl

/-- The lines that one line became make it up again. -/
theorem rejoin?_wrapLine (width : Nat) (line : Text) :
    rejoin? (wrapLine width line) = some line := by
  obtain ⟨pieces, hlines, hbroken⟩ := exists_wrapLine_eq width line
  obtain ⟨p, ps, rfl, hprefix, hne⟩ := hbroken.exists_eq_cons
  -- the quote marks are read off the first line, which goes on with the first piece alone
  have htext : p ++ ps.flatten = afterMark line := hbroken.flatten
  rw [hlines, List.map_cons, rejoin?, quoteMark_append hprefix hne, mapM_after?_map,
    Option.map_some, List.append_assoc, htext, quoteMark_append_afterMark]

/-- A break stands after a space. -/
theorem isChain_wrapLine (width : Nat) (line : Text) :
    (wrapLine width line).IsChain fun l _ => (l.getLast? == some ' ') = true := by
  obtain ⟨pieces, hlines, hbroken⟩ := exists_wrapLine_eq width line
  rw [hlines, List.isChain_map]
  refine hbroken.isChain.imp fun p q hbreak => ?_
  rw [List.getLast?_append, hbreak.1]
  rfl

/-- The last line ends as the whole line does. -/
theorem exists_wrapLine_eq_concat (width : Nat) (line : Text) :
    ∃ ls l, wrapLine width line = ls ++ [l] ∧ l.getLast? = line.getLast? := by
  obtain ⟨pieces, hlines, hbroken⟩ := exists_wrapLine_eq width line
  obtain ⟨ps, p, rfl, ⟨front, hfront⟩, hne⟩ := hbroken.exists_eq_concat
  refine ⟨ps.map (quoteMark line ++ ·), quoteMark line ++ p, ?_, ?_⟩
  · rw [hlines, List.map_append, List.map_singleton]
  · conv => rhs; rw [← quoteMark_append_afterMark line]
    by_cases hp : p = []
    · rw [hp, hne hp]
    · rw [← hfront, ← List.append_assoc, List.getLast?_append_of_ne_nil _ hp,
        List.getLast?_append_of_ne_nil _ hp]

/-! ## All lines -/

/-- The lines that belong together are found by the spaces at their ends. -/
theorem flows_flatMap_wrapLine (width : Nat) {ls : List Text}
    (h : ∀ line ∈ ls, line.getLast? ≠ some ' ') :
    flows (ls.flatMap (wrapLine width)) = ls.map (wrapLine width) := by
  induction ls with
  | nil => rfl
  | cons line ls ih =>
    have hrest := ih fun m hm => h m (List.mem_cons_of_mem line hm)
    have hself : flows (wrapLine width line) = [wrapLine width line] :=
      List.splitBy_of_isChain (wrapLine_ne_nil width line) (isChain_wrapLine width line)
    -- no space ends the last line, so the next one starts afresh
    have hlast : ∀ l ∈ (wrapLine width line).getLast?,
        ∀ m ∈ (ls.flatMap (wrapLine width)).head?, (l.getLast? == some ' ') = false := by
      intro l hl m _
      obtain ⟨front, last, hlines, hend⟩ := exists_wrapLine_eq_concat width line
      rw [hlines, List.getLast?_concat, Option.mem_some_iff] at hl
      rw [← hl, hend]
      simpa using h line List.mem_cons_self
    rw [List.flatMap_cons, flows, List.splitBy_append hlast, List.map_cons, ← hrest, ← flows, hself]
    rfl

/-- A text is read back from its broken lines if no line of it ends with a space. -/
theorem rejoin?_flows_wrap (width : Nat) {t : Text}
    (h : ∀ line ∈ lines (normalizeBreaks t), line.getLast? ≠ some ' ') :
    (flows (lines (wrap width t))).map rejoin? = (lines (normalizeBreaks t)).map some := by
  rw [lines_wrap, flows_flatMap_wrapLine width h, List.map_map]
  exact List.map_congr_left fun line _ => rejoin?_wrapLine width line

/-! ## Bodies -/

/-- A body without markup is read back, and its lines are those of the text without the white
space at their ends and without the empty ones at the start and at the end. -/
theorem rejoin?_flows_plain (layout : Layout) {t : Text} (ht : MarkupFree t) :
    (flows (lines (layout.plain t))).map rejoin? =
        (lines (stripMarkup layout.render t)).map some ∧
      lines (stripMarkup layout.render t) = bareLines t := by
  have hlines := lines_stripMarkup layout.render ht
  have hcr : '\r' ∉ stripMarkup layout.render t := by
    rw [stripMarkup_eq_unlines layout.render ht]
    intro hmem
    obtain ⟨l, hl, hc⟩ := (mem_unlines hmem).resolve_left (by decide)
    exact cr_not_mem_normalizeBreaks t (mem_of_mem_bareLines hl hc).1
  -- so a space at the end of a line can only come from a break
  have hspace : ∀ line ∈ lines (stripMarkup layout.render t), line.getLast? ≠ some ' ' := by
    intro line hline hlast
    rw [hlines] at hline
    rw [← trimEnd_of_mem_bareLines hline] at hlast
    exact absurd (not_of_getLast?_dropEndWhile hlast) (by decide)
  have hbreaks := normalizeBreaks_eq_self hcr
  refine ⟨?_, hlines⟩
  rw [← hbreaks] at hspace
  rw [Layout.plain, rejoin?_flows_wrap layout.width hspace, hbreaks]

/-- A quotation between empty lines, with an indented line after it. -/
def quotation : Text := "\r\n>> one  two three\t\n\r  four five-six \r\n\n".toList

/-- The lines of the quotation come back from six lines, each no longer than the width or a
word. -/
theorem rejoin?_flows_quotation :
    MarkupFree quotation ∧
      lines (({ width := 8 } : Layout).plain quotation) =
        [">> one  ", ">> two ", ">> three", "", "  four ", "five-six"].map String.toList ∧
      (flows (lines (({ width := 8 } : Layout).plain quotation))).map rejoin? =
        [">> one  two three", "", "  four five-six"].map fun l => some l.toList := by
  have hfree : MarkupFree quotation := by decide +kernel
  refine ⟨hfree, by decide +kernel, ?_⟩
  rw [(rejoin?_flows_plain { width := 8 } hfree).1, (rejoin?_flows_plain { width := 8 } hfree).2]
  decide +kernel

end Mailroom.Plain
