import Mailroom.Proofs.Text.Lines
import Mailroom.Proofs.Text.Search

/-!
# The division of a text

A separator divides a text from left to right: its leftmost occurrence ends the first piece, and
what remains behind it is divided in turn.  An occurrence that overlaps one that was taken is not
taken itself, so a separator may overlap with itself and there is still a single way to divide a
text.  It is the one that `splitOn` takes.

## Key results

* `isLeftmost_iff_clear`   an occurrence is the leftmost if what stands before it is clear
* `divides_iff`            a text is divided into its pieces and into no others
* `Divides.join_eq`        the pieces with the separator between them are the text
-/

namespace Mailroom.Text

/-- The occurrence of the separator between the two texts is the leftmost one in the whole. -/
def IsLeftmost (sep left right : Text) : Prop :=
  ∀ l r, l ++ sep ++ r = left ++ sep ++ right → left.length ≤ l.length

/-- A text is divided into pieces, each time at the leftmost separator in what remains of it. -/
inductive Divides (sep : Text) : Text → List Text → Prop
  | whole {t : Text} (hfree : ¬ sep <:+: t) : Divides sep t [t]
  | next {left right : Text} {pieces : List Text} (hleft : IsLeftmost sep left right)
      (hright : Divides sep right pieces) : Divides sep (left ++ sep ++ right) (left :: pieces)

variable {sep t left right : Text} {pieces : List Text}

/-- What follows an occurrence does not matter to whether it is the leftmost. -/
theorem isLeftmost_iff_clear : IsLeftmost sep left right ↔ Clear sep left := by
  constructor
  · intro h v hv hsuffix found t hfound
    rw [List.map_id, List.map_id] at hfound
    subst hfound
    rw [← Option.not_isSome_iff_eq_none, ← after?_eq_afterBy?, ← startsWith, startsWith_iff]
    intro hprefix
    -- an occurrence that starts in `v` ends before `right` does, so `right` may follow it
    have hshort : found <+: v ++ found :=
      List.prefix_of_prefix_length_le hprefix (List.prefix_append _ t) (by simp)
    obtain ⟨u, rfl⟩ := hsuffix
    obtain ⟨r, hr⟩ := hshort
    have hearlier : u ++ found ++ (r ++ right) = u ++ v ++ found ++ right := by
      simp only [List.append_assoc, ← List.append_assoc found, hr]
    have hle := h u (r ++ right) hearlier
    rw [List.length_append] at hle
    have hpos := List.length_pos_iff.2 hv
    omega
  · intro h l r heq
    refine Nat.not_lt.1 fun hlt => ?_
    rw [List.append_assoc, List.append_assoc] at heq
    -- the earlier occurrence would start within `left`
    obtain ⟨v, rfl⟩ := List.prefix_of_prefix_length_le ⟨_, heq⟩ (List.prefix_append left _)
      (by omega)
    rw [List.append_assoc, List.append_cancel_left_eq] at heq
    have hv : v ≠ [] := by
      rintro rfl
      simp at hlt
    have hnone := h v hv ⟨l, rfl⟩ sep right rfl
    rw [← after?_eq_afterBy?, List.append_assoc, ← heq, after?_append] at hnone
    cases hnone

/-- No other pieces than those of `splitOn` divide a text. -/
theorem Divides.eq_splitOn (h : Divides sep t pieces) (hsep : sep ≠ []) :
    pieces = splitOn sep t := by
  induction h with
  | whole hfree => exact (splitOn_eq_singleton hfree).symm
  | next hleft _ ih => rw [splitOn_append (isLeftmost_iff_clear.1 hleft) hsep, ih]

/-- Splitting a text divides it. -/
theorem divides_splitOn (hsep : sep ≠ []) (t : Text) : Divides sep t (splitOn sep t) := by
  fun_induction splitOn sep t with
  | case1 t hnil => exact absurd hnil hsep
  | case2 t _ hnone => exact .whole (cut?_eq_none_iff.1 hnone)
  | case3 t _ left right hcut ih =>
    rw [cut?_eq_some hcut]
    exact .next (isLeftmost_iff_clear.2 (clear_of_cut? hcut)) ih

/-- There is a single way to divide a text. -/
theorem divides_iff (hsep : sep ≠ []) : Divides sep t pieces ↔ pieces = splitOn sep t := by
  constructor
  · exact fun h => h.eq_splitOn hsep
  · rintro rfl
    exact divides_splitOn hsep t

/-- A text is divided into one piece at least. -/
theorem Divides.ne_nil (h : Divides sep t pieces) : pieces ≠ [] := by
  cases h <;> exact List.cons_ne_nil _ _

/-- The pieces with the separator between them are the text. -/
theorem Divides.join_eq (h : Divides sep t pieces) : join sep pieces = t := by
  induction h with
  | whole => rw [join, List.intercalate_singleton]
  | next _ hright ih => rw [join_cons hright.ne_nil, ih, List.append_assoc]

/-- No piece holds the separator. -/
theorem Divides.not_infix_of_mem (h : Divides sep t pieces) (hsep : sep ≠ []) {piece : Text}
    (hpiece : piece ∈ pieces) : ¬ sep <:+: piece := by
  rw [h.eq_splitOn hsep] at hpiece
  exact not_infix_of_mem_splitOn hsep hpiece

end Mailroom.Text
