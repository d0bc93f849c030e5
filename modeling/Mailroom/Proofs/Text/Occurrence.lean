import Mailroom.Proofs.Text.Search

/-!
# Occurrences of a word

A search for all occurrences of a word takes the leftmost one and goes on behind it.  It misses an
occurrence that starts within one that it took, but where the first letter of the word does not
come again in it there is no such occurrence.  Then the search meets all of them, each once and
from left to right.  Letters count in any ASCII case.

## Key results

* `cutAnyCase?_eq_some_iff`  a text is cut at the leftmost occurrence
* `exists_scan`              the search ends
* `Scan.unique`              it goes one way
* `Scan.pairwise`            and meets no occurrence twice
* `Scan.mem_iff`             it meets every occurrence of a word that cannot overlap with itself
-/

namespace Mailroom.Text

/-- The word stands in the text between the two others, in any ASCII case. -/
def Occurs (word t before after : Text) : Prop :=
  ∃ found, t = before ++ found ++ after ∧ found.map Char.toLower = word.map Char.toLower

variable {word t before after before' after' : Text} {tails : List Text}

/-- A word is as long in one case as in another. -/
theorem length_eq_of_map_toLower {found found' : Text}
    (h : found.map Char.toLower = word.map Char.toLower)
    (h' : found'.map Char.toLower = word.map Char.toLower) : found.length = found'.length := by
  rw [← List.length_map Char.toLower, h, ← h', List.length_map]

/-! ## The leftmost occurrence -/

/-- A text without an occurrence is not cut, and only such a text. -/
theorem cutAnyCase?_eq_none_iff :
    cutAnyCase? word t = none ↔ ∀ before after, ¬ Occurs word t before after := by
  rw [cutAnyCase?_eq_cutBy?, ← Option.not_isSome_iff_eq_none, isSome_cutBy?_iff]
  constructor
  · rintro hfree before after ⟨found, rfl, hfound⟩
    exact hfree ⟨before.map Char.toLower, after.map Char.toLower, by simp [hfound]⟩
  · rintro hnone ⟨u, v, huv⟩
    obtain ⟨start, after, rfl, hstart, -⟩ := List.map_eq_append_iff.1 huv.symm
    obtain ⟨before, found, rfl, -, hfound⟩ := List.map_eq_append_iff.1 hstart
    exact hnone before after ⟨found, rfl, hfound⟩

/-- A text is cut at the leftmost occurrence. -/
theorem cutAnyCase?_eq_some_iff :
    cutAnyCase? word t = some (before, after) ↔
      Occurs word t before after ∧
        ∀ before' after', Occurs word t before' after' → before.length ≤ before'.length := by
  constructor
  · intro h
    rw [cutAnyCase?_eq_cutBy?] at h
    refine ⟨cutBy?_eq_some h, ?_⟩
    rintro before' after' ⟨found, ht, hfound⟩
    exact length_le_of_cutBy? h ht hfound
  · rintro ⟨hoccurs, hfirst⟩
    cases hcut : cutAnyCase? word t with
    | none => exact absurd hoccurs (cutAnyCase?_eq_none_iff.1 hcut before after)
    | some sides =>
      obtain ⟨left, right⟩ := sides
      rw [cutAnyCase?_eq_cutBy?] at hcut
      obtain ⟨found', ht', hfound'⟩ := cutBy?_eq_some hcut
      have hright := hfirst left right ⟨found', ht', hfound'⟩
      obtain ⟨found, ht, hfound⟩ := hoccurs
      have hleft := length_le_of_cutBy? hcut ht hfound
      -- both are the leftmost, so they start at one place
      have hlength := length_eq_of_map_toLower hfound hfound'
      rw [ht, List.append_assoc, List.append_assoc] at ht'
      obtain ⟨rfl, hrest⟩ := List.append_inj ht' (by omega)
      rw [(List.append_inj hrest hlength).2]

/-! ## One occurrence after the other -/

/-- The search for the word goes on behind each leftmost occurrence.  It leaves what stands behind
the occurrences. -/
inductive Scan (word : Text) : Text → List Text → Prop
  | done {t : Text} (hnone : ∀ before after, ¬ Occurs word t before after) : Scan word t []
  | next {t before after : Text} {tails : List Text} (hoccurs : Occurs word t before after)
      (hfirst : ∀ before' after', Occurs word t before' after' → before.length ≤ before'.length)
      (hrest : Scan word after tails) : Scan word t (after :: tails)

/-- Every text can be searched to its end, since a word that is not empty is left behind each time.
-/
theorem exists_scan (hword : word ≠ []) (t : Text) : ∃ tails, Scan word t tails := by
  cases hcut : cutAnyCase? word t with
  | none => exact ⟨[], .done (cutAnyCase?_eq_none_iff.1 hcut)⟩
  | some sides =>
    obtain ⟨before, after⟩ := sides
    obtain ⟨hoccurs, hfirst⟩ := cutAnyCase?_eq_some_iff.1 hcut
    have hlt : after.length < t.length := length_lt_of_cutBy? hword hcut
    obtain ⟨tails, hrest⟩ := exists_scan hword after
    exact ⟨after :: tails, .next hoccurs hfirst hrest⟩
termination_by t.length

/-- The search goes one way, as the leftmost occurrence is one. -/
theorem Scan.unique {tails' : List Text} (h : Scan word t tails) (h' : Scan word t tails') :
    tails = tails' := by
  induction h generalizing tails' with
  | done hnone =>
    cases h' with
    | done => rfl
    | next hoccurs => exact absurd hoccurs (hnone _ _)
  | next hoccurs hfirst hrest ih =>
    cases h' with
    | done hnone => exact absurd hoccurs (hnone _ _)
    | next hoccurs' hfirst' hrest' =>
      -- both go on behind the leftmost occurrence, where the text is cut
      have hcut := cutAnyCase?_eq_some_iff.2 ⟨hoccurs, hfirst⟩
      rw [cutAnyCase?_eq_some_iff.2 ⟨hoccurs', hfirst'⟩] at hcut
      obtain ⟨-, rfl⟩ := Prod.mk.inj (Option.some.inj hcut)
      rw [ih hrest']

/-- The search leaves less and less of the text, so it meets no occurrence twice. -/
theorem Scan.pairwise (hword : word ≠ []) (h : Scan word t tails) :
    (t :: tails).Pairwise fun u v => v.length < u.length := by
  induction h with
  | done => exact List.pairwise_singleton _ _
  | next hoccurs hfirst hrest ih =>
    have hlt := length_lt_of_cutBy? hword (cutAnyCase?_eq_some_iff.2 ⟨hoccurs, hfirst⟩)
    refine List.pairwise_cons.2 ⟨fun v hv => ?_, ih⟩
    rcases List.mem_cons.1 hv with rfl | hv
    · exact hlt
    · exact Nat.lt_trans ((List.pairwise_cons.1 ih).1 v hv) hlt

/-! ## Every occurrence -/

/-- An occurrence that does not start before another is the same or stands behind it, if the first
letter of the word does not come again. -/
theorem Occurs.eq_or_occurs {c : Char} {cs : Text} (hc : c.toLower ∉ cs.map Char.toLower)
    (h : Occurs (c :: cs) t before after) (h' : Occurs (c :: cs) t before' after')
    (hle : before.length ≤ before'.length) :
    after' = after ∨ ∃ between, Occurs (c :: cs) after between after' := by
  obtain ⟨found, rfl, hfound⟩ := h
  obtain ⟨found', ht, hfound'⟩ := h'
  have hlength := length_eq_of_map_toLower hfound hfound'
  rw [List.append_assoc, List.append_assoc] at ht
  obtain ⟨mid, rfl⟩ := List.prefix_of_prefix_length_le (List.prefix_append before _)
    ⟨_, ht.symm⟩ hle
  rw [List.append_assoc, List.append_cancel_left_eq] at ht
  rcases List.append_eq_append_iff.1 ht with ⟨between, rfl, hafter⟩ | ⟨overlap, hoverlap, hrest⟩
  · exact .inr ⟨between, found', by rw [hafter, List.append_assoc], hfound'⟩
  · cases mid with
    | nil =>
      rw [List.nil_append] at ht
      exact .inl (List.append_inj ht hlength).2.symm
    | cons m mid =>
      cases overlap with
      | nil =>
        -- the second occurrence starts where the first ends
        exact .inr ⟨[], found', hrest.symm, hfound'⟩
      | cons d overlap =>
        -- the second occurrence would start within the first, with its letter
        obtain ⟨f, fs, rfl⟩ : ∃ f fs, found' = f :: fs := by
          cases found' with
          | nil => exact nomatch hfound'
          | cons f fs => exact ⟨f, fs, rfl⟩
        have hf : f = d := (List.cons.inj hrest).1
        have hletter : f.toLower = c.toLower := (List.cons.inj hfound').1
        rw [hoverlap, List.cons_append, List.map_cons, List.map_cons, List.cons.injEq] at hfound
        refine absurd ?_ hc
        rw [← hfound.2, ← hletter, hf, List.map_append]
        exact List.mem_append_right _ List.mem_cons_self

/-- The search meets every occurrence of a word whose first letter does not come again in it. -/
theorem Scan.mem_iff {c : Char} {cs : Text} (hc : c.toLower ∉ cs.map Char.toLower)
    (h : Scan (c :: cs) t tails) : after ∈ tails ↔ ∃ before, Occurs (c :: cs) t before after := by
  generalize hword : c :: cs = word at h
  induction h with
  | done hnone => simp [hnone]
  | @next t before first tails hoccurs hfirst hrest ih =>
    subst hword
    rw [List.mem_cons, ih]
    constructor
    · rintro (rfl | ⟨between, found, rfl, hfound⟩)
      · exact ⟨before, hoccurs⟩
      · obtain ⟨found', rfl, -⟩ := hoccurs
        exact ⟨before ++ found' ++ between, found, by simp, hfound⟩
    · -- an occurrence is the leftmost one or stands behind it, since it cannot overlap with that
      rintro ⟨before', hoccurs'⟩
      exact hoccurs.eq_or_occurs hc hoccurs' (hfirst before' after hoccurs')

end Mailroom.Text
