import Mailroom.Proofs.Text.Search
import Mailroom.Text.Case

/-!
# Lower case of ASCII names

The full lower-case mapping and the ASCII one agree on ASCII texts.  Beyond ASCII the Kelvin
sign alone has an ASCII letter for its lower-case form, and capital I with a dot becomes an
ASCII letter only together with a mark.  So the two ways to disregard the case of a name
agree on every ASCII name without the letter `k`.

## Key results

* `toNat_lt_or_eq_of_lowerChar`   what is ASCII in lower case was ASCII before, or is `k`
* `lower_eq_map_toLower`          the two mappings agree on ASCII texts
* `lower_eq_iff`                  the two comparisons agree on names without `k`
-/

namespace Mailroom.Text

/-! ## Characters -/

/-- The lower-case forms of a run that reaches beyond ASCII are characters beyond ASCII, except
for the Kelvin sign. -/
private theorem lowerRuns_cases : ∀ run ∈ lowerRuns, run.last < 128 ∨
    (run.first = run.last ∧ run.target = 'k'.toNat) ∨
    (128 ≤ run.target ∧ (run.last - run.first + run.target < 0xD800 ∨
      0xE000 ≤ run.target ∧ run.last - run.first + run.target < 0x110000)) := by
  decide +kernel

/-- A character whose lower-case form is ASCII is ASCII itself, or has the form `k`. -/
theorem toNat_lt_or_eq_of_lowerChar {c : Char} (h : (lowerChar c).toNat < 128) :
    c.toNat < 128 ∨ lowerChar c = 'k' := by
  rw [lowerChar] at h ⊢
  cases hform : lowerRuns.findSome? (·.lower? c.toNat) with
  | none =>
    rw [hform] at h
    exact .inl h
  | some n =>
    rw [hform] at h
    obtain ⟨run, hrun, hn⟩ := List.exists_of_findSome?_eq_some hform
    rw [CaseRun.lower?] at hn
    split at hn
    · next hin =>
      simp only [Bool.and_eq_true, decide_eq_true_eq] at hin
      rw [Option.some.injEq] at hn
      rcases lowerRuns_cases run hrun with hlast | ⟨hone, htarget⟩ | ⟨htarget, hvalid⟩
      · exact .inl (by omega)
      · -- a run of a single letter
        have hn' : n = 'k'.toNat := by omega
        exact .inr (by rw [hn']; rfl)
      · -- the form is a character, so its code point is the one of the table
        have hchar : n.isValidChar := by
          rcases hvalid with hlow | ⟨hlow, hhigh⟩
          · exact .inl (by omega)
          · exact .inr ⟨by omega, by omega⟩
        have hnat : (Char.ofNat n).toNat = n := by
          rw [Char.ofNat, dif_pos hchar]
          rfl
        simp only [hnat] at h
        omega
    · exact nomatch hn

/-- On ASCII the two lower-case forms of a character are the same. -/
theorem lowerChar_eq_toLower {c : Char} (hc : c.toNat < 128) : lowerChar c = c.toLower :=
  forall_ascii (P := fun c => lowerChar c = c.toLower) (by decide +kernel) hc

/-- A character whose ASCII lower-case form is ASCII is ASCII itself. -/
theorem toNat_lt_of_toLower {c : Char} (h : c.toLower.toNat < 128) : c.toNat < 128 := by
  by_cases hc : c.toNat < 128
  · exact hc
  · rwa [toLower_eq_self_of_le (Nat.not_lt.1 hc)] at h

/-! ## Texts -/

/-- What stands before an ASCII text does not matter to its lower case. -/
private theorem lowerAfter_eq_map_toLower {before t : Text} (ht : ∀ c ∈ t, c.toNat < 128) :
    lowerAfter before t = t.map Char.toLower := by
  induction t generalizing before with
  | nil => rfl
  | cons c t ih =>
    have hc := ht c List.mem_cons_self
    -- neither of the two letters with a form of their own is ASCII
    have hsigma : c ≠ 'Σ' := by rintro rfl; exact absurd hc (by decide)
    have hdotted : c ≠ 'İ' := by rintro rfl; exact absurd hc (by decide)
    rw [lowerAfter, ih fun d hd => ht d (List.mem_cons_of_mem c hd)]
    simp only [beq_iff_eq, hsigma, hdotted, if_false, lowerChar_eq_toLower hc]
    rfl

/-- The two lower-case mappings agree on ASCII texts. -/
theorem lower_eq_map_toLower {t : Text} (ht : ∀ c ∈ t, c.toNat < 128) :
    lower t = t.map Char.toLower :=
  lowerAfter_eq_map_toLower ht

/-- Only the empty text has an empty lower-case form. -/
theorem lower_eq_nil_iff {t : Text} : lower t = [] ↔ t = [] := by
  cases t with
  | nil => exact iff_of_true rfl rfl
  | cons c t =>
    refine iff_of_false (fun h => ?_) (by simp)
    rw [lower, lowerAfter, List.append_eq_nil_iff] at h
    -- every character has a form
    split at h
    · exact absurd h.1 (by simp)
    · split at h
      · exact absurd h.1 (by simp)
      · exact absurd h.1 (by simp)

/-- A text is ASCII if its lower-case form is and does not hold the letter `k`. -/
private theorem toNat_lt_of_mem_lowerAfter {before t : Text}
    (h : ∀ c ∈ lowerAfter before t, c.toNat < 128 ∧ c ≠ 'k') : ∀ c ∈ t, c.toNat < 128 := by
  induction t generalizing before with
  | nil => simp
  | cons c t ih =>
    rw [lowerAfter] at h
    intro d hd
    rcases List.mem_cons.1 hd with rfl | hd
    · split at h
      · -- neither form of sigma is ASCII
        have hform := h (lowerSigma before t) (by simp)
        rw [lowerSigma] at hform
        split at hform
        · exact absurd hform.1 (by decide)
        · exact absurd hform.1 (by decide)
      · split at h
        · exact absurd (h '\u0307' (by simp)).1 (by decide)
        · obtain ⟨hform, hk⟩ := h (lowerChar d) (by simp)
          exact (toNat_lt_or_eq_of_lowerChar hform).resolve_right hk
    · exact ih (fun e he => h e (List.mem_append_right _ he)) d hd

/-- The two ways to disregard case agree on the names that are ASCII and hold no `k`. -/
theorem lower_eq_iff {t name : Text} (hname : ∀ c ∈ name, c.toNat < 128 ∧ c ≠ 'k') :
    lower t = name ↔ t.map Char.toLower = name := by
  -- either way the text is ASCII: no letter beyond it has such a name as its lower case
  have hascii : lower t = name ∨ t.map Char.toLower = name → ∀ c ∈ t, c.toNat < 128 := by
    rintro (h | h)
    · exact toNat_lt_of_mem_lowerAfter (h ▸ hname)
    · intro c hc
      have hmem : c.toLower ∈ name := h ▸ List.mem_map_of_mem hc
      exact toNat_lt_of_toLower (hname _ hmem).1
  constructor
  · intro h
    rw [← lower_eq_map_toLower (hascii (.inl h)), h]
  · intro h
    rw [lower_eq_map_toLower (hascii (.inr h)), h]

end Mailroom.Text
