import Mailroom.Text.Basic

/-!
# Occurrences of a separator

What the searches of `Text.Basic` find, said without recursion: a text that starts with
another, a text that occurs in another, and the two sides of the first occurrence of a
separator.  The lemmas on first occurrences let a reader pass over a stretch of text in
which no occurrence starts, whatever follows it.

## Key results

* `after?_eq_some_iff`       what follows a start
* `isSome_cutBy?_iff`        a text is found where the keys of its characters are
* `contains_iff`             an occurrence is an infix
* `length_le_of_cutBy?`      no occurrence starts before the first one
* `cutBy?_append_cons`       the first occurrence on the two sides of a foreign character
* `cutBy?_of_clearBy`        the first occurrence after a stretch that is clear of it
* `clearBy_of_getLast?`      what makes a stretch clear
* `clear_of_cut?`            nothing before the first occurrence is part of another
* `splitOn_flatMap`          a text that is put together is split into the pieces of its parts
* `not_infix_of_mem_splitOn` no piece of a split holds the separator
* `infix_append_cons_iff`    no occurrence crosses a character foreign to the needle
-/

namespace Mailroom.Text

/-- Two characters count as the same when their keys agree.  Exact search has the key `id`
and search in any ASCII case the key `Char.toLower`. -/
def sameBy (key : Char → Char) (a b : Char) : Bool := key a == key b

/-- Exact search has the identity for its key. -/
theorem after?_eq_afterBy? : after? = afterBy? (sameBy id) := rfl

/-- So has exact cutting. -/
theorem cut?_eq_cutBy? : cut? = cutBy? (sameBy id) := rfl

/-- Cutting in any ASCII case goes by the lower-case letters. -/
theorem cutAnyCase?_eq_cutBy? : cutAnyCase? = cutBy? (sameBy Char.toLower) := rfl

/-! ## The start of a text -/

/-- A text starts with another one if a start of it has the same keys. -/
theorem afterBy?_eq_some_iff {key : Char → Char} {lead t rest : Text} :
    afterBy? (sameBy key) lead t = some rest ↔
      ∃ start, t = start ++ rest ∧ start.map key = lead.map key := by
  induction lead generalizing t with
  | nil => simp [afterBy?, eq_comm]
  | cons p ps ih =>
    cases t with
    | nil => simp [afterBy?]
    | cons c cs =>
      simp only [afterBy?, sameBy, beq_iff_eq]
      split
      · next hpc =>
        -- the first characters agree, so the rest decides
        rw [ih]
        constructor
        · rintro ⟨start, rfl, hs⟩
          exact ⟨c :: start, rfl, by simp [hs, hpc]⟩
        · rintro ⟨start, hcs, hs⟩
          cases start with
          | nil => simp at hs
          | cons s start =>
            simp only [List.cons_append, List.cons.injEq, List.map_cons] at hcs hs
            exact ⟨start, hcs.2, hs.2⟩
      · next hpc =>
        -- no start can have both first characters
        simp only [reduceCtorEq, false_iff, not_exists, not_and]
        intro start hcs hs
        cases start with
        | nil => simp at hs
        | cons s start =>
          simp only [List.cons_append, List.cons.injEq, List.map_cons] at hcs hs
          exact hpc (by rw [hcs.1, hs.1])

/-- A text starts with `lead` when it is `lead` and what follows. -/
theorem after?_eq_some_iff {lead t rest : Text} : after? lead t = some rest ↔ t = lead ++ rest := by
  rw [after?_eq_afterBy?, afterBy?_eq_some_iff]
  simp

/-- A text starts with what is put in front of it. -/
theorem after?_append (lead rest : Text) : after? lead (lead ++ rest) = some rest :=
  after?_eq_some_iff.2 rfl

/-- A text starts with a character if that is its first one. -/
theorem after?_singleton_cons (c d : Char) (t : Text) :
    after? [c] (d :: t) = if c == d then some t else none := rfl

/-- To start with a text is to have it as a prefix. -/
theorem startsWith_iff {lead t : Text} : startsWith lead t = true ↔ lead <+: t := by
  rw [startsWith, Option.isSome_iff_exists]
  exact exists_congr fun rest => after?_eq_some_iff.trans eq_comm

/-- A text starts with a character if its head is that character. -/
theorem startsWith_singleton (c : Char) (t : Text) : startsWith [c] t = (t.head? == some c) := by
  rw [Bool.eq_iff_iff, startsWith_iff, beq_iff_eq]
  cases t with
  | nil => simp
  | cons d t => simp [List.cons_prefix_cons, eq_comm]

/-- A start is looked for on one side of a character foreign to it. -/
theorem afterBy?_append_cons {key : Char → Char} {lead l r : Text} {c : Char}
    (hc : key c ∉ lead.map key) :
    afterBy? (sameBy key) lead (l ++ c :: r) =
      (afterBy? (sameBy key) lead l).map (· ++ c :: r) := by
  induction lead generalizing l with
  | nil => rfl
  | cons p ps ih =>
    rw [List.map_cons, List.mem_cons, not_or] at hc
    cases l with
    | nil =>
      -- the foreign character ends the comparison on both sides
      have hp : sameBy key p c = false := beq_false_of_ne (Ne.symm hc.1)
      rw [List.nil_append]
      simp only [afterBy?, hp, Bool.false_eq_true, if_false, Option.map_none]
    | cons d l =>
      rw [List.cons_append, afterBy?, afterBy?, ih hc.2]
      split <;> rfl

/-- A start with the same keys is one of the keys. -/
theorem afterBy?_map (key : Char → Char) (lead t : Text) :
    after? (lead.map key) (t.map key) = (afterBy? (sameBy key) lead t).map (·.map key) := by
  rw [after?_eq_afterBy?]
  induction lead generalizing t with
  | nil => simp [afterBy?]
  | cons p lead ih =>
    cases t with
    | nil => rfl
    | cons c t =>
      have hsame : sameBy id (key p) (key c) = sameBy key p c := rfl
      simp only [List.map_cons, afterBy?, hsame]
      split
      · exact ih t
      · rfl

/-! ## The first occurrence -/

/-- The sides of a cut and what stands for the separator make up the text. -/
theorem cutBy?_eq_some {key : Char → Char} {sep t left right : Text}
    (h : cutBy? (sameBy key) sep t = some (left, right)) :
    ∃ found, t = left ++ found ++ right ∧ found.map key = sep.map key := by
  induction t generalizing left with
  | nil =>
    simp only [cutBy?, List.isEmpty_iff] at h
    split at h
    · next hs =>
      simp only [Option.some.injEq, Prod.mk.injEq] at h
      obtain ⟨rfl, rfl⟩ := h
      exact ⟨[], by simp [hs]⟩
    · simp at h
  | cons c t ih =>
    simp only [cutBy?] at h
    split at h
    · next rest hr =>
      simp only [Option.some.injEq, Prod.mk.injEq] at h
      obtain ⟨rfl, rfl⟩ := h
      -- the occurrence stands at the start
      exact afterBy?_eq_some_iff.1 hr
    · obtain ⟨⟨l, r⟩, hl, he⟩ := Option.map_eq_some_iff.1 h
      simp only [Prod.mk.injEq] at he
      obtain ⟨rfl, rfl⟩ := he
      -- or it is the one in the rest
      obtain ⟨found, rfl, hf⟩ := ih hl
      exact ⟨found, rfl, hf⟩

/-- No occurrence starts before the one at which a text is cut. -/
theorem length_le_of_cutBy? {key : Char → Char} {sep t left right before found after : Text}
    (h : cutBy? (sameBy key) sep t = some (left, right)) (ht : t = before ++ found ++ after)
    (hfound : found.map key = sep.map key) : left.length ≤ before.length := by
  induction t generalizing left before with
  | nil =>
    have hlength := length_cutBy? h
    rw [List.length_nil] at hlength
    omega
  | cons c t ih =>
    rw [cutBy?] at h
    split at h
    · obtain ⟨rfl, -⟩ := Prod.mk.inj (Option.some.inj h)
      exact Nat.zero_le _
    · next hnone =>
      obtain ⟨⟨l, r⟩, hcut, hsides⟩ := Option.map_eq_some_iff.1 h
      obtain ⟨rfl, rfl⟩ := Prod.mk.inj hsides
      cases before with
      | nil =>
        -- the search would have found an occurrence at the start
        rw [afterBy?_eq_some_iff.2 ⟨found, ht, hfound⟩] at hnone
        exact absurd hnone (Option.some_ne_none _)
      | cons b before =>
        have hle := ih hcut (List.cons.inj ht).2
        simp only [List.length_cons]
        omega

/-- A text is made of the two sides of a cut and the separator between them. -/
theorem cut?_eq_some {sep t left right : Text} (h : cut? sep t = some (left, right)) :
    t = left ++ sep ++ right := by
  rw [cut?_eq_cutBy?] at h
  obtain ⟨found, ht, hf⟩ := cutBy?_eq_some h
  simp only [List.map_id] at hf
  rw [ht, hf]

/-- Nothing is found exactly when no suffix starts with the separator. -/
theorem cutBy?_eq_none_iff {same : Char → Char → Bool} {sep t : Text} :
    cutBy? same sep t = none ↔ ∀ u, u <:+ t → afterBy? same sep u = none := by
  induction t with
  | nil =>
    cases sep with
    | nil => simp [cutBy?, afterBy?]
    | cons p ps =>
      simp only [cutBy?, List.isEmpty_cons, Bool.false_eq_true, if_false, true_iff]
      intro u hu
      rw [List.suffix_nil.1 hu]
      rfl
  | cons c t ih =>
    simp only [cutBy?]
    split
    · next rest hr =>
      simp only [reduceCtorEq, false_iff, Classical.not_forall]
      exact ⟨c :: t, List.suffix_refl _, by simp [hr]⟩
    · next hn =>
      -- the suffixes are the text itself and those of its rest
      rw [Option.map_eq_none_iff, ih]
      constructor
      · intro h u hu
        rcases List.suffix_cons_iff.1 hu with rfl | hu
        · exact hn
        · exact h u hu
      · exact fun h u hu => h u (hu.trans (List.suffix_cons c t))

/-- A text is found where the keys of its characters are. -/
theorem isSome_cutBy?_iff {key : Char → Char} {sep t : Text} :
    (cutBy? (sameBy key) sep t).isSome = true ↔ sep.map key <:+: t.map key := by
  constructor
  · rw [Option.isSome_iff_exists]
    rintro ⟨⟨left, right⟩, h⟩
    obtain ⟨found, rfl, hf⟩ := cutBy?_eq_some h
    exact ⟨left.map key, right.map key, by simp [hf]⟩
  · rintro ⟨u, v, h⟩
    obtain ⟨start, right, rfl, hstart, -⟩ := List.map_eq_append_iff.1 h.symm
    obtain ⟨left, found, rfl, -, hfound⟩ := List.map_eq_append_iff.1 hstart
    rw [← Option.ne_none_iff_isSome, Ne, cutBy?_eq_none_iff]
    intro hnone
    -- the suffix that starts with the occurrence
    have hafter : afterBy? (sameBy key) sep (found ++ right) = some right :=
      afterBy?_eq_some_iff.2 ⟨found, rfl, hfound⟩
    exact absurd (hnone (found ++ right) ⟨left, by simp⟩) (by simp [hafter])

/-- A text contains another when that is an infix of it. -/
theorem contains_iff {needle t : Text} : contains needle t = true ↔ needle <:+: t := by
  rw [contains, cut?_eq_cutBy?, isSome_cutBy?_iff, List.map_id, List.map_id]

/-- Nothing is found exactly when the separator does not occur. -/
theorem cut?_eq_none_iff {sep t : Text} : cut? sep t = none ↔ ¬ sep <:+: t := by
  rw [← contains_iff, contains, Option.not_isSome_iff_eq_none]

/-- The first occurrence lies on one side of a character foreign to the separator. -/
theorem cutBy?_append_cons {key : Char → Char} {sep l r : Text} {c : Char} (hsep : sep ≠ [])
    (hc : key c ∉ sep.map key) :
    cutBy? (sameBy key) sep (l ++ c :: r) =
      ((cutBy? (sameBy key) sep l).map fun (left, right) => (left, right ++ c :: r)).or
        ((cutBy? (sameBy key) sep r).map fun (left, right) => (l ++ c :: left, right)) := by
  have hnil : cutBy? (sameBy key) sep [] = none := by simp [cutBy?, hsep]
  induction l with
  | nil =>
    have hafter : afterBy? (sameBy key) sep (c :: r) = none := by
      have hstart : afterBy? (sameBy key) sep [] = none := by
        cases sep with
        | nil => exact absurd rfl hsep
        | cons p ps => rfl
      rw [← List.nil_append (c :: r), afterBy?_append_cons hc, hstart, Option.map_none]
    rw [hnil, List.nil_append, cutBy?, hafter]
    rfl
  | cons d l ih =>
    -- an occurrence that starts at the first character ends before the foreign one
    rw [List.cons_append, cutBy?, ← List.cons_append, afterBy?_append_cons hc, ih, cutBy?]
    cases afterBy? (sameBy key) sep (d :: l) with
    | some right => rfl
    | none =>
      cases cutBy? (sameBy key) sep l <;> cases cutBy? (sameBy key) sep r <;> rfl

/-- Where a text with the same keys stands first, the keys do. -/
theorem cutBy?_map (key : Char → Char) (sep t : Text) :
    cut? (sep.map key) (t.map key) =
      (cutBy? (sameBy key) sep t).map fun (left, right) => (left.map key, right.map key) := by
  rw [cut?_eq_cutBy?]
  induction t with
  | nil =>
    cases sep with
    | nil => rfl
    | cons p sep => rfl
  | cons c t ih =>
    -- at every place the comparison of the keys is the one of the characters
    have hafter := afterBy?_map key sep (c :: t)
    rw [after?_eq_afterBy?, List.map_cons] at hafter
    rw [List.map_cons, cutBy?, cutBy?, hafter]
    cases afterBy? (sameBy key) sep (c :: t) with
    | some right => rfl
    | none =>
      simp only [Option.map_none, ih, Option.map_map]
      rfl

/-- A search passes over a stretch in which no occurrence starts. -/
theorem cutBy?_append {same : Char → Char → Bool} {sep l t : Text}
    (h : ∀ v, v ≠ [] → v <:+ l → afterBy? same sep (v ++ t) = none) :
    cutBy? same sep (l ++ t) =
      (cutBy? same sep t).map fun (left, right) => (l ++ left, right) := by
  induction l with
  | nil => simp
  | cons c l ih =>
    -- no occurrence starts in `l`
    have hc : afterBy? same sep (c :: (l ++ t)) = none :=
      h (c :: l) (by simp) (List.suffix_refl _)
    have hl : ∀ v, v ≠ [] → v <:+ l → afterBy? same sep (v ++ t) = none :=
      fun v hv hs => h v hv (hs.trans (List.suffix_cons c l))
    rw [List.cons_append, cutBy?, hc, ih hl]
    simp only [Option.map_map]
    rfl

/-- The text `l` is clear of `sep`: in `l` with an occurrence of `sep` and anything else
behind it, no other occurrence starts within `l`.  So `l` holds no occurrence, nor the first
part of one that the next occurrence would complete. -/
def ClearBy (key : Char → Char) (sep l : Text) : Prop :=
  ∀ v, v ≠ [] → v <:+ l → ∀ found t, found.map key = sep.map key →
    afterBy? (sameBy key) sep (v ++ found ++ t) = none

/-- Nothing is part of an occurrence in the empty text. -/
theorem clearBy_nil (key : Char → Char) (sep : Text) : ClearBy key sep [] := by
  intro v hv hs
  exact absurd (List.suffix_nil.1 hs) hv

/-- The first occurrence after a clear stretch. -/
theorem cutBy?_of_clearBy {key : Char → Char} {sep l found : Text} (h : ClearBy key sep l)
    (hsep : sep ≠ []) (hf : found.map key = sep.map key) (t : Text) :
    cutBy? (sameBy key) sep (l ++ found ++ t) = some (l, t) := by
  -- no occurrence starts in the stretch, whatever follows it
  have hskip : ∀ v, v ≠ [] → v <:+ l →
      afterBy? (sameBy key) sep (v ++ (found ++ t)) = none := by
    intro v hv hs
    rw [← List.append_assoc]
    exact h v hv hs found t hf
  -- and the one behind it is found at once
  have hfind : cutBy? (sameBy key) sep (found ++ t) = some ([], t) := by
    have hafter : afterBy? (sameBy key) sep (found ++ t) = some t :=
      afterBy?_eq_some_iff.2 ⟨found, rfl, hf⟩
    cases found with
    | nil =>
      rw [List.map_nil, eq_comm, List.map_eq_nil_iff] at hf
      exact absurd hf hsep
    | cons c found =>
      rw [List.cons_append] at hafter ⊢
      rw [cutBy?, hafter]
  rw [List.append_assoc, cutBy?_append hskip, hfind]
  simp

/-- A text that does not hold `sep` is clear of it when a character foreign to `sep` ends
it. -/
theorem clearBy_of_getLast? {key : Char → Char} {sep l : Text} {c : Char}
    (hl : ¬ sep.map key <:+: l.map key) (hlast : l.getLast? = some c)
    (hc : key c ∉ sep.map key) : ClearBy key sep l := by
  intro v hv hvl found t _
  rw [← Option.not_isSome_iff_eq_none, Option.isSome_iff_exists]
  rintro ⟨rest, hr⟩
  obtain ⟨start, heq, hstart⟩ := afterBy?_eq_some_iff.1 hr
  rw [List.append_assoc] at heq
  -- either the occurrence lies within `v`, or it reaches over the last character of `v`
  rcases List.append_eq_append_iff.1 heq with ⟨w, hw, -⟩ | ⟨w, hw, -⟩
  · obtain ⟨d, hd⟩ := Option.ne_none_iff_exists'.1 (mt List.getLast?_eq_none_iff.1 hv)
    have hcd : d = c := by
      obtain ⟨u, rfl⟩ := hvl
      rw [List.getLast?_append, hd, Option.some_or, Option.some.injEq] at hlast
      exact hlast
    have hcs : c ∈ start := by
      rw [hw, ← hcd]
      exact List.mem_append_left w (List.mem_of_getLast? hd)
    exact hc (hstart ▸ List.mem_map_of_mem hcs)
  · have hvs : start.map key <:+: v.map key :=
      (hw ▸ (List.prefix_append start w).isInfix).map key
    exact hl (hstart ▸ hvs.trans (hvl.isInfix.map key))

/-- The text is clear of `sep` in exact search. -/
def Clear (sep l : Text) : Prop := ClearBy id sep l

/-- A text without an occurrence is clear if its last character is not part of one. -/
theorem clear_of_getLast? {sep l : Text} {c : Char} (hl : ¬ sep <:+: l)
    (hlast : l.getLast? = some c) (hc : c ∉ sep) : Clear sep l :=
  clearBy_of_getLast? (by simpa using hl) hlast (by simpa using hc)

/-- The empty text is clear. -/
theorem clear_nil (sep : Text) : Clear sep [] := clearBy_nil id sep

/-- A text is clear of a character that it does not hold. -/
theorem clear_singleton {c : Char} {l : Text} (h : c ∉ l) : Clear [c] l := by
  obtain rfl | ⟨s, d, rfl⟩ := List.eq_nil_or_concat l
  · exact clear_nil _
  · rw [List.concat_eq_append] at h ⊢
    have hfree : ¬ [c] <:+: s ++ [d] := fun hc => h (hc.subset List.mem_cons_self)
    apply clear_of_getLast? hfree List.getLast?_concat
    intro hd
    apply h
    rw [← List.mem_singleton.1 hd]
    exact List.mem_append_right s List.mem_cons_self

/-- A text is cut at the separator that follows a stretch which is clear of it. -/
theorem cut?_append {sep l : Text} (h : Clear sep l) (hsep : sep ≠ []) (t : Text) :
    cut? sep (l ++ sep ++ t) = some (l, t) :=
  cutBy?_of_clearBy h hsep rfl t

/-- The first occurrence of a character. -/
theorem cut?_append_cons {c : Char} {l : Text} (h : c ∉ l) (t : Text) :
    cut? [c] (l ++ c :: t) = some (l, t) := by
  have hcut := cut?_append (clear_singleton h) (List.cons_ne_nil c []) t
  rwa [List.append_assoc, List.singleton_append] at hcut

/-- What stands before the first occurrence is clear of the separator. -/
theorem clear_of_cut? {sep t left right : Text} (h : cut? sep t = some (left, right)) :
    Clear sep left := by
  induction t generalizing left with
  | nil =>
    have hnil := cut?_eq_some h
    obtain rfl : left = [] := by simp_all
    exact clear_nil sep
  | cons c t ih =>
    have hwhole := cut?_eq_some h
    rw [cut?, cutBy?] at h
    split at h
    · obtain ⟨rfl, -⟩ := Prod.mk.inj (Option.some.inj h)
      exact clear_nil sep
    · next hstart =>
      -- what stands before the occurrence is this character and what stands before it in the rest
      obtain ⟨⟨l, r⟩, hcut, hsides⟩ := Option.map_eq_some_iff.1 h
      obtain ⟨rfl, rfl⟩ := Prod.mk.inj hsides
      intro v hv hsuffix found u hfound
      rw [List.map_id, List.map_id] at hfound
      subst hfound
      rcases List.suffix_cons_iff.1 hsuffix with rfl | hsuffix
      · -- an occurrence at the start would not reach beyond the one that was found
        rw [← Option.not_isSome_iff_eq_none, ← after?_eq_afterBy?, ← startsWith, startsWith_iff]
        intro hprefix
        have hshort : found <+: c :: l ++ found :=
          List.prefix_of_prefix_length_le hprefix (List.prefix_append _ u) (by simp; omega)
        have hbegin : found <+: c :: t := hwhole ▸ hshort.trans (List.prefix_append _ r)
        rw [← startsWith_iff, startsWith, after?, hstart] at hbegin
        exact Bool.false_ne_true hbegin
      · exact ih hcut v hv hsuffix found u rfl

/-- A text that is clear of a separator does not hold it. -/
theorem not_infix_of_clear {sep l : Text} (h : Clear sep l) (hsep : sep ≠ []) : ¬ sep <:+: l := by
  rintro ⟨a, b, rfl⟩
  have hnone := h (sep ++ b) (by simp [hsep]) ⟨a, by simp⟩ sep [] rfl
  rw [← after?_eq_afterBy?, List.append_assoc, List.append_assoc, after?_append] at hnone
  exact nomatch hnone

/-- A character occurs in a text if it is one of its characters. -/
theorem singleton_infix_iff {c : Char} {t : Text} : [c] <:+: t ↔ c ∈ t := by
  constructor
  · exact fun h => h.subset List.mem_cons_self
  · intro h
    obtain ⟨l, r, rfl⟩ := List.append_of_mem h
    exact ⟨l, r, by simp⟩

/-- A text is cut at the first of the characters that it is cut at. -/
theorem not_mem_of_cut? {c : Char} {t left right : Text} (h : cut? [c] t = some (left, right)) :
    c ∉ left := by
  rw [← singleton_infix_iff]
  exact not_infix_of_clear (clear_of_cut? h) (List.cons_ne_nil c [])

/-! ## Occurrences around a foreign character -/

/-- A start of a text has its first character. -/
theorem head?_eq_of_prefix_ne_nil {s t : Text} (h : s <+: t) (hs : s ≠ []) : s.head? = t.head? := by
  obtain ⟨c, u, rfl⟩ := List.exists_cons_of_ne_nil hs
  obtain ⟨r, rfl⟩ := h
  rfl

/-- A start without a given character ends before it. -/
theorem prefix_append_cons_iff {needle l r : Text} {c : Char} (hc : c ∉ needle) :
    needle <+: l ++ c :: r ↔ needle <+: l := by
  refine ⟨fun h => ?_, fun h => h.trans (List.prefix_append l (c :: r))⟩
  have hl : l <+: l ++ c :: r := List.prefix_append l (c :: r)
  have hlc : l ++ [c] <+: l ++ c :: r := ⟨r, by simp⟩
  -- a longer start would hold the character
  rcases Nat.lt_or_ge l.length needle.length with hlt | hle
  · have hmem := List.prefix_of_prefix_length_le hlc h (by simpa using Nat.succ_le_of_lt hlt)
    exact absurd (hmem.subset (by simp)) hc
  · exact List.prefix_of_prefix_length_le h hl hle

/-- No occurrence crosses a character that is not in the needle. -/
theorem infix_append_cons_iff {needle l r : Text} {c : Char} (hc : c ∉ needle) :
    needle <:+: l ++ c :: r ↔ needle <:+: l ∨ needle <:+: r := by
  induction l with
  | nil =>
    have hp := prefix_append_cons_iff (l := []) (r := r) hc
    rw [List.nil_append] at hp
    rw [List.nil_append, List.infix_cons_iff, hp, List.prefix_nil, List.infix_nil]
  | cons d l ih =>
    rw [List.cons_append, List.infix_cons_iff, ih, ← List.cons_append, prefix_append_cons_iff hc,
      List.infix_cons_iff, or_assoc]

/-- An occurrence in a text between two such characters lies in the text itself. -/
theorem infix_cons_append_iff {needle t : Text} {c : Char} (hne : needle ≠ []) (hc : c ∉ needle) :
    needle <:+: c :: (t ++ [c]) ↔ needle <:+: t := by
  have hleft := infix_append_cons_iff (l := []) (r := t ++ [c]) hc
  have hright := infix_append_cons_iff (l := t) (r := []) hc
  rw [List.nil_append] at hleft
  rw [hleft, hright, List.infix_nil]
  simp [hne]

/-! ## Any ASCII case -/

/-- Beyond ASCII there are no letters to change. -/
theorem toLower_eq_self_of_le {c : Char} (h : 128 ≤ c.toNat) : c.toLower = c := by
  apply dif_neg
  intro hletter
  have hle : c.toNat ≤ 90 := UInt32.le_iff_toNat_le.1 hletter.2
  omega

/-- What holds of every ASCII character can be checked character by character. -/
theorem forall_ascii {P : Char → Prop} (h : ∀ n < 128, P (Char.ofNat n)) {c : Char}
    (hc : c.toNat < 128) : P c := by
  have hchar := h c.toNat hc
  rwa [Char.ofNat_toNat] at hchar

/-- The lower-case form of a character is itself or a lower-case letter. -/
private theorem toLower_eq_or_isLower (c : Char) : c.toLower = c ∨ c.toLower.isLower = true := by
  by_cases hc : c.toNat < 128
  · exact forall_ascii (P := fun c => c.toLower = c ∨ c.toLower.isLower = true) (by decide) hc
  · exact .inl (toLower_eq_self_of_le (Nat.not_lt.1 hc))

/-- A character that is no small letter is the lower-case form of itself alone. -/
theorem eq_of_toLower_eq {c d : Char} (hd : d.isLower = false) (h : c.toLower = d) : c = d := by
  rcases toLower_eq_or_isLower c with hc | hc
  · rw [← hc, h]
  · rw [h, hd] at hc
    exact nomatch hc

/-- An occurrence in any ASCII case is one in the lower-case form. -/
theorem infix_map_toLower_of_cutAnyCase? {needle t left right : Text}
    (h : cutAnyCase? needle t = some (left, right)) :
    needle.map Char.toLower <:+: t.map Char.toLower := by
  rw [cutAnyCase?_eq_cutBy?] at h
  exact isSome_cutBy?_iff.1 (by rw [h]; rfl)

/-! ## Splitting -/

/-- A text without the separator is one piece. -/
theorem splitOn_eq_of_cut?_eq_none {sep t : Text} (h : cut? sep t = none) :
    splitOn sep t = [t] := by
  rw [splitOn]
  split
  · rfl
  · split <;> simp_all

/-- A text without the separator is a single piece. -/
theorem splitOn_eq_singleton {sep t : Text} (h : ¬ sep <:+: t) : splitOn sep t = [t] :=
  splitOn_eq_of_cut?_eq_none (cut?_eq_none_iff.2 h)

/-- The first cut gives the first piece and leaves the others. -/
theorem splitOn_eq_of_cut?_eq_some {sep t left right : Text} (hsep : sep ≠ [])
    (h : cut? sep t = some (left, right)) : splitOn sep t = left :: splitOn sep right := by
  rw [splitOn, dif_neg hsep]
  split
  · next hn => exact absurd (h.symm.trans hn) (by simp)
  · next hs =>
    simp only [hs, Option.some.injEq, Prod.mk.injEq] at h
    rw [h.1, h.2]

/-- A stretch that is clear of the separator is the first piece. -/
theorem splitOn_append {sep l : Text} (h : Clear sep l) (hsep : sep ≠ []) (t : Text) :
    splitOn sep (l ++ sep ++ t) = l :: splitOn sep t :=
  splitOn_eq_of_cut?_eq_some hsep (cut?_append h hsep t)

/-- The pieces on the two sides of a separator that follows a character foreign to it. -/
theorem splitOn_append_of_getLast? {sep l : Text} {c : Char} (hlast : l.getLast? = some c)
    (hc : c ∉ sep) (hsep : sep ≠ []) (t : Text) :
    splitOn sep (l ++ sep ++ t) = splitOn sep l ++ splitOn sep t := by
  fun_induction splitOn sep l with
  | case1 t hnil => exact absurd hnil hsep
  | case2 l _ hnone =>
    rw [splitOn_append (clear_of_getLast? (cut?_eq_none_iff.1 hnone) hlast hc) hsep]
    rfl
  | case3 l _ left right hcut ih =>
    have hl := cut?_eq_some hcut
    -- the last character is not that of the separator, so something follows the occurrence
    have hright : right.getLast? = some c := by
      rw [hl, List.getLast?_append] at hlast
      cases hr : right.getLast? with
      | some d =>
        rw [hr, Option.some_or] at hlast
        exact hlast
      | none =>
        rw [hr, Option.none_or, List.getLast?_append, List.getLast?_eq_some_getLast hsep,
          Option.some_or] at hlast
        exact absurd (Option.some.inj hlast ▸ List.getLast_mem hsep) hc
    have hreassoc : l ++ sep ++ t = left ++ sep ++ (right ++ sep ++ t) := by simp [hl]
    rw [hreassoc, splitOn_append (clear_of_cut? hcut) hsep, ih hright, List.cons_append]

/-- Separators between texts divide the whole into the pieces of the texts, if each text ends with
a character foreign to the separator. -/
private theorem splitOn_flatMap_append {sep : Text} {texts : List Text}
    (htexts : ∀ l ∈ texts, ∃ c, l.getLast? = some c ∧ c ∉ sep) (hsep : sep ≠ []) (t : Text) :
    splitOn sep (texts.flatMap (· ++ sep) ++ t) = texts.flatMap (splitOn sep) ++ splitOn sep t := by
  induction texts with
  | nil => rfl
  | cons l ls ih =>
    obtain ⟨c, hlast, hc⟩ := htexts l List.mem_cons_self
    rw [List.flatMap_cons, List.append_assoc, splitOn_append_of_getLast? hlast hc hsep,
      ih fun m hm => htexts m (List.mem_cons_of_mem l hm), List.flatMap_cons, List.append_assoc]

/-- Separators before texts and at the end, after a stretch that is clear of the separator. -/
theorem splitOn_flatMap {sep first : Text} {texts : List Text} (hfirst : Clear sep first)
    (htexts : ∀ l ∈ texts, ∃ c, l.getLast? = some c ∧ c ∉ sep) (hsep : sep ≠ []) (t : Text) :
    splitOn sep (first ++ texts.flatMap (sep ++ ·) ++ sep ++ t) =
      first :: texts.flatMap (splitOn sep) ++ splitOn sep t := by
  -- the separators before the texts are taken for separators behind them
  have hshift : texts.flatMap (sep ++ ·) ++ sep = sep ++ texts.flatMap (· ++ sep) := by
    clear htexts
    induction texts with
    | nil => simp
    | cons l ls ih => rw [List.flatMap_cons, List.flatMap_cons, List.append_assoc, ih]; simp
  have hreassoc : first ++ texts.flatMap (sep ++ ·) ++ sep ++ t =
      first ++ sep ++ (texts.flatMap (· ++ sep) ++ t) := by
    rw [List.append_assoc first, hshift]
    simp only [List.append_assoc]
  rw [hreassoc, splitOn_append hfirst hsep, splitOn_flatMap_append htexts hsep, List.cons_append]

/-- No piece of a split holds the separator. -/
theorem not_infix_of_mem_splitOn {sep t piece : Text} (hsep : sep ≠ [])
    (h : piece ∈ splitOn sep t) : ¬ sep <:+: piece := by
  fun_induction splitOn sep t with
  | case1 t hnil => exact absurd hnil hsep
  | case2 t _ hnone =>
    obtain rfl := List.mem_singleton.1 h
    exact cut?_eq_none_iff.1 hnone
  | case3 t _ left right hcut ih =>
    rcases List.mem_cons.1 h with rfl | h
    · exact not_infix_of_clear (clear_of_cut? hcut) hsep
    · exact ih h

/-- Every piece of a split is a part of the text. -/
theorem infix_of_mem_splitOn {sep t piece : Text} (h : piece ∈ splitOn sep t) :
    piece <:+: t := by
  fun_induction splitOn sep t with
  | case1 t =>
    obtain rfl := List.mem_singleton.1 h
    exact List.infix_refl _
  | case2 t =>
    obtain rfl := List.mem_singleton.1 h
    exact List.infix_refl _
  | case3 t hsep left right hc ih =>
    have ht := cut?_eq_some hc
    -- the first piece stands before the separator, the others behind it
    rcases List.mem_cons.1 h with rfl | h
    · exact ⟨[], sep ++ right, by simp [ht]⟩
    · exact (ih h).trans ⟨left ++ sep, [], by simp [ht]⟩

end Mailroom.Text
