import Mailroom.Proofs.Text.Search
import Mailroom.Text.Blank

/-!
# The ASCII case of letters

White space, line breaks and punctuation have no case.  A reader that looks for nothing else cuts
a text at the same places whatever case its letters are in, so putting the letters in lower case
can be done before the cut or after it.

## Key results

* `isBlank_toLower`          white space has no case
* `toLower_beq`              nor has any character but a letter
* `map_toLower_eq_iff`       a text without letters is written in one way
* `trim_map_toLower`         trimming goes by white space
* `lines_map_toLower`        lines go by line breaks
-/

namespace Mailroom.Text

/-! ## Characters -/

/-- White space has no case. -/
theorem isBlank_toLower (c : Char) : isBlank c.toLower = isBlank c := by
  by_cases hc : c.toNat < 128
  · exact forall_ascii (P := fun c => isBlank c.toLower = isBlank c) (by decide) hc
  · rw [toLower_eq_self_of_le (Nat.not_lt.1 hc)]

/-- A character that is no letter is the lower-case form of itself alone. -/
theorem toLower_beq {d : Char} (hd : d.isAlpha = false) (c : Char) :
    (c.toLower == d) = (c == d) := by
  have hself : d.toLower = d := by
    by_cases hascii : d.toNat < 128
    · exact forall_ascii (P := fun d => d.isAlpha = false → d.toLower = d) (by decide) hascii hd
    · exact toLower_eq_self_of_le (Nat.not_lt.1 hascii)
  have hlower : d.isLower = false := (Bool.or_eq_false_iff.1 hd).2
  rw [Bool.eq_iff_iff, beq_iff_eq, beq_iff_eq]
  refine ⟨eq_of_toLower_eq hlower, ?_⟩
  rintro rfl
  exact hself

/-! ## Texts -/

/-- A text without letters is the lower-case form of itself alone. -/
theorem map_toLower_eq_iff {s t : Text} (ht : ∀ c ∈ t, c.isAlpha = false) :
    s.map Char.toLower = t ↔ s = t := by
  induction s generalizing t with
  | nil => rfl
  | cons c s ih =>
    cases t with
    | nil => simp
    | cons d t =>
      have hhead : c.toLower = d ↔ c = d := by
        rw [← beq_iff_eq, toLower_beq (ht d List.mem_cons_self), beq_iff_eq]
      rw [List.map_cons, List.cons.injEq, List.cons.injEq, hhead,
        ih fun e he => ht e (List.mem_cons_of_mem d he)]

/-- A start without letters is compared exactly. -/
theorem prefix_map_toLower_iff {lead t : Text} (hlead : ∀ c ∈ lead, c.isAlpha = false) :
    lead <+: t.map Char.toLower ↔ lead <+: t := by
  constructor
  · rintro ⟨rest, h⟩
    obtain ⟨start, rest, rfl, hstart, -⟩ := List.map_eq_append_iff.1 h.symm
    rw [(map_toLower_eq_iff hlead).1 hstart]
    exact List.prefix_append lead rest
  · rintro ⟨rest, rfl⟩
    rw [List.map_append, (map_toLower_eq_iff hlead).2 rfl]
    exact List.prefix_append lead _

section

variable {p : Char → Bool} (hp : ∀ c, p c.toLower = p c)

include hp

/-- A test that is blind to letter case drops the same from the start of the lower-cased text. -/
theorem dropWhile_map_toLower (t : Text) :
    (t.map Char.toLower).dropWhile p = (t.dropWhile p).map Char.toLower := by
  have hcomp : p ∘ Char.toLower = p := funext hp
  rw [List.dropWhile_map, hcomp]

/-- It drops the same from the end. -/
theorem dropEndWhile_map_toLower (t : Text) :
    dropEndWhile p (t.map Char.toLower) = (dropEndWhile p t).map Char.toLower := by
  rw [dropEndWhile, ← List.map_reverse, dropWhile_map_toLower hp, ← List.map_reverse, dropEndWhile]

/-- It splits the lower-cased text at the same places. -/
theorem splitWhere_map_toLower (t : Text) :
    splitWhere p (t.map Char.toLower) = (splitWhere p t).map (·.map Char.toLower) := by
  induction t with
  | nil => rfl
  | cons c t ih =>
    rw [List.map_cons, splitWhere, splitWhere, hp, ih]
    split
    · rfl
    · -- the character goes to the first piece on either side
      cases splitWhere p t <;> rfl

end

/-- White space has no letter case, so trimming the end and lower-casing commute. -/
theorem trimEnd_map_toLower (t : Text) :
    trimEnd (t.map Char.toLower) = (trimEnd t).map Char.toLower :=
  dropEndWhile_map_toLower isBlank_toLower t

/-- So do trimming both ends and lower-casing. -/
theorem trim_map_toLower (t : Text) : trim (t.map Char.toLower) = (trim t).map Char.toLower := by
  rw [trim, trimStart, dropWhile_map_toLower isBlank_toLower, trimEnd_map_toLower, trim, trimStart]

/-- The lines of the lower-cased text are the lower-cased lines. -/
theorem lines_map_toLower (t : Text) :
    lines (t.map Char.toLower) = (lines t).map (·.map Char.toLower) :=
  splitWhere_map_toLower (toLower_beq (by decide)) t

/-- Its first line is the lower-cased first line. -/
theorem firstLine_map_toLower (t : Text) :
    firstLine (t.map Char.toLower) = (firstLine t).map Char.toLower := by
  have hcomp : (fun c => c != '\n') ∘ Char.toLower = fun c => c != '\n' :=
    funext fun c => congrArg not (toLower_beq (by decide) c)
  rw [firstLine, List.takeWhile_map, hcomp, firstLine]

end Mailroom.Text
