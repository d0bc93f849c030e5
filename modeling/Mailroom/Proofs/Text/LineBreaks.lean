import Mailroom.Proofs.Text.Lines
import Mailroom.Proofs.Text.Search
import Mailroom.Proofs.Text.Trim

/-!
# Line breaks of two kinds

A text whose line breaks are LF can be written with CR LF instead.  Every reader of the
library then finds the same things at the same places: searches, white space, quotes and
lines commute with the change of line breaks, or differ only in a CR at the end of a line.

A separator may itself hold line breaks, and then changes with the text.  The text must not
hold a CR in that case, since one that was there before could complete an occurrence.

## Key results

* `ofCrlf_toCrlf`           changing the line breaks back
* `normalizeBreaks_eq_map`  normalisation sees no difference
* `cutBy?_toCrlf`           the first occurrence of a separator
* `trim_toCrlf`             white space at the ends
* `lines_toCrlf`            lines, all but the last with a CR
-/

namespace Mailroom.Text

/-- The text with a CR before every LF. -/
def toCrlf : Text → Text
  | [] => []
  | c :: t => if c = '\n' then '\r' :: '\n' :: toCrlf t else c :: toCrlf t

/-- The text with a LF for every CR LF. -/
def ofCrlf : Text → Text
  | [] => []
  | '\r' :: '\n' :: t => '\n' :: ofCrlf t
  | c :: t => c :: ofCrlf t

@[simp] theorem toCrlf_nil : toCrlf [] = [] := rfl

/-- LF becomes CR LF. -/
@[simp] theorem toCrlf_newline (t : Text) : toCrlf ('\n' :: t) = '\r' :: '\n' :: toCrlf t := rfl

/-- Other characters stay. -/
theorem toCrlf_cons {c : Char} (hc : c ≠ '\n') (t : Text) : toCrlf (c :: t) = c :: toCrlf t := by
  rw [toCrlf, if_neg hc]

/-- The breaks of two texts are changed one after the other. -/
theorem toCrlf_append (s t : Text) : toCrlf (s ++ t) = toCrlf s ++ toCrlf t := by
  induction s with
  | nil => rfl
  | cons c s ih =>
    by_cases hc : c = '\n'
    · subst hc
      rw [List.cons_append, toCrlf_newline, toCrlf_newline, ih]
      rfl
    · rw [List.cons_append, toCrlf_cons hc, toCrlf_cons hc, ih, List.cons_append]

/-- A text without line breaks stays as it is. -/
theorem toCrlf_eq_self {t : Text} (ht : '\n' ∉ t) : toCrlf t = t := by
  induction t with
  | nil => rfl
  | cons c t ih =>
    rw [List.mem_cons, not_or] at ht
    rw [toCrlf_cons (Ne.symm ht.1), ih ht.2]

/-- The empty text stays empty, and no other becomes so. -/
@[simp] theorem toCrlf_eq_nil_iff {t : Text} : toCrlf t = [] ↔ t = [] := by
  cases t with
  | nil => simp
  | cons c t =>
    rw [toCrlf]
    split <;> simp

/-- The same, as a truth value. -/
theorem isEmpty_toCrlf (t : Text) : (toCrlf t).isEmpty = t.isEmpty := by
  rw [Bool.eq_iff_iff, List.isEmpty_iff, List.isEmpty_iff, toCrlf_eq_nil_iff]

/-- The last character stays the last. -/
theorem getLast?_toCrlf (t : Text) : (toCrlf t).getLast? = t.getLast? := by
  rcases List.eq_nil_or_concat t with rfl | ⟨s, c, rfl⟩
  · rfl
  · -- a line break ends with its LF
    have hc : (toCrlf [c]).getLast? = some c := by
      rw [toCrlf]
      split
      · next h => rw [h]; rfl
      · rfl
    rw [List.concat_eq_append, toCrlf_append, List.getLast?_append, hc, List.getLast?_append]
    rfl

/-! ## Changing back -/

/-- Changing the line breaks back gives the text again. -/
theorem ofCrlf_toCrlf {t : Text} (ht : '\r' ∉ t) : ofCrlf (toCrlf t) = t := by
  induction t with
  | nil => rfl
  | cons c t ih =>
    rw [List.mem_cons, not_or] at ht
    by_cases hc : c = '\n'
    · subst hc
      rw [toCrlf_newline, ofCrlf, ih ht.2]
    · have hcr : ∀ u, c = '\r' → toCrlf t = '\n' :: u → False := fun _ h _ => ht.1 h.symm
      rw [toCrlf_cons hc, ofCrlf.eq_3 c _ hcr, ih ht.2]

/-- A text without CR has no break to change back. -/
theorem ofCrlf_eq_self {t : Text} (ht : '\r' ∉ t) : ofCrlf t = t := by
  induction t with
  | nil => rfl
  | cons c t ih =>
    rw [List.mem_cons, not_or] at ht
    have hcr : ∀ u, c = '\r' → t = '\n' :: u → False := fun _ h _ => ht.1 h.symm
    rw [ofCrlf.eq_3 c _ hcr, ih ht.2]

/-- Normalisation replaces what is left of CR once every CR LF is a LF. -/
theorem normalizeBreaks_eq_map (t : Text) :
    normalizeBreaks t = (ofCrlf t).map fun c => if c = '\r' then '\n' else c := by
  fun_induction ofCrlf t with
  | case1 => rfl
  | case2 t ih =>
    rw [normalizeBreaks, ih]
    rfl
  | case3 c t hcr ih =>
    by_cases hc : c = '\r'
    · subst hc
      -- a CR without LF behind it becomes a break of its own
      have hnl : ∀ u, t = '\n' :: u → False := fun u hu => hcr u rfl hu
      rw [normalizeBreaks.eq_3 t hnl, ih]
      rfl
    · rw [normalizeBreaks.eq_4 c t (fun _ h _ => hc h) hc, ih, List.map_cons, if_neg hc]

/-- A text without CR is normalised. -/
theorem normalizeBreaks_eq_self {t : Text} (ht : '\r' ∉ t) : normalizeBreaks t = t := by
  rw [normalizeBreaks_eq_map, ofCrlf_eq_self ht]
  have hself : ∀ c ∈ t, (if c = '\r' then '\n' else c) = c := by
    intro c hc
    refine if_neg ?_
    rintro rfl
    exact ht hc
  rw [List.map_congr_left hself, List.map_id']

/-- No CR is left in a text with uniform breaks. -/
theorem cr_not_mem_normalizeBreaks (t : Text) : '\r' ∉ normalizeBreaks t := by
  rw [normalizeBreaks_eq_map]
  intro h
  obtain ⟨c, -, hc⟩ := List.mem_map.1 h
  split at hc
  · exact nomatch hc
  · next hne => exact hne hc

/-- Texts that differ only in CR LF and LF are normalised alike. -/
theorem normalizeBreaks_congr {s t : Text} (h : ofCrlf s = ofCrlf t) :
    normalizeBreaks s = normalizeBreaks t := by
  rw [normalizeBreaks_eq_map, normalizeBreaks_eq_map, h]

/-- A CR that came with the change is followed by its LF. -/
theorem eq_newline_of_infix_toCrlf {t : Text} {c : Char} (ht : '\r' ∉ t)
    (h : ['\r', c] <:+: toCrlf t) : c = '\n' := by
  induction t with
  | nil => simp at h
  | cons d t ih =>
    rw [List.mem_cons, not_or] at ht
    by_cases hd : d = '\n'
    · subst hd
      rw [toCrlf_newline, List.infix_cons_iff, List.infix_cons_iff] at h
      -- the CR is the one put in here, it is followed by LF, or it comes later
      rcases h with h | h | h
      · simpa using h
      · simp at h
      · exact ih ht.2 h
    · rw [toCrlf_cons hd, List.infix_cons_iff] at h
      rcases h with h | h
      · rw [List.cons_prefix_cons] at h
        exact absurd h.1 ht.1
      · exact ih ht.2 h

/-! ## Searches -/

/-- The key tells CR and LF from every other character. -/
structure KeepsBreaks (key : Char → Char) : Prop where
  cr : ∀ c, key c = key '\r' → c = '\r'
  lf : ∀ c, key c = key '\n' → c = '\n'

/-- Exact search takes nothing else for a break. -/
theorem keepsBreaks_id : KeepsBreaks id := ⟨fun _ h => h, fun _ h => h⟩

/-- Nor does search in any ASCII case. -/
theorem keepsBreaks_toLower : KeepsBreaks Char.toLower :=
  ⟨fun _ h => eq_of_toLower_eq (by decide) h, fun _ h => eq_of_toLower_eq (by decide) h⟩

section Search

variable {key : Char → Char} (hkey : KeepsBreaks key)

include hkey

/-- What follows a start. -/
theorem afterBy?_toCrlf {lead t : Text} (hlead : '\r' ∉ lead) (ht : '\n' ∈ lead → '\r' ∉ t) :
    afterBy? (sameBy key) (toCrlf lead) (toCrlf t) =
      (afterBy? (sameBy key) lead t).map toCrlf := by
  induction lead generalizing t with
  | nil => simp [afterBy?]
  | cons p ps ih =>
    rw [List.mem_cons, not_or] at hlead
    cases t with
    | nil =>
      by_cases hp : p = '\n'
      · subst hp
        rfl
      · rw [toCrlf_cons hp]
        rfl
    | cons c cs =>
      -- the rest of the text has no CR either, if the separator goes on with a break
      have hcs : '\n' ∈ ps → '\r' ∉ cs :=
        fun h hmem => ht (List.mem_cons_of_mem p h) (List.mem_cons_of_mem c hmem)
      have hrest := ih hlead.2 hcs
      by_cases hp : p = '\n' <;> by_cases hc : c = '\n'
      · -- a line break of the separator meets one of the text
        subst hp hc
        simp only [toCrlf_newline, afterBy?, sameBy, beq_self_eq_true, if_true, hrest]
      · -- the text would have to go on with a CR of its own
        subst hp
        have hcr : c ≠ '\r' := fun h => ht List.mem_cons_self (h ▸ List.mem_cons_self)
        have h1 : ¬ key '\r' = key c := fun h => hcr (hkey.cr c h.symm)
        have h2 : ¬ key '\n' = key c := fun h => hc (hkey.lf c h.symm)
        simp [toCrlf_cons hc, afterBy?, sameBy, h1, h2]
      · -- a character of the separator meets a line break
        subst hc
        have h1 : ¬ key p = key '\r' := fun h => hlead.1 (hkey.cr p h).symm
        have h2 : ¬ key p = key '\n' := fun h => hp (hkey.lf p h)
        simp [toCrlf_cons hp, afterBy?, sameBy, h1, h2]
      · rw [toCrlf_cons hp, toCrlf_cons hc, afterBy?, afterBy?, hrest]
        split <;> rfl

/-- No occurrence starts between a CR and its LF. -/
private theorem afterBy?_toCrlf_newline {sep : Text} (hne : sep ≠ []) (hsep : '\r' ∉ sep)
    (t : Text) : afterBy? (sameBy key) (toCrlf sep) ('\n' :: t) = none := by
  cases sep with
  | nil => exact absurd rfl hne
  | cons p ps =>
    -- the separator starts with CR or with a character of its own, but not with LF
    by_cases hp : p = '\n'
    · subst hp
      have h : ¬ key '\r' = key '\n' := fun h => absurd (hkey.lf _ h) (by decide)
      simp [afterBy?, sameBy, h]
    · have h : ¬ key p = key '\n' := fun h => hp (hkey.lf p h)
      simp [toCrlf_cons hp, afterBy?, sameBy, h]

/-- The two sides of the first occurrence of a separator. -/
theorem cutBy?_toCrlf {sep t : Text} (hne : sep ≠ []) (hsep : '\r' ∉ sep)
    (ht : '\n' ∈ sep → '\r' ∉ t) :
    cutBy? (sameBy key) (toCrlf sep) (toCrlf t) =
      (cutBy? (sameBy key) sep t).map fun (left, right) => (toCrlf left, toCrlf right) := by
  induction t with
  | nil => simp [cutBy?, hne]
  | cons c t ih =>
    have hafter := afterBy?_toCrlf hkey hsep ht
    have hrest := ih fun h hmem => ht h (List.mem_cons_of_mem c hmem)
    by_cases hc : c = '\n'
    · subst hc
      rw [toCrlf_newline] at hafter ⊢
      -- the search goes on behind the LF, not between it and its CR
      rw [cutBy?, cutBy?, cutBy?, hafter, afterBy?_toCrlf_newline hkey hne hsep, hrest]
      cases afterBy? (sameBy key) sep ('\n' :: t) with
      | some right => rfl
      | none => cases cutBy? (sameBy key) sep t <;> rfl
    · rw [toCrlf_cons hc] at hafter ⊢
      rw [cutBy?, cutBy?, hafter, hrest]
      cases afterBy? (sameBy key) sep (c :: t) with
      | some right => rfl
      | none =>
        cases cutBy? (sameBy key) sep t with
        | none => rfl
        | some sides => simp [toCrlf_cons hc]

end Search

/-- What follows a start without line breaks. -/
theorem after?_toCrlf {lead : Text} (hcr : '\r' ∉ lead) (hlf : '\n' ∉ lead) (t : Text) :
    after? lead (toCrlf t) = (after? lead t).map toCrlf := by
  have h := afterBy?_toCrlf (t := t) keepsBreaks_id hcr fun h => absurd h hlf
  rwa [toCrlf_eq_self hlf] at h

/-- The two sides of a separator without line breaks. -/
theorem cut?_toCrlf {sep : Text} (hne : sep ≠ []) (hcr : '\r' ∉ sep) (hlf : '\n' ∉ sep)
    (t : Text) : cut? sep (toCrlf t) =
      (cut? sep t).map fun (left, right) => (toCrlf left, toCrlf right) := by
  have h := cutBy?_toCrlf (t := t) keepsBreaks_id hne hcr fun h => absurd h hlf
  rwa [toCrlf_eq_self hlf] at h

/-- The two sides of a separator in any case, which has no line breaks. -/
theorem cutAnyCase?_toCrlf {sep : Text} (hne : sep ≠ []) (hcr : '\r' ∉ sep) (hlf : '\n' ∉ sep)
    (t : Text) : cutAnyCase? sep (toCrlf t) =
      (cutAnyCase? sep t).map fun (left, right) => (toCrlf left, toCrlf right) := by
  have h := cutBy?_toCrlf (t := t) keepsBreaks_toLower hne hcr fun h => absurd h hlf
  rwa [toCrlf_eq_self hlf] at h

/-- What occurs in a text occurs in it with other breaks. -/
theorem contains_toCrlf {needle : Text} (hne : needle ≠ []) (hcr : '\r' ∉ needle)
    (hlf : '\n' ∉ needle) (t : Text) : contains needle (toCrlf t) = contains needle t := by
  rw [contains, cut?_toCrlf hne hcr hlf, Option.isSome_map, contains]

/-- What a text starts with, it starts with under other breaks. -/
theorem startsWith_toCrlf {lead : Text} (hcr : '\r' ∉ lead) (hlf : '\n' ∉ lead) (t : Text) :
    startsWith lead (toCrlf t) = startsWith lead t := by
  rw [startsWith, after?_toCrlf hcr hlf, Option.isSome_map, startsWith]

/-- The pieces of a split at a separator that may hold line breaks. -/
theorem splitOn_toCrlf {sep t : Text} (hsep : '\r' ∉ sep) (ht : '\r' ∉ t) :
    splitOn (toCrlf sep) (toCrlf t) = (splitOn sep t).map toCrlf := by
  fun_induction splitOn sep t with
  | case1 t =>
    rw [splitOn, dif_pos (by simpa)]
    rfl
  | case2 t hne hc =>
    have hcut := cutBy?_toCrlf keepsBreaks_id hne hsep fun _ => ht
    rw [← cut?_eq_cutBy?, hc] at hcut
    rw [splitOn_eq_of_cut?_eq_none hcut]
    rfl
  | case3 t hne left right hc ih =>
    have hcut := cutBy?_toCrlf keepsBreaks_id hne hsep fun _ => ht
    rw [← cut?_eq_cutBy?, hc] at hcut
    -- what follows the separator has no CR either, so the induction goes on with it
    have hright : '\r' ∉ right := by
      rw [cut?_eq_some hc] at ht
      exact fun h => ht (List.mem_append_right _ h)
    rw [splitOn_eq_of_cut?_eq_some (by simpa using hne) hcut, ih hright]
    rfl

/-! ## White space and quotes -/

/-- Characters that are dropped at the start: both those of a line break or none. -/
theorem dropWhile_toCrlf {p : Char → Bool} (hp : p '\r' = p '\n') (t : Text) :
    (toCrlf t).dropWhile p = toCrlf (t.dropWhile p) := by
  induction t with
  | nil => rfl
  | cons c t ih =>
    by_cases hc : c = '\n'
    · subst hc
      rw [toCrlf_newline, List.dropWhile_cons, List.dropWhile_cons, List.dropWhile_cons, hp, ih]
      split <;> rfl
    · rw [toCrlf_cons hc, List.dropWhile_cons, List.dropWhile_cons, ih]
      split
      · rfl
      · rw [toCrlf_cons hc]

/-- Characters up to the first line break or before it. -/
theorem takeWhile_toCrlf {p : Char → Bool} (hcr : p '\r' = false) (hlf : p '\n' = false)
    (t : Text) : (toCrlf t).takeWhile p = t.takeWhile p := by
  induction t with
  | nil => rfl
  | cons c t ih =>
    by_cases hc : c = '\n'
    · subst hc
      rw [toCrlf_newline, List.takeWhile_cons_of_neg (by simp [hcr]),
        List.takeWhile_cons_of_neg (by simp [hlf])]
    · rw [toCrlf_cons hc, List.takeWhile_cons, List.takeWhile_cons, ih]

/-- A selection that takes no break does not depend on the breaks. -/
theorem filter_toCrlf {p : Char → Bool} (hcr : p '\r' = false) (hlf : p '\n' = false)
    (t : Text) : (toCrlf t).filter p = t.filter p := by
  induction t with
  | nil => rfl
  | cons c t ih =>
    by_cases hc : c = '\n'
    · subst hc
      rw [toCrlf_newline, List.filter_cons_of_neg (by simp [hcr]),
        List.filter_cons_of_neg (by simp [hlf]), List.filter_cons_of_neg (by simp [hlf]), ih]
    · rw [toCrlf_cons hc, List.filter_cons, List.filter_cons, ih]

/-- A text is blank under either breaks. -/
theorem isBlankText_toCrlf (t : Text) : isBlankText (toCrlf t) = isBlankText t := by
  have h := filter_toCrlf (p := (!isBlank ·)) (by decide) (by decide) t
  rw [Bool.eq_iff_iff, isBlankText_iff, isBlankText_iff]
  have hiff (u : Text) : u.filter (!isBlank ·) = [] ↔ ∀ c ∈ u, isBlank c = true := by
    simp [List.filter_eq_nil_iff]
  rw [← hiff, ← hiff, h]

/-- Trimming the start commutes with the change of breaks. -/
theorem trimStart_toCrlf (t : Text) : trimStart (toCrlf t) = toCrlf (trimStart t) :=
  dropWhile_toCrlf (by decide) t

/-- So does trimming the end. -/
theorem trimEnd_toCrlf (t : Text) : trimEnd (toCrlf t) = toCrlf (trimEnd t) := by
  obtain ⟨b, hb, ht⟩ := exists_eq_dropEndWhile_append isBlank t
  have hblank : isBlankText (toCrlf b) = true := by
    rw [isBlankText_toCrlf, isBlankText_iff]
    exact hb
  -- what is left keeps its last character, which is not blank
  have hself : trimEnd (toCrlf (trimEnd t)) = toCrlf (trimEnd t) := by
    apply dropEndWhile_eq_self
    intro c hc
    rw [getLast?_toCrlf] at hc
    exact not_of_getLast?_dropEndWhile hc
  conv => lhs; rw [ht]
  rw [toCrlf_append, trimEnd_append_blank hblank]
  exact hself

/-- So does trimming both ends. -/
theorem trim_toCrlf (t : Text) : trim (toCrlf t) = toCrlf (trim t) := by
  rw [trim, trimStart_toCrlf, trimEnd_toCrlf, trim]

/-- So does taking off a pair of quotes. -/
theorem between?_toCrlf {quote : Char} (hq : quote ≠ '\n') (hq' : quote ≠ '\r') (t : Text) :
    between? quote (toCrlf t) = (between? quote t).map toCrlf := by
  cases t with
  | nil => rfl
  | cons c t =>
    by_cases hc : c = '\n'
    · subst hc
      simp [between?, Ne.symm hq, Ne.symm hq']
    · rw [toCrlf_cons hc, between?, between?, getLast?_toCrlf]
      split
      · next h =>
        -- the closing quote is no line break
        simp only [Bool.and_eq_true, beq_iff_eq] at h
        have hdrop : (toCrlf t).dropLast = toCrlf t.dropLast := by
          obtain ⟨s, rfl⟩ := List.getLast?_eq_some_iff.1 h.2
          rw [toCrlf_append, toCrlf_cons hq]
          simp
        rw [hdrop]
        rfl
      · rfl

/-- So does taking off quotes and white space. -/
theorem unquote_toCrlf (t : Text) : unquote (toCrlf t) = toCrlf (unquote t) := by
  have hor : ((between? '"' (trim (toCrlf t))).or (between? '\'' (trim (toCrlf t)))).getD
        (trim (toCrlf t)) =
      toCrlf (((between? '"' (trim t)).or (between? '\'' (trim t))).getD (trim t)) := by
    rw [trim_toCrlf, between?_toCrlf (by decide) (by decide),
      between?_toCrlf (by decide) (by decide)]
    cases between? '"' (trim t) <;> cases between? '\'' (trim t) <;> rfl
  rw [unquote, hor, trim_toCrlf, unquote]

/-! ## Lines -/

/-- The lines with a CR at the end of all but the last. -/
def crlfLines : List Text → List Text
  | [] => []
  | [l] => [l]
  | l :: m :: ls => (l ++ ['\r']) :: crlfLines (m :: ls)

/-- Every line but the last ends in CR. -/
theorem crlfLines_cons {ls : List Text} (hls : ls ≠ []) (l : Text) :
    crlfLines (l :: ls) = (l ++ ['\r']) :: crlfLines ls := by
  cases ls with
  | nil => exact absurd rfl hls
  | cons m ls => rfl

/-- The lines of the changed text. -/
theorem lines_toCrlf (t : Text) : lines (toCrlf t) = crlfLines (lines t) := by
  induction t with
  | nil => rfl
  | cons c t ih =>
    by_cases hc : c = '\n'
    · subst hc
      have hcr : lines ('\r' :: '\n' :: toCrlf t) = lines ['\r'] ++ lines (toCrlf t) :=
        lines_append ['\r'] _
      have hlf : lines ('\n' :: t) = lines [] ++ lines t := lines_append [] t
      -- the CR ends the empty line before the break
      rw [toCrlf_newline, hcr, hlf, ih]
      exact (crlfLines_cons (lines_ne_nil t) []).symm
    · rw [toCrlf_cons hc, lines_cons hc, lines_cons hc, ih]
      match lines t with
      | [] => rfl
      | [l] => rfl
      | l :: m :: ls => rfl

/-- Lines with a CR joined again. -/
theorem unlines_crlfLines {ls : List Text} (h : ∀ l ∈ ls, '\n' ∉ l) :
    unlines (crlfLines ls) = toCrlf (unlines ls) := by
  induction ls with
  | nil => rfl
  | cons l ls ih =>
    have hl := toCrlf_eq_self (h l List.mem_cons_self)
    cases ls with
    | nil => rw [crlfLines, unlines_singleton, hl]
    | cons m ls =>
      -- the CR of this line and the LF that joins it to the next make the break
      have hne : m :: ls ≠ [] := by simp
      have hne' : crlfLines (m :: ls) ≠ [] := by
        cases ls <;> simp [crlfLines]
      rw [crlfLines, unlines_cons hne', unlines_cons hne, toCrlf_append, hl, toCrlf_newline,
        ih fun l' hl' => h l' (List.mem_cons_of_mem l hl')]
      simp

/-- The first line ends with a CR if another line follows. -/
theorem exists_firstLine_toCrlf (t : Text) :
    ∃ b, isBlankText b = true ∧ firstLine (toCrlf t) = firstLine t ++ b := by
  induction t with
  | nil => exact ⟨[], rfl, rfl⟩
  | cons c t ih =>
    by_cases hc : c = '\n'
    · subst hc
      exact ⟨['\r'], by decide, rfl⟩
    · obtain ⟨b, hb, h⟩ := ih
      refine ⟨b, hb, ?_⟩
      rw [toCrlf_cons hc, firstLine_cons hc, firstLine_cons hc, h, List.cons_append]

/-- White space at the ends of the first line does not tell the line breaks apart. -/
theorem trim_firstLine_toCrlf (t : Text) : trim (firstLine (toCrlf t)) = trim (firstLine t) := by
  obtain ⟨b, hb, h⟩ := exists_firstLine_toCrlf t
  rw [h]
  exact trim_append_blankEnd hb (firstLine t)

end Mailroom.Text
