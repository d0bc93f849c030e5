import Mailroom.Text.Basic

/-!
# Lines and fields

Cutting a text at every occurrence of a character and joining the pieces again.  A text and
its lines determine each other, which lets a reader that goes by lines be described by what
it does to the text.

## Key results

* `splitWhere_append_cons`   a separator divides the pieces before it from those after it
* `exists_mem_splitWhere`    every other character stands in a piece
* `join_append`              a separator stands between two lists of pieces that are joined
* `fields_join`              the fields of a text that is made of them
* `unlines_lines`            the lines of a text, joined again
* `lines_unlines_eq_flatMap` the lines of joined texts
* `lines_unlines`            the lines of a text that is made of them
* `lines_append`             the lines on the two sides of a line break
-/

namespace Mailroom.Text

/-- There is a piece even without a separator. -/
theorem splitWhere_ne_nil (p : Char → Bool) (t : Text) : splitWhere p t ≠ [] := by
  intro h
  have := length_splitWhere p t
  rw [h] at this
  simp at this

/-- A character that is no separator goes to the first piece. -/
theorem splitWhere_cons_of_neg {p : Char → Bool} {c : Char} (hc : p c = false) (t : Text) :
    splitWhere p (c :: t) = (splitWhere p t).modifyHead (c :: ·) := by
  rw [splitWhere, hc]
  cases hs : splitWhere p t with
  | nil => exact absurd hs (splitWhere_ne_nil p t)
  | cons piece pieces => rfl

/-- A text without separators is a single piece. -/
theorem splitWhere_eq_singleton {p : Char → Bool} {t : Text} (ht : ∀ c ∈ t, p c = false) :
    splitWhere p t = [t] := by
  induction t with
  | nil => rfl
  | cons c t ih =>
    rw [splitWhere_cons_of_neg (ht c List.mem_cons_self),
      ih fun d hd => ht d (List.mem_cons_of_mem c hd)]
    rfl

/-- A separator divides the pieces before it from those after it. -/
theorem splitWhere_append_cons {p : Char → Bool} {c : Char} (hc : p c = true) (l r : Text) :
    splitWhere p (l ++ c :: r) = splitWhere p l ++ splitWhere p r := by
  induction l with
  | nil => simp [splitWhere, hc]
  | cons d l ih =>
    cases hd : p d with
    | true => simp [splitWhere, hd, ih]
    | false =>
      -- the character goes to the first piece on either side
      rw [List.cons_append, splitWhere_cons_of_neg hd, splitWhere_cons_of_neg hd, ih]
      cases hs : splitWhere p l with
      | nil => exact absurd hs (splitWhere_ne_nil p l)
      | cons piece pieces => rfl

/-- A piece is a part of the text. -/
theorem infix_of_mem_splitWhere {p : Char → Bool} {t piece : Text} (h : piece ∈ splitWhere p t) :
    piece <:+: t := by
  -- the first piece is even a start of the text
  suffices hpieces : (∀ q, (splitWhere p t).head? = some q → q <+: t) ∧
      ∀ q ∈ splitWhere p t, q <:+: t from hpieces.2 piece h
  clear h
  induction t with
  | nil => simp [splitWhere]
  | cons c t ih =>
    obtain ⟨hfirst, hall⟩ := ih
    have hcons : ∀ q ∈ splitWhere p t, q <:+: c :: t := fun q hq => (hall q hq).trans
      (List.suffix_cons c t).isInfix
    cases hc : p c with
    | true =>
      rw [splitWhere, if_pos hc]
      refine ⟨by simp, fun q hq => ?_⟩
      rcases List.mem_cons.1 hq with rfl | hq
      · exact List.nil_infix
      · exact hcons q hq
    | false =>
      rw [splitWhere_cons_of_neg hc]
      cases hs : splitWhere p t with
      | nil => exact absurd hs (splitWhere_ne_nil p t)
      | cons first pieces =>
        rw [hs] at hfirst hcons
        -- a character that is no separator goes to the front of the first piece
        have hpre : c :: first <+: c :: t := (List.cons_prefix_cons).2 ⟨rfl, hfirst first rfl⟩
        rw [List.modifyHead_cons]
        refine ⟨by simpa using hpre, fun q hq => ?_⟩
        rcases List.mem_cons.1 hq with rfl | hq
        · exact hpre.isInfix
        · exact hcons q (List.mem_cons_of_mem first hq)

/-- No piece holds a separator. -/
theorem not_of_mem_splitWhere {p : Char → Bool} {t piece : Text} (h : piece ∈ splitWhere p t)
    {c : Char} (hc : c ∈ piece) : p c = false := by
  induction t generalizing piece with
  | nil =>
    rw [splitWhere, List.mem_singleton] at h
    simp [h] at hc
  | cons d t ih =>
    cases hd : p d with
    | true =>
      rw [splitWhere, if_pos hd] at h
      -- the empty piece before a separator holds nothing
      rcases List.mem_cons.1 h with rfl | h
      · simp at hc
      · exact ih h hc
    | false =>
      rw [splitWhere_cons_of_neg hd] at h
      cases hs : splitWhere p t with
      | nil => exact absurd hs (splitWhere_ne_nil p t)
      | cons first pieces =>
        rw [hs, List.modifyHead_cons] at h
        rcases List.mem_cons.1 h with rfl | h
        · rcases List.mem_cons.1 hc with rfl | hc
          · exact hd
          · exact ih (hs ▸ List.mem_cons_self) hc
        · exact ih (hs ▸ List.mem_cons_of_mem first h) hc

/-- A character that is no separator stands in a piece. -/
theorem exists_mem_splitWhere {p : Char → Bool} {t : Text} {c : Char} (h : c ∈ t)
    (hc : p c = false) : ∃ piece ∈ splitWhere p t, c ∈ piece := by
  induction t with
  | nil => exact nomatch h
  | cons d t ih =>
    cases hd : p d with
    | true =>
      -- the character is not the separator, so it stands behind it
      have hne : c ≠ d := fun heq => absurd (heq ▸ hc) (by simp [hd])
      obtain ⟨piece, hpiece, hmem⟩ := ih ((List.mem_cons.1 h).resolve_left hne)
      rw [splitWhere, if_pos hd]
      exact ⟨piece, List.mem_cons_of_mem [] hpiece, hmem⟩
    | false =>
      rw [splitWhere_cons_of_neg hd]
      cases hs : splitWhere p t with
      | nil => exact absurd hs (splitWhere_ne_nil p t)
      | cons first pieces =>
        rw [List.modifyHead_cons]
        rcases List.mem_cons.1 h with rfl | h
        · exact ⟨c :: first, List.mem_cons_self, List.mem_cons_self⟩
        · obtain ⟨piece, hpiece, hmem⟩ := ih h
          rcases List.mem_cons.1 (hs ▸ hpiece) with rfl | hpiece
          · exact ⟨d :: piece, List.mem_cons_self, List.mem_cons_of_mem d hmem⟩
          · exact ⟨piece, List.mem_cons_of_mem _ hpiece, hmem⟩

/-- A separator divides the fields before it from those after it. -/
theorem fields_append (sep : Char) (l r : Text) :
    fields sep (l ++ sep :: r) = fields sep l ++ fields sep r :=
  splitWhere_append_cons (by simp) l r

/-- A text without separators is a single field. -/
theorem fields_eq_singleton {sep : Char} {t : Text} (ht : sep ∉ t) : fields sep t = [t] :=
  splitWhere_eq_singleton fun c hc => by
    simp only [beq_eq_false_iff_ne, ne_eq]
    rintro rfl
    exact ht hc

/-- What stands before the first separator belongs to the first field. -/
theorem fields_append_of_not_mem {sep : Char} {l : Text} (hl : sep ∉ l) (t : Text) :
    fields sep (l ++ t) = (fields sep t).modifyHead (l ++ ·) := by
  induction l with
  | nil => exact (congrFun List.modifyHead_id (fields sep t)).symm
  | cons c l ih =>
    rw [List.mem_cons, not_or] at hl
    have hc : (c == sep) = false := beq_eq_false_iff_ne.2 (Ne.symm hl.1)
    have hcons : fields sep (c :: (l ++ t)) = (fields sep (l ++ t)).modifyHead (c :: ·) :=
      splitWhere_cons_of_neg (p := (· == sep)) hc (l ++ t)
    rw [List.cons_append, hcons, ih hl.2, List.modifyHead_modifyHead]
    rfl

/-! ## Joined pieces -/

/-- The separator stands behind every piece but the last. -/
theorem join_cons {sep piece : Text} {pieces : List Text} (h : pieces ≠ []) :
    join sep (piece :: pieces) = piece ++ (sep ++ join sep pieces) := by
  rw [join, List.intercalate_cons_of_ne_nil h, List.append_assoc, join]

/-- A separator stands between the pieces of two lists that are joined. -/
theorem join_append {sep : Text} {pieces pieces' : List Text} (h : pieces ≠ [])
    (h' : pieces' ≠ []) :
    join sep (pieces ++ pieces') = join sep pieces ++ (sep ++ join sep pieces') := by
  induction pieces with
  | nil => exact absurd rfl h
  | cons piece pieces ih =>
    by_cases hrest : pieces = []
    · rw [hrest, List.singleton_append, join_cons h', join, join, List.intercalate_singleton]
    · have hne : pieces ++ pieces' ≠ [] := List.append_ne_nil_of_left_ne_nil hrest pieces'
      rw [List.cons_append, join_cons hne, ih hrest, join_cons hrest]
      simp only [List.append_assoc]

/-- The fields of joined texts are their fields in order. -/
theorem fields_join_eq_flatMap {sep : Char} {pieces : List Text} (h : pieces ≠ []) :
    fields sep (join [sep] pieces) = pieces.flatMap (fields sep) := by
  induction pieces with
  | nil => exact absurd rfl h
  | cons piece pieces ih =>
    by_cases hrest : pieces = []
    · rw [hrest, join, List.intercalate_singleton, List.flatMap_singleton]
    · rw [join_cons hrest, List.singleton_append, fields_append, ih hrest, List.flatMap_cons]

/-- Pieces without the separator are the fields of the text that they make up. -/
theorem fields_join {sep : Char} {pieces : List Text} (hne : pieces ≠ [])
    (h : ∀ piece ∈ pieces, sep ∉ piece) : fields sep (join [sep] pieces) = pieces := by
  have hsingle : pieces.map (fields sep) = pieces.map fun piece => [piece] :=
    List.map_congr_left fun piece hpiece => fields_eq_singleton (h piece hpiece)
  rw [fields_join_eq_flatMap hne, List.flatMap_def, hsingle, ← List.flatMap_def,
    List.flatMap_singleton']

/-! ## Lines -/

/-- The empty text is a line too. -/
theorem lines_ne_nil (t : Text) : lines t ≠ [] := splitWhere_ne_nil _ t

/-- The lines on the two sides of a line break. -/
theorem lines_append (l r : Text) : lines (l ++ '\n' :: r) = lines l ++ lines r :=
  fields_append '\n' l r

/-- A character that is no break goes to the first line. -/
theorem lines_cons {c : Char} (hc : c ≠ '\n') (t : Text) :
    lines (c :: t) = (lines t).modifyHead (c :: ·) := by
  have hp : (c == '\n') = false := by simpa using hc
  exact splitWhere_cons_of_neg (p := (· == '\n')) hp t

/-- A character that is no break belongs to the first line. -/
theorem firstLine_cons {c : Char} (hc : c ≠ '\n') (t : Text) :
    firstLine (c :: t) = c :: firstLine t := by
  have hp : (c != '\n') = true := by simpa using hc
  exact List.takeWhile_cons_of_pos (p := (· != '\n')) hp

/-- The first line has no break. -/
theorem newline_not_mem_firstLine (t : Text) : '\n' ∉ firstLine t := by
  intro h
  have hall : ((firstLine t).all (· != '\n')) = true := List.all_takeWhile
  exact absurd (List.all_eq_true.1 hall '\n' h) (by decide)

/-- A text has no break if none of its characters is one. -/
theorem newline_not_mem_iff {t : Text} : '\n' ∉ t ↔ ∀ c ∈ t, (c != '\n') = true := by
  simp only [bne_iff_ne]
  exact ⟨fun h c hc hn => h (hn ▸ hc), fun h hmem => h '\n' hmem rfl⟩

/-- A text without breaks is its first line. -/
theorem firstLine_eq_self {l : Text} (hl : '\n' ∉ l) : firstLine l = l := by
  have htake : (l ++ []).takeWhile (· != '\n') = l ++ [] :=
    List.takeWhile_append_of_pos (newline_not_mem_iff.1 hl)
  rwa [List.append_nil] at htake

/-- The first line ends at the first line break. -/
theorem firstLine_append {l : Text} (hl : '\n' ∉ l) (t : Text) :
    firstLine (l ++ '\n' :: t) = l := by
  rw [firstLine, List.takeWhile_append_of_pos (newline_not_mem_iff.1 hl)]
  exact List.append_nil l

/-- A text without breaks is a single line. -/
theorem lines_eq_singleton {t : Text} (ht : '\n' ∉ t) : lines t = [t] := fields_eq_singleton ht

/-- Characters of the first line stay in it. -/
theorem lines_append_of_not_mem {l : Text} (hl : '\n' ∉ l) (t : Text) :
    lines (l ++ t) = (lines t).modifyHead (l ++ ·) :=
  fields_append_of_not_mem hl t

/-- A line has no break. -/
theorem newline_not_mem_of_mem_lines {t l : Text} (h : l ∈ lines t) : '\n' ∉ l := by
  intro hc
  have := not_of_mem_splitWhere h hc
  simp at this

/-- Every line but the last is followed by a break. -/
theorem unlines_cons {l : Text} {ls : List Text} (hls : ls ≠ []) :
    unlines (l :: ls) = l ++ '\n' :: unlines ls :=
  join_cons hls

/-- A single line is joined to itself. -/
theorem unlines_singleton (l : Text) : unlines [l] = l := by
  rw [unlines, join, List.intercalate_singleton]

/-- A break stands between two texts of lines. -/
theorem unlines_append {ls ms : List Text} (hls : ls ≠ []) (hms : ms ≠ []) :
    unlines (ls ++ ms) = unlines ls ++ '\n' :: unlines ms :=
  join_append hls hms

/-- A character of joined lines is a line break or stands in a line. -/
theorem mem_unlines {ls : List Text} {c : Char} (h : c ∈ unlines ls) :
    c = '\n' ∨ ∃ l ∈ ls, c ∈ l := by
  induction ls with
  | nil => exact nomatch h
  | cons l ls ih =>
    by_cases hls : ls = []
    · rw [hls, unlines_singleton] at h
      exact .inr ⟨l, List.mem_cons_self, h⟩
    · rw [unlines_cons hls, List.mem_append, List.mem_cons] at h
      rcases h with h | h | h
      · exact .inr ⟨l, List.mem_cons_self, h⟩
      · exact .inl h
      · exact (ih h).imp_right fun ⟨m, hm, hc⟩ => ⟨m, List.mem_cons_of_mem l hm, hc⟩

/-- The lines of joined texts are their lines in order. -/
theorem lines_unlines_eq_flatMap {ls : List Text} (hls : ls ≠ []) :
    lines (unlines ls) = ls.flatMap lines :=
  fields_join_eq_flatMap hls

/-- Lines without line breaks are the lines of the text that they make up. -/
theorem lines_unlines {ls : List Text} (hls : ls ≠ []) (h : ∀ l ∈ ls, '\n' ∉ l) :
    lines (unlines ls) = ls :=
  fields_join hls h

/-- The last of some lines make up the end of the text. -/
theorem unlines_suffix {ls ms : List Text} (h : ls <:+ ms) : unlines ls <:+ unlines ms := by
  obtain ⟨front, rfl⟩ := h
  by_cases hfront : front = []
  · subst hfront
    exact List.suffix_refl _
  by_cases hls : ls = []
  · subst hls
    exact List.nil_suffix
  · rw [unlines_append hfront hls]
    exact (List.suffix_cons _ _).trans (List.suffix_append _ _)

/-- The lines of a text, joined again. -/
theorem unlines_lines (t : Text) : unlines (lines t) = t := by
  induction t with
  | nil => rfl
  | cons c t ih =>
    by_cases hc : c = '\n'
    · subst hc
      rw [show lines ('\n' :: t) = [] :: lines t from lines_append [] t,
        unlines_cons (lines_ne_nil t), ih]
      rfl
    · rw [lines_cons hc]
      -- the character goes to the first line, which stays first
      cases hs : lines t with
      | nil => exact absurd hs (lines_ne_nil t)
      | cons piece pieces =>
        rw [hs] at ih
        cases pieces with
        | nil => rw [List.modifyHead_cons, unlines_singleton, ← ih, unlines_singleton]
        | cons piece' pieces =>
          have hne : piece' :: pieces ≠ [] := by simp
          rw [List.modifyHead_cons, unlines_cons hne, ← ih, unlines_cons hne, List.cons_append]

end Mailroom.Text
