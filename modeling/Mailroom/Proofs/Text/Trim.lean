import Mailroom.Text.Quoted

/-!
# White space at the ends of a text

Trimming takes a blank text off each end and leaves a text that neither starts nor ends with
white space.  Both facts together determine it, so later modules reason with them and never
unfold it.  Quotes around a value go by what the trimmed value starts and ends with.

## Key results

* `takeWhile_append_of_head?`   where the longest start that satisfies a predicate ends
* `exists_eq_append_trim`       a text is its trimmed form between two blank texts
* `trim_append_blank`           blank texts at the ends do not change the trimmed form
* `trim_eq_self`                a text without white space at its ends is trimmed
* `isValueOf_unquote`           what is left without quotes is a trimmed piece
* `unquote_quoted`              double quotes are taken off
* `unquote_singleQuoted`        and so are single ones
-/

namespace Mailroom.Text

@[simp] theorem isBlankText_nil : isBlankText [] = true := rfl

/-- A text is blank if all its characters are white space. -/
theorem isBlankText_iff {t : Text} : isBlankText t = true ↔ ∀ c ∈ t, isBlank c = true :=
  List.all_eq_true

/-- White space does not occur in a text that has none. -/
theorem not_mem_of_isBlank {t : Text} {c : Char} (ht : t.all (!isBlank ·) = true)
    (hc : isBlank c = true) : c ∉ t := by
  intro hmem
  have hsolid := List.all_eq_true.1 ht c hmem
  rw [hc] at hsolid
  exact nomatch hsolid

/-- A text of white space alone holds no other character. -/
theorem not_mem_of_isBlankText {t : Text} {c : Char} (ht : isBlankText t = true)
    (hc : isBlank c = false) : c ∉ t := by
  intro hmem
  rw [isBlankText_iff.1 ht c hmem] at hc
  exact Bool.false_ne_true hc.symm

/-- A part of a blank text is blank. -/
theorem isBlankText_of_subset {s t : Text} (ht : isBlankText t = true) (h : s ⊆ t) :
    isBlankText s = true :=
  isBlankText_iff.2 fun _ hc => isBlankText_iff.1 ht _ (h hc)

/-- Two texts are blank together if each is. -/
theorem isBlankText_append {s t : Text} :
    isBlankText (s ++ t) = true ↔ isBlankText s = true ∧ isBlankText t = true := by
  simp only [isBlankText, List.all_append, Bool.and_eq_true]

/-! ## The start of a text -/

/-- A start of characters that satisfy `p` is the longest one when none follows it. -/
theorem takeWhile_append_of_head? {p : Char → Bool} {s t : Text} (hs : ∀ c ∈ s, p c = true)
    (ht : ∀ c ∈ t.head?, p c = false) : (s ++ t).takeWhile p = s := by
  rw [List.takeWhile_append_of_pos hs]
  cases t with
  | nil => simp
  | cons c t => simp [ht c rfl]

/-- What stands behind the longest start that satisfies a predicate. -/
theorem dropWhile_append_of_head? {p : Char → Bool} {s t : Text} (hs : ∀ c ∈ s, p c = true)
    (ht : ∀ c ∈ t.head?, p c = false) : (s ++ t).dropWhile p = t := by
  rw [List.dropWhile_append_of_pos hs]
  cases t with
  | nil => rfl
  | cons c t => simp [ht c rfl]

/-- What is left does not start with a character that satisfies the predicate. -/
theorem not_of_head?_dropWhile {p : Char → Bool} {t : Text} {c : Char}
    (h : (t.dropWhile p).head? = some c) : p c = false := by
  have := List.head?_dropWhile_not p t
  simpa [h] using this

/-! ## The end of a text -/

/-- A text of characters that are dropped makes no difference at the end. -/
theorem dropEndWhile_append {p : Char → Bool} {t b : Text} (hb : ∀ c ∈ b, p c = true) :
    dropEndWhile p (t ++ b) = dropEndWhile p t := by
  have hrev : ∀ c ∈ b.reverse, p c = true := fun c hc => hb c (List.mem_reverse.1 hc)
  rw [dropEndWhile, List.reverse_append, List.dropWhile_append_of_pos hrev, dropEndWhile]

/-- Nothing is dropped from a text whose last character stays. -/
theorem dropEndWhile_eq_self {p : Char → Bool} {t : Text}
    (ht : ∀ c, t.getLast? = some c → p c = false) : dropEndWhile p t = t := by
  rw [dropEndWhile]
  cases hr : t.reverse with
  | nil => simp_all
  | cons c u =>
    have hp : p c = false := ht c (by rw [← List.head?_reverse, hr, List.head?_cons])
    rw [List.dropWhile_cons_of_neg (by simp [hp]), ← hr, List.reverse_reverse]

/-- Nothing is cut off beyond a character that stays. -/
theorem dropEndWhile_append_of_getLast? {p : Char → Bool} {t : Text}
    (ht : ∀ c, t.getLast? = some c → p c = false) (b : Text) :
    dropEndWhile p (t ++ b) = t ++ dropEndWhile p b := by
  have hself := dropEndWhile_eq_self ht
  rw [dropEndWhile] at hself
  rw [dropEndWhile, List.reverse_append, List.dropWhile_append, dropEndWhile]
  split
  · next hb => rw [hself, List.isEmpty_iff.1 hb, List.reverse_nil, List.append_nil]
  · rw [List.reverse_append, List.reverse_reverse]

/-- What is cut off an end satisfies the predicate. -/
theorem exists_eq_dropEndWhile_append (p : Char → Bool) (t : Text) :
    ∃ b, (∀ c ∈ b, p c = true) ∧ t = dropEndWhile p t ++ b := by
  refine ⟨(t.reverse.takeWhile p).reverse, fun c hc => ?_, ?_⟩
  · exact List.all_eq_true.1 List.all_takeWhile c (List.mem_reverse.1 hc)
  · rw [dropEndWhile, ← List.reverse_append, List.takeWhile_append_dropWhile, List.reverse_reverse]

/-- Dropping the end never lengthens a text. -/
theorem length_dropEndWhile_le (p : Char → Bool) (t : Text) :
    (dropEndWhile p t).length ≤ t.length := by
  obtain ⟨b, -, hb⟩ := exists_eq_dropEndWhile_append p t
  have hprefix : dropEndWhile p t <+: t := ⟨b, hb.symm⟩
  exact hprefix.length_le

/-- What is left does not end in a character that is dropped. -/
theorem not_of_getLast?_dropEndWhile {p : Char → Bool} {t : Text} {c : Char}
    (h : (dropEndWhile p t).getLast? = some c) : p c = false := by
  rw [dropEndWhile, List.getLast?_reverse] at h
  have := List.head?_dropWhile_not p t.reverse
  simpa [h] using this

/-! ## Both ends -/

/-- A text is what is left of it behind a blank text. -/
theorem exists_eq_append_trimStart (t : Text) :
    ∃ a, isBlankText a = true ∧ t = a ++ trimStart t :=
  ⟨t.takeWhile isBlank, List.all_takeWhile, (List.takeWhile_append_dropWhile).symm⟩

/-- What is left does not start with white space. -/
theorem not_isBlank_of_head?_trimStart {t : Text} {c : Char}
    (h : (trimStart t).head? = some c) : isBlank c = false :=
  not_of_head?_dropWhile h

/-- A blank text in front makes no difference. -/
theorem trimStart_append_blank {a : Text} (ha : isBlankText a = true) (t : Text) :
    trimStart (a ++ t) = trimStart t :=
  List.dropWhile_append_of_pos (isBlankText_iff.1 ha)

/-- A text that starts with no white space stays as it is. -/
theorem trimStart_eq_self {t : Text} (ht : ∀ c, t.head? = some c → isBlank c = false) :
    trimStart t = t := by
  cases t with
  | nil => rfl
  | cons c t => exact List.dropWhile_cons_of_neg (by simp [ht c rfl])

/-- Nothing is left of a blank text, and of no other. -/
theorem trimStart_eq_nil_iff {t : Text} : trimStart t = [] ↔ isBlankText t = true := by
  constructor
  · intro h
    obtain ⟨a, ha, ht⟩ := exists_eq_append_trimStart t
    rw [h, List.append_nil] at ht
    rwa [ht]
  · intro h
    have htrim := trimStart_append_blank h []
    rwa [List.append_nil] at htrim

/-- Nothing is cut off behind a character that stays. -/
theorem trimStart_append {t : Text} (ht : isBlankText t = false) (u : Text) :
    trimStart (t ++ u) = trimStart t ++ u := by
  obtain ⟨a, ha, hta⟩ := exists_eq_append_trimStart t
  have hne : trimStart t ≠ [] := by
    rw [Ne, trimStart_eq_nil_iff, ht]
    decide
  conv => lhs; rw [hta, List.append_assoc, trimStart_append_blank ha]
  refine trimStart_eq_self fun c hc => not_isBlank_of_head?_trimStart (t := t) ?_
  obtain ⟨d, rest, hrest⟩ := List.exists_cons_of_ne_nil hne
  rw [hrest] at hc ⊢
  exact hc

/-- A blank text at the end makes no difference. -/
theorem trimEnd_append_blank {b : Text} (hb : isBlankText b = true) (t : Text) :
    trimEnd (t ++ b) = trimEnd t :=
  dropEndWhile_append (isBlankText_iff.1 hb)

/-- A text starts with what is left of it. -/
theorem prefix_trimEnd (t : Text) : trimEnd t <+: t := by
  obtain ⟨b, -, hb⟩ := exists_eq_dropEndWhile_append isBlank t
  exact ⟨b, hb.symm⟩

/-- No white space is left at the end. -/
theorem trimEnd_trimEnd (t : Text) : trimEnd (trimEnd t) = trimEnd t :=
  dropEndWhile_eq_self fun _ => not_of_getLast?_dropEndWhile

/-- Blank texts at the ends do not change the trimmed form. -/
theorem trim_append_blank {a b : Text} (ha : isBlankText a = true) (hb : isBlankText b = true)
    (t : Text) : trim (a ++ t ++ b) = trim t := by
  rw [List.append_assoc, trim, trimStart_append_blank ha, trimStart, List.dropWhile_append]
  split
  · next he =>
    -- nothing but white space stands before `b`
    have hbe : b.dropWhile isBlank = [] := by
      have : (b ++ []).dropWhile isBlank = [] :=
        List.dropWhile_append_of_pos (isBlankText_iff.1 hb)
      rwa [List.append_nil] at this
    rw [trim, trimStart, hbe, List.isEmpty_iff.1 he]
  · rw [trimEnd_append_blank hb]
    rfl

/-- A blank text at the end does not change the trimmed form. -/
theorem trim_append_blankEnd {b : Text} (hb : isBlankText b = true) (t : Text) :
    trim (t ++ b) = trim t :=
  trim_append_blank (a := []) rfl hb t

/-- Nothing is left of a blank text. -/
theorem trim_eq_nil {t : Text} (ht : isBlankText t = true) : trim t = [] := by
  have htrim := trim_append_blank ht isBlankText_nil []
  rwa [List.append_nil, List.append_nil] at htrim

/-- A text without white space at its ends is trimmed. -/
theorem trim_eq_self {t : Text} (hs : ∀ c, t.head? = some c → isBlank c = false)
    (he : ∀ c, t.getLast? = some c → isBlank c = false) : trim t = t := by
  rw [trim, trimStart_eq_self hs]
  exact dropEndWhile_eq_self he

/-- From a text without white space at its end only that at its start is taken. -/
theorem trim_eq_trimStart {t : Text} (he : ∀ c, t.getLast? = some c → isBlank c = false) :
    trim t = trimStart t := by
  obtain ⟨a, -, ht⟩ := exists_eq_append_trimStart t
  refine dropEndWhile_eq_self fun c hc => he c ?_
  rw [ht, List.getLast?_append, hc, Option.some_or]

/-- A text that starts and ends with other characters is trimmed. -/
theorem trim_eq_self_of_ends {t : Text} {c d : Char} (hhead : t.head? = some c)
    (hlast : t.getLast? = some d) (hc : isBlank c = false) (hd : isBlank d = false) :
    trim t = t := by
  refine trim_eq_self (fun c' hc' => ?_) (fun d' hd' => ?_)
  · rw [hhead, Option.some.injEq] at hc'
    rw [← hc', hc]
  · rw [hlast, Option.some.injEq] at hd'
    rw [← hd', hd]

/-- A text is its trimmed form between two blank texts. -/
theorem exists_eq_append_trim (t : Text) :
    ∃ a b, isBlankText a = true ∧ isBlankText b = true ∧ t = a ++ trim t ++ b := by
  obtain ⟨a, ha, hta⟩ := exists_eq_append_trimStart t
  obtain ⟨b, hb, htb⟩ := exists_eq_dropEndWhile_append isBlank (trimStart t)
  refine ⟨a, b, ha, isBlankText_iff.2 hb, ?_⟩
  rw [List.append_assoc, trim, trimEnd, ← htb, ← hta]

/-- What is left of a text is nothing only where it is blank. -/
theorem isBlankText_of_trim_eq_nil {t : Text} (ht : trim t = []) : isBlankText t = true := by
  obtain ⟨a, b, ha, hb, h⟩ := exists_eq_append_trim t
  rw [ht, List.append_nil] at h
  rw [h, isBlankText_append]
  exact ⟨ha, hb⟩

/-- The trimmed form is a piece of the text. -/
theorem infix_trim (t : Text) : trim t <:+: t := by
  obtain ⟨a, b, -, -, h⟩ := exists_eq_append_trim t
  exact ⟨a, b, h.symm⟩

/-- The trimmed form does not end in white space. -/
theorem not_isBlank_of_getLast?_trim {t : Text} {c : Char} (h : (trim t).getLast? = some c) :
    isBlank c = false :=
  not_of_getLast?_dropEndWhile h

/-- The trimmed form does not start with white space. -/
theorem not_isBlank_of_head?_trim {t : Text} {c : Char} (h : (trim t).head? = some c) :
    isBlank c = false := by
  obtain ⟨b, -, hb⟩ := exists_eq_dropEndWhile_append isBlank (trimStart t)
  refine not_isBlank_of_head?_trimStart (t := t) ?_
  rw [hb, List.head?_append, show (dropEndWhile isBlank (trimStart t)).head? = some c from h,
    Option.some_or]

/-- Trimming again changes nothing. -/
theorem trim_trim (t : Text) : trim (trim t) = trim t :=
  trim_eq_self (fun _ => not_isBlank_of_head?_trim) (fun _ => not_isBlank_of_getLast?_trim)

/-- The trimmed form is blank exactly if the text is. -/
theorem isBlankText_trim (t : Text) : isBlankText (trim t) = isBlankText t := by
  rw [Bool.eq_iff_iff]
  refine ⟨fun h => isBlankText_of_trim_eq_nil ?_, fun h => by rw [trim_eq_nil h]; rfl⟩
  rw [← trim_trim, trim_eq_nil h]

/-- Trimming leaves every character that is not white space. -/
theorem filter_trim (t : Text) : (trim t).filter (!isBlank ·) = t.filter (!isBlank ·) := by
  obtain ⟨a, b, ha, hb, ht⟩ := exists_eq_append_trim t
  have hnil : ∀ u, isBlankText u = true → u.filter (!isBlank ·) = [] := by
    intro u hu
    simpa [List.filter_eq_nil_iff] using isBlankText_iff.1 hu
  conv => rhs; rw [ht]
  rw [List.filter_append, List.filter_append, hnil a ha, hnil b hb, List.nil_append,
    List.append_nil]

/-! ## Quotes -/

/-- A text stands between marks when it is made that way. -/
theorem between?_eq_some_iff {quote : Char} {t u : Text} :
    between? quote t = some u ↔ t = quote :: (u ++ [quote]) := by
  cases t with
  | nil => simp [between?]
  | cons c t =>
    rw [between?]
    split
    · next h =>
      rw [Bool.and_eq_true, beq_iff_eq, beq_iff_eq] at h
      obtain ⟨rfl, hlast⟩ := h
      -- the closing quote is the last character of what follows the opening one
      obtain ⟨inner, rfl⟩ := List.getLast?_eq_some_iff.1 hlast
      simp
    · next h =>
      simp only [reduceCtorEq, false_iff]
      intro ht
      rw [List.cons.injEq] at ht
      simp [ht.1, ht.2] at h

/-- What stands between quotes is a piece of the text. -/
theorem infix_of_between? {quote : Char} {t u : Text} (h : between? quote t = some u) :
    u <:+: t :=
  ⟨[quote], [quote], (between?_eq_some_iff.1 h).symm⟩

/-- Taking off white space and quotes leaves a piece of the text. -/
theorem infix_unquote (t : Text) : unquote t <:+: t := by
  have hinner :
      ((between? '"' (trim t)).or (between? '\'' (trim t))).getD (trim t) <:+: trim t := by
    cases hd : between? '"' (trim t) with
    | some u => exact infix_of_between? hd
    | none =>
      cases hs : between? '\'' (trim t) with
      | some u => exact infix_of_between? hs
      | none => exact List.infix_refl _
  exact (infix_trim _).trans (hinner.trans (infix_trim t))

/-- A value as it is read from a text: a piece of it without white space at its ends. -/
structure IsValueOf (value t : Text) : Prop where
  piece : value <:+: t
  trimmed : trim value = value

/-- A value of a piece is a value of the whole text. -/
theorem IsValueOf.mono {value s t : Text} (h : IsValueOf value s) (hst : s <:+: t) :
    IsValueOf value t :=
  ⟨h.piece.trans hst, h.trimmed⟩

/-- What is left without quotes is a value of the text. -/
theorem isValueOf_unquote (t : Text) : IsValueOf (unquote t) t := ⟨infix_unquote t, trim_trim _⟩

/-- White space after a value does not count. -/
theorem unquote_append_blank {b : Text} (hb : isBlankText b = true) (t : Text) :
    unquote (t ++ b) = unquote t := by
  rw [unquote, trim_append_blankEnd hb, unquote]

/-- Marks around a text protect the white space at its ends. -/
theorem trim_between {quote : Char} (hquote : isBlank quote = false) (t : Text) :
    trim (quote :: (t ++ [quote])) = quote :: (t ++ [quote]) := by
  have hlast : (quote :: (t ++ [quote])).getLast? = some quote := by
    rw [← List.cons_append, List.getLast?_concat]
  exact trim_eq_self_of_ends rfl hlast hquote hquote

/-- One pair of double quotes is taken off, and the rest is trimmed. -/
theorem unquote_quoted (t : Text) : unquote ('"' :: (t ++ ['"'])) = trim t := by
  rw [unquote, trim_between (by decide), between?_eq_some_iff.2 rfl, Option.some_or,
    Option.getD_some]

/-- One pair of single quotes is taken off, and the rest is trimmed. -/
theorem unquote_singleQuoted (t : Text) : unquote ('\'' :: (t ++ ['\''])) = trim t := by
  have hdouble : between? '"' ('\'' :: (t ++ ['\''])) = none := rfl
  rw [unquote, trim_between (by decide), hdouble, Option.none_or, between?_eq_some_iff.2 rfl,
    Option.getD_some]

/-- A trimmed text without a pair of quotes around it stands for itself. -/
theorem unquote_eq_self {t : Text} (ht : trim t = t) (hdouble : ∀ u, t ≠ '"' :: (u ++ ['"']))
    (hsingle : ∀ u, t ≠ '\'' :: (u ++ ['\''])) : unquote t = t := by
  have hbetween {quote : Char} (h : ∀ u, t ≠ quote :: (u ++ [quote])) : between? quote t = none :=
    Option.eq_none_iff_forall_ne_some.2 fun u hu => h u (between?_eq_some_iff.1 hu)
  rw [unquote, ht, hbetween hdouble, hbetween hsingle]
  exact ht

end Mailroom.Text
