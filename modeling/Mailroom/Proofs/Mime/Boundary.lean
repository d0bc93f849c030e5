import Mailroom.Mime.Boundary
import Mailroom.Proofs.Text.Lines
import Mailroom.Proofs.Text.Search
import Mailroom.Proofs.Text.Trim

/-!
# Parts between delimiters

The counterpart of `Boundary.parts`: a body that puts parts between its delimiters, with a
preamble before them and an epilogue after them.

The delimiter is looked for as plain text.  It holds no line break, so an occurrence cannot
reach from the line break that ends a part into the delimiter after it; and the two dashes
that close the body start no delimiter, even of a boundary made of dashes, because a line
break or nothing follows them.

## Key results

* `parts_enclose_eq`      the parts of a body are pieces of what was put into it
* `parts_enclose`         what was put in comes back if it does not hold the delimiter
* `isValueOf_of_find?`    a boundary that is found stands in the text
-/

namespace Mailroom.Mime.Boundary

open Text

/-- A boundary that can be declared between double quotes. -/
structure IsQuotable (boundary : Text) : Prop where
  ne_nil : boundary ≠ []
  solid : ∀ c ∈ boundary, isBlank c = false
  no_semicolon : ';' ∉ boundary
  no_quote : '"' ∉ boundary

instance (boundary : Text) : Decidable (IsQuotable boundary) :=
  decidable_of_iff (boundary ≠ [] ∧ boundary.all (!isBlank ·) = true ∧ ';' ∉ boundary ∧
    '"' ∉ boundary) <| by
    rw [List.all_eq_true]
    simp only [Bool.not_eq_true']
    constructor
    · rintro ⟨hne, hsolid, hsemicolon, hquote⟩
      exact ⟨hne, hsolid, hsemicolon, hquote⟩
    · intro h
      exact ⟨h.ne_nil, h.solid, h.no_semicolon, h.no_quote⟩

/-- The characters of which boundaries are made, but for the space. -/
def tokenCharacters : Text :=
  "ABCDEFGHIJKLMNOPQRSTUVWXYZabcdefghijklmnopqrstuvwxyz0123456789'()+_,-./:=?".toList

/-- A boundary that is made of these characters can be declared between double quotes. -/
theorem isQuotable_of_subset {boundary : Text} (hne : boundary ≠ [])
    (h : boundary ⊆ tokenCharacters) : IsQuotable boundary where
  ne_nil := hne
  solid c hc := by
    have hall : tokenCharacters.all (!isBlank ·) = true := by decide +kernel
    simpa using List.all_eq_true.1 hall c (h hc)
  no_semicolon hc := absurd (h hc) (by decide +kernel)
  no_quote hc := absurd (h hc) (by decide +kernel)

/-- A part as it stands between two delimiters: it starts with the line break after the one
and ends with the line break before the other. -/
structure IsPart (boundary part : Text) : Prop where
  starts : part.head? = some '\n'
  ends : part.getLast? = some '\n'
  free : ¬ delimiter boundary <:+: part

instance (boundary part : Text) : Decidable (IsPart boundary part) :=
  decidable_of_iff (part.head? = some '\n' ∧ part.getLast? = some '\n' ∧
    ¬ contains (delimiter boundary) part = true) <| by
    rw [contains_iff]
    exact ⟨fun h => ⟨h.1, h.2.1, h.2.2⟩, fun h => ⟨h.starts, h.ends, h.free⟩⟩

/-- What stands before the first delimiter of a body and after the closing one. -/
structure Surroundings (boundary : Text) where
  preamble : Text
  epilogue : Text
  preamble_ends : preamble = [] ∨ preamble.getLast? = some '\n'
  preamble_free : ¬ delimiter boundary <:+: preamble
  epilogue_starts : epilogue = [] ∨ epilogue.head? = some '\n'

/-- Nothing stands around the delimiters. -/
def Surroundings.nothing (boundary : Text) : Surroundings boundary :=
  ⟨[], [], .inl rfl, by simp [delimiter], .inl rfl⟩

/-- The body with the given parts. -/
def enclose {boundary : Text} (around : Surroundings boundary) (parts : List Text) : Text :=
  around.preamble ++ parts.flatMap (delimiter boundary ++ ·) ++ delimiter boundary
    ++ ('-' :: '-' :: around.epilogue)

/-! ## Parts -/

/-- A delimiter has two dashes at least. -/
theorem delimiter_ne_nil (boundary : Text) : delimiter boundary ≠ [] := by simp [delimiter]

/-- A boundary that can be quoted is within one line. -/
theorem IsQuotable.newline_not_mem {boundary : Text} (hb : IsQuotable boundary) :
    '\n' ∉ boundary := fun h => absurd (hb.solid '\n' h) (by decide)

/-- Its delimiter is within one line, too. -/
theorem newline_not_mem_delimiter {boundary : Text} (h : '\n' ∉ boundary) :
    '\n' ∉ delimiter boundary := by
  intro hmem
  simp only [delimiter, List.mem_cons, Char.reduceEq, false_or] at hmem
  exact h hmem

/-- A text that ends with a line break is clear of a delimiter it does not hold. -/
theorem clear_delimiter {boundary t : Text} (h : '\n' ∉ boundary)
    (ht : t = [] ∨ t.getLast? = some '\n') (hfree : ¬ delimiter boundary <:+: t) :
    Clear (delimiter boundary) t := by
  rcases ht with rfl | ht
  · exact clear_nil _
  · -- no occurrence reaches over the line break at the end
    exact clear_of_getLast? hfree ht (newline_not_mem_delimiter h)

/-- A text between line breaks is a part when it does not hold the delimiter. -/
theorem isPart_cons_append {boundary t : Text} (h : '\n' ∉ boundary)
    (hfree : ¬ delimiter boundary <:+: t) : IsPart boundary ('\n' :: (t ++ ['\n'])) where
  starts := rfl
  ends := by rw [← List.cons_append, List.getLast?_concat]
  free := by
    rwa [infix_cons_append_iff (delimiter_ne_nil boundary) (newline_not_mem_delimiter h)]

/-- Two dashes before a line break or the end are the start of the first piece. -/
theorem exists_splitOn_dashes {boundary t : Text} (hne : boundary ≠ []) (hline : '\n' ∉ boundary)
    (ht : t = [] ∨ t.head? = some '\n') :
    ∃ piece pieces,
      splitOn (delimiter boundary) ('-' :: '-' :: t) = ('-' :: '-' :: piece) :: pieces := by
  cases hc : cut? (delimiter boundary) ('-' :: '-' :: t) with
  | none => exact ⟨t, [], splitOn_eq_of_cut?_eq_none hc⟩
  | some sides =>
    obtain ⟨left, right⟩ := sides
    have hsplit := splitOn_eq_of_cut?_eq_some (delimiter_ne_nil boundary) hc
    have heq := cut?_eq_some hc
    obtain ⟨c, boundary', rfl⟩ := List.exists_cons_of_ne_nil hne
    have hhead : ∀ d u, t = d :: u → d = '\n' := by
      rintro d u rfl
      rcases ht with ht | ht <;> simp_all
    -- an occurrence could start at the first dash, at the second one or after both
    cases left with
    | nil =>
      -- the boundary would start with what follows the dashes
      simp only [delimiter, List.nil_append, List.cons_append, List.cons.injEq, true_and] at heq
      rw [hhead c _ heq] at hline
      exact absurd List.mem_cons_self hline
    | cons l left =>
      cases left with
      | nil =>
        -- what follows the dashes would be the second dash of the delimiter
        simp only [delimiter, List.cons_append, List.nil_append, List.cons.injEq, true_and] at heq
        exact absurd (hhead '-' _ heq.2) (by decide)
      | cons l' left =>
        simp only [List.cons_append, List.cons.injEq] at heq
        obtain ⟨rfl, rfl, -⟩ := heq
        exact ⟨left, _, hsplit⟩

/-- The parts of a body are the pieces between the delimiters that stand in the texts put into it,
up to the first piece that starts with dashes and without the blank ones. -/
theorem parts_enclose_eq {boundary : Text} (hne : boundary ≠ []) (hline : '\n' ∉ boundary)
    (around : Surroundings boundary) {ps : List Text} (hps : ∀ p ∈ ps, p.getLast? = some '\n') :
    parts boundary (enclose around ps) =
      ((ps.flatMap (splitOn (delimiter boundary))).takeWhile (!startsWith ['-', '-'] ·)).filter
        (!isBlankText ·) := by
  have hpre := clear_delimiter hline around.preamble_ends around.preamble_free
  have hends : ∀ p ∈ ps, ∃ c, p.getLast? = some c ∧ c ∉ delimiter boundary :=
    fun p hp => ⟨'\n', hps p hp, newline_not_mem_delimiter hline⟩
  obtain ⟨piece, pieces, hclose⟩ := exists_splitOn_dashes hne hline around.epilogue_starts
  have hstop : startsWith ['-', '-'] ('-' :: '-' :: piece) = true :=
    startsWith_iff.2 ⟨piece, rfl⟩
  have hbound : boundary.isEmpty = false := by simpa using hne
  rw [parts, hbound, if_neg (by simp), enclose,
    splitOn_flatMap hpre hends (delimiter_ne_nil boundary), hclose]
  -- the preamble goes, and the closing delimiter ends the parts
  rw [List.cons_append, List.drop_one, List.tail_cons, List.takeWhile_append,
    List.takeWhile_cons_of_neg (by simp [hstop]), List.append_nil, ite_eq_right_iff.2]
  intro hall
  exact ((List.takeWhile_prefix _).eq_of_length hall).symm

/-- Texts without the delimiter that start with a line break are pieces that go in. -/
theorem takeWhile_flatMap_splitOn {boundary : Text} {ps : List Text}
    (hps : ∀ p ∈ ps, p.head? = some '\n' ∧ ¬ delimiter boundary <:+: p) :
    (ps.flatMap (splitOn (delimiter boundary))).takeWhile (!startsWith ['-', '-'] ·) = ps := by
  have hwhole : ps.flatMap (splitOn (delimiter boundary)) = ps := by
    have hsingle : ps.map (splitOn (delimiter boundary)) = ps.map fun p => [p] :=
      List.map_congr_left fun p hp => splitOn_eq_singleton (hps p hp).2
    rw [List.flatMap_def, hsingle, ← List.flatMap_def, List.flatMap_singleton']
  -- what starts with a line break does not start with dashes
  have hopen : ∀ p ∈ ps, (!startsWith ['-', '-'] p) = true := by
    intro p hp
    rw [Bool.not_eq_true', ← Bool.not_eq_true, startsWith_iff]
    rintro ⟨rest, rfl⟩
    exact absurd (hps _ hp).1 (by simp)
  have htake : (ps ++ []).takeWhile (!startsWith ['-', '-'] ·) = ps ++ [] :=
    List.takeWhile_append_of_pos hopen
  rwa [hwhole, ← List.append_nil ps]

/-- The parts of a body are those that were put into it, without the blank ones. -/
theorem parts_enclose {boundary : Text} (hb : IsQuotable boundary)
    (around : Surroundings boundary) {ps : List Text} (hps : ∀ p ∈ ps, IsPart boundary p) :
    parts boundary (enclose around ps) = ps.filter (!isBlankText ·) := by
  rw [parts_enclose_eq hb.ne_nil hb.newline_not_mem around fun p hp => (hps p hp).ends,
    takeWhile_flatMap_splitOn fun p hp => ⟨(hps p hp).starts, (hps p hp).free⟩]

/-- Every part is a piece of the body between its delimiters. -/
theorem mem_splitOn_of_mem_parts {boundary body p : Text} (h : p ∈ parts boundary body) :
    p ∈ splitOn (delimiter boundary) body := by
  rw [parts] at h
  split at h
  · simp at h
  · exact List.mem_of_mem_drop ((List.takeWhile_sublist _).mem (List.mem_filter.1 h).1)

/-- A part is a piece of the body. -/
theorem infix_of_mem_parts {boundary body p : Text} (h : p ∈ parts boundary body) :
    p <:+: body :=
  infix_of_mem_splitOn (mem_splitOn_of_mem_parts h)

/-- No part holds the delimiter. -/
theorem not_infix_of_mem_parts {boundary body p : Text} (h : p ∈ parts boundary body) :
    ¬ delimiter boundary <:+: p :=
  not_infix_of_mem_splitOn (delimiter_ne_nil boundary) (mem_splitOn_of_mem_parts h)

/-! ## Declared boundaries -/

/-- Trimming leaves such a boundary as it is. -/
theorem trim_eq_self_of_isQuotable {boundary : Text} (hb : IsQuotable boundary) :
    trim boundary = boundary :=
  trim_eq_self (fun c hc => hb.solid c (List.mem_of_head? hc))
    (fun c hc => hb.solid c (List.mem_of_getLast? hc))

/-- A token is a piece of the text. -/
theorem infix_token (t : Text) : token t <:+: t := by
  cases t with
  | nil => exact List.infix_refl _
  | cons quote inner =>
    have hinner : inner <:+: quote :: inner := (List.suffix_cons quote inner).isInfix
    rw [token]
    -- the token is what stands between quotes, or a start of the text
    split
    · cases hc : cut? [quote] inner with
      | some sides =>
        obtain ⟨quoted, rest⟩ := sides
        have hquoted : quoted <:+: inner := by
          rw [cut?_eq_some hc, List.append_assoc]
          exact (List.prefix_append quoted _).isInfix
        exact hquoted.trans hinner
      | none => exact (List.takeWhile_prefix _).isInfix.trans hinner
    · exact (List.takeWhile_prefix _).isInfix

/-- A boundary that is declared at the start of a text stands in it. -/
theorem isValueOf_of_declared? {t boundary : Text} (h : declared? t = some boundary) :
    IsValueOf boundary t := by
  rw [declared?] at h
  obtain ⟨value, hvalue, hread⟩ := Option.bind_eq_some_iff.1 h
  have hstart (u : Text) : trimStart u <:+: u := (List.dropWhile_suffix _).isInfix
  have hafter : value <:+: trimStart t := by
    rw [after?_eq_some_iff.1 hvalue]
    exact (List.suffix_append ['='] value).isInfix
  -- each step of the reading keeps a piece of what it is given
  have htoken : token (trimStart value) <:+: t :=
    (infix_token _).trans ((hstart value).trans (hafter.trans (hstart t)))
  simp only at hread
  split at hread
  · simp at hread
  · rw [Option.some.injEq] at hread
    rw [← hread]
    exact (isValueOf_unquote _).mono htoken

/-- Nothing is found in a text without the word. -/
theorem find?_eq_none {t : Text} (h : cutAnyCase? "boundary".toList t = none) :
    find? t = none := by
  rw [find?]
  split
  · rfl
  · next hs => exact absurd (h.symm.trans hs) (by simp)

/-- A boundary is declared after the first occurrence of the word or after a later one. -/
theorem find?_eq_or {t left rest : Text}
    (h : cutAnyCase? "boundary".toList t = some (left, rest)) :
    find? t = (declared? rest).or (find? rest) := by
  rw [find?]
  split
  · next hn => exact absurd (h.symm.trans hn) (by simp)
  · next left' rest' hs =>
    rw [h, Option.some.injEq, Prod.mk.injEq] at hs
    rw [hs.2]

/-- The search goes on behind a character that is foreign to the word, if the word does not stand
before it. -/
theorem find?_append_cons {l r : Text} {c : Char}
    (hfree : cutAnyCase? "boundary".toList l = none)
    (hc : c.toLower ∉ "boundary".toList.map Char.toLower) : find? (l ++ c :: r) = find? r := by
  rw [cutAnyCase?_eq_cutBy?] at hfree
  -- the first occurrence is the first one behind the character
  have hcut : cutAnyCase? "boundary".toList (l ++ c :: r) =
      (cutAnyCase? "boundary".toList r).map fun sides => (l ++ c :: sides.1, sides.2) := by
    rw [cutAnyCase?_eq_cutBy?, cutBy?_append_cons (by decide) hc, hfree, Option.map_none,
      Option.none_or]
  cases h : cutAnyCase? "boundary".toList r with
  | none =>
    rw [h, Option.map_none] at hcut
    rw [find?_eq_none hcut, find?_eq_none h]
  | some sides =>
    rw [h, Option.map_some] at hcut
    rw [find?_eq_or hcut, find?_eq_or h]

/-- A boundary that is found stands in the text. -/
theorem isValueOf_of_find? {t boundary : Text} (h : find? t = some boundary) :
    IsValueOf boundary t := by
  fun_induction find? t with
  | case1 => simp at h
  | case2 t left rest hcut ih =>
    have hrest : rest <:+: t := by
      rw [cutAnyCase?_eq_cutBy?] at hcut
      obtain ⟨found, ht, -⟩ := cutBy?_eq_some hcut
      rw [ht]
      exact (List.suffix_append (left ++ found) rest).isInfix
    -- it is declared after this occurrence of the word or after a later one
    rcases Option.or_eq_some_iff.1 h with hd | ⟨-, hf⟩
    · exact (isValueOf_of_declared? hd).mono hrest
    · exact (ih hf).mono hrest

/-- The boundary that is found in a text is not empty. -/
theorem ne_nil_of_find? {t boundary : Text} (h : find? t = some boundary) :
    boundary ≠ [] := by
  fun_induction find? t with
  | case1 => simp at h
  | case2 t left rest hcut ih =>
    obtain hdeclared | ⟨-, hfound⟩ := Option.or_eq_some_iff.1 h
    · rw [declared?] at hdeclared
      obtain ⟨value, -, hread⟩ := Option.bind_eq_some_iff.1 hdeclared
      simp only at hread
      split at hread
      · simp at hread
      · next hne =>
        -- an empty value counts as none
        rw [Option.some.injEq] at hread
        rw [← hread]
        simpa using hne
    · exact ih hfound

/-- A quoted token ends at the next double quote. -/
theorem token_quoted {t : Text} (ht : '"' ∉ t) (rest : Text) :
    token ('"' :: (t ++ '"' :: rest)) = t := by
  have hcut := cut?_append_cons ht rest
  simp [token, hcut]

end Mailroom.Mime.Boundary
