import Mailroom.Proofs.Address.Name

/-!
# The pattern of a named address

A named address is white space, a quote that may be missing, a name on one line, a quote and
white space that may be missing, and an email in angle brackets that ends the text.  A text may be
of this form in several ways, which differ in what the name takes in.  White space at the start
comes first, then the opening quote, and the name takes in what is left over; of several names
the shortest counts.

The reader tries three starts of a name only.  A name that starts further to the left takes in
white space.  If it goes beyond that white space, it could start behind it; if not, one
character of the white space is name enough.

## Key results

* `Spelling.eq_of_isFirst`        the way that is tried first has one name and one email
* `exists_isFirst_of_findSome?`   the reader takes it
* `text_ne_of_findSome?`          where the reader finds nothing there is no way
* `parse_cases`                   so a text is read in that way, or as an email
* `parse_eq_iff`                  what an address is read as
-/

namespace Mailroom.Address

open Text

/-- A way to read a text as a named address: white space, an opening quote or none, a name, a
closing quote or none, white space, and the email in angle brackets. -/
structure Spelling where
  lead : Text
  opened : Bool
  name : Text
  closed : Bool
  gap : Text
  email : Text
  blank_lead : isBlankText lead = true
  name_ne_nil : name ≠ []
  one_line : '\n' ∉ name
  blank_gap : isBlankText gap = true
  email_ne_nil : email ≠ []
  unclosed : '>' ∉ email

namespace Spelling

/-- What stands behind the start of the name. -/
def rest (a : Spelling) : Text :=
  a.name ++ quoteMark a.closed ++ a.gap ++ '<' :: (a.email ++ ['>'])

/-- The text that is read in this way. -/
def text (a : Spelling) : Text := a.lead ++ quoteMark a.opened ++ a.rest

/-- The way `a` is tried before the way `b`: it skips more white space, or as much and the opening
quote that `b` leaves to the name, or both as `b` does and has the shorter name. -/
def Precedes (a b : Spelling) : Prop :=
  b.lead.length < a.lead.length ∨
    b.lead.length = a.lead.length ∧
      (b.opened = false ∧ a.opened = true ∨
        b.opened = a.opened ∧ a.name.length < b.name.length)

/-- Of the ways to read the text, this one is tried first. -/
structure IsFirst (a : Spelling) (s : Text) : Prop where
  text_eq : a.text = s
  not_precedes : ∀ b : Spelling, b.text = s → ¬ b.Precedes a

/-- The bracket that closes the email ends the text. -/
theorem getLast?_text (a : Spelling) : a.text.getLast? = some '>' := by
  have hlast : a.text = a.lead ++ quoteMark a.opened ++
      (a.name ++ quoteMark a.closed ++ a.gap ++ '<' :: a.email) ++ ['>'] := by
    simp [text, rest]
  rw [hlast, List.getLast?_concat]

/-- Behind its lead a spelling is a name and an email. -/
theorem isNamed_rest (a : Spelling) : IsNamed a.rest a.name a.email where
  ne_nil := a.name_ne_nil
  one_line := a.one_line
  cut := ⟨a.name ++ quoteMark a.closed ++ a.gap, ⟨rfl, a.email_ne_nil, a.unclosed⟩,
    a.closed, a.gap, a.blank_gap, rfl⟩

/-- A name that is found behind white space and a quote makes a way to read the text. -/
theorem exists_of_isNamed {lead t name email : Text} (hlead : isBlankText lead = true)
    (opened : Bool) (h : IsNamed t name email) :
    ∃ a : Spelling, a.text = lead ++ quoteMark opened ++ t ∧ a.lead = lead ∧
      a.opened = opened ∧ a.name = name ∧ a.email = email := by
  obtain ⟨hname, hline, left, ⟨rfl, hne, hclose⟩, closed, gap, hgap, rfl⟩ := h
  exact ⟨⟨lead, opened, name, closed, gap, email, hlead, hname, hline, hgap, hne, hclose⟩, rfl, rfl,
    rfl, rfl, rfl⟩

/-- There is only one way to read a text that is tried first. -/
theorem eq_of_isFirst {a b : Spelling} {s : Text} (ha : a.IsFirst s) (hb : b.IsFirst s) :
    a.name = b.name ∧ a.email = b.email := by
  have hba := ha.not_precedes b hb.text_eq
  have hab := hb.not_precedes a ha.text_eq
  simp only [Precedes, not_or, not_and, Nat.not_lt] at hab hba
  have htext : a.text = b.text := ha.text_eq.trans hb.text_eq.symm
  have hlength : a.lead.length = b.lead.length := Nat.le_antisymm hab.1 hba.1
  obtain ⟨hfalse, hshort⟩ := hab.2 hlength.symm
  obtain ⟨hfalse', hshort'⟩ := hba.2 hlength
  -- both take the quote, or neither can
  have hopened : a.opened = b.opened := by
    cases hao : a.opened <;> cases hbo : b.opened <;> simp_all
  rw [text, text, hopened] at htext
  -- what stands before the names is of one length, so it is the same
  have hrest : a.rest = b.rest :=
    (List.append_inj htext (by rw [List.length_append, List.length_append, hlength])).2
  have hname : a.name = b.name := by
    have hlen : a.name.length = b.name.length :=
      Nat.le_antisymm (hshort' hopened) (hshort hopened.symm)
    simp only [rest, List.append_assoc] at hrest
    exact (List.append_inj hrest hlen).1
  have hnamed := a.isNamed_rest
  rw [hrest, hname] at hnamed
  exact ⟨hname, hnamed.email_unique b.isNamed_rest⟩

end Spelling

/-! ## Where a name can start -/

variable {s : Text}

/-- The name starts behind all white space and an opening quote, or with white space. -/
theorem rest_cases {a : Spelling} (h : a.text = s) :
    (a.lead = s.takeWhile isBlank ∧ s.dropWhile isBlank = quoteMark a.opened ++ a.rest) ∨
      ∃ c m, s.takeWhile isBlank = a.lead ++ c :: m ∧ a.opened = false ∧
        a.rest = c :: (m ++ s.dropWhile isBlank) := by
  have hlead : ∀ c ∈ a.lead, isBlank c = true := isBlankText_iff.1 a.blank_lead
  rw [← h, Spelling.text, List.append_assoc, List.takeWhile_append_of_pos hlead,
    List.dropWhile_append_of_pos hlead]
  have hsides := List.takeWhile_append_dropWhile (p := isBlank) (l := quoteMark a.opened ++ a.rest)
  cases htake : (quoteMark a.opened ++ a.rest).takeWhile isBlank with
  | nil =>
    rw [htake, List.nil_append] at hsides
    exact .inl ⟨by rw [List.append_nil], hsides⟩
  | cons c m =>
    rw [htake] at hsides
    have hc : isBlank c = true :=
      List.all_eq_true.1 List.all_takeWhile c (htake ▸ List.mem_cons_self)
    cases hopened : a.opened with
    | false =>
      rw [hopened, quoteMark_false, List.nil_append] at hsides
      exact .inr ⟨c, m, rfl, rfl, hsides.symm⟩
    | true =>
      -- the quote is no white space
      rw [hopened, quoteMark_true] at hsides
      rw [(List.cons.inj hsides).1] at hc
      exact absurd hc (by decide)

/-- Behind white space there is a name, or an email without one. -/
theorem isNamed_or_eq {closed : Bool} {gap w r email : Text} (hgap : isBlankText gap = true)
    (hw : isBlankText w = true) (hr : ∀ c, r.head? = some c → isBlank c = false)
    (hemail : email ≠ []) (hclose : '>' ∉ email)
    (heq : quoteMark closed ++ (gap ++ '<' :: (email ++ ['>'])) = w ++ r) :
    IsNamed r ['"'] email ∨ r = '<' :: (email ++ ['>']) := by
  have htrim : r = trimStart (quoteMark closed ++ (gap ++ '<' :: (email ++ ['>']))) := by
    rw [heq, trimStart_append_blank hw, trimStart_eq_self hr]
  -- the quote that closes no name is a name itself
  cases closed with
  | true =>
    rw [trimStart_eq_self (fun c hc => by rw [← Option.some.inj hc]; decide)] at htrim
    refine .inl ⟨by decide, by decide, '"' :: gap, ⟨htrim, hemail, hclose⟩, ?_⟩
    exact ⟨false, gap, hgap, rfl⟩
  | false =>
    rw [quoteMark_false, List.nil_append, trimStart_append_blank hgap,
      trimStart_eq_self (fun c hc => by rw [← Option.some.inj hc]; decide)] at htrim
    exact .inr htrim

/-- A name that starts with white space goes beyond it, or the email follows the white space. -/
theorem isNamed_or_eq_of_isNamed {c : Char} {m r name email : Text} (hm : isBlankText m = true)
    (hr : ∀ d, r.head? = some d → isBlank d = false) (h : IsNamed (c :: (m ++ r)) name email) :
    (∃ name', IsNamed r name' email) ∨ c ≠ '\n' ∧ r = '<' :: (email ++ ['>']) := by
  obtain ⟨hne, hline, left, ⟨heq, hemail, hclose⟩, closed, gap, hgap, rfl⟩ := h
  obtain ⟨d, n, rfl⟩ := List.exists_cons_of_ne_nil hne
  simp only [List.cons_append, List.cons.injEq, List.append_assoc] at heq
  obtain ⟨rfl, heq⟩ := heq
  have hc : c ≠ '\n' := fun hc => hline (hc ▸ List.mem_cons_self)
  have hshort {w : Text} (hw : isBlankText w = true)
      (heq : quoteMark closed ++ (gap ++ '<' :: (email ++ ['>'])) = w ++ r) :
      (∃ name', IsNamed r name' email) ∨ c ≠ '\n' ∧ r = '<' :: (email ++ ['>']) :=
    (isNamed_or_eq hgap hw hr hemail hclose heq).imp (fun hnamed => ⟨_, hnamed⟩) (⟨hc, ·⟩)
  rcases List.append_eq_append_iff.1 heq with ⟨w, rfl, hw⟩ | ⟨w, rfl, hw⟩
  · cases w with
    | nil => exact hshort (w := []) rfl hw.symm
    | cons d w =>
      -- what stands beyond the white space is a name
      have hw' : '\n' ∉ d :: w := fun hmem =>
        hline (List.mem_cons_of_mem c (List.mem_append_right m hmem))
      refine .inl ⟨d :: w, by simp, hw', d :: w ++ quoteMark closed ++ gap, ?_, ?_⟩
      · exact ⟨by simpa using hw, hemail, hclose⟩
      · exact ⟨closed, gap, hgap, rfl⟩
  · exact hshort (isBlankText_append.1 hm).2 hw

/-! ## The order of the starts -/

/-- A name is looked for behind white space and a quote, then behind white space alone, and last
from the last character of that which is no line break. -/
theorem nameStarts_eq (s : Text) :
    nameStarts s = (after? ['"'] (s.dropWhile isBlank)).toList ++ s.dropWhile isBlank ::
      ((s.takeWhile isBlank).reverse.find? (· != '\n')).toList.map (· :: s.dropWhile isBlank) := by
  rw [nameStarts]
  cases s.dropWhile isBlank with
  | nil => rfl
  | cons c r =>
    by_cases hc : c = '"'
    · rw [hc]
      rfl
    · rw [after?_singleton_cons, if_neg (by simpa using Ne.symm hc)]
      split
      · next heq => exact absurd (List.cons.inj heq).1 hc
      · rfl

/-- The starts are tried one after the other. -/
theorem findSome?_nameStarts (s : Text) :
    (nameStarts s).findSome? splitName? =
      ((after? ['"'] (s.dropWhile isBlank)).bind splitName?).or
        ((splitName? (s.dropWhile isBlank)).or
          (((s.takeWhile isBlank).reverse.find? (· != '\n')).bind
            fun c => splitName? (c :: s.dropWhile isBlank))) := by
  have hheld (held : Option Char) (r : Text) :
      (held.toList.map (· :: r)).findSome? splitName? =
        held.bind fun c => splitName? (c :: r) := by
    cases held <;> simp
  have hquoted (quoted : Option Text) :
      quoted.toList.findSome? splitName? = quoted.bind splitName? := by
    cases quoted <;> simp
  rw [nameStarts_eq, List.findSome?_append, List.findSome?_cons, hquoted, hheld]
  cases splitName? (s.dropWhile isBlank) <;> rfl

/-- A name that is found behind all white space counts; one that takes in the opening quote does
so only where none is found behind the quote. -/
theorem exists_isFirst_of_skipped (opened : Bool) {t name email : Text}
    (hs : s.dropWhile isBlank = quoteMark opened ++ t) (hfound : splitName? t = some (name, email))
    (hquote : opened = false → (after? ['"'] (s.dropWhile isBlank)).bind splitName? = none) :
    ∃ a : Spelling, a.IsFirst s ∧ a.name = name ∧ a.email = email := by
  obtain ⟨a, htext, hlead, hopened, hname, hemail⟩ :=
    Spelling.exists_of_isNamed List.all_takeWhile opened (isNamed_of_splitName? hfound)
  refine ⟨a, ⟨?_, fun b hb => ?_⟩, hname, hemail⟩
  · rw [htext, List.append_assoc, ← hs, List.takeWhile_append_dropWhile]
  · rcases rest_cases hb with ⟨hblead, hbrest⟩ | ⟨c, m, htake, -, -⟩
    · rintro (hlt | ⟨-, ⟨hao, hbo⟩ | ⟨hao, hlt⟩⟩)
      · rw [hlead, hblead] at hlt
        exact Nat.lt_irrefl _ hlt
      · -- no name starts behind the quote
        have hnone := hquote (hopened.symm.trans hao)
        rw [hbrest, hbo, quoteMark_true, after?_append, Option.bind_some] at hnone
        exact splitName?_eq_none_iff.1 hnone _ _ b.isNamed_rest
      · -- a name that starts in the same place is no shorter
        rw [hs, ← hopened, hao, List.append_cancel_left_eq] at hbrest
        obtain ⟨name', email', hfound', hprefix⟩ := exists_splitName?_of_isNamed b.isNamed_rest
        rw [← hbrest, hfound] at hfound'
        obtain ⟨rfl, -⟩ := Prod.mk.inj (Option.some.inj hfound')
        rw [hname] at hlt
        exact Nat.not_lt.2 hprefix.length_le hlt
    · -- less white space is skipped
      have hlt : b.lead.length < a.lead.length := by simp [hlead, htake]
      simp only [Spelling.Precedes]
      omega

/-- A name has to start with white space: none starts behind it, with or without an opening
quote. -/
structure IsHeld (s : Text) : Prop where
  quoted : (after? ['"'] (s.dropWhile isBlank)).bind splitName? = none
  bare : splitName? (s.dropWhile isBlank) = none

/-- The name then starts with a character of the white space that is no line break, and the email
follows the white space. -/
theorem IsHeld.rest_eq (h : IsHeld s) {a : Spelling} (ha : a.text = s) :
    ∃ c m, s.takeWhile isBlank = a.lead ++ c :: m ∧ c ≠ '\n' ∧ a.opened = false ∧
      s.dropWhile isBlank = '<' :: (a.email ++ ['>']) := by
  have hnamed := a.isNamed_rest
  rcases rest_cases ha with ⟨-, hrest⟩ | ⟨c, m, htake, hopened, hrest⟩
  · -- the name would start behind the white space
    cases hopened : a.opened with
    | true =>
      have hnone := h.quoted
      rw [hrest, hopened, quoteMark_true, after?_append, Option.bind_some] at hnone
      exact absurd hnamed (splitName?_eq_none_iff.1 hnone _ _)
    | false =>
      rw [hopened, quoteMark_false, List.nil_append] at hrest
      exact absurd (hrest ▸ hnamed) (splitName?_eq_none_iff.1 h.bare _ _)
  · have hm : isBlankText m = true := isBlankText_iff.2 fun d hd =>
      List.all_eq_true.1 List.all_takeWhile d
        (htake ▸ List.mem_append_right _ (List.mem_cons_of_mem c hd))
    rw [hrest] at hnamed
    rcases isNamed_or_eq_of_isNamed hm (fun _ => not_isBlank_of_head?_trimStart) hnamed with
      ⟨name, hname⟩ | ⟨hc, heq⟩
    · exact absurd hname (splitName?_eq_none_iff.1 h.bare _ _)
    · exact ⟨c, m, htake, hc, hopened, heq⟩

/-- A character that only line breaks follow is the last that is no line break. -/
theorem length_le_of_append_breaks {l l' breaks m : Text} {c c' : Char}
    (hbreaks : ∀ d ∈ breaks, d = '\n') (hc' : c' ≠ '\n')
    (h : l ++ c :: breaks = l' ++ c' :: m) : l'.length ≤ l.length := by
  rcases List.append_eq_append_iff.1 h with ⟨w, rfl, hw⟩ | ⟨w, rfl, -⟩
  · cases w with
    | nil => simp
    | cons d w =>
      have hmem : c' ∈ breaks := (List.cons.inj hw).2 ▸ List.mem_append_right w List.mem_cons_self
      exact absurd (hbreaks c' hmem) hc'
  · simp

/-- What is found behind one character of the white space has that character as its name. -/
theorem IsHeld.eq_of_splitName? (h : IsHeld s) {c : Char} {name email : Text} (hc : c ≠ '\n')
    (hfound : splitName? (c :: s.dropWhile isBlank) = some (name, email)) :
    name = [c] ∧ s.dropWhile isBlank = '<' :: (email ++ ['>']) := by
  have hnamed := isNamed_of_splitName? hfound
  have hrest : s.dropWhile isBlank = '<' :: (email ++ ['>']) := by
    rcases isNamed_or_eq_of_isNamed isBlankText_nil (fun _ => not_isBlank_of_head?_trimStart)
      hnamed with ⟨name', hname'⟩ | ⟨-, heq⟩
    · exact absurd hname' (splitName?_eq_none_iff.1 h.bare _ _)
    · exact heq
  obtain ⟨left, hcut, -⟩ := hnamed.cut
  -- the character alone is a name, and the shortest name counts
  obtain ⟨name', email', hfound', hshort⟩ :=
    exists_splitName?_of_isNamed (isNamed_singleton hc hcut.ne_nil hcut.unclosed)
  rw [← hrest, hfound] at hfound'
  obtain ⟨rfl, rfl⟩ := Prod.mk.inj (Option.some.inj hfound')
  exact ⟨hshort.eq_of_length_le (List.length_pos_iff.2 hnamed.ne_nil), hrest⟩

/-- The last character of the white space that is no line break is then the name. -/
theorem IsHeld.exists_isFirst (h : IsHeld s) {c : Char} {name email : Text}
    (hheld : (s.takeWhile isBlank).reverse.find? (· != '\n') = some c)
    (hfound : splitName? (c :: s.dropWhile isBlank) = some (name, email)) :
    ∃ a : Spelling, a.IsFirst s ∧ a.name = name ∧ a.email = email := by
  obtain ⟨hc, breaks, lead, hrev, hbreaks⟩ := List.find?_eq_some_iff_append.1 hheld
  have htake : s.takeWhile isBlank = lead.reverse ++ c :: breaks.reverse := by
    rw [← List.reverse_reverse (s.takeWhile isBlank), hrev]
    simp
  have hblank : isBlankText (lead.reverse ++ c :: breaks.reverse) = true :=
    htake ▸ List.all_takeWhile
  obtain ⟨hlead, hgap⟩ := isBlankText_append.1 hblank
  have hnamed := isNamed_of_splitName? hfound
  obtain ⟨left, hcut, -⟩ := hnamed.cut
  obtain ⟨rfl, hrest⟩ := h.eq_of_splitName? (by simpa using hc) hfound
  -- the line breaks stand between the name and the email
  let a : Spelling :=
    { lead := lead.reverse, opened := false, name := [c], closed := false, gap := breaks.reverse
      email := email, blank_lead := hlead, name_ne_nil := hnamed.ne_nil
      one_line := hnamed.one_line
      blank_gap := isBlankText_of_subset hgap (List.subset_cons_self c _)
      email_ne_nil := hcut.ne_nil, unclosed := hcut.unclosed }
  refine ⟨a, ⟨?_, fun b hb => ?_⟩, rfl, rfl⟩
  · rw [← List.takeWhile_append_dropWhile (p := isBlank) (l := s), htake, hrest]
    simp [a, Spelling.text, Spelling.rest]
  · obtain ⟨c', m, htake', hc', hopened, -⟩ := h.rest_eq hb
    have hle : b.lead.length ≤ lead.reverse.length :=
      length_le_of_append_breaks (by simpa using hbreaks) hc' (htake.symm.trans htake')
    have hpos : 0 < b.name.length := List.length_pos_iff.2 b.name_ne_nil
    rintro (hlt | ⟨-, ⟨-, hbo⟩ | ⟨-, hlt⟩⟩)
    · exact Nat.not_lt.2 hle hlt
    · rw [hopened] at hbo
      exact nomatch hbo
    · -- no name is shorter than one character
      have hone : a.name.length = 1 := rfl
      omega

/-- The name and the email of the first way to read a text are found. -/
theorem exists_isFirst_of_findSome? {name email : Text}
    (h : (nameStarts s).findSome? splitName? = some (name, email)) :
    ∃ a : Spelling, a.IsFirst s ∧ a.name = name ∧ a.email = email := by
  rw [findSome?_nameStarts, Option.or_eq_some_iff, Option.or_eq_some_iff] at h
  rcases h with hquoted | ⟨hquoted, hbare | ⟨hbare, hheld⟩⟩
  · obtain ⟨u, hu, hfound⟩ := Option.bind_eq_some_iff.1 hquoted
    exact exists_isFirst_of_skipped true (after?_eq_some_iff.1 hu) hfound nofun
  · exact exists_isFirst_of_skipped false rfl hbare fun _ => hquoted
  · obtain ⟨c, hc, hfound⟩ := Option.bind_eq_some_iff.1 hheld
    exact IsHeld.exists_isFirst ⟨hquoted, hbare⟩ hc hfound

/-- Where nothing is found there is no way to read the text. -/
theorem text_ne_of_findSome? (h : (nameStarts s).findSome? splitName? = none) (a : Spelling) :
    a.text ≠ s := by
  intro ha
  rw [findSome?_nameStarts, Option.or_eq_none_iff, Option.or_eq_none_iff] at h
  obtain ⟨hquoted, hbare, hheld⟩ := h
  -- the name would have to be held by a character of the white space
  obtain ⟨c, m, htake, hc, -, hrest⟩ := IsHeld.rest_eq ⟨hquoted, hbare⟩ ha
  cases hfind : (s.takeWhile isBlank).reverse.find? (· != '\n') with
  | none =>
    have hmem : c ∈ (s.takeWhile isBlank).reverse := by simp [htake]
    exact List.find?_eq_none.1 hfind c hmem (by simpa using hc)
  | some d =>
    have hd : d ≠ '\n' := by simpa using List.find?_some hfind
    rw [hfind, Option.bind_some, hrest] at hheld
    exact splitName?_eq_none_iff.1 hheld _ _ (isNamed_singleton hd a.email_ne_nil a.unclosed)

/-- A text is read in the way that is tried first, or as an email where there is none. -/
theorem parse_cases (s : Text) :
    (∃ a : Spelling, a.IsFirst s ∧ parse s = ⟨trim a.email, some a.name⟩) ∨
      (∀ a : Spelling, a.text ≠ s) ∧ parse s = ⟨trim s, none⟩ := by
  rw [parse]
  cases hfound : (nameStarts s).findSome? splitName? with
  | none => exact .inr ⟨text_ne_of_findSome? hfound, rfl⟩
  | some p =>
    obtain ⟨a, ha, hname, hemail⟩ := exists_isFirst_of_findSome? hfound
    exact .inl ⟨a, ha, by rw [hname, hemail]⟩

/-- There is a name where there is a way to read the text. -/
theorem isSome_name_parse_iff : (parse s).name.isSome ↔ ∃ a : Spelling, a.text = s := by
  rcases parse_cases s with ⟨a, ha, hs⟩ | ⟨hno, hs⟩
  · rw [hs]
    exact ⟨fun _ => ⟨a, ha.text_eq⟩, fun _ => rfl⟩
  · rw [hs]
    exact ⟨nofun, fun ⟨a, ha⟩ => absurd ha (hno a)⟩

/-- A text that no closing bracket ends is an email. -/
theorem parse_of_getLast? {t : Text} (h : t.getLast? ≠ some '>') : parse t = ⟨trim t, none⟩ := by
  rcases parse_cases t with ⟨a, ha, -⟩ | ⟨-, ht⟩
  · exact absurd (ha.text_eq ▸ a.getLast?_text) h
  · exact ht

/-- A text has a name when it is of the form of a named address.  Name and email are then those
of the way to read it that is tried first; the email is trimmed.  Any other text is an email. -/
theorem parse_eq_iff (s : Text) :
    ((parse s).name.isSome ↔ ∃ a : Spelling, a.text = s) ∧
      (∀ name email, parse s = ⟨email, some name⟩ ↔
        ∃ a : Spelling, a.IsFirst s ∧ a.name = name ∧ trim a.email = email) ∧
      (parse s = ⟨trim s, none⟩ ↔ ∀ a : Spelling, a.text ≠ s) := by
  rw [parse]
  cases hfound : (nameStarts s).findSome? splitName? with
  | none =>
    have hno := text_ne_of_findSome? hfound
    refine ⟨⟨nofun, fun ⟨a, ha⟩ => absurd ha (hno a)⟩, fun name email => ⟨nofun, ?_⟩,
      fun _ => hno, fun _ => rfl⟩
    rintro ⟨a, ha, -⟩
    exact absurd ha.text_eq (hno a)
  | some p =>
    obtain ⟨a, ha, hname, hemail⟩ := exists_isFirst_of_findSome? hfound
    refine ⟨⟨fun _ => ⟨a, ha.text_eq⟩, fun _ => rfl⟩, fun name email => ⟨fun h => ?_, ?_⟩,
      fun h => (nomatch (Address.mk.inj h).2), fun hno => absurd ha.text_eq (hno a)⟩
    · injection h with htrim hsome
      exact ⟨a, ha, hname.trans (Option.some.inj hsome), by rw [hemail]; exact htrim⟩
    · rintro ⟨b, hb, rfl, rfl⟩
      obtain ⟨hnames, hemails⟩ := Spelling.eq_of_isFirst ha hb
      rw [← hnames, ← hemails, hname, hemail]

example : parse " \n<a>".toList = ⟨"a".toList, some " ".toList⟩ := by decide

end Mailroom.Address
