import Mailroom.Proofs.Address.Space

/-!
# Blank emails and names

An entry of a list of addresses is never blank, but its email or its name may be.  Brackets around
white space make a blank email, if they are those that the email is taken from: an earlier bracket
that is not closed before them makes more of them.  White space behind an opening quote makes a
blank name, if nothing but a closing quote follows it before the email.

## Key results

* `Spelling.IsFirst.closes_brackets`   no bracket is left open in a name
* `isBlankText_email_parse_iff`        when the email of an entry is blank
* `isBlankText_name_parse_iff`         when its name is
* `isVisible_parse_iff`                when neither is
-/

namespace Mailroom.Address

open Text

/-- The email is white space alone in brackets, and the name leaves no bracket open, its first
character aside. -/
def HasBlankEmail (t : Text) : Prop :=
  ∃ a : Spelling, a.text = t ∧ isBlankText a.email = true ∧
    ∀ left inner, a.name.tail = left ++ '<' :: inner → '>' ∈ inner

/-- The text can be read with white space alone as its name. -/
def HasBlankName (t : Text) : Prop := ∃ a : Spelling, a.text = t ∧ isBlankText a.name = true

/-- The email holds more than white space, and so does the name if there is one. -/
structure IsVisible (a : Address) : Prop where
  email : isBlankText a.email = false
  name : ∀ name ∈ a.name, isBlankText name = false

instance (a : Address) : Decidable a.IsVisible :=
  decidable_of_iff
    (isBlankText a.email = false ∧ ∀ name ∈ a.name, isBlankText name = false)
    ⟨fun ⟨hemail, hname⟩ => ⟨hemail, hname⟩, fun ⟨hemail, hname⟩ => ⟨hemail, hname⟩⟩

namespace Spelling

/-- What stands before the email and its brackets. -/
def beforeEmail (a : Spelling) : Text :=
  a.lead ++ quoteMark a.opened ++ (a.name ++ quoteMark a.closed ++ a.gap)

/-- A spelling is cut into its email and what stands before. -/
theorem isCut_text (a : Spelling) : IsCut a.text a.beforeEmail a.email where
  text_eq := by simp [text, rest, beforeEmail]
  ne_nil := a.email_ne_nil
  unclosed := a.unclosed

/-- A bracket that is left open in the name would start the email. -/
theorem IsFirst.closes_brackets {a : Spelling} {t : Text} (h : a.IsFirst t) {left inner : Text}
    (hname : a.name.tail = left ++ '<' :: inner) : '>' ∈ inner := by
  refine Classical.byContradiction fun hopen => ?_
  obtain ⟨c, tail, hcons⟩ := List.exists_cons_of_ne_nil a.name_ne_nil
  rw [hcons, List.tail_cons] at hname
  subst hname
  have hclosing : '>' ∉ quoteMark a.closed ++ a.gap :=
    not_mem_closing a.closed a.blank_gap (by decide) (by decide)
  have hline : '\n' ∉ c :: left := fun hmem => a.one_line <| hcons ▸ by
    rw [← List.cons_append]
    exact List.mem_append_left _ hmem
  -- the email could start at that bracket, and the name would be shorter
  let b : Spelling :=
    { a with
      name := c :: left
      closed := false
      gap := []
      email := inner ++ (quoteMark a.closed ++ a.gap) ++ '<' :: a.email
      name_ne_nil := by simp
      one_line := hline
      blank_gap := isBlankText_nil
      email_ne_nil := by simp
      unclosed := by
        rw [List.mem_append, List.mem_append, List.mem_cons]
        rintro ((hmem | hmem) | hmem | hmem)
        · exact hopen hmem
        · exact hclosing hmem
        · exact absurd hmem (by decide)
        · exact a.unclosed hmem }
  refine h.not_precedes b ?_ (.inr ⟨rfl, .inr ⟨rfl, ?_⟩⟩)
  · rw [← h.text_eq]
    simp [b, text, rest, hcons]
  · rw [hcons]
    simp [b]

end Spelling

variable {t : Text}

/-- The way that is tried first does not start the email before another one does, unless at a
bracket that is closed before that email. -/
theorem Spelling.IsFirst.beforeEmail_ne {a b : Spelling} (ha : a.IsFirst t) (hb : b.text = t)
    (ht : ∀ c, t.head? = some c → isBlank c = false)
    (hclosed : ∀ left inner, b.name.tail = left ++ '<' :: inner → '>' ∈ inner) {inner : Text}
    (hinner : '>' ∉ inner) : b.beforeEmail ≠ a.beforeEmail ++ '<' :: inner := by
  intro heq
  have halead := lead_eq_nil ha.text_eq ht
  have hblead := lead_eq_nil hb ht
  -- the bracket stands in the name of the other way, and there it can only come first
  have hfirst {left : Text}
      (h : b.name ++ quoteMark b.closed ++ b.gap = left ++ '<' :: inner) : left = [] := by
    obtain ⟨n, hname, rfl⟩ := exists_eq_of_closing b.blank_gap h
    cases left with
    | nil => rfl
    | cons c left =>
      have hmem := hclosed left n (by rw [hname]; rfl)
      rw [List.append_assoc] at hinner
      exact absurd (List.mem_append_left _ hmem) hinner
  rw [beforeEmail, beforeEmail, halead, hblead, List.nil_append, List.nil_append] at heq
  cases hbo : b.opened with
  | false =>
    rw [hbo, quoteMark_false, List.nil_append] at heq
    have hnil := hfirst heq
    simp [a.name_ne_nil] at hnil
  | true =>
    cases hao : a.opened with
    | false =>
      refine ha.not_precedes b hb (.inr ⟨by rw [halead, hblead], .inl ⟨hao, hbo⟩⟩)
    | true =>
      rw [hbo, hao, List.append_assoc (quoteMark true), List.append_cancel_left_eq] at heq
      have hnil := hfirst heq
      simp [a.name_ne_nil] at hnil

/-- If there is a way to read the text with a blank email that leaves no bracket open, the one
that is tried first has a blank email too. -/
theorem isBlankText_email_of_isFirst {a b : Spelling} (ha : a.IsFirst t) (hb : b.text = t)
    (ht : ∀ c, t.head? = some c → isBlank c = false) (hblank : isBlankText b.email = true)
    (hclosed : ∀ left inner, b.name.tail = left ++ '<' :: inner → '>' ∈ inner) :
    isBlankText a.email = true := by
  have hcut : a.beforeEmail ++ '<' :: a.email = b.beforeEmail ++ '<' :: b.email := by
    have htext := a.isCut_text.text_eq.symm.trans
      (ha.text_eq.trans (hb.symm.trans b.isCut_text.text_eq))
    rw [← List.cons_append, ← List.append_assoc, ← List.cons_append, ← List.append_assoc] at htext
    exact List.append_cancel_right htext
  rcases List.append_eq_append_iff.1 hcut with ⟨m, hleft, hm⟩ | ⟨m, hleft, hm⟩
  · cases m with
    | nil => rwa [(List.cons.inj hm).2]
    | cons c m =>
      obtain ⟨rfl, hemail⟩ := List.cons.inj hm
      have hm' : '>' ∉ m := fun hmem => a.unclosed (hemail ▸ List.mem_append_left _ hmem)
      exact absurd hleft (ha.beforeEmail_ne hb ht hclosed hm')
  · cases m with
    | nil => rwa [← (List.cons.inj hm).2]
    | cons c m =>
      -- a bracket is no white space
      have hmem : '<' ∈ b.email :=
        (List.cons.inj hm).2 ▸ List.mem_append_right m List.mem_cons_self
      exact absurd hmem (not_mem_of_isBlankText hblank (by decide))

/-- If there is a way to read the text with a blank name, the one that is tried first has a blank
name too: both start behind a quote, and the shorter name comes first. -/
theorem isBlankText_name_of_isFirst {a b : Spelling} (ha : a.IsFirst t) (hb : b.text = t)
    (ht : ∀ c, t.head? = some c → isBlank c = false) (hblank : isBlankText b.name = true) :
    isBlankText a.name = true := by
  have halead := Spelling.lead_eq_nil ha.text_eq ht
  have hblead := Spelling.lead_eq_nil hb ht
  have hlength : b.lead.length = a.lead.length := by rw [halead, hblead]
  -- without the quote `b` would take the first character, which is not white space
  have hbo : b.opened = true := by
    refine Bool.not_eq_false _ ▸ fun hbo => ?_
    obtain ⟨c, name, hname⟩ := List.exists_cons_of_ne_nil b.name_ne_nil
    have hc : isBlank c = false :=
      ht c (by rw [← hb, Spelling.text, Spelling.rest, hblead, hbo, hname]; rfl)
    exact not_mem_of_isBlankText hblank hc (hname ▸ List.mem_cons_self)
  -- the way that is tried first takes the quote if another way can
  have hao : a.opened = true := Bool.not_eq_false _ ▸ fun hao =>
    ha.not_precedes b hb (.inr ⟨hlength.symm, .inl ⟨hao, hbo⟩⟩)
  have hrest : a.rest = b.rest := by
    have htext := ha.text_eq.trans hb.symm
    rw [Spelling.text, Spelling.text, halead, hblead, hao, hbo] at htext
    exact List.append_cancel_left htext
  -- and of the names behind the quote it takes the shortest
  have hshort : a.name.length ≤ b.name.length := Nat.not_lt.1 fun hlt =>
    ha.not_precedes b hb (.inr ⟨hlength.symm, .inr ⟨hao.trans hbo.symm, hlt⟩⟩)
  have hbefore (c : Spelling) : c.name <+: c.rest := by
    rw [Spelling.rest, List.append_assoc, List.append_assoc]
    exact List.prefix_append c.name _
  have hname := List.prefix_of_prefix_length_le (hbefore a) (hrest ▸ hbefore b) hshort
  exact isBlankText_of_subset hblank hname.subset

/-- The email of an entry is blank exactly if it is white space alone in brackets and no bracket
before them is left open. -/
theorem isBlankText_email_parse_iff (ht : trim t = t) (hne : t ≠ []) :
    isBlankText (parse t).email = true ↔ HasBlankEmail t := by
  have hhead : ∀ c, t.head? = some c → isBlank c = false := fun c hc =>
    not_isBlank_of_head?_trim (t := t) (ht.symm ▸ hc)
  -- either the text is read with a name, or all of it is the email
  rcases parse_cases t with ⟨a, ha, hparse⟩ | ⟨hno, hparse⟩
  · rw [hparse, isBlankText_trim]
    constructor
    · exact fun hblank => ⟨a, ha.text_eq, hblank, fun _ _ => ha.closes_brackets⟩
    · rintro ⟨b, hb, hblank, hclosed⟩
      exact isBlankText_email_of_isFirst ha hb hhead hblank hclosed
  · rw [hparse, isBlankText_trim]
    constructor
    · intro hblank
      exact absurd (ht.symm.trans (trim_eq_nil hblank)) hne
    · rintro ⟨b, hb, -⟩
      exact absurd hb (hno b)

/-- The name of an entry is blank exactly if the entry can be read with a blank name. -/
theorem isBlankText_name_parse_iff (ht : trim t = t) :
    (∃ name, (parse t).name = some name ∧ isBlankText name = true) ↔ HasBlankName t := by
  rcases parse_cases t with ⟨a, ha, hparse⟩ | ⟨hno, hparse⟩
  · rw [hparse]
    constructor
    · rintro ⟨name, hname, hblank⟩
      obtain rfl := Option.some.inj hname
      exact ⟨a, ha.text_eq, hblank⟩
    · rintro ⟨b, hb, hblank⟩
      refine ⟨a.name, rfl, isBlankText_name_of_isFirst ha hb (fun c hc => ?_) hblank⟩
      exact not_isBlank_of_head?_trim (t := t) (ht.symm ▸ hc)
  · rw [hparse]
    constructor
    · rintro ⟨name, hname, -⟩
      exact nomatch hname
    · rintro ⟨b, hb, -⟩
      exact absurd hb (hno b)

/-- An address has something to show exactly if neither its email nor its name can be read as white
space. -/
theorem isVisible_parse_iff (ht : trim t = t) (hne : t ≠ []) :
    (parse t).IsVisible ↔ ¬HasBlankEmail t ∧ ¬HasBlankName t := by
  rw [← isBlankText_email_parse_iff ht hne, ← isBlankText_name_parse_iff ht, Bool.not_eq_true]
  constructor
  · rintro ⟨hemail, hname⟩
    refine ⟨hemail, ?_⟩
    rintro ⟨name, hsome, hblank⟩
    rw [hname name hsome] at hblank
    exact Bool.false_ne_true hblank
  · rintro ⟨hemail, hname⟩
    refine ⟨hemail, fun name hsome => Bool.not_eq_true _ ▸ fun hblank => ?_⟩
    exact hname ⟨name, hsome, hblank⟩

end Mailroom.Address
