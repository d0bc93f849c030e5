import Mathlib.Algebra.BigOperators.Group.List.Basic
import Mailroom.Proofs.Address.List
import Mailroom.Proofs.Address.Pattern

/-!
# Addresses that are written

An address is written as its name in double quotes and its email in angle brackets, or as its email
alone.  The reader gives the address back, whatever the name holds but an opening bracket and a
line break: the name ends where the first opening bracket needs it to end.  A name that neither
starts nor ends with white space or a quote does without the quotes.  White space may stand in
front, before the opening bracket and around the email.

In a list a comma divides addresses wherever it stands, in a quoted name too, so a written list is
read back exactly when no name holds one.

## Key results

* `Spelling.splitName?_rest`     a name without an opening bracket is found
* `parse_spaced`                 a written address is read back
* `parseList_written_iff`        and a written list, unless a name holds a comma
-/

namespace Mailroom.Address

open Text

/-! ## Where a name is found -/

namespace Spelling

/-- A name without an opening bracket is found behind the start of the name, if a quote closes it or
it ends with neither white space nor a quote. -/
theorem splitName?_rest (a : Spelling) (hopen : '<' ∉ a.name)
    (hend : a.closed = false → ∀ c, a.name.getLast? = some c → isBlank c = false ∧ c ≠ '"') :
    splitName? a.rest = some (a.name, a.email) := by
  obtain ⟨c, name, hname⟩ := List.exists_cons_of_ne_nil a.name_ne_nil
  have hleft : '<' ∉ name ++ quoteMark a.closed ++ a.gap := by
    rw [List.append_assoc, List.mem_append, not_or]
    exact ⟨fun h => hopen (hname ▸ List.mem_cons_of_mem c h),
      bracket_not_mem_closing a.closed a.blank_gap⟩
  -- the email is the first one after the opened name, since no bracket stands before it
  have hcut := cutEmail?_of_isCut ⟨rfl, a.email_ne_nil, a.unclosed⟩ hleft
  have hclosing : withoutClosingQuote (name ++ quoteMark a.closed ++ a.gap) = name := by
    cases hclosed : a.closed with
    | true => exact withoutClosingQuote_closed a.blank_gap name
    | false =>
      refine withoutClosingQuote_bare a.blank_gap fun d hd => hend hclosed d ?_
      rw [hname, List.getLast?_cons, hd, Option.getD_some]
  have hline : (c :: name).contains '\n' = false := by
    rw [Bool.eq_false_iff, Ne, List.contains_iff_mem, ← hname]
    exact a.one_line
  rw [rest, hname, List.cons_append, List.cons_append, List.cons_append, splitName?, hcut]
  simp only [hclosing, hline, Bool.false_eq_true, if_false]

/-- What is found behind white space and an opening quote is the address. -/
theorem parse_text_of_opened {a : Spelling} (hopened : a.opened = true)
    (hfound : splitName? a.rest = some (a.name, a.email)) :
    parse a.text = ⟨trim a.email, some a.name⟩ := by
  -- the white space is skipped up to the quote
  have hdrop : a.text.dropWhile isBlank = '"' :: a.rest := by
    rw [text, hopened, quoteMark_true, List.append_assoc,
      List.dropWhile_append_of_pos (isBlankText_iff.1 a.blank_lead)]
    exact List.dropWhile_cons_of_neg (by decide)
  have hafter : after? ['"'] ('"' :: a.rest) = some a.rest := after?_append ['"'] a.rest
  rw [parse, findSome?_nameStarts, hdrop, hafter, Option.bind_some, hfound, Option.some_or]

/-- What is found behind white space alone is the address, if the name starts with neither white
space nor a quote. -/
theorem parse_text_of_not_opened {a : Spelling} (hopened : a.opened = false)
    (hstart : ∀ c, a.name.head? = some c → isBlank c = false ∧ c ≠ '"')
    (hfound : splitName? a.rest = some (a.name, a.email)) :
    parse a.text = ⟨trim a.email, some a.name⟩ := by
  obtain ⟨c, name, hname⟩ := List.exists_cons_of_ne_nil a.name_ne_nil
  obtain ⟨hblank, hquote⟩ := hstart c (by rw [hname, List.head?_cons])
  have hrest : ∃ t, a.rest = c :: t := ⟨_, by rw [rest, hname]; rfl⟩
  obtain ⟨t, ht⟩ := hrest
  have hdrop : a.text.dropWhile isBlank = a.rest := by
    rw [text, hopened, quoteMark_false, List.append_nil,
      List.dropWhile_append_of_pos (isBlankText_iff.1 a.blank_lead), ht]
    exact List.dropWhile_cons_of_neg (by simp [hblank])
  -- the name does not start with a quotation mark, so the quoted reading has no start
  have hafter : after? ['"'] a.rest = none := by
    rw [ht, after?_singleton_cons, if_neg (by simpa using Ne.symm hquote)]
  rw [parse, findSome?_nameStarts, hdrop, hafter, Option.bind_none, Option.none_or, hfound,
    Option.some_or]

end Spelling

/-! ## Written addresses -/

/-- An email as it can be written: it stands for itself between white space, and no bracket in it
ends it. -/
structure IsEmail (email : Text) : Prop where
  ne_nil : email ≠ []
  trimmed : trim email = email
  unclosed : '>' ∉ email

/-- A name as it can be written in quotes: no bracket in it starts an email, and it stands on one
line. -/
structure IsName (name : Text) : Prop where
  ne_nil : name ≠ []
  unopened : '<' ∉ name
  one_line : '\n' ∉ name

/-- A name that can do without quotes: none of its ends would be taken off. -/
def NeedsNoQuotes (name : Text) : Prop :=
  ∀ c, name.head? = some c ∨ name.getLast? = some c → isBlank c = false ∧ c ≠ '"'

/-- White space in the places where an address may hold it: in front, before the opening bracket
and around the email. -/
structure Spacing where
  lead : Text
  gap : Text
  before : Text
  after : Text
  blank_lead : isBlankText lead = true
  blank_gap : isBlankText gap = true
  blank_before : isBlankText before = true
  blank_after : isBlankText after = true

namespace Spacing

/-- The email in angle brackets. -/
def bracketed (w : Spacing) (email : Text) : Text :=
  w.gap ++ '<' :: (w.before ++ email ++ w.after ++ ['>'])

/-- A name in double quotes and an email. -/
def quoted (w : Spacing) (name email : Text) : Text :=
  w.lead ++ '"' :: (name ++ ['"']) ++ w.bracketed email

/-- A name without quotes and an email. -/
def unquoted (w : Spacing) (name email : Text) : Text := w.lead ++ name ++ w.bracketed email

/-- An email without a name. -/
def bare (w : Spacing) (email : Text) : Text := w.lead ++ email

/-- The way to read what is written. -/
def spelling (w : Spacing) (quotes : Bool) {name email : Text} (hname : IsName name)
    (hemail : IsEmail email) : Spelling where
  lead := w.lead
  opened := quotes
  name := name
  closed := quotes
  gap := w.gap
  email := w.before ++ email ++ w.after
  blank_lead := w.blank_lead
  name_ne_nil := hname.ne_nil
  one_line := hname.one_line
  blank_gap := w.blank_gap
  email_ne_nil := by simp [hemail.ne_nil]
  unclosed := by
    have hsolid {t : Text} (ht : isBlankText t = true) : '>' ∉ t :=
      not_mem_of_isBlankText ht (by decide)
    simp [hsolid w.blank_before, hsolid w.blank_after, hemail.unclosed]

/-- Trimming what stands between the angle brackets gives the email, which has no space at either
end. -/
theorem trim_email (w : Spacing) {email : Text} (hemail : IsEmail email) :
    trim (w.before ++ email ++ w.after) = email := by
  rw [trim_append_blank w.blank_before w.blank_after, hemail.trimmed]

/-- The quoted form is a spelling whose name is opened and closed by quotation marks. -/
theorem quoted_eq_text (w : Spacing) {name email : Text} (hname : IsName name)
    (hemail : IsEmail email) : w.quoted name email = (w.spelling true hname hemail).text := by
  simp [quoted, bracketed, spelling, Spelling.text, Spelling.rest]

/-- The unquoted form is a spelling without them. -/
theorem unquoted_eq_text (w : Spacing) {name email : Text} (hname : IsName name)
    (hemail : IsEmail email) : w.unquoted name email = (w.spelling false hname hemail).text := by
  simp [unquoted, bracketed, spelling, Spelling.text, Spelling.rest]

/-- A quoted name and an email are read back. -/
theorem parse_quoted (w : Spacing) {name email : Text} (hname : IsName name)
    (hemail : IsEmail email) : parse (w.quoted name email) = ⟨email, some name⟩ := by
  have hfound := (w.spelling true hname hemail).splitName?_rest hname.unopened nofun
  rw [w.quoted_eq_text hname hemail, Spelling.parse_text_of_opened rfl hfound]
  exact congrArg (Address.mk · (some name)) (w.trim_email hemail)

/-- So are a name without quotes, if it needs none, and an email. -/
theorem parse_unquoted (w : Spacing) {name email : Text} (hname : IsName name)
    (hplain : NeedsNoQuotes name) (hemail : IsEmail email) :
    parse (w.unquoted name email) = ⟨email, some name⟩ := by
  have hfound := (w.spelling false hname hemail).splitName?_rest hname.unopened
    fun _ c hc => hplain c (.inr hc)
  rw [w.unquoted_eq_text hname hemail,
    Spelling.parse_text_of_not_opened rfl (fun c hc => hplain c (.inl hc)) hfound]
  exact congrArg (Address.mk · (some name)) (w.trim_email hemail)

/-- An email alone is read back, for no closing bracket ends it. -/
theorem parse_bare (w : Spacing) {email : Text} (hemail : IsEmail email) :
    parse (w.bare email) = ⟨email, none⟩ := by
  -- a named address would end in a closing bracket
  have hlast : (w.bare email).getLast? ≠ some '>' := by
    rw [bare, List.getLast?_append, List.getLast?_eq_some_getLast hemail.ne_nil, Option.some_or]
    exact fun h => hemail.unclosed (Option.some.inj h ▸ List.getLast_mem hemail.ne_nil)
  have htrim : trim (w.bare email) = email := by
    have := trim_append_blank w.blank_lead isBlankText_nil email
    rwa [List.append_nil, hemail.trimmed] at this
  rw [parse_of_getLast? hlast, htrim]

end Spacing

/-- What is written is read back, and white space in the places for it makes no difference.  In
quotes that is so for every name that can be written, without them for those that need none. -/
theorem parse_spaced {email : Text} (hemail : IsEmail email) (w : Spacing) :
    (∀ name, IsName name → parse (w.quoted name email) = ⟨email, some name⟩) ∧
      (∀ name, IsName name → NeedsNoQuotes name →
        parse (w.unquoted name email) = ⟨email, some name⟩) ∧
      parse (w.bare email) = ⟨email, none⟩ :=
  ⟨fun _ hname => w.parse_quoted hname hemail,
    fun _ hname hplain => w.parse_unquoted hname hplain hemail, w.parse_bare hemail⟩

/-- A name with quotes and white space at its ends, which end nothing. -/
theorem parse_spaced_inches :
    IsEmail "a<b@x".toList ∧ IsName " 9\" pipe\" ".toList ∧ IsName "9\" pipe".toList ∧
      NeedsNoQuotes "9\" pipe".toList ∧
      parse " \n\" 9\" pipe\" \"\t< a<b@x\n>".toList =
        ⟨"a<b@x".toList, some " 9\" pipe\" ".toList⟩ ∧
      parse " \n9\" pipe\t< a<b@x\n>".toList = ⟨"a<b@x".toList, some "9\" pipe".toList⟩ ∧
      parse " \na<b@x".toList = ⟨"a<b@x".toList, none⟩ := by
  have hemail : IsEmail "a<b@x".toList := ⟨by decide, by decide, by decide⟩
  have hname : IsName " 9\" pipe\" ".toList := ⟨by decide, by decide, by decide⟩
  have hname' : IsName "9\" pipe".toList := ⟨by decide, by decide, by decide⟩
  -- the quote within the name is at none of its ends
  have hplain : NeedsNoQuotes "9\" pipe".toList := by
    rintro c (hc | hc) <;> cases hc <;> decide
  obtain ⟨hquoted, hunquoted, hbare⟩ := parse_spaced hemail
    { lead := " \n".toList, gap := "\t".toList, before := " ".toList, after := "\n".toList
      blank_lead := by decide, blank_gap := by decide, blank_before := by decide
      blank_after := by decide }
  exact ⟨hemail, hname, hname', hplain, hquoted _ hname, hunquoted _ hname' hplain, hbare⟩

/-! ## Written lists -/

/-- One space before the opening bracket, and no white space elsewhere. -/
def Spacing.single : Spacing where
  lead := []
  gap := [' ']
  before := []
  after := []
  blank_lead := isBlankText_nil
  blank_gap := by decide
  blank_before := isBlankText_nil
  blank_after := isBlankText_nil

/-- The address as it stands in a list: its name in double quotes and its email in angle brackets,
or its email alone. -/
def written (a : Address) : Text :=
  match a.name with
  | some name => Spacing.single.quoted name a.email
  | none => a.email

/-- An address that can be written in a list: its email is a word without commas and brackets, and
its name can be written in quotes and holds none. -/
structure IsListed (a : Address) : Prop where
  email_ne_nil : a.email ≠ []
  word : ∀ c ∈ a.email, isBlank c = false ∧ c ≠ ',' ∧ c ≠ '<' ∧ c ≠ '>'
  isName : ∀ name, a.name = some name → IsName name ∧ '"' ∉ name

/-- The name holds a comma. -/
def CommaInName (a : Address) : Prop := ∃ name, a.name = some name ∧ ',' ∈ name

variable {a : Address}

/-- An address without a name is written as its email alone. -/
theorem written_of_eq_none (h : a.name = none) : a.written = a.email := by rw [written, h]

/-- One with a name is written in the quoted form, with single spaces. -/
theorem written_of_eq_some {name : Text} (h : a.name = some name) :
    a.written = Spacing.single.quoted name a.email := by rw [written, h]

namespace IsListed

/-- The email of such an address can be written in brackets. -/
theorem isEmail (h : IsListed a) : IsEmail a.email where
  ne_nil := h.email_ne_nil
  trimmed := trim_eq_self (fun c hc => (h.word c (List.mem_of_head? hc)).1)
    (fun c hc => (h.word c (List.mem_of_getLast? hc)).1)
  unclosed := fun hmem => (h.word _ hmem).2.2.2 rfl

/-- An address that is written is read back. -/
theorem parse_eq (h : IsListed a) : parse a.written = a := by
  obtain ⟨email, name⟩ := a
  cases name with
  | none => exact Spacing.single.parse_bare h.isEmail
  | some name => exact Spacing.single.parse_quoted (h.isName name rfl).1 h.isEmail

/-- Something is written for every such address. -/
theorem written_ne_nil (h : IsListed a) : a.written ≠ [] := by
  cases hname : a.name with
  | none => exact written_of_eq_none hname ▸ h.email_ne_nil
  | some name => simp [written_of_eq_some hname, Spacing.quoted]

/-- What is written for it has no white space at either end, so the entry of a list is read as it
stands. -/
theorem trim_written (h : IsListed a) : trim a.written = a.written := by
  cases hname : a.name with
  | none => rw [written_of_eq_none hname, h.isEmail.trimmed]
  | some name =>
    rw [written_of_eq_some hname]
    -- the quoted form starts with a quote and ends in a bracket
    refine trim_eq_self_of_ends (c := '"') (d := '>') rfl ?_ (by decide) (by decide)
    rw [Spacing.single.quoted_eq_text (h.isName name hname).1 h.isEmail]
    exact Spelling.getLast?_text _

/-- The email holds no comma, so that the name alone decides whether the written form does. -/
theorem comma_not_mem_written (h : IsListed a) (hcomma : ¬CommaInName a) : ',' ∉ a.written := by
  have hemail : ',' ∉ a.email := fun hmem => (h.word _ hmem).2.1 rfl
  cases hname : a.name with
  | none => rwa [written_of_eq_none hname]
  | some name =>
    have hmem : ',' ∉ name := fun hmem => hcomma ⟨name, hname, hmem⟩
    rw [written_of_eq_some hname]
    simp [Spacing.quoted, Spacing.bracketed, Spacing.single, hemail, hmem]

/-- An address without a comma in its name is an entry of its own. -/
theorem parseList_written (h : IsListed a) (hcomma : ¬CommaInName a) :
    parseList a.written = [a] := by
  -- an entry is left out only if it is blank
  have hblank : isBlankText a.written = false := by
    refine Bool.eq_false_iff.2 fun hblank => h.written_ne_nil ?_
    rw [← h.trim_written, trim_eq_nil hblank]
  rw [parseList_eq_map_entries, entries_eq_singleton (h.comma_not_mem_written hcomma) hblank,
    List.map_singleton, h.trim_written, h.parse_eq]

end IsListed

/-- A comma in the name makes more than one address of it. -/
theorem CommaInName.one_lt_length (h : CommaInName a) : 1 < (parseList a.written).length := by
  obtain ⟨name, hname, hcomma⟩ := h
  obtain ⟨l, r, rfl⟩ := List.append_of_mem hcomma
  have htext : a.written = '"' :: l ++ ',' :: (r ++ '"' :: Spacing.single.bracketed a.email) := by
    rw [written_of_eq_some hname]
    simp [Spacing.quoted, Spacing.single]
  -- each side of the comma keeps a quote
  have hquote {t : Text} (ht : '"' ∈ t) : 0 < (entries t).length :=
    List.length_pos_iff.2 (entries_ne_nil ht (by decide) (by decide))
  have hleft := hquote (t := '"' :: l) List.mem_cons_self
  have hright := hquote (t := r ++ '"' :: Spacing.single.bracketed a.email)
    (List.mem_append_right r List.mem_cons_self)
  rw [htext, parseList_eq_map_entries, entries_append, List.length_map, List.length_append]
  omega

/-- A list stays what it is, its elements being replaced by lists of which none is empty, only if
every element stays. -/
theorem flatMap_eq_self_iff {α : Type} {f : α → List α} {l : List α}
    (h : ∀ a ∈ l, f a = [a] ∨ 1 < (f a).length) : l.flatMap f = l ↔ ∀ a ∈ l, f a = [a] := by
  have hle (s : List α) (hs : s ⊆ l) : s.length ≤ (s.flatMap f).length := by
    have hone : s.length ≤ (s.map fun a => (f a).length).sum := by
      rw [← List.length_map fun a => (f a).length]
      refine List.length_le_sum_of_one_le _ fun n hn => ?_
      obtain ⟨a, ha, rfl⟩ := List.mem_map.1 hn
      rcases h a (hs ha) with hself | hmore
      · exact hself ▸ Nat.le_refl 1
      · exact Nat.le_of_lt hmore
    rwa [List.length_flatMap]
  constructor
  · intro heq a ha
    refine (h a ha).resolve_right fun hmore => ?_
    -- the others give at least one element each, so the list would get longer
    obtain ⟨s, t, rfl⟩ := List.append_of_mem ha
    have hs := hle s (List.subset_append_left s _)
    have ht := hle t (List.subset_append_of_subset_right s (List.subset_cons_self a t))
    have hlength := congrArg List.length heq
    simp only [List.flatMap_append, List.flatMap_cons, List.length_append, List.length_cons]
      at hlength
    omega
  · intro hself
    rw [List.flatMap_congr hself, List.flatMap_singleton']

/-- A written list is read back if no name holds a comma, and only then: a comma divides addresses
in a quoted name too. -/
theorem parseList_written_iff {addresses : List Address} (h : ∀ a ∈ addresses, IsListed a) :
    parseList (join ", ".toList (addresses.map written)) = addresses ↔
      ∀ a ∈ addresses, ¬CommaInName a := by
  have hread : parseList (join ", ".toList (addresses.map written)) =
      addresses.flatMap fun a => parseList a.written := by
    have hgap : isBlankText [' '] = true := rfl
    rw [← List.flatMap_map]
    exact parseList_join hgap _
  -- a name with a comma is split, and gives more entries than the one it is written for
  have hcases : ∀ a ∈ addresses,
      (¬CommaInName a → parseList a.written = [a]) ∧
        (CommaInName a → 1 < (parseList a.written).length) :=
    fun a ha => ⟨(h a ha).parseList_written, CommaInName.one_lt_length⟩
  rw [hread, flatMap_eq_self_iff fun a ha => (Classical.em (CommaInName a)).symm.imp
    (hcases a ha).1 (hcases a ha).2]
  refine forall₂_congr fun a ha => ⟨fun hone hcomma => ?_, (hcases a ha).1⟩
  have hmore := (hcases a ha).2 hcomma
  rw [hone] at hmore
  exact Nat.lt_irrefl 1 hmore

/-- Addresses without a name, with a blank one, and with a closing bracket in it. -/
def listed : List Address :=
  [⟨"a@x".toList, none⟩, ⟨"b@x".toList, some " ".toList⟩, ⟨"c\"@x".toList, some " C>c ".toList⟩]

/-- Three listed addresses, the last two with names of odd spacing, read back from one list. -/
theorem parseList_written_listed :
    (∀ a ∈ listed, IsListed a) ∧ (∀ a ∈ listed, ¬CommaInName a) ∧
      join ", ".toList (listed.map written) =
        "a@x, \" \" <b@x>, \" C>c \" <c\"@x>".toList ∧
      parseList (join ", ".toList (listed.map written)) = listed := by
  have hlisted : ∀ a ∈ listed, IsListed a := by
    simp only [listed, List.forall_mem_cons, List.not_mem_nil, false_implies, implies_true, and_true]
    refine ⟨⟨by decide, by simp [isBlank], nofun⟩, ⟨by decide, by simp [isBlank], ?_⟩,
      ⟨by decide, by simp [isBlank], ?_⟩⟩
    · rintro name ⟨⟩
      exact ⟨⟨by decide, by decide, by decide⟩, by decide⟩
    · rintro name ⟨⟩
      exact ⟨⟨by decide, by decide, by decide⟩, by decide⟩
  have hcomma : ∀ a ∈ listed, ¬CommaInName a := by
    simp [listed, CommaInName]
  exact ⟨hlisted, hcomma, by decide, (parseList_written_iff hlisted).2 hcomma⟩

/-- An address with a comma in its name is not read back: the text before the comma becomes an
address. -/
theorem not_parseList_written_comma :
    IsListed ⟨"a@x".toList, some "Last, First".toList⟩ ∧
      parseList (join ", ".toList ([⟨"a@x".toList, some "Last, First".toList⟩].map written)) =
        [⟨"\"Last".toList, none⟩, ⟨"a@x".toList, some "First".toList⟩] ∧
      parseList (join ", ".toList ([⟨"a@x".toList, some "Last, First".toList⟩].map written)) ≠
        [⟨"a@x".toList, some "Last, First".toList⟩] := by
  refine ⟨⟨by decide, by simp [isBlank], ?_⟩, by decide, by decide⟩
  rintro name ⟨⟩
  exact ⟨⟨by decide, by decide, by decide⟩, by decide⟩

end Mailroom.Address
