import Mailroom.Proofs.Address.Pattern

/-!
# White space around an address

White space at the ends of a text does not belong to the address that it spells, with two
exceptions.  A named address ends with the bracket that closes its email, so one that white space
follows is not seen to have a name.  And a name needs one character: where the email stands in
brackets and nothing else does for a name, white space before the brackets does.  Only line breaks
cannot, since a name stands on one line.

## Key results

* `Spelling.IsFirst.append_blank`   white space in front is skipped
* `parse_eq_parse_trim_iff`         where white space makes no difference
-/

namespace Mailroom.Address

open Text

/-- White space at the ends of the text makes a difference to the address. -/
inductive SpaceMatters (s : Text) : Prop
  /-- It follows a named address. -/
  | behind (hend : trimEnd s ≠ s) (a : Spelling) (ha : a.text = trim s)
  /-- It stands before an email in brackets that has no name, and it is more than line breaks. -/
  | before (lead email : Text) (hlead : isBlankText lead = true) (hcut : IsCut s lead email)
      (hheld : ∃ c ∈ lead, c ≠ '\n') (hnone : ∀ a : Spelling, a.text ≠ trim s)

namespace Spelling

/-- The same way to read what follows the white space, with other white space before it. -/
def withLead (a : Spelling) {lead : Text} (hlead : isBlankText lead = true) : Spelling :=
  { a with lead, blank_lead := hlead }

/-- Only the white space at the start is another one. -/
theorem text_withLead (a : Spelling) {lead : Text} (hlead : isBlankText lead = true) :
    (a.withLead hlead).text = lead ++ (quoteMark a.opened ++ a.rest) :=
  List.append_assoc lead (quoteMark a.opened) a.rest

/-- The same way to read what follows the white space, which is not there. -/
def unled (a : Spelling) : Spelling := a.withLead isBlankText_nil

/-- Without it a text starts with the quote or the name. -/
theorem text_unled (a : Spelling) : a.unled.text = quoteMark a.opened ++ a.rest := rfl

/-- Where a text does not start with white space none is skipped. -/
theorem lead_eq_nil {a : Spelling} {t : Text} (ha : a.text = t)
    (ht : ∀ c, t.head? = some c → isBlank c = false) : a.lead = [] := by
  cases hlead : a.lead with
  | nil => rfl
  | cons d m =>
    have hd : isBlank d = false := ht d (by rw [← ha, text, hlead]; rfl)
    have hnot := not_mem_of_isBlankText a.blank_lead hd
    rw [hlead] at hnot
    exact absurd List.mem_cons_self hnot

/-- A text that spells a named address ends with a bracket. -/
theorem not_isBlank_of_getLast? {a : Spelling} {t : Text} (ha : a.text = t) {c : Char}
    (hc : t.getLast? = some c) : isBlank c = false := by
  rw [← ha, a.getLast?_text, Option.some.injEq] at hc
  rw [← hc]
  decide

/-- White space in front of a text is skipped, and the text is read as before. -/
theorem IsFirst.append_blank {a : Spelling} {t : Text} (h : a.IsFirst t)
    (ht : ∀ c, t.head? = some c → isBlank c = false) {lead : Text}
    (hlead : isBlankText lead = true) : (a.withLead hlead).IsFirst (lead ++ t) := by
  have hdrop : (lead ++ t).dropWhile isBlank = t := by
    have := trimStart_append_blank hlead t
    rwa [trimStart_eq_self ht] at this
  have htake : (lead ++ t).takeWhile isBlank = lead := by
    have hsides := List.takeWhile_append_dropWhile (p := isBlank) (l := lead ++ t)
    rwa [hdrop, List.append_cancel_right_eq] at hsides
  have hnil := lead_eq_nil h.text_eq ht
  have htext := h.text_eq
  rw [text, hnil, List.nil_append] at htext
  refine ⟨by rw [text_withLead, htext], fun b hb hprecedes => ?_⟩
  have hlength : (a.withLead hlead).lead = lead := rfl
  rcases rest_cases hb with ⟨hblead, hbrest⟩ | ⟨c, m, hbtake, -, -⟩
  · -- both skip all white space, and differ behind it
    rw [htake] at hblead
    rw [hdrop] at hbrest
    refine h.not_precedes b.unled (b.text_unled.trans hbrest.symm) ?_
    rcases hprecedes with hlt | ⟨-, hbehind⟩
    · rw [hblead, hlength] at hlt
      exact absurd hlt (Nat.lt_irrefl _)
    · exact .inr ⟨by rw [hnil]; rfl, hbehind⟩
  · -- the other one skips less
    have hshort : b.lead.length < lead.length := by
      rw [← htake, hbtake]
      simp
    rcases hprecedes with hlt | ⟨heq, -⟩
    · rw [hlength] at hlt
      omega
    · rw [hlength] at heq
      omega

end Spelling

variable {s : Text}

/-- One character of the white space before an email in brackets can be its name. -/
theorem exists_text_of_isCut {lead email : Text} (hlead : isBlankText lead = true)
    (hcut : IsCut s lead email) (hheld : ∃ c ∈ lead, c ≠ '\n') : ∃ a : Spelling, a.text = s := by
  obtain ⟨c, hmem, hc⟩ := hheld
  obtain ⟨l, m, rfl⟩ := List.append_of_mem hmem
  obtain ⟨hl, hm⟩ := isBlankText_append.1 hlead
  obtain ⟨heq, hne, hclose⟩ := hcut
  -- the character that is no line break is the name
  let a : Spelling :=
    { lead := l, opened := false, name := [c], closed := false, gap := m, email := email
      blank_lead := hl, name_ne_nil := by simp, one_line := by simpa using hc.symm
      blank_gap := isBlankText_of_subset hm (List.subset_cons_self c m)
      email_ne_nil := hne, unclosed := hclose }
  refine ⟨a, ?_⟩
  rw [heq]
  simp [a, Spelling.text, Spelling.rest]

/-- A text that has a name only with the white space before it is an email in brackets behind white
space. -/
theorem spaceMatters_of_text {a : Spelling} (ha : a.text = s)
    (hnone : ∀ b : Spelling, b.text ≠ trim s) : SpaceMatters s := by
  have htrim : trim s = s.dropWhile isBlank :=
    trim_eq_trimStart fun _ => Spelling.not_isBlank_of_getLast? ha
  rcases rest_cases ha with ⟨-, hrest⟩ | ⟨c, m, htake, hopened, hrest⟩
  · exact absurd (a.text_unled.trans (hrest.symm.trans htrim.symm)) (hnone a.unled)
  · have hm : isBlankText m = true := isBlankText_iff.2 fun d hd =>
      List.all_eq_true.1 List.all_takeWhile d
        (htake ▸ List.mem_append_right _ (List.mem_cons_of_mem c hd))
    have hnamed := a.isNamed_rest
    rw [hrest] at hnamed
    rcases isNamed_or_eq_of_isNamed hm (fun _ => not_isBlank_of_head?_trimStart) hnamed with
      ⟨name, hname⟩ | ⟨hc, hbrackets⟩
    · -- a name behind the white space is one without it
      obtain ⟨b, hb, -⟩ := Spelling.exists_of_isNamed isBlankText_nil false hname
      refine absurd ?_ (hnone b)
      rw [hb, htrim]
      rfl
    · refine .before (s.takeWhile isBlank) a.email List.all_takeWhile ?_ ⟨c, ?_, hc⟩ hnone
      · have hsides : s.takeWhile isBlank ++ trimStart s = s := List.takeWhile_append_dropWhile
        rw [hbrackets] at hsides
        exact ⟨hsides.symm, a.email_ne_nil, a.unclosed⟩
      · rw [htake]
        exact List.mem_append_right _ List.mem_cons_self

/-- White space that matters decides whether there is a name. -/
theorem SpaceMatters.parse_ne (h : SpaceMatters s) : parse s ≠ parse (trim s) := by
  intro heq
  -- equal addresses are named alike, so both texts can be read with a name or neither can
  have hname : (∃ a : Spelling, a.text = s) ↔ ∃ a : Spelling, a.text = trim s := by
    rw [← isSome_name_parse_iff, heq, isSome_name_parse_iff]
  cases h with
  | behind hend a ha =>
    obtain ⟨b, hb⟩ := hname.2 ⟨a, ha⟩
    exact hend (dropEndWhile_eq_self fun _ => Spelling.not_isBlank_of_getLast? hb)
  | before lead email hlead hcut hheld hnone =>
    obtain ⟨a, ha⟩ := hname.1 (exists_text_of_isCut hlead hcut hheld)
    exact hnone a ha

/-- Behind white space a named address is read as without it, if nothing follows. -/
theorem parse_eq_of_isFirst {a : Spelling} (ha : a.IsFirst (trim s)) (hend : trimEnd s = s) :
    parse s = ⟨trim a.email, some a.name⟩ := by
  -- there is white space at the start alone, and a name is read behind it
  have htrim : trim s = trimStart s := trim_eq_trimStart fun c hc => by
    rw [← hend] at hc
    exact not_of_getLast?_dropEndWhile hc
  obtain ⟨lead, hlead, hs⟩ := exists_eq_append_trimStart s
  have hfirst := ha.append_blank (fun _ => not_isBlank_of_head?_trim) hlead
  rw [htrim, ← hs] at hfirst
  rcases parse_cases s with ⟨b, hb, hparse⟩ | ⟨hno, -⟩
  · obtain ⟨hname, hemail⟩ := Spelling.eq_of_isFirst hb hfirst
    rw [hparse, hname, hemail]
    rfl
  · exact absurd hfirst.text_eq (hno _)

/-- White space at the ends of a text makes no difference to the address, except behind a named
address and before an email in brackets that has no name. -/
theorem parse_eq_parse_trim_iff (s : Text) : parse s = parse (trim s) ↔ ¬SpaceMatters s := by
  refine ⟨fun heq hmatters => hmatters.parse_ne heq, fun hspace => ?_⟩
  rcases parse_cases (trim s) with ⟨a, ha, hparse⟩ | ⟨hnone, hparse⟩
  · have hend : trimEnd s = s := Classical.not_not.1 fun hend => hspace (.behind hend a ha.text_eq)
    rw [parse_eq_of_isFirst ha hend, hparse]
  · rcases parse_cases s with ⟨a, ha, -⟩ | ⟨-, hs⟩
    · exact absurd (spaceMatters_of_text ha.text_eq hnone) hspace
    · rw [hs, hparse, trim_trim]

end Mailroom.Address
