import Mailroom.Address
import Mailroom.Proofs.Text.Search
import Mailroom.Proofs.Text.Trim

/-!
# A name before an email

What `cutEmail?`, `withoutClosingQuote` and `splitName?` find, said without recursion: an email
in angle brackets that ends the text, a name that a quote and white space may close, and the
two together.  Several brackets or spaces leave a choice, and the readers take the one that
makes the name shortest.

## Key results

* `isCut_of_cutEmail?`, `exists_cutEmail?_of_isCut`     the email, after its first bracket
* `withoutClosingQuote_closed`, `withoutClosingQuote_bare`   the name, closed and not
* `closes_withoutClosingQuote`, `prefix_of_closes`      the name, as far as it has to go
* `isNamed_of_splitName?`, `exists_splitName?_of_isNamed`   the shortest name
-/

namespace Mailroom.Address

open Text

/-- A double quote, or nothing. -/
def quoteMark (present : Bool) : Text := if present then ['"'] else []

@[simp] theorem quoteMark_true : quoteMark true = ['"'] := rfl

@[simp] theorem quoteMark_false : quoteMark false = [] := rfl

/-! ## The email -/

/-- The text ends with the email in angle brackets, behind `left`. -/
structure IsCut (t left email : Text) : Prop where
  text_eq : t = left ++ '<' :: (email ++ ['>'])
  ne_nil : email ≠ []
  unclosed : '>' ∉ email

/-- What is cut off is an email: the last closing bracket ends it, and no other one stands in it. -/
theorem isCut_of_cutEmail? {t left email : Text} (h : cutEmail? t = some (left, email)) :
    IsCut t left email := by
  rw [cutEmail?] at h
  split at h
  · next inner hinner =>
    simp only at h
    split at h
    · exact nomatch h
    · next l e hcut =>
      split at h
      · exact nomatch h
      · next hne =>
        obtain ⟨rfl, rfl⟩ := Prod.mk.inj (Option.some.inj h)
        have hbetween := cut?_eq_some hcut
        -- what stands before the last closing bracket is divided behind the bracket before that
        have hsides : inner.reverse =
            (inner.dropWhile (· != '>')).reverse ++ (inner.takeWhile (· != '>')).reverse := by
          rw [← List.reverse_append, List.takeWhile_append_dropWhile]
        refine ⟨?_, by simpa using hne, fun hmem => ?_⟩
        · rw [← List.reverse_reverse t, hinner, List.reverse_cons, hsides, hbetween]
          simp
        · -- nothing between the last two closing brackets is one
          have htake : '>' ∈ inner.takeWhile (· != '>') := by
            rw [← List.mem_reverse, hbetween]
            exact List.mem_append_right _ hmem
          exact absurd (List.all_eq_true.1 List.all_takeWhile _ htake) (by decide)
  · exact nomatch h

/-- An email is found behind the first bracket that leaves one. -/
theorem exists_cutEmail?_of_isCut {t left email : Text} (h : IsCut t left email) :
    ∃ left' email', cutEmail? t = some (left', email') ∧
      (left = left' ∨ ∃ m, left = left' ++ '<' :: m) := by
  obtain ⟨rfl, hne, hclose⟩ := h
  have hemail : ∀ c ∈ email.reverse, (c != '>') = true := by
    intro c hc
    rw [bne_iff_ne]
    rintro rfl
    exact hclose (List.mem_reverse.1 hc)
  -- `left` is divided after its last closing bracket
  obtain ⟨head, b, hhead, hb, rfl⟩ : ∃ head b,
      (left.reverse.dropWhile (· != '>')).reverse = head ∧
      (left.reverse.takeWhile (· != '>')).reverse = b ∧ left = head ++ b :=
    ⟨_, _, rfl, rfl, by
      rw [← List.reverse_append, List.takeWhile_append_dropWhile, List.reverse_reverse]⟩
  have hrev : (head ++ b ++ '<' :: (email ++ ['>'])).reverse =
      '>' :: (email.reverse ++ '<' :: (head ++ b).reverse) := by simp
  have htake : ((email.reverse ++ '<' :: (head ++ b).reverse).takeWhile (· != '>')).reverse =
      b ++ '<' :: email := by
    rw [List.takeWhile_append_of_pos hemail, List.takeWhile_cons_of_pos (by decide),
      List.reverse_append, List.reverse_cons, hb, List.reverse_reverse, List.append_assoc]
    rfl
  have hdrop : ((email.reverse ++ '<' :: (head ++ b).reverse).dropWhile (· != '>')).reverse =
      head := by
    rw [List.dropWhile_append_of_pos hemail, List.dropWhile_cons_of_pos (by decide), hhead]
  rw [cutEmail?, hrev]
  simp only [htake, hdrop]
  by_cases hopen : '<' ∈ b
  · obtain ⟨b', m, rfl, hb'⟩ := List.eq_append_cons_of_mem hopen
    rw [List.append_assoc, List.cons_append, cut?_append_cons hb']
    refine ⟨head ++ b', m ++ '<' :: email, by simp, .inr ⟨m, by simp⟩⟩
  · rw [cut?_append_cons hopen]
    exact ⟨head ++ b, email, by simp [hne], .inl rfl⟩

/-- The first opening bracket opens the email. -/
theorem cutEmail?_of_isCut {t left email : Text} (h : IsCut t left email) (hopen : '<' ∉ left) :
    cutEmail? t = some (left, email) := by
  obtain ⟨left', email', hcut, hleft⟩ := exists_cutEmail?_of_isCut h
  rcases hleft with rfl | ⟨m, rfl⟩
  · have heq := h.text_eq.symm.trans (isCut_of_cutEmail? hcut).text_eq
    rw [List.append_cancel_left_eq, List.cons.injEq, List.append_cancel_right_eq] at heq
    rw [hcut, heq.2]
  · simp at hopen

/-! ## The end of the name -/

/-- What follows the name in `left` is an optional quote and white space. -/
def Closes (name left : Text) : Prop :=
  ∃ closed gap, isBlankText gap = true ∧ left = name ++ quoteMark closed ++ gap

/-- Only a quote and white space are taken off the end of a name. -/
theorem closes_withoutClosingQuote (t : Text) : Closes (withoutClosingQuote t) t := by
  obtain ⟨gap, hgap, ht⟩ := exists_eq_dropEndWhile_append isBlank t
  rw [withoutClosingQuote]
  split
  · next hquote =>
    rw [beq_iff_eq] at hquote
    -- one quote is taken off, and no white space before it
    obtain ⟨name, hname⟩ := List.getLast?_eq_some_iff.1 hquote
    refine ⟨true, gap, isBlankText_iff.2 hgap, ?_⟩
    rw [hname, List.dropLast_concat, quoteMark_true, ← hname]
    exact ht
  · refine ⟨false, gap, isBlankText_iff.2 hgap, ?_⟩
    rw [quoteMark_false, List.append_nil]
    exact ht

/-- A quote that closes the name is taken off, with the white space behind it. -/
theorem withoutClosingQuote_closed {gap : Text} (hgap : isBlankText gap = true) (name : Text) :
    withoutClosingQuote (name ++ quoteMark true ++ gap) = name := by
  -- the quote stays when the white space is cut off, and goes then
  have hself : trimEnd (name ++ ['"']) = name ++ ['"'] :=
    dropEndWhile_eq_self fun c hc => by
      rw [List.getLast?_concat, Option.some.injEq] at hc
      rw [← hc]
      decide
  rw [withoutClosingQuote, trimEnd_append_blank hgap, quoteMark_true, hself, List.getLast?_concat,
    if_pos (by decide), List.dropLast_concat]

/-- From a name that ends with neither white space nor a quote nothing is taken. -/
theorem withoutClosingQuote_bare {gap name : Text} (hgap : isBlankText gap = true)
    (hend : ∀ c, name.getLast? = some c → isBlank c = false ∧ c ≠ '"') :
    withoutClosingQuote (name ++ quoteMark false ++ gap) = name := by
  have hself : trimEnd name = name := dropEndWhile_eq_self fun c hc => (hend c hc).1
  have hquote : ¬(name.getLast? == some '"') = true := by
    rw [beq_iff_eq]
    exact fun hlast => (hend '"' hlast).2 rfl
  rw [withoutClosingQuote, trimEnd_append_blank hgap, quoteMark_false, List.append_nil, hself]
  exact if_neg hquote

/-- A name that is closed in some way reaches at least as far. -/
theorem prefix_of_closes {name t : Text} (h : Closes name t) : withoutClosingQuote t <+: name := by
  obtain ⟨closed, gap, hgap, rfl⟩ := h
  cases closed with
  | true => exact (withoutClosingQuote_closed hgap name).symm ▸ List.prefix_refl name
  | false =>
    rw [withoutClosingQuote, trimEnd_append_blank hgap, quoteMark_false, List.append_nil]
    split
    · exact (List.dropLast_prefix _).trans (prefix_trimEnd name)
    · exact prefix_trimEnd name

/-- Only a quote and white space stand between a name and the email. -/
theorem not_mem_closing (closed : Bool) {gap : Text} (hgap : isBlankText gap = true) {c : Char}
    (hquote : c ≠ '"') (hc : isBlank c = false) : c ∉ quoteMark closed ++ gap := by
  have hblank : c ∉ gap := not_mem_of_isBlankText hgap hc
  cases closed <;> simp [hblank, hquote]

/-- An opening bracket is neither of them. -/
theorem bracket_not_mem_closing (closed : Bool) {gap : Text} (hgap : isBlankText gap = true) :
    '<' ∉ quoteMark closed ++ gap :=
  not_mem_closing closed hgap (by decide) (by decide)

/-- An opening bracket before the email belongs to the name. -/
theorem exists_eq_of_closing {name gap l m : Text} {closed : Bool} (hgap : isBlankText gap = true)
    (h : name ++ quoteMark closed ++ gap = l ++ '<' :: m) :
    ∃ n, name = l ++ '<' :: n ∧ m = n ++ quoteMark closed ++ gap := by
  rw [List.append_assoc] at h
  -- the bracket stands in the name or in what closes it, which holds none
  rcases List.append_eq_append_iff.1 h with ⟨w, -, hw⟩ | ⟨w, rfl, hw⟩
  · exact absurd (hw ▸ List.mem_append_right w List.mem_cons_self)
      (bracket_not_mem_closing closed hgap)
  · cases w with
    | nil =>
      exact absurd (hw ▸ List.mem_cons_self) (bracket_not_mem_closing closed hgap)
    | cons c n =>
      obtain ⟨rfl, hm⟩ := List.cons.inj hw
      exact ⟨n, rfl, hm.trans (List.append_assoc n _ gap).symm⟩

/-- What stands before a bracket belongs to the name. -/
theorem prefix_of_closes_append {name l m : Text} (h : Closes name (l ++ '<' :: m)) :
    l <+: name := by
  obtain ⟨closed, gap, hgap, heq⟩ := h
  obtain ⟨n, rfl, -⟩ := exists_eq_of_closing hgap heq.symm
  exact List.prefix_append l _

/-! ## Name and email -/

/-- The text is a name of one line and an email in angle brackets. -/
structure IsNamed (t name email : Text) : Prop where
  ne_nil : name ≠ []
  one_line : '\n' ∉ name
  cut : ∃ left, IsCut t left email ∧ Closes name left

/-- One character is name enough, unless it is a line break. -/
theorem isNamed_singleton {c : Char} {email : Text} (hc : c ≠ '\n') (hemail : email ≠ [])
    (hclose : '>' ∉ email) : IsNamed (c :: '<' :: (email ++ ['>'])) [c] email where
  ne_nil := by simp
  one_line := by simpa using hc.symm
  cut := ⟨[c], ⟨rfl, hemail, hclose⟩, false, [], rfl, rfl⟩

/-- What is read is a name of one line and an email. -/
theorem isNamed_of_splitName? {t name email : Text} (h : splitName? t = some (name, email)) :
    IsNamed t name email := by
  cases t with
  | nil => cases h
  | cons c t =>
    rw [splitName?] at h
    split at h
    · cases h
    · next left e hcut =>
      obtain ⟨heq, hne, hclose⟩ := isCut_of_cutEmail? hcut
      obtain ⟨closed, gap, hgap, hleft⟩ := closes_withoutClosingQuote left
      simp only at h
      split at h
      · cases h
      · next hline =>
        obtain ⟨rfl, rfl⟩ := Prod.mk.inj (Option.some.inj h)
        refine ⟨by simp, by simpa using hline, c :: left, ⟨by rw [heq]; rfl, hne, hclose⟩, ?_⟩
        exact ⟨closed, gap, hgap, congrArg (c :: ·) hleft⟩

/-- A name is found, and it is a start of every other one. -/
theorem exists_splitName?_of_isNamed {t name email : Text} (h : IsNamed t name email) :
    ∃ name' email', splitName? t = some (name', email') ∧ name' <+: name := by
  obtain ⟨hname, hline, left, ⟨rfl, hne, hclose⟩, closed, gap, hgap, rfl⟩ := h
  obtain ⟨c, n, rfl⟩ := List.exists_cons_of_ne_nil hname
  have hcloses : Closes n (n ++ quoteMark closed ++ gap) := ⟨closed, gap, hgap, rfl⟩
  obtain ⟨left', email', hcut, hleft⟩ := exists_cutEmail?_of_isCut ⟨rfl, hne, hclose⟩
  -- what is found ends no later than the name that is given
  have hprefix : withoutClosingQuote left' <+: n := by
    rcases hleft with hleft | ⟨m, hleft⟩
    · exact prefix_of_closes (hleft ▸ hcloses)
    · -- a later bracket makes the name longer
      obtain ⟨closed', gap', -, heq⟩ := closes_withoutClosingQuote left'
      have hshort : withoutClosingQuote left' <+: left' :=
        ⟨quoteMark closed' ++ gap', by rw [← List.append_assoc, ← heq]⟩
      exact hshort.trans (prefix_of_closes_append (hleft ▸ hcloses))
  have hcons : c :: withoutClosingQuote left' <+: c :: n := List.cons_prefix_cons.2 ⟨rfl, hprefix⟩
  have hcontains : (c :: withoutClosingQuote left').contains '\n' = false := by
    rw [Bool.eq_false_iff, Ne, List.contains_iff_mem]
    exact fun hmem => hline (hcons.subset hmem)
  refine ⟨c :: withoutClosingQuote left', email', ?_, hcons⟩
  rw [List.cons_append, List.cons_append, List.cons_append, splitName?, hcut]
  simp only [hcontains, Bool.false_eq_true, if_false]

/-- Nothing is found only where there is no name. -/
theorem splitName?_eq_none_iff {t : Text} :
    splitName? t = none ↔ ∀ name email, ¬ IsNamed t name email := by
  refine ⟨fun h name email hnamed => ?_, fun h => ?_⟩
  · obtain ⟨name', email', hfound, -⟩ := exists_splitName?_of_isNamed hnamed
    rw [h] at hfound
    exact nomatch hfound
  · exact Option.eq_none_iff_forall_ne_some.2 fun p hp => h p.1 p.2 (isNamed_of_splitName? hp)

/-- The email behind a name is determined. -/
theorem IsNamed.email_unique {t name email email' : Text} (h : IsNamed t name email)
    (h' : IsNamed t name email') : email = email' := by
  obtain ⟨-, -, left, ⟨rfl, -, -⟩, closed, gap, hgap, rfl⟩ := h
  obtain ⟨-, -, left', ⟨heq, -, -⟩, closed', gap', hgap', rfl⟩ := h'
  simp only [List.append_assoc, List.append_cancel_left_eq] at heq
  -- the first bracket behind the name opens the email
  have hcut := cut?_append_cons (bracket_not_mem_closing closed hgap) (email ++ ['>'])
  rw [List.append_assoc, heq, ← List.append_assoc,
    cut?_append_cons (bracket_not_mem_closing closed' hgap')] at hcut
  exact (List.append_cancel_right (Prod.mk.inj (Option.some.inj hcut)).2).symm

end Mailroom.Address
