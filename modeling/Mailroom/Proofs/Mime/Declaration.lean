import Mailroom.Proofs.Mime.Boundary
import Mailroom.Proofs.Text.Occurrence

/-!
# Declarations of a boundary

A text may mention the word that declares a boundary any number of times, in any case and without
declaring one.  Behind the word, a declaration has an equals sign and a token, with white space
before either of them, and something is left of the token without its quotes.  The first
declaration counts, and what does not declare a boundary hides none: the search goes on right
behind the word, and no two occurrences of the word overlap.

What a token and a declaration are is said here without the reader.

## Key results

* `isToken_iff`              the token at the start of a text
* `unquotes_iff`             what is left of a token
* `declared?_eq_some_iff`    what the text behind the word assigns
* `find?_eq_findSome?`       the search as a run over the occurrences of the word
* `find?_first_assigned`     the boundary that is found is the first that is declared
-/

namespace Mailroom.Mime.Boundary

open Text

/-- The character may open a token, which then goes up to the next one like it. -/
def IsQuote (c : Char) : Prop := c = '"' ∨ c = '\''

/-- A quote is no white space. -/
theorem IsQuote.isBlank_eq_false {c : Char} (h : IsQuote c) : isBlank c = false := by
  rcases h with rfl | rfl <;> decide

/-- A pair of either quote is taken off a value. -/
theorem IsQuote.unquote_eq {quote : Char} (h : IsQuote quote) (inside : Text) :
    unquote (quote :: (inside ++ [quote])) = trim inside := by
  rcases h with rfl | rfl
  · exact unquote_quoted inside
  · exact unquote_singleQuoted inside

/-! ## Tokens -/

/-- The token that a text starts with.  The line break that ends a token without a closing quote is
LF; a CR before it is taken off with the other white space. -/
inductive IsToken : Text → Text → Prop
  | closed {quote : Char} {raw rest : Text} (hquote : IsQuote quote) (hraw : quote ∉ raw) :
      IsToken (quote :: (raw ++ quote :: rest)) raw
  | unclosed {quote : Char} {raw rest : Text} (hquote : IsQuote quote)
      (hopen : quote ∉ raw ++ rest) (hline : '\n' ∉ raw) (hend : ∀ c ∈ rest.head?, c = '\n') :
      IsToken (quote :: (raw ++ rest)) raw
  | bare {raw rest : Text} (hstart : ∀ c ∈ (raw ++ rest).head?, ¬ IsQuote c)
      (hraw : ∀ c ∈ raw, c ≠ ';' ∧ isBlank c = false)
      (hend : ∀ c ∈ rest.head?, c = ';' ∨ isBlank c = true) : IsToken (raw ++ rest) raw

variable {t raw value b : Text}

/-- Behind a quote the token goes up to the next one like it, or else to the end of the line. -/
theorem token_quote {quote : Char} (hquote : IsQuote quote) (inner : Text) :
    token (quote :: inner) = ((cut? [quote] inner).map (·.1)).getD (firstLine inner) := by
  have hcond : (quote == '"' || quote == '\'') = true := by simpa [IsQuote] using hquote
  rw [token, if_pos hcond]
  cases cut? [quote] inner <;> rfl

/-- The character belongs to a token without quotes. -/
def isBare (c : Char) : Bool := !(c == ';' || isBlank c)

/-- Such a character is no semicolon and no white space. -/
theorem isBare_iff {c : Char} : isBare c = true ↔ c ≠ ';' ∧ isBlank c = false := by
  simp [isBare]

/-- A token without quotes ends at a semicolon or at white space. -/
theorem isBare_eq_false_iff {c : Char} : isBare c = false ↔ c = ';' ∨ isBlank c = true := by
  simp only [isBare, Bool.not_eq_false', Bool.or_eq_true, beq_iff_eq]

/-- Where no quote opens it, the token is what belongs to it from the start. -/
theorem token_bare (hstart : ∀ c ∈ t.head?, ¬ IsQuote c) : token t = t.takeWhile isBare := by
  cases t with
  | nil => rfl
  | cons c t =>
    have hcond : ¬ (c == '"' || c == '\'') = true := by simpa [IsQuote] using hstart c rfl
    rw [token, if_neg hcond]
    rfl

/-- A text that starts with no quote has a token up to the first semicolon or white space. -/
theorem isToken_takeWhile (hstart : ∀ c ∈ t.head?, ¬ IsQuote c) :
    IsToken t (t.takeWhile isBare) := by
  have hself : t.takeWhile isBare ++ t.dropWhile isBare = t := List.takeWhile_append_dropWhile
  have hbare : IsToken (t.takeWhile isBare ++ t.dropWhile isBare) (t.takeWhile isBare) := by
    refine .bare (by rwa [hself]) (fun c hc => ?_) fun c hc => ?_
    · exact isBare_iff.1 (List.all_eq_true.1 List.all_takeWhile c hc)
    · exact isBare_eq_false_iff.1 (not_of_head?_dropWhile hc)
  rwa [hself] at hbare

/-- A quote that is not closed has a token up to the end of the line. -/
theorem isToken_firstLine {quote : Char} {inner : Text} (hquote : IsQuote quote)
    (hopen : quote ∉ inner) : IsToken (quote :: inner) (firstLine inner) := by
  have hself : firstLine inner ++ inner.dropWhile (· != '\n') = inner :=
    List.takeWhile_append_dropWhile
  have hunclosed : IsToken (quote :: (firstLine inner ++ inner.dropWhile (· != '\n')))
      (firstLine inner) := by
    refine .unclosed hquote (by rwa [hself]) (newline_not_mem_firstLine inner) fun c hc => ?_
    simpa using not_of_head?_dropWhile hc
  rwa [hself] at hunclosed

/-- What is read as the token of a text is its token. -/
theorem isToken_token (t : Text) : IsToken t (token t) := by
  by_cases hstart : ∀ c ∈ t.head?, ¬ IsQuote c
  · rw [token_bare hstart]
    exact isToken_takeWhile hstart
  · cases t with
    | nil => exact absurd (by simp) hstart
    | cons quote inner =>
      have hquote : IsQuote quote := by simpa using hstart
      rw [token_quote hquote]
      -- the token is closed, or the quote stands there alone
      cases hcut : cut? [quote] inner with
      | some sides =>
        have hinner := cut?_eq_some hcut
        rw [List.append_assoc, List.singleton_append] at hinner
        rw [hinner]
        exact .closed hquote (not_mem_of_cut? hcut)
      | none =>
        rw [cut?_eq_none_iff, singleton_infix_iff] at hcut
        exact isToken_firstLine hquote hcut

/-- A text starts with one token. -/
theorem isToken_iff : IsToken t raw ↔ token t = raw := by
  constructor
  · intro h
    cases h with
    | closed hquote hraw =>
      rw [token_quote hquote, cut?_append_cons hraw]
      rfl
    | @unclosed quote raw rest hquote hopen hline hend =>
      have hcut : cut? [quote] (raw ++ rest) = none := by
        rwa [cut?_eq_none_iff, singleton_infix_iff]
      -- the token ends with the line, which ends where `raw` does
      have hfirst : firstLine (raw ++ rest) = raw := by
        refine takeWhile_append_of_head? (newline_not_mem_iff.1 hline) fun c hc => ?_
        simp [hend c hc]
      rw [token_quote hquote, hcut, hfirst]
      rfl
    | bare hstart hraw hend =>
      rw [token_bare hstart]
      exact takeWhile_append_of_head? (fun c hc => isBare_iff.2 (hraw c hc))
        fun c hc => isBare_eq_false_iff.2 (hend c hc)
  · rintro rfl
    exact isToken_token t

/-! ## Without quotes -/

/-- The value is left of a token without the white space at its ends, one pair of quotes around
that and the white space within them. -/
inductive Unquotes : Text → Text → Prop
  | paired {quote : Char} {before after inside value : Text} (hquote : IsQuote quote)
      (hbefore : isBlankText before = true) (hafter : isBlankText after = true)
      (hvalue : trim inside = value) :
      Unquotes (before ++ quote :: (inside ++ [quote]) ++ after) value
  | plain {before after value : Text} (hbefore : isBlankText before = true)
      (hafter : isBlankText after = true) (hvalue : trim value = value)
      (hpair : ∀ quote inside, IsQuote quote → value ≠ quote :: (inside ++ [quote])) :
      Unquotes (before ++ value ++ after) value

/-- Unquoting takes off what `Unquotes` describes, and gives nothing else. -/
theorem unquotes_iff : Unquotes raw value ↔ unquote raw = value := by
  constructor
  · intro h
    cases h with
    | paired hquote hbefore hafter hvalue =>
      rw [unquote, trim_append_blank hbefore hafter, ← unquote, hquote.unquote_eq, hvalue]
    | plain hbefore hafter hvalue hpair =>
      rw [unquote, trim_append_blank hbefore hafter, ← unquote]
      exact unquote_eq_self hvalue (fun u => hpair _ u (.inl rfl)) (fun u => hpair _ u (.inr rfl))
  · rintro rfl
    obtain ⟨before, after, hbefore, hafter, hraw⟩ := exists_eq_append_trim raw
    -- quotes go by what the trimmed token starts and ends with
    have htrim : unquote raw = unquote (trim raw) := by rw [unquote, unquote, trim_trim]
    rw [htrim]
    conv => lhs; rw [hraw]
    by_cases hpair : ∃ quote inside, IsQuote quote ∧ trim raw = quote :: (inside ++ [quote])
    · obtain ⟨quote, inside, hquote, hinside⟩ := hpair
      rw [hinside, hquote.unquote_eq]
      exact .paired hquote hbefore hafter rfl
    · have hplain : ∀ quote inside, IsQuote quote → trim raw ≠ quote :: (inside ++ [quote]) :=
        fun quote inside hquote heq => hpair ⟨quote, inside, hquote, heq⟩
      rw [unquote_eq_self (trim_trim raw) (fun u => hplain _ u (.inl rfl))
        (fun u => hplain _ u (.inr rfl))]
      exact .plain hbefore hafter (trim_trim raw) hplain

/-! ## Assignments -/

/-- The text behind the word assigns the boundary. -/
inductive Assigns : Text → Text → Prop
  | mk {gap gap' t raw b : Text} (hgap : isBlankText gap = true) (hgap' : isBlankText gap' = true)
      (htoken : IsToken t raw) (hraw : Unquotes raw b) (hne : b ≠ []) :
      Assigns (gap ++ '=' :: (gap' ++ t)) b

/-- White space is no token of which something is left. -/
theorem IsToken.trimStart_eq_self (h : IsToken t raw) (hne : unquote raw ≠ []) :
    trimStart t = t := by
  apply Text.trimStart_eq_self
  intro c hc
  -- it starts with its quote or with a character of its own
  cases h with
  | closed hquote => exact Option.some.inj hc ▸ hquote.isBlank_eq_false
  | unclosed hquote => exact Option.some.inj hc ▸ hquote.isBlank_eq_false
  | bare _ hraw =>
    cases raw with
    | nil => exact absurd rfl hne
    | cons d raw =>
      rw [← Option.some.inj hc]
      exact (hraw d List.mem_cons_self).2

/-- What is read behind the word is what is assigned there. -/
theorem declared?_eq_some_iff : declared? t = some b ↔ Assigns t b := by
  constructor
  · intro h
    rw [declared?] at h
    obtain ⟨after, hafter, hread⟩ := Option.bind_eq_some_iff.1 h
    simp only at hread
    split at hread
    · exact absurd hread.symm (Option.some_ne_none b)
    · next hne =>
      rw [Option.some.injEq] at hread
      obtain ⟨gap, hgap, ht⟩ := exists_eq_append_trimStart t
      obtain ⟨gap', hgap', hvalue⟩ := exists_eq_append_trimStart after
      -- what is read is put together again: white space, the sign, white space and the value
      have hnext : t = gap ++ '=' :: (gap' ++ trimStart after) := by
        rw [← hvalue, ← List.singleton_append, ← after?_eq_some_iff.1 hafter, ← ht]
      rw [hnext]
      refine .mk hgap hgap' (isToken_token _) (unquotes_iff.2 hread) ?_
      rw [← hread]
      simpa using hne
  · intro h
    cases h with
    | @mk gap gap' t raw _ hgap hgap' htoken hraw hne =>
      rw [unquotes_iff] at hraw
      subst hraw
      have hequals : trimStart ('=' :: (gap' ++ t)) = '=' :: (gap' ++ t) := rfl
      have hvalue : trimStart (gap' ++ t) = t := by
        rw [trimStart_append_blank hgap', htoken.trimStart_eq_self hne]
      rw [declared?, trimStart_append_blank hgap, hequals,
        after?_eq_some_iff.2 (List.singleton_append).symm, Option.bind_some, hvalue,
        isToken_iff.1 htoken, if_neg (by simpa using hne)]

/-! ## The first declaration -/

/-- The search takes what is read behind the first occurrence of the word where there is
something. -/
theorem find?_eq_findSome? {tails : List Text} (h : Scan "boundary".toList t tails) :
    find? t = tails.findSome? declared? := by
  -- the induction is on the run of the search, so the word has to be a variable
  generalize hword : "boundary".toList = word at h
  induction h with
  | done hnone =>
    subst hword
    exact find?_eq_none (cutAnyCase?_eq_none_iff.2 hnone)
  | next hoccurs hfirst hrest ih =>
    subst hword
    rw [find?_eq_or (cutAnyCase?_eq_some_iff.2 ⟨hoccurs, hfirst⟩), ih, List.findSome?_cons]
    cases declared? _ <;> rfl

/-- The word occurs in a text at certain places, which a search meets one after the other from left
to right.  No boundary is found where none of them is followed by a declaration.  Otherwise the
first declaration counts, and what it declares is a piece of the text as it stands there, not empty
and without white space at its ends. -/
theorem find?_first_assigned (t : Text) : ∃ tails,
    (∀ tails', Scan "boundary".toList t tails' ↔ tails' = tails) ∧
    (∀ after, after ∈ tails ↔ ∃ before, Occurs "boundary".toList t before after) ∧
    tails.Pairwise (fun u v => v.length < u.length) ∧
    (find? t = none ↔ ∀ after ∈ tails, ∀ b, ¬ Assigns after b) ∧
    (∀ b, find? t = some b ↔ ∃ earlier after later, tails = earlier ++ after :: later ∧
      Assigns after b ∧ ∀ u ∈ earlier, ∀ c, ¬ Assigns u c) ∧
    ∀ b, find? t = some b → b ≠ [] ∧ b <:+: t ∧ trim b = b := by
  have hword : "boundary".toList ≠ [] := by decide
  -- the tails behind the occurrences, in the order of the scan
  obtain ⟨tails, hscan⟩ := exists_scan hword t
  have hnone : ∀ u, declared? u = none ↔ ∀ b, ¬ Assigns u b := by
    intro u
    rw [Option.eq_none_iff_forall_ne_some]
    exact forall_congr' fun b => not_congr declared?_eq_some_iff
  refine ⟨tails, fun tails' => ⟨fun h => h.unique hscan, fun h => h ▸ hscan⟩,
    fun after => hscan.mem_iff (by decide), (List.pairwise_cons.1 (hscan.pairwise hword)).2,
    ?_, fun b => ?_, fun b h => ?_⟩
  · rw [find?_eq_findSome? hscan, List.findSome?_eq_none_iff]
    exact forall₂_congr fun u _ => hnone u
  · rw [find?_eq_findSome? hscan, List.findSome?_eq_some_iff]
    simp only [declared?_eq_some_iff, hnone]
  · have hvalue := isValueOf_of_find? h
    exact ⟨ne_nil_of_find? h, hvalue.piece, hvalue.trimmed⟩

/-- A text that mentions the word, declares nothing under it and then a boundary. -/
def mentions : Text := "No boundary: Boundary=''; BOUNDARY \t= \"aBc \r\n".toList

/-- The boundary is declared behind the last mention, as it is written. -/
theorem find?_first_assigned_mentions :
    find? mentions = some "aBc".toList ∧
      (∃ before after, Occurs "boundary".toList mentions before after ∧
        Assigns after "aBc".toList) ∧
      "aBc".toList <:+: mentions ∧ trim "aBc".toList = "aBc".toList := by
  obtain ⟨tails, -, hmem, -, -, hsome, hvalue⟩ := find?_first_assigned mentions
  have hfind : find? mentions = some "aBc".toList := by decide +kernel
  obtain ⟨earlier, after, later, rfl, hassigns, -⟩ := (hsome _).1 hfind
  obtain ⟨before, hoccurs⟩ := (hmem after).1 (by simp)
  exact ⟨hfind, ⟨before, after, hoccurs, hassigns⟩, (hvalue _ hfind).2⟩

end Mailroom.Mime.Boundary
