import Mailroom.Proofs.Json.Grammar
import Mailroom.Proofs.Text.Trim

/-!
# Reading the tokens of JSON

Every reader consumes a piece of its text and leaves the rest.  Read upwards, a piece that is
written by the rules of the grammar is consumed whole, provided that the rest does not go on
with it; read downwards, what a reader consumes is written by the rules.

## Key results

* `readString_of_spells`, `exists_spells_of_readString`    strings, which end at their quote
* `readNumber_of_written`, `exists_written_of_readNumber`  numbers, which have no end of their own
-/

namespace Mailroom.Json

open Text

/-! ## White space -/

/-- White space is the space, the tab and the two characters of line breaks. -/
theorem isSpace_iff {c : Char} :
    isSpace c = true ↔ c = ' ' ∨ c = '\t' ∨ c = '\n' ∨ c = '\r' := by
  simp [isSpace, or_assoc]

/-- There may be no white space. -/
theorem isGap_nil : IsGap [] := by
  intro c hc
  cases hc

/-- What is skipped is white space. -/
theorem isGap_takeWhile (t : Text) : IsGap (t.takeWhile isSpace) := by
  intro c hc
  exact isSpace_iff.1 (List.all_eq_true.1 List.all_takeWhile c hc)

/-- A text is what is left of it behind white space. -/
theorem exists_eq_gap_append (t : Text) : ∃ gap, IsGap gap ∧ t = gap ++ skipSpace t :=
  ⟨t.takeWhile isSpace, isGap_takeWhile t, List.takeWhile_append_dropWhile.symm⟩

/-- White space in front makes no difference. -/
theorem skipSpace_gap_append {gap : Text} (hgap : IsGap gap) (t : Text) :
    skipSpace (gap ++ t) = skipSpace t :=
  List.dropWhile_append_of_pos fun c hc => isSpace_iff.2 (hgap c hc)

/-- Nothing is skipped before another character. -/
theorem skipSpace_cons {c : Char} (hc : isSpace c = false) (t : Text) :
    skipSpace (c :: t) = c :: t := by
  rw [skipSpace, List.dropWhile_cons_of_neg (by simp [hc])]

/-- White space is skipped up to the first character that is none. -/
theorem skipSpace_gap_append_cons {gap : Text} (hgap : IsGap gap) {c : Char}
    (hc : isSpace c = false) (t : Text) : skipSpace (gap ++ c :: t) = c :: t := by
  rw [skipSpace_gap_append hgap, skipSpace_cons hc]

/-! ## Strings -/

/-- A letter behind a backslash is read by the table of escapes. -/
theorem escaped?_eq_some_iff {c d : Char} : escaped? c = some d ↔ (c, d) ∈ escapes := by
  constructor
  · intro h
    unfold escaped? at h
    -- three characters stand for themselves, five letters for another character
    split at h
    · next hself =>
      simp only [Bool.or_eq_true, beq_iff_eq] at hself
      rw [Option.some.injEq] at h
      rcases hself with (rfl | rfl) | rfl <;> subst h <;> decide
    repeat'
      split at h
      · next hc =>
        rw [beq_iff_eq] at hc
        rw [Option.some.injEq] at h
        subst hc h
        decide
    cases h
  · intro h
    have hall : ∀ p ∈ escapes, escaped? p.1 = some p.2 := by decide
    exact hall (c, d) h

/-- A letter that stands for no code point stands for a single character. -/
theorem readString_escape {c d : Char} (h : (c, d) ∈ escapes) (t : Text) :
    readString ('\\' :: c :: t) = (readString t).map fun (s, left) => (d :: s, left) := by
  have hu : c ≠ 'u' := by
    have hall : ∀ p ∈ escapes, p.1 ≠ 'u' := by decide
    exact hall (c, d) h
  rw [readString.eq_4 c t fun _ _ _ _ _ hc _ => hu hc, escaped?_eq_some_iff.2 h]
  cases readString t <;> rfl

/-- What is spelled before a closing quote is read. -/
theorem readString_of_spells {t s : Text} (h : Spells t s) (rest : Text) :
    readString (t ++ '"' :: rest) = some (s, rest) := by
  induction h with
  | nil => rfl
  | @plain c t s hquote hescape hcontrol h ih =>
    -- the character is neither a quote, a backslash nor a control character
    have hself : ¬ (c == '\\' || decide (c.toNat < 0x20)) = true := by
      simp [hescape]
      omega
    rw [List.cons_append, readString.eq_5 c _ hquote (fun _ _ _ _ _ hc => absurd hc hescape)
      (fun _ _ hc => absurd hc hescape), if_neg hself, ih]
    rfl
  | escape hc h ih =>
    rw [List.cons_append, List.cons_append, readString_escape hc, ih]
    rfl
  | @unit a b c d n t s hn hscalar h ih =>
    -- the unit is a character of its own, no half of a pair
    have hhigh : isHighSurrogate n = false := by
      simp [isHighSurrogate]
      omega
    have hlow : isLowSurrogate n = false := by
      simp [isLowSurrogate]
      omega
    simp [readString, hn, hhigh, hlow, ih]
  | @pair a b c d a' b' c' d' m n t s hm hhigh hn hlow h ih =>
    -- the two units are the halves of one character
    have hhigh' : isHighSurrogate m = true := by simpa [isHighSurrogate] using hhigh
    have hlow' : isLowSurrogate n = true := by simpa [isLowSurrogate] using hlow
    simp [readString, hm, hhigh', hn, hlow', ih]

/-- What is read is spelled before a closing quote. -/
theorem exists_spells_of_readString {u s rest : Text} (h : readString u = some (s, rest)) :
    ∃ t, Spells t s ∧ u = t ++ '"' :: rest := by
  fun_induction readString u generalizing s with
  | case1 => cases h
  | case2 left =>
    obtain ⟨rfl, rfl⟩ : [] = s ∧ left = rest := by simpa using h
    exact ⟨[], .nil, rfl⟩
  | case3 a b c d left ihPair ih =>
    obtain ⟨m, hm, h⟩ := Option.bind_eq_some_iff.1 h
    split at h
    · next hhigh =>
      -- a first half goes on with a second one
      split at h
      · obtain ⟨n, hn, h⟩ := Option.bind_eq_some_iff.1 h
        split at h
        · next hlow =>
          obtain ⟨⟨s', left'⟩, hread, h⟩ := Option.bind_eq_some_iff.1 h
          obtain ⟨rfl, rfl⟩ := Prod.mk.inj (Option.some.inj h)
          obtain ⟨t, ht, rfl⟩ := ihPair hread
          simp only [isHighSurrogate, isLowSurrogate, Bool.and_eq_true, decide_eq_true_eq]
            at hhigh hlow
          exact ⟨_, .pair hm hhigh hn hlow ht, rfl⟩
        · cases h
      · cases h
    · next hhigh =>
      split at h
      · cases h
      · next hlow =>
        obtain ⟨⟨s', left'⟩, hread, h⟩ := Option.bind_eq_some_iff.1 h
        obtain ⟨rfl, rfl⟩ := Prod.mk.inj (Option.some.inj h)
        obtain ⟨t, ht, rfl⟩ := ih hread
        have hscalar : m < 0xD800 ∨ 0xE000 ≤ m := by
          simp only [isHighSurrogate, isLowSurrogate, Bool.and_eq_true, decide_eq_true_eq]
            at hhigh hlow
          omega
        exact ⟨_, .unit hm hscalar ht, rfl⟩
  | case4 c left hc ih =>
    obtain ⟨d, hd, h⟩ := Option.bind_eq_some_iff.1 h
    obtain ⟨⟨s', left'⟩, hread, h⟩ := Option.bind_eq_some_iff.1 h
    obtain ⟨rfl, rfl⟩ := Prod.mk.inj (Option.some.inj h)
    obtain ⟨t, ht, rfl⟩ := ih hread
    exact ⟨_, .escape (escaped?_eq_some_iff.1 hd) ht, rfl⟩
  | case5 => cases h
  | case6 c left hquote hunit hescape hself ih =>
    obtain ⟨⟨s', left'⟩, hread, h⟩ := Option.bind_eq_some_iff.1 h
    obtain ⟨rfl, rfl⟩ := Prod.mk.inj (Option.some.inj h)
    obtain ⟨t, ht, rfl⟩ := ih hread
    simp only [Bool.or_eq_true, beq_iff_eq, decide_eq_true_eq, not_or, Nat.not_lt] at hself
    exact ⟨_, .plain hquote hself.1 hself.2 ht, rfl⟩

/-! ## Numbers -/

/-- The text does not go on with a digit. -/
def EndsDigits (t : Text) : Prop := ∀ c ∈ t.head?, c.isDigit = false

/-- The digits at the start of a text, if there are any. -/
theorem isDigits_takeWhile {t : Text} (h : (t.takeWhile Char.isDigit).isEmpty = false) :
    IsDigits (t.takeWhile Char.isDigit) :=
  ⟨List.isEmpty_eq_false_iff.1 h, fun c hc => List.all_eq_true.1 List.all_takeWhile c hc⟩

/-- The digits before the point are read to their end. -/
theorem readIntegerPart_append {digits rest : Text} (h : IsIntegerPart digits)
    (hrest : EndsDigits rest) : readIntegerPart (digits ++ rest) = some (digits, rest) := by
  rcases h with rfl | ⟨⟨hne, hall⟩, hzero⟩
  · rfl
  · obtain ⟨c, digits, rfl⟩ := List.exists_cons_of_ne_nil hne
    -- a zero can only stand alone
    have hc : c ≠ '0' := by simpa using hzero
    have htake := takeWhile_append_of_head? hall hrest
    have hdrop := dropWhile_append_of_head? hall hrest
    rw [List.cons_append] at htake hdrop ⊢
    rw [readIntegerPart]
    · rw [htake, hdrop]
      rfl
    · -- only digits that start with a zero are read otherwise
      rintro u hu
      exact hc (List.cons.inj hu).1

/-- What is read before the point is the integer part of a number. -/
theorem isIntegerPart_of_readIntegerPart {t digits rest : Text}
    (h : readIntegerPart t = some (digits, rest)) : IsIntegerPart digits ∧ t = digits ++ rest := by
  unfold readIntegerPart at h
  split at h
  · obtain ⟨rfl, rfl⟩ := Prod.mk.inj (Option.some.inj h)
    exact ⟨.inl rfl, rfl⟩
  · next hzero =>
    dsimp only at h
    split at h
    · cases h
    · next hne =>
      obtain ⟨rfl, rfl⟩ := Prod.mk.inj (Option.some.inj h)
      refine ⟨.inr ⟨isDigits_takeWhile (by simpa using hne), ?_⟩,
        List.takeWhile_append_dropWhile.symm⟩
      -- the text does not start with a zero, so its digits do not either
      intro hhead
      obtain ⟨u, hu⟩ := List.head?_eq_some_iff.1 hhead
      exact hzero (u ++ t.dropWhile Char.isDigit) (by
        rw [← List.cons_append, ← hu, List.takeWhile_append_dropWhile])

/-- A fraction is read to its end. -/
theorem readFraction_append {fraction rest : Text} (h : IsFraction fraction)
    (hrest : EndsDigits rest) (hpoint : rest.head? ≠ some '.') :
    readFraction (fraction ++ rest) = some (fraction, rest) := by
  rcases h with rfl | ⟨digits, ⟨hne, hall⟩, rfl⟩
  · rw [List.nil_append, readFraction]
    rintro u rfl
    exact hpoint rfl
  · rw [List.cons_append, readFraction]
    simp only [takeWhile_append_of_head? hall hrest, dropWhile_append_of_head? hall hrest]
    rw [if_neg (by simpa using hne)]

/-- What is read behind the integer part is a fraction or nothing. -/
theorem isFraction_of_readFraction {t fraction rest : Text}
    (h : readFraction t = some (fraction, rest)) : IsFraction fraction ∧ t = fraction ++ rest := by
  unfold readFraction at h
  split at h
  · next u =>
    dsimp only at h
    split at h
    · cases h
    · next hne =>
      obtain ⟨rfl, rfl⟩ := Prod.mk.inj (Option.some.inj h)
      -- there are digits behind the point
      refine ⟨.inr ⟨_, isDigits_takeWhile (by simpa using hne), rfl⟩, ?_⟩
      rw [List.cons_append, List.takeWhile_append_dropWhile]
  · obtain ⟨rfl, rfl⟩ := Prod.mk.inj (Option.some.inj h)
    exact ⟨.inl rfl, rfl⟩

/-- An exponent is read to its end. -/
theorem readExponent_append {exponent rest : Text} (h : IsExponent exponent)
    (hrest : EndsDigits rest) (hletter : ∀ c ∈ rest.head?, c ≠ 'e' ∧ c ≠ 'E') :
    readExponent (exponent ++ rest) = some (exponent, rest) := by
  rcases h with rfl | ⟨e, sign, digits, he, hsign, ⟨hne, hall⟩, rfl⟩
  · cases rest with
    | nil => rfl
    | cons c rest =>
      have hc := hletter c rfl
      simp [readExponent, hc.1, hc.2]
  · -- the digits start with a digit, which is no sign
    obtain ⟨d, digits, rfl⟩ := List.exists_cons_of_ne_nil hne
    have hd : d ≠ '+' ∧ d ≠ '-' := by
      have hdigit := hall d List.mem_cons_self
      constructor <;> rintro rfl <;> exact absurd hdigit (by decide)
    have htake := takeWhile_append_of_head? hall hrest
    have hdrop := dropWhile_append_of_head? hall hrest
    simp only [List.cons_append] at htake hdrop
    have hletter : (e == 'e' || e == 'E') = true := by simpa using he
    rcases hsign with rfl | rfl | rfl <;>
      simp [readExponent, hletter, hd.1, hd.2, htake, hdrop]

/-- A sign may stand before the digits of an exponent. -/
theorem exists_eq_sign_append (u : Text) :
    ∃ sign : Text, (sign = [] ∨ sign = ['+'] ∨ sign = ['-']) ∧
      (u.take 1).filter (fun s => s == '+' || s == '-') = sign ∧
        u = sign ++ u.drop sign.length := by
  cases u with
  | nil => exact ⟨[], .inl rfl, rfl, rfl⟩
  | cons c u =>
    by_cases hplus : c = '+'
    · subst hplus
      exact ⟨['+'], .inr (.inl rfl), rfl, rfl⟩
    · by_cases hminus : c = '-'
      · subst hminus
        exact ⟨['-'], .inr (.inr rfl), rfl, rfl⟩
      · exact ⟨[], .inl rfl, by simp [hplus, hminus], rfl⟩

/-- What is read behind the fraction is an exponent or nothing. -/
theorem isExponent_of_readExponent {t exponent rest : Text}
    (h : readExponent t = some (exponent, rest)) : IsExponent exponent ∧ t = exponent ++ rest := by
  unfold readExponent at h
  split at h
  · obtain ⟨rfl, rfl⟩ := Prod.mk.inj (Option.some.inj h)
    exact ⟨.inl rfl, rfl⟩
  · next e u =>
    -- a sign may stand between the letter and the digits
    obtain ⟨sign, hsign, hfilter, hu⟩ := exists_eq_sign_append u
    split at h
    · next he =>
      rw [hfilter] at h
      dsimp only at h
      split at h
      · cases h
      · next hne =>
        obtain ⟨rfl, rfl⟩ := Prod.mk.inj (Option.some.inj h)
        refine ⟨.inr ⟨e, sign, _, by simpa using he, hsign,
          isDigits_takeWhile (by simpa using hne), rfl⟩, ?_⟩
        rw [List.cons_append, List.cons_append, List.append_assoc,
          List.takeWhile_append_dropWhile, ← hu]
    · obtain ⟨rfl, rfl⟩ := Prod.mk.inj (Option.some.inj h)
      exact ⟨.inl rfl, rfl⟩

/-- The characters that may stand after a number. -/
def ends : List Char := [' ', '\t', '\n', '\r', ',', ']', '\x7d']

/-- The text does not go on with a number: nothing is left, or white space, or the end of an
item or of a member. -/
def EndsNumber (t : Text) : Prop := ∀ c ∈ t.head?, c ∈ ends

/-- What a number with the given parts stands for. -/
def numberOf (sign digits fraction exponent : Text) : Number :=
  if fraction = [] ∧ exponent = [] ∧ ¬ (sign = ['-'] ∧ natOfDigits digits = 0) then
    .integer (if sign = ['-'] then -(natOfDigits digits : Int) else natOfDigits digits)
  else .decimal (sign ++ digits ++ fraction ++ exponent)

/-- The parts of a number that is written. -/
structure NumberParts where
  sign : Text
  digits : Text
  fraction : Text
  exponent : Text
  isSign : sign = [] ∨ sign = ['-']
  isInteger : IsIntegerPart digits
  isFraction : IsFraction fraction
  isExponent : IsExponent exponent

namespace NumberParts

/-- The number as it is written. -/
def text (p : NumberParts) : Text := p.sign ++ p.digits ++ p.fraction ++ p.exponent

/-- What the number stands for. -/
def number (p : NumberParts) : Number := numberOf p.sign p.digits p.fraction p.exponent

/-- The parts of a number spell it. -/
theorem written (p : NumberParts) : WrittenNumber p.number p.text := by
  obtain ⟨sign, digits, fraction, exponent, hsign, hdigits, hfraction, hexponent⟩ := p
  unfold number text numberOf
  split
  · next h =>
    -- without fraction and exponent the number is an integer, except for minus zero
    obtain ⟨rfl, rfl, hzero⟩ := h
    rw [List.append_nil, List.append_nil]
    rcases hsign with rfl | rfl
    · exact .nat hdigits
    · exact .neg hdigits fun h => hzero ⟨rfl, h⟩
  · next h =>
    refine .decimal hsign hdigits hfraction hexponent ?_
    grind

end NumberParts

/-- Every spelling of a number has its parts. -/
theorem WrittenNumber.exists_parts {n : Number} {t : Text} (h : WrittenNumber n t) :
    ∃ p : NumberParts, p.number = n ∧ p.text = t := by
  cases h with
  | nat h =>
    exact ⟨⟨[], t, [], [], .inl rfl, h, .inl rfl, .inl rfl⟩,
      by simp [NumberParts.number, numberOf], by simp [NumberParts.text]⟩
  -- a whole number has no fraction and no exponent
  | @neg digits h hne =>
    exact ⟨⟨['-'], digits, [], [], .inr rfl, h, .inl rfl, .inl rfl⟩,
      by simp [NumberParts.number, numberOf, hne], by simp [NumberParts.text]⟩
  | @decimal sign digits fraction exponent hsign hdigits hfraction hexponent h =>
    refine ⟨⟨sign, digits, fraction, exponent, hsign, hdigits, hfraction, hexponent⟩, ?_, rfl⟩
    rw [NumberParts.number, numberOf, if_neg]
    grind

/-- The integer part starts with a digit, which tells it apart from a sign before it. -/
theorem IsIntegerPart.exists_cons {digits : Text} (h : IsIntegerPart digits) :
    ∃ d u, digits = d :: u ∧ d.isDigit = true := by
  rcases h with rfl | ⟨⟨hne, hall⟩, -⟩
  · exact ⟨'0', [], rfl, by decide⟩
  · obtain ⟨d, u, rfl⟩ := List.exists_cons_of_ne_nil hne
    exact ⟨d, u, rfl, hall d List.mem_cons_self⟩

/-- The parts of a number end where the next one starts. -/
theorem endsNumber_parts {fraction exponent rest : Text} (hfraction : IsFraction fraction)
    (hexponent : IsExponent exponent) (hrest : EndsNumber rest) :
    EndsDigits (fraction ++ (exponent ++ rest)) ∧ EndsDigits (exponent ++ rest) ∧
      (exponent ++ rest).head? ≠ some '.' := by
  have hend : EndsDigits rest ∧ rest.head? ≠ some '.' := by
    have hall : ends.all (fun c => !c.isDigit && c != '.') = true := by decide
    have hend : ∀ c ∈ ends, c.isDigit = false ∧ c ≠ '.' := by simpa using hall
    exact ⟨fun c hc => (hend c (hrest c hc)).1, fun hc => (hend '.' (hrest '.' hc)).2 rfl⟩
  -- an exponent starts with a letter, and a fraction with a point
  have hexp : EndsDigits (exponent ++ rest) ∧ (exponent ++ rest).head? ≠ some '.' := by
    rcases hexponent with rfl | ⟨e, sign, digits, rfl | rfl, -, -, rfl⟩
    · exact hend
    · simp [EndsDigits]
    · simp [EndsDigits]
  refine ⟨?_, hexp⟩
  rcases hfraction with rfl | ⟨digits, -, rfl⟩
  · exact hexp.1
  · simp [EndsDigits]

/-- The parts of a number, one after the other. -/
theorem readNumber_eq {sign t : Text}
    (hsign : sign = [] ∧ t.head? ≠ some '-' ∨ sign = ['-']) :
    readNumber (sign ++ t) = do
      let (digits, t) ← readIntegerPart t
      let (fraction, t) ← readFraction t
      let (exponent, t) ← readExponent t
      return (numberOf sign digits fraction exponent, t) := by
  unfold readNumber
  rcases hsign with ⟨rfl, hhead⟩ | rfl
  · have hnegative : (([] ++ t).head? == some '-') = false := by simpa using hhead
    simp only [hnegative]
    refine bind_congr fun (digits, _) => bind_congr fun (fraction, _) =>
      bind_congr fun (exponent, _) => ?_
    simp [numberOf]
    split <;> rfl
  · -- the minus sign makes the integer negative
    have hnegative : ((['-'] ++ t).head? == some '-') = true := rfl
    simp only [hnegative]
    refine bind_congr fun (digits, _) => bind_congr fun (fraction, _) =>
      bind_congr fun (exponent, _) => ?_
    simp [numberOf, and_assoc]
    split <;> rfl

/-- A number that is written is read, if the text does not go on with it. -/
theorem NumberParts.readNumber_text_append (p : NumberParts) {rest : Text}
    (hrest : EndsNumber rest) : readNumber (p.text ++ rest) = some (p.number, rest) := by
  obtain ⟨hafterDigits, hafterFraction, hpoint⟩ :=
    endsNumber_parts p.isFraction p.isExponent hrest
  have hafterExponent : EndsDigits rest := (endsNumber_parts (.inl rfl) (.inl rfl) hrest).1
  have hletter : ∀ c ∈ rest.head?, c ≠ 'e' ∧ c ≠ 'E' := by
    have hall : ends.all (fun c => c != 'e' && c != 'E') = true := by decide
    have hend : ∀ c ∈ ends, c ≠ 'e' ∧ c ≠ 'E' := by simpa using hall
    exact fun c hc => hend c (hrest c hc)
  -- a number without a sign is not read as one with a sign
  have hhead : (p.digits ++ (p.fraction ++ (p.exponent ++ rest))).head? ≠ some '-' := by
    obtain ⟨d, u, hdigits, hd⟩ := p.isInteger.exists_cons
    rw [hdigits]
    intro h
    obtain rfl : d = '-' := by simpa using h
    exact absurd hd (by decide)
  simp only [text, List.append_assoc]
  rw [readNumber_eq (p.isSign.imp_left fun h => ⟨h, hhead⟩)]
  simp [readIntegerPart_append p.isInteger hafterDigits,
    readFraction_append p.isFraction hafterFraction hpoint,
    readExponent_append p.isExponent hafterExponent hletter, number]

/-- What is read as a number is written as one. -/
theorem exists_parts_of_readNumber {u rest : Text} {n : Number}
    (h : readNumber u = some (n, rest)) :
    ∃ p : NumberParts, p.number = n ∧ u = p.text ++ rest := by
  obtain ⟨sign, t, hsign, hpre, rfl⟩ : ∃ sign t, (sign = [] ∨ sign = ['-']) ∧
      (sign = [] ∧ t.head? ≠ some '-' ∨ sign = ['-']) ∧ u = sign ++ t := by
    by_cases hhead : u.head? = some '-'
    · obtain ⟨t, rfl⟩ := List.head?_eq_some_iff.1 hhead
      exact ⟨['-'], t, .inr rfl, .inr rfl, rfl⟩
    · exact ⟨[], u, .inl rfl, .inl ⟨rfl, hhead⟩, rfl⟩
  -- the three readers take the parts off one after the other
  rw [readNumber_eq hpre] at h
  obtain ⟨⟨digits, t₁⟩, hreadDigits, h⟩ := Option.bind_eq_some_iff.1 h
  obtain ⟨⟨fraction, t₂⟩, hreadFraction, h⟩ := Option.bind_eq_some_iff.1 h
  obtain ⟨⟨exponent, t₃⟩, hreadExponent, h⟩ := Option.bind_eq_some_iff.1 h
  obtain ⟨rfl, rfl⟩ := Prod.mk.inj (Option.some.inj h)
  obtain ⟨hdigits, rfl⟩ := isIntegerPart_of_readIntegerPart hreadDigits
  obtain ⟨hfraction, rfl⟩ := isFraction_of_readFraction hreadFraction
  obtain ⟨hexponent, rfl⟩ := isExponent_of_readExponent hreadExponent
  exact ⟨⟨sign, digits, fraction, exponent, hsign, hdigits, hfraction, hexponent⟩, rfl,
    by simp [NumberParts.text]⟩

/-- A number is read to its end. -/
theorem readNumber_of_written {n : Number} {t : Text} (h : WrittenNumber n t) {rest : Text}
    (hrest : EndsNumber rest) : readNumber (t ++ rest) = some (n, rest) := by
  obtain ⟨p, rfl, rfl⟩ := h.exists_parts
  exact p.readNumber_text_append hrest

/-- What is read as a number spells it. -/
theorem exists_written_of_readNumber {u rest : Text} {n : Number}
    (h : readNumber u = some (n, rest)) : ∃ t, WrittenNumber n t ∧ u = t ++ rest := by
  obtain ⟨p, rfl, hu⟩ := exists_parts_of_readNumber h
  exact ⟨p.text, p.written, hu⟩

end Mailroom.Json
