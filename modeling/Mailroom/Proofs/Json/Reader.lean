import Mailroom.Proofs.Json.Token

/-!
# The reader of JSON reads its grammar

Every rule of the grammar is followed by a reader, and every reader follows a rule.  The first
is an induction on what is written, the second an induction on the fuel, which all three
readers of values share.  Numbers have no end of their own, so a value has to stand before
white space or before the end of what it is part of.

## Key results

* `reads_of_written`    what is written is read
* `sound`               what is read is written
* `parse?_eq_some_iff`  whole texts
-/

namespace Mailroom.Json

open Text

/-! ## How a value starts -/

/-- A reader of values skips the white space before a value. -/
theorem readValue_gap_append {gap : Text} (hgap : IsGap gap) (fuel : Nat) (t : Text) :
    readValue fuel (gap ++ t) = readValue fuel t := by
  cases fuel with
  | zero => rfl
  | succ fuel => rw [readValue, readValue, skipSpace_gap_append hgap]

/-- A quote starts a string. -/
theorem readValue_quote (fuel : Nat) (t : Text) :
    readValue (fuel + 1) ('"' :: t) = (readString t).map fun (s, left) => (.string s, left) :=
  rfl

/-- A bracket starts an array, which is empty if it is closed at once. -/
theorem readValue_bracket (fuel : Nat) (t : Text) :
    readValue (fuel + 1) ('[' :: t) =
      match skipSpace t with
      | ']' :: left => some (.array [], left)
      | _ => (readItems fuel t).map fun (items, left) => (.array items, left) :=
  rfl

/-- A brace starts an object, which is empty if it is closed at once. -/
theorem readValue_brace (fuel : Nat) (t : Text) :
    readValue (fuel + 1) ('\x7b' :: t) =
      match skipSpace t with
      | '\x7d' :: left => some (.object [], left)
      | _ => (readMembers fuel t).map fun (members, left) => (.object members, left) :=
  rfl

/-- A character that a number may start with. -/
def startsNumber (c : Char) : Bool := c == '-' || c.isDigit

/-- A character that starts a number differs from any that does not. -/
theorem ne_of_startsNumber {c d : Char} (hc : startsNumber c = true)
    (hd : startsNumber d = false := by decide) : c ≠ d := by
  rintro rfl
  exact Bool.false_ne_true (hd.symm.trans hc)

/-- White space starts no number. -/
theorem not_isSpace_of_startsNumber {c : Char} (hc : startsNumber c = true) :
    isSpace c = false := by
  refine Bool.eq_false_iff.2 fun hspace => ?_
  rcases isSpace_iff.1 hspace with rfl | rfl | rfl | rfl <;> exact absurd hc (by decide)

/-- A number starts with a digit or a minus sign. -/
theorem exists_cons_of_writtenNumber {n : Number} {t : Text} (h : WrittenNumber n t) :
    ∃ c u, t = c :: u ∧ startsNumber c = true := by
  obtain ⟨p, -, rfl⟩ := h.exists_parts
  rw [NumberParts.text]
  rcases p.isSign with hsign | hsign <;> rw [hsign]
  · obtain ⟨d, u, hdigits, hd⟩ := p.isInteger.exists_cons
    rw [hdigits]
    exact ⟨d, _, rfl, by simp [startsNumber, hd]⟩
  · exact ⟨'-', _, rfl, rfl⟩

/-- A digit or a minus sign starts a number. -/
theorem readValue_number {c : Char} (hc : startsNumber c = true) (fuel : Nat) (t : Text) :
    readValue (fuel + 1) (c :: t) =
      (readNumber (c :: t)).map fun (n, left) => (.number n, left) := by
  have hn : c ≠ 'n' := ne_of_startsNumber hc
  have ht : c ≠ 't' := ne_of_startsNumber hc
  have hf : c ≠ 'f' := ne_of_startsNumber hc
  have hquote : c ≠ '"' := ne_of_startsNumber hc
  have hbracket : c ≠ '[' := ne_of_startsNumber hc
  have hbrace : c ≠ '\x7b' := ne_of_startsNumber hc
  rw [readValue, skipSpace_cons (not_isSpace_of_startsNumber hc)]
  split <;> simp_all

/-- A value starts with a character of its own. -/
theorem exists_cons_of_written {v : Json} {t : Text} (h : Written (.value v) t) :
    ∃ c u, t = c :: u ∧ isSpace c = false ∧ c ≠ ']' := by
  cases h with
  | number h =>
    obtain ⟨c, u, rfl, hc⟩ := exists_cons_of_writtenNumber h
    exact ⟨c, u, rfl, not_isSpace_of_startsNumber hc, ne_of_startsNumber hc⟩
  | _ => exact ⟨_, _, rfl, by decide, by decide⟩

/-- The items of an array do not start with its closing bracket. -/
theorem exists_cons_of_written_items {items : List Json} {t : Text}
    (h : Written (.items items) t) (rest : Text) :
    ∃ c u, skipSpace (t ++ rest) = c :: u ∧ c ≠ ']' := by
  -- all that matters is the first item, which is a value behind white space
  have hitem : ∀ {v t}, Written (.item v) t → ∀ rest,
      ∃ c u, skipSpace (t ++ rest) = c :: u ∧ c ≠ ']' := by
    intro v t h rest
    cases h with
    | item hbefore h hafter =>
      obtain ⟨c, u, rfl, hc, hne⟩ := exists_cons_of_written h
      simp only [List.append_assoc, List.cons_append]
      exact ⟨c, _, skipSpace_gap_append_cons hbefore hc _, hne⟩
  cases h with
  | lastItem h => exact hitem h rest
  | nextItem h hrest =>
    rw [List.append_assoc]
    exact hitem h _

/-- The members of an object start with a quote. -/
theorem exists_quote_of_written_members {members : List (Text × Json)} {t : Text}
    (h : Written (.members members) t) (rest : Text) :
    ∃ u, skipSpace (t ++ rest) = '"' :: u := by
  have hmember : ∀ {m t}, Written (.member m) t →
      ∀ rest, ∃ u, skipSpace (t ++ rest) = '"' :: u := by
    intro m t h rest
    cases h with
    | member hbefore hname hafter h =>
      simp only [List.append_assoc, List.cons_append]
      exact ⟨_, skipSpace_gap_append_cons hbefore (by decide) _⟩
  cases h with
  | lastMember h => exact hmember h rest
  | nextMember h hrest =>
    rw [List.append_assoc]
    exact hmember h _

/-! ## What is written is read -/

/-- The text does not go on with an item: nothing is left, or a comma, or a closing bracket. -/
def EndsItem (t : Text) : Prop := ∀ c ∈ t.head?, c = ',' ∨ c = ']' ∨ c = '\x7d'

/-- Nothing is skipped behind an item. -/
theorem skipSpace_eq_self {t : Text} (h : EndsItem t) : skipSpace t = t := by
  cases t with
  | nil => rfl
  | cons c t =>
    rcases h c rfl with rfl | rfl | rfl <;> exact skipSpace_cons (by decide) t

/-- A number ends before white space and before what ends an item. -/
theorem EndsItem.endsNumber {gap rest : Text} (hgap : IsGap gap) (h : EndsItem rest) :
    EndsNumber (gap ++ rest) := by
  intro c hc
  cases gap with
  | nil => rcases h c hc with rfl | rfl | rfl <;> decide
  | cons d gap =>
    obtain rfl : d = c := by simpa using hc
    rcases hgap d List.mem_cons_self with rfl | rfl | rfl | rfl <;> decide

/-- What is read once a member has been read. -/
def readAfterMember (fuel : Nat) (m : Text × Json) : Text → Option (List (Text × Json) × Text)
  | '\x7d' :: left => some ([m], left)
  | ',' :: left => (readMembers fuel left).map fun (members, left) => (m :: members, left)
  | _ => none

/-- A phrase is read whole before any rest that does not go on with it, with fuel for each of its
characters.  The readers of items and of members read the closing bracket as well. -/
def Reads : Phrase → Text → Prop
  | .value v, t => ∀ fuel rest, t.length ≤ fuel → EndsNumber rest →
      readValue fuel (t ++ rest) = some (v, rest)
  | .item v, t => ∀ fuel rest, t.length ≤ fuel → EndsItem rest →
      ∃ left, readValue fuel (t ++ rest) = some (v, left) ∧ skipSpace left = rest
  | .items items, t => ∀ fuel rest, t.length < fuel →
      readItems fuel (t ++ ']' :: rest) = some (items, rest)
  | .member m, t => ∀ fuel rest, t.length ≤ fuel → EndsItem rest →
      readMembers (fuel + 1) (t ++ rest) = readAfterMember fuel m rest
  | .members members, t => ∀ fuel rest, t.length < fuel →
      readMembers fuel (t ++ '\x7d' :: rest) = some (members, rest)

/-- A string is read. -/
theorem reads_string {t s : Text} (h : Spells t s) :
    Reads (.value (.string s)) ('"' :: t ++ ['"']) := by
  rintro (_ | fuel) rest hfuel hrest
  · exact absurd hfuel (by simp)
  · have hread := readString_of_spells h rest
    simp [readValue_quote, hread]

/-- An empty array is read. -/
theorem reads_noItems {gap : Text} (hgap : IsGap gap) :
    Reads (.value (.array [])) ('[' :: gap ++ [']']) := by
  rintro (_ | fuel) rest hfuel hrest
  · exact absurd hfuel (by simp)
  · have hclose : skipSpace (gap ++ ']' :: rest) = ']' :: rest :=
      skipSpace_gap_append_cons hgap (by decide) rest
    simp [readValue_bracket, hclose]

/-- An array is read if its items are. -/
theorem reads_array {items : List Json} {t : Text} (hwritten : Written (.items items) t)
    (h : Reads (.items items) t) : Reads (.value (.array items)) ('[' :: t ++ [']']) := by
  rintro (_ | fuel) rest hfuel hrest
  · exact absurd hfuel (by simp)
  · have hlength : t.length < fuel := by
      simp only [List.cons_append, List.length_cons, List.length_append] at hfuel
      omega
    obtain ⟨c, u, hstart, hc⟩ := exists_cons_of_written_items hwritten (']' :: rest)
    simp [readValue_bracket, hstart, hc, h fuel rest hlength]

/-- An empty object is read. -/
theorem reads_noMembers {gap : Text} (hgap : IsGap gap) :
    Reads (.value (.object [])) ('\x7b' :: gap ++ ['\x7d']) := by
  rintro (_ | fuel) rest hfuel hrest
  · exact absurd hfuel (by simp)
  · have hclose : skipSpace (gap ++ '\x7d' :: rest) = '\x7d' :: rest :=
      skipSpace_gap_append_cons hgap (by decide) rest
    simp [readValue_brace, hclose]

/-- An object is read if its members are. -/
theorem reads_object {members : List (Text × Json)} {t : Text}
    (hwritten : Written (.members members) t) (h : Reads (.members members) t) :
    Reads (.value (.object members)) ('\x7b' :: t ++ ['\x7d']) := by
  rintro (_ | fuel) rest hfuel hrest
  · exact absurd hfuel (by simp)
  · have hlength : t.length < fuel := by
      simp only [List.cons_append, List.length_cons, List.length_append] at hfuel
      omega
    obtain ⟨u, hstart⟩ := exists_quote_of_written_members hwritten ('\x7d' :: rest)
    simp [readValue_brace, hstart, h fuel rest hlength]

/-- White space around a value is skipped. -/
theorem reads_item {v : Json} {before t after : Text} (hbefore : IsGap before)
    (h : Reads (.value v) t) (hafter : IsGap after) :
    Reads (.item v) (before ++ t ++ after) := by
  intro fuel rest hfuel hrest
  have hlength : t.length ≤ fuel := by
    simp only [List.length_append] at hfuel
    omega
  refine ⟨after ++ rest, ?_, ?_⟩
  · rw [List.append_assoc, List.append_assoc, readValue_gap_append hbefore]
    exact h fuel (after ++ rest) hlength (hrest.endsNumber hafter)
  · rw [skipSpace_gap_append hafter, skipSpace_eq_self hrest]

/-- A member is read if the item behind its colon is. -/
theorem reads_member {name s : Text} {v : Json} {before after t : Text} (hbefore : IsGap before)
    (hname : Spells s name) (hafter : IsGap after) (h : Reads (.item v) t) :
    Reads (.member (name, v)) (before ++ '"' :: s ++ '"' :: after ++ ':' :: t) := by
  intro fuel rest hfuel hrest
  have hlength : t.length ≤ fuel := by
    simp only [List.length_append, List.length_cons] at hfuel
    omega
  obtain ⟨left, hread, hleft⟩ := h fuel rest hlength hrest
  -- the quote that opens the name and the colon behind it stop the skipping
  have hopen : skipSpace (before ++ '"' :: (s ++ '"' :: (after ++ ':' :: (t ++ rest)))) =
      '"' :: (s ++ '"' :: (after ++ ':' :: (t ++ rest))) :=
    skipSpace_gap_append_cons hbefore (by decide) _
  have hcolon : skipSpace (after ++ ':' :: (t ++ rest)) = ':' :: (t ++ rest) :=
    skipSpace_gap_append_cons hafter (by decide) _
  simp only [List.append_assoc, List.cons_append]
  rw [readMembers, hopen]
  simp only [readString_of_spells hname, hcolon, hread, hleft]
  -- what follows the value is left for the list of members
  cases rest with
  | nil => rfl
  | cons c rest => rcases hrest c rfl with rfl | rfl | rfl <;> rfl

/-- A comma, a closing bracket and a closing brace end an item. -/
theorem endsItem_cons {c : Char} (hc : c = ',' ∨ c = ']' ∨ c = '\x7d') (t : Text) :
    EndsItem (c :: t) := by
  intro d hd
  obtain rfl : c = d := by simpa using hd
  exact hc

/-- Every rule of the grammar is followed by its reader. -/
theorem reads_of_written {p : Phrase} {t : Text} (h : Written p t) : Reads p t := by
  induction h with
  | null | true | false =>
    -- without fuel there is no text either
    rintro (_ | fuel) rest hfuel hrest
    · exact absurd hfuel (by decide)
    · rfl
  | @number n t h =>
    rintro (_ | fuel) rest hfuel hrest <;> obtain ⟨c, u, rfl, hc⟩ := exists_cons_of_writtenNumber h
    · exact absurd hfuel (by simp)
    · have hread : readNumber (c :: (u ++ rest)) = some (n, rest) := readNumber_of_written h hrest
      rw [List.cons_append, readValue_number hc, hread]
      rfl
  | string h => exact reads_string h
  | noItems hgap => exact reads_noItems hgap
  | array h ih => exact reads_array h ih
  | noMembers hgap => exact reads_noMembers hgap
  | object h ih => exact reads_object h ih
  | item hbefore h hafter ih => exact reads_item hbefore ih hafter
  | @lastItem v t h ih =>
    rintro (_ | fuel) rest hfuel
    · exact absurd hfuel (by omega)
    · obtain ⟨left, hread, hleft⟩ := ih fuel (']' :: rest) (by omega) (endsItem_cons (by simp) rest)
      simp [readItems, hread, hleft]
  | @nextItem v items t u h hu ih ihRest =>
    rintro (_ | fuel) rest hfuel
    · exact absurd hfuel (by omega)
    · simp only [List.length_append, List.length_cons] at hfuel
      obtain ⟨left, hread, hleft⟩ := ih fuel (',' :: (u ++ ']' :: rest)) (by omega)
        (endsItem_cons (by simp) _)
      simp [readItems, hread, hleft, ihRest fuel rest (by omega)]
  | member hbefore hname hafter h ih => exact reads_member hbefore hname hafter ih
  | @lastMember m t h ih =>
    rintro (_ | fuel) rest hfuel
    · exact absurd hfuel (by omega)
    · rw [ih fuel _ (by omega) (endsItem_cons (by simp) rest)]
      rfl
  | @nextMember m members t u h hu ih ihRest =>
    rintro (_ | fuel) rest hfuel
    · exact absurd hfuel (by omega)
    · simp only [List.length_append, List.length_cons] at hfuel
      rw [List.append_assoc, List.cons_append, ih fuel _ (by omega) (endsItem_cons (by simp) _)]
      simp [readAfterMember, ihRest fuel rest (by omega)]

/-! ## What is read is written -/

/-- What a reader has consumed is written by the rules of the grammar. -/
structure Sound (fuel : Nat) : Prop where
  value {u rest : Text} {v : Json} (h : readValue fuel u = some (v, rest)) :
    ∃ gap t, IsGap gap ∧ Written (.value v) t ∧ u = gap ++ t ++ rest
  items {u rest : Text} {items : List Json} (h : readItems fuel u = some (items, rest)) :
    ∃ t, Written (.items items) t ∧ u = t ++ ']' :: rest
  members {u rest : Text} {members : List (Text × Json)}
    (h : readMembers fuel u = some (members, rest)) :
    ∃ t, Written (.members members) t ∧ u = t ++ '\x7d' :: rest

/-- An item that is read is a value with white space around it. -/
theorem Sound.item {fuel : Nat} (hsound : Sound fuel) {u rest : Text} {v : Json}
    (h : readValue fuel u = some (v, rest)) :
    ∃ t, Written (.item v) t ∧ u = t ++ skipSpace rest := by
  obtain ⟨before, t, hbefore, ht, rfl⟩ := hsound.value h
  obtain ⟨after, hafter, hrest⟩ := exists_eq_gap_append rest
  exact ⟨before ++ t ++ after, .item hbefore ht hafter, by rw [List.append_assoc _ after, ← hrest]⟩

/-- A value that is read is written behind the white space that is skipped. -/
theorem Sound.value_succ {fuel : Nat} (hsound : Sound fuel) {u rest : Text} {v : Json}
    (h : readValue (fuel + 1) u = some (v, rest)) :
    ∃ gap t, IsGap gap ∧ Written (.value v) t ∧ u = gap ++ t ++ rest := by
  obtain ⟨gap, hgap, hu⟩ := exists_eq_gap_append u
  -- the first characters after the white space decide which rule has been followed
  suffices ∃ t, Written (.value v) t ∧ skipSpace u = t ++ rest by
    obtain ⟨t, ht, hskip⟩ := this
    exact ⟨gap, t, hgap, ht, by rw [hu, hskip, List.append_assoc]⟩
  rw [readValue] at h
  split at h
  · cases h
  · obtain ⟨rfl, rfl⟩ := Prod.mk.inj (Option.some.inj h)
    next hskip => exact ⟨_, .null, hskip⟩
  · obtain ⟨rfl, rfl⟩ := Prod.mk.inj (Option.some.inj h)
    next hskip => exact ⟨_, .true, hskip⟩
  · obtain ⟨rfl, rfl⟩ := Prod.mk.inj (Option.some.inj h)
    next hskip => exact ⟨_, .false, hskip⟩
  · next t hskip =>
    obtain ⟨⟨s, left⟩, hread, h⟩ := Option.map_eq_some_iff.1 h
    obtain ⟨rfl, rfl⟩ := Prod.mk.inj h
    obtain ⟨t, ht, rfl⟩ := exists_spells_of_readString hread
    exact ⟨_, .string ht, by simp [hskip]⟩
  · next t hskip =>
    split at h
    · next left hclose =>
      obtain ⟨rfl, rfl⟩ := Prod.mk.inj (Option.some.inj h)
      obtain ⟨gap, hgap, ht⟩ := exists_eq_gap_append t
      exact ⟨_, .noItems hgap, by simp [hskip, ← hclose, ← ht]⟩
    · obtain ⟨⟨items, left⟩, hread, h⟩ := Option.map_eq_some_iff.1 h
      obtain ⟨rfl, rfl⟩ := Prod.mk.inj h
      obtain ⟨t, ht, rfl⟩ := hsound.items hread
      exact ⟨_, .array ht, by simp [hskip]⟩
  · next t hskip =>
    split at h
    · next left hclose =>
      obtain ⟨rfl, rfl⟩ := Prod.mk.inj (Option.some.inj h)
      obtain ⟨gap, hgap, ht⟩ := exists_eq_gap_append t
      exact ⟨_, .noMembers hgap, by simp [hskip, ← hclose, ← ht]⟩
    · obtain ⟨⟨members, left⟩, hread, h⟩ := Option.map_eq_some_iff.1 h
      obtain ⟨rfl, rfl⟩ := Prod.mk.inj h
      obtain ⟨t, ht, rfl⟩ := hsound.members hread
      exact ⟨_, .object ht, by simp [hskip]⟩
  · next t _ _ _ _ _ _ hskip =>
    obtain ⟨⟨n, left⟩, hread, h⟩ := Option.map_eq_some_iff.1 h
    obtain ⟨rfl, rfl⟩ := Prod.mk.inj h
    obtain ⟨t, ht, hrest⟩ := exists_written_of_readNumber hread
    exact ⟨t, .number ht, by rw [hskip, hrest]⟩

/-- Items that are read are written up to the closing bracket. -/
theorem Sound.items_succ {fuel : Nat} (hsound : Sound fuel) {u rest : Text} {items : List Json}
    (h : readItems (fuel + 1) u = some (items, rest)) :
    ∃ t, Written (.items items) t ∧ u = t ++ ']' :: rest := by
  rw [readItems] at h
  split at h
  · cases h
  · next v left hread =>
    obtain ⟨t, ht, rfl⟩ := hsound.item hread
    split at h
    · next hclose =>
      -- the item is the last one
      obtain ⟨rfl, rfl⟩ := Prod.mk.inj (Option.some.inj h)
      exact ⟨t, .lastItem ht, by rw [hclose]⟩
    · next hcomma =>
      -- the items behind the comma are written by the induction on the fuel
      obtain ⟨⟨items, left⟩, hread, h⟩ := Option.map_eq_some_iff.1 h
      obtain ⟨rfl, rfl⟩ := Prod.mk.inj h
      obtain ⟨u, hu, rfl⟩ := hsound.items hread
      exact ⟨t ++ ',' :: u, .nextItem ht hu, by simp [hcomma]⟩
    · cases h

/-- Members that are read are written up to the closing brace. -/
theorem Sound.members_succ {fuel : Nat} (hsound : Sound fuel) {u rest : Text}
    {members : List (Text × Json)} (h : readMembers (fuel + 1) u = some (members, rest)) :
    ∃ t, Written (.members members) t ∧ u = t ++ '\x7d' :: rest := by
  -- a member is a name, a colon and an item, with white space that is skipped between them
  obtain ⟨before, hbefore, hu⟩ := exists_eq_gap_append u
  rw [readMembers] at h
  split at h
  · next hquote =>
    rw [hquote] at hu
    split at h
    · cases h
    · next name left hname =>
      obtain ⟨s, hs, rfl⟩ := exists_spells_of_readString hname
      obtain ⟨after, hafter, hleft⟩ := exists_eq_gap_append left
      split at h
      · next hcolon =>
        rw [hcolon] at hleft
        split at h
        · cases h
        · next v left hread =>
          obtain ⟨t, ht, rfl⟩ := hsound.item hread
          have hmember := Written.member hbefore hs hafter ht
          split at h
          · next hclose =>
            -- the member is the last one
            obtain ⟨rfl, rfl⟩ := Prod.mk.inj (Option.some.inj h)
            exact ⟨_, .lastMember hmember, by simp [hu, hleft, hclose]⟩
          · next hcomma =>
            obtain ⟨⟨members, left⟩, hread, h⟩ := Option.map_eq_some_iff.1 h
            obtain ⟨rfl, rfl⟩ := Prod.mk.inj h
            obtain ⟨u, hu', rfl⟩ := hsound.members hread
            exact ⟨_, .nextMember hmember hu', by simp [hu, hleft, hcomma]⟩
          · cases h
      · cases h
  · cases h

/-- The readers read nothing but what is written. -/
theorem sound (fuel : Nat) : Sound fuel := by
  induction fuel with
  | zero => exact ⟨fun h => absurd h (by simp [readValue]), fun h => absurd h (by simp [readItems]),
      fun h => absurd h (by simp [readMembers])⟩
  | succ fuel ih => exact ⟨ih.value_succ, ih.items_succ, ih.members_succ⟩

/-! ## Whole texts -/

/-- The reader accepts a text exactly as the value that the grammar says it stands for. -/
theorem parse?_eq_some_iff {t : Text} {v : Json} : parse? t = some v ↔ IsText v t := by
  constructor
  · intro h
    unfold parse? at h
    split at h
    · next w rest hread =>
      split at h
      · next hrest =>
        obtain rfl : w = v := Option.some.inj h
        -- nothing is left behind the value but white space, which the item takes in
        obtain ⟨u, hu, rfl⟩ := (sound _).item hread
        rw [List.isEmpty_iff.1 hrest, List.append_nil]
        exact hu
      · cases h
    · cases h
  · intro h
    obtain ⟨left, hread, hleft⟩ := reads_of_written h (t.length + 1) [] (Nat.le_succ _)
      (by simp [EndsItem])
    rw [List.append_nil] at hread
    rw [parse?, hread]
    simp [hleft]

/-- A text stands for one value at most. -/
theorem IsText.unique {v w : Json} {t : Text} (hv : IsText v t) (hw : IsText w t) : v = w :=
  Option.some.inj ((parse?_eq_some_iff.2 hv).symm.trans (parse?_eq_some_iff.2 hw))

end Mailroom.Json
