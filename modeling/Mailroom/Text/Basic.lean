/-!
# Finding and cutting text

A text is a list of Unicode scalar values, so a length counts characters and every reader
of the library is a recursion on a list.  This module holds the searches that the readers
share: what follows a given start, the two sides of the first occurrence of a separator,
and the pieces between its occurrences.  A search takes the relation in which two
characters count as the same, so that one definition serves exact and case-blind search.

## Key results

* `length_cutBy?`        the two sides of a cut and the separator add up to the whole text
* `length_splitWhere`    a split gives one piece more than there are separators
-/

namespace Mailroom

/-- A text is a list of Unicode scalar values. -/
abbrev Text := List Char

/-- The contents of a file, or the encoded form of a text. -/
abbrev Bytes := List UInt8

namespace Text

/-! ## Search for a separator -/

/-- What follows `lead` in a text that starts with it. -/
def afterBy? (same : Char → Char → Bool) : Text → Text → Option Text
  | [], t => some t
  | _ :: _, [] => none
  | p :: ps, c :: cs => if same p c then afterBy? same ps cs else none

/-- The two sides of the first occurrence of `sep`. -/
def cutBy? (same : Char → Char → Bool) (sep : Text) : Text → Option (Text × Text)
  | [] => if sep.isEmpty then some ([], []) else none
  | c :: t =>
    match afterBy? same sep (c :: t) with
    | some right => some ([], right)
    | none => (cutBy? same sep t).map fun (left, right) => (c :: left, right)

/-- A lead and what follows it make up the length of the text. -/
theorem length_afterBy? {same : Char → Char → Bool} {lead t rest : Text}
    (h : afterBy? same lead t = some rest) : lead.length + rest.length = t.length := by
  induction lead generalizing t with
  | nil => simp_all [afterBy?]
  | cons p ps ih =>
    cases t with
    | nil => simp [afterBy?] at h
    | cons c cs =>
      simp only [afterBy?] at h
      split at h
      · have := ih h
        simp only [List.length_cons]
        omega
      · simp at h

/-- The two sides and the separator make up the length of the text. -/
theorem length_cutBy? {same : Char → Char → Bool} {sep t left right : Text}
    (h : cutBy? same sep t = some (left, right)) :
    left.length + sep.length + right.length = t.length := by
  induction t generalizing left with
  | nil =>
    simp only [cutBy?, List.isEmpty_iff] at h
    split at h <;> simp_all
  | cons c t ih =>
    simp only [cutBy?] at h
    split at h
    · next rest hr =>
      have := length_afterBy? hr
      simp only [Option.some.injEq, Prod.mk.injEq] at h
      obtain ⟨rfl, rfl⟩ := h
      simp only [List.length_nil]
      omega
    · obtain ⟨⟨l, r⟩, hl, he⟩ := Option.map_eq_some_iff.1 h
      simp only [Prod.mk.injEq] at he
      obtain ⟨rfl, rfl⟩ := he
      have := ih hl
      simp only [List.length_cons]
      omega

/-- What follows a separator is shorter than the whole text. -/
theorem length_lt_of_cutBy? {same : Char → Char → Bool} {sep t left right : Text}
    (hsep : sep ≠ []) (h : cutBy? same sep t = some (left, right)) :
    right.length < t.length := by
  have := length_cutBy? h
  have := List.length_pos_iff.2 hsep
  omega

/-- What follows `lead` in a text that starts with it, letters compared as they are. -/
def after? : Text → Text → Option Text := afterBy? (· == ·)

/-- The two sides of the first occurrence of `sep`, letters compared as they are. -/
def cut? : Text → Text → Option (Text × Text) := cutBy? (· == ·)

/-- ASCII letters of either case count as the same. -/
def sameLetter (a b : Char) : Bool := a.toLower == b.toLower

/-- What follows `lead` in a text that starts with it in any ASCII case. -/
def afterAnyCase? : Text → Text → Option Text := afterBy? sameLetter

/-- The two sides of the first occurrence of `sep` in any ASCII case. -/
def cutAnyCase? : Text → Text → Option (Text × Text) := cutBy? sameLetter

/-- The two texts differ at most in the case of ASCII letters. -/
def equalsAnyCase (a b : Text) : Bool := a.map Char.toLower == b.map Char.toLower

/-- `needle` occurs in the text. -/
def contains (needle t : Text) : Bool := (cut? needle t).isSome

/-- The text starts with `lead`. -/
def startsWith (lead t : Text) : Bool := (after? lead t).isSome

/-! ## Splitting and joining -/

/-- The pieces between the occurrences of `sep`, taken from the left without overlap.  An
empty separator divides nothing. -/
def splitOn (sep : Text) (t : Text) : List Text :=
  if _hs : sep = [] then [t]
  else
    match _hc : cut? sep t with
    | none => [t]
    | some (left, right) => left :: splitOn sep right
termination_by t.length
decreasing_by exact length_lt_of_cutBy? _hs _hc

/-- The pieces between the characters that satisfy `p`, empty ones included. -/
def splitWhere (p : Char → Bool) : Text → List Text
  | [] => [[]]
  | c :: t =>
    if p c then [] :: splitWhere p t
    else
      match splitWhere p t with
      | [] => [[c]]
      | piece :: pieces => (c :: piece) :: pieces

/-- There is one piece more than there are separators. -/
theorem length_splitWhere (p : Char → Bool) (t : Text) :
    (splitWhere p t).length = t.countP p + 1 := by
  induction t with
  | nil => rfl
  | cons c t ih =>
    simp only [splitWhere, List.countP_cons]
    split
    · simp [ih]
    · split <;> simp_all

/-- The pieces between the occurrences of the character `sep`. -/
def fields (sep : Char) (t : Text) : List Text := splitWhere (· == sep) t

/-- The pieces in order, with `sep` between neighbours. -/
def join (sep : Text) (pieces : List Text) : Text := sep.intercalate pieces

/-! ## Lines -/

/-- Every line break, whether CR LF, a lone CR or LF, becomes a single LF. -/
def normalizeBreaks : Text → Text
  | [] => []
  | '\r' :: '\n' :: t => '\n' :: normalizeBreaks t
  | '\r' :: t => '\n' :: normalizeBreaks t
  | c :: t => c :: normalizeBreaks t

/-- The lines of a text whose breaks are LF. -/
def lines (t : Text) : List Text := fields '\n' t

/-- The lines in order, divided by LF. -/
def unlines (ls : List Text) : Text := join ['\n'] ls

/-- The text up to its first LF. -/
def firstLine (t : Text) : Text := t.takeWhile (· != '\n')

end Text

end Mailroom
