import Mailroom.Json.Printer
import Mailroom.Proofs.Json.Reader

/-!
# The writer of JSON follows its grammar

What is written for a value stands for that value.  This needs the value to be proper, since a
decimal number is kept as it is written: what is kept has to be a number.  The names of an
object are told apart as well, so that each of its members counts.

## Key results

* `Proper.written`       a proper value is written by the rules
* `Proper.isText_iff`    what is written for it stands for nothing else
* `Proper.parse?_print`  so it is read back
-/

namespace Mailroom.Json

open Text

/-- A value whose decimal numbers are numbers and whose objects have distinct names. -/
inductive Proper : Json → Prop
  | null : Proper .null
  | bool (b : Bool) : Proper (.bool b)
  | integer (n : Int) : Proper (.number (.integer n))
  | decimal {literal : Text} (h : WrittenNumber (.decimal literal) literal) :
      Proper (.number (.decimal literal))
  | string (t : Text) : Proper (.string t)
  | array {items : List Json} (h : ∀ v ∈ items, Proper v) : Proper (.array items)
  | object {members : List (Text × Json)} (hnames : (members.map (·.1)).Nodup)
      (h : ∀ m ∈ members, Proper m.2) : Proper (.object members)

/-! ## Strings -/

/-- The two digits of a control character spell its code point. -/
theorem unit?_of_lt : ∀ n < 0x20,
    unit? '0' '0' (lowerHexDigit (n / 16)) (lowerHexDigit (n % 16)) = some n := by
  decide

/-- One written character in front of a spelling spells one character more. -/
theorem spells_escapeChar (c : Char) {t s : Text} (h : Spells t s) :
    Spells (escapeChar c ++ t) (c :: s) := by
  unfold escapeChar
  -- seven characters have an escape of a single letter
  iterate 7
    split
    · next hc =>
      obtain rfl := eq_of_beq hc
      exact .escape (by decide) h
  split
  · next hcontrol =>
    have hunit := Spells.unit (unit?_of_lt c.toNat hcontrol) (.inl (by omega)) h
    rwa [Char.ofNat_toNat] at hunit
  · next hquote hescape _ _ _ _ _ hcontrol =>
    exact .plain (by simpa using hquote) (by simpa using hescape) (by omega) h

/-- The written form of a text spells that text. -/
theorem spells_flatMap_escapeChar (t : Text) : Spells (t.flatMap escapeChar) t := by
  induction t with
  | nil => exact .nil
  | cons c t ih => exact spells_escapeChar c ih

/-! ## Numbers -/

/-- Reading the decimal digits of a number gives the number. -/
theorem natOfDigits_toDigits (n : Nat) : natOfDigits (Nat.toDigits 10 n) = n := by
  have hfold : ∀ digits m, digits.foldl (fun n (c : Char) => n * 10 + (c.toNat - 0x30)) m =
      Nat.ofDigitChars 10 digits m := by
    intro digits m
    simp [Nat.ofDigitChars, Nat.mul_comm]
  rw [natOfDigits, hfold]
  exact Nat.ofDigitChars_toDigits (by decide) (by decide)

/-- They are digits, and there is one at least. -/
theorem isDigits_toDigits (n : Nat) : IsDigits (Nat.toDigits 10 n) :=
  ⟨Nat.toDigits_ne_nil, fun c hc => Nat.isDigit_of_mem_toDigits (by decide) (by decide) hc⟩

/-- No number but zero starts with a zero. -/
theorem head?_toDigits {n : Nat} (hn : n ≠ 0) : (Nat.toDigits 10 n).head? ≠ some '0' := by
  induction n using Nat.strongRecOn with
  | ind n ih =>
    rw [Nat.toDigits_eq_if (by decide)]
    split
    · next hlt =>
      have hdigit : ∀ n < 10, n ≠ 0 → some n.digitChar ≠ some '0' := by decide
      exact hdigit n hlt hn
    · next hge =>
      -- the first digit is the one of the number without its last digit
      have hhead := ih (n / 10) (by omega) (by omega)
      rw [List.head?_append]
      have hne : Nat.toDigits 10 (n / 10) ≠ [] := Nat.toDigits_ne_nil
      obtain ⟨c, u, hcons⟩ := List.exists_cons_of_ne_nil hne
      rw [hcons] at hhead ⊢
      exact hhead

/-- They have no leading zero. -/
theorem isIntegerPart_toDigits (n : Nat) : IsIntegerPart (Nat.toDigits 10 n) := by
  by_cases hn : n = 0
  · subst hn
    exact .inl (by decide)
  · exact .inr ⟨isDigits_toDigits n, head?_toDigits hn⟩

/-- The written form of an integer is a number of the grammar, and its value is the integer. -/
theorem writtenNumber_integer (n : Int) :
    WrittenNumber (.integer n) (printNumber (.integer n)) := by
  cases n with
  | ofNat n =>
    have h := WrittenNumber.nat (isIntegerPart_toDigits n)
    rwa [natOfDigits_toDigits] at h
  | negSucc n =>
    have h := WrittenNumber.neg (isIntegerPart_toDigits (n + 1))
      (by rw [natOfDigits_toDigits]; exact Nat.succ_ne_zero n)
    rwa [natOfDigits_toDigits] at h

/-! ## Values -/

/-- A value may stand as an item, with no white space around it. -/
theorem Written.toItem {v : Json} {t : Text} (h : Written (.value v) t) : Written (.item v) t := by
  have hitem := Written.item isGap_nil h isGap_nil
  rwa [List.nil_append, List.append_nil] at hitem

/-- A value may stand behind a name and a colon, with no white space around either. -/
theorem Written.toMember {v : Json} {t : Text} (h : Written (.value v) t) (name : Text) :
    Written (.member (name, v)) (printString name ++ ':' :: t) := by
  have hmember := Written.member isGap_nil (spells_flatMap_escapeChar name) isGap_nil h.toItem
  simpa [printString] using hmember

/-- Items that are written well are written well between commas. -/
theorem written_printItems {v : Json} {items : List Json}
    (h : ∀ w ∈ v :: items, Written (.value w) w.print) :
    Written (.items (v :: items)) (printItems (v :: items)) := by
  induction items generalizing v with
  | nil => exact .lastItem (h v List.mem_cons_self).toItem
  | cons w items ih =>
    exact .nextItem (h v List.mem_cons_self).toItem
      (ih fun x hx => h x (List.mem_cons_of_mem _ hx))

/-- Members that are written well are written well between commas. -/
theorem written_printMembers {m : Text × Json} {members : List (Text × Json)}
    (h : ∀ n ∈ m :: members, Written (.value n.2) n.2.print) :
    Written (.members (m :: members)) (printMembers (m :: members)) := by
  induction members generalizing m with
  | nil => exact .lastMember ((h m List.mem_cons_self).toMember m.1)
  | cons n members ih =>
    have hrest := ih fun x hx => h x (List.mem_cons_of_mem _ hx)
    exact .nextMember ((h m List.mem_cons_self).toMember m.1) hrest

/-- A proper value is written by the rules of the grammar. -/
theorem Proper.written {v : Json} (h : Proper v) : Written (.value v) v.print := by
  induction h with
  | null => exact .null
  | bool b => cases b <;> constructor
  | integer n => exact .number (writtenNumber_integer n)
  | decimal h => exact .number h
  | string t => exact .string (spells_flatMap_escapeChar t)
  -- an empty array has a rule of its own, as an empty object has
  | @array items h ih =>
    cases items with
    | nil => exact .noItems isGap_nil
    | cons v items => exact .array (written_printItems ih)
  | @object members hnames h ih =>
    cases members with
    | nil => exact .noMembers isGap_nil
    | cons m members => exact .object (written_printMembers ih)

/-- What is written for a proper value stands for it and for nothing else. -/
theorem Proper.isText_iff {v w : Json} (h : Proper v) : IsText w v.print ↔ w = v := by
  constructor
  · intro hw
    exact hw.unique h.written.toItem
  · rintro rfl
    exact h.written.toItem

/-- The reader takes the written form of a proper value back to the value. -/
theorem Proper.parse?_print {v : Json} (h : Proper v) : parse? v.print = some v :=
  parse?_eq_some_iff.2 h.written.toItem

end Mailroom.Json
