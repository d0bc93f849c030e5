import Mailroom.Address
import Mailroom.Proofs.Text.Lines
import Mailroom.Proofs.Text.Trim

/-!
# Lists of addresses

A list of addresses is cut at its commas, every comma counting as one between two addresses.  What
stands between commas is an entry when it is trimmed, unless nothing is left of it, and an entry is
read as an address by itself.

## Key results

* `parseList_eq_map_entries`   the addresses of a list are those of its entries
* `entries_append`             a comma divides the entries before it from those after it
* `parseList_append`           and so the addresses
* `parseList_join`             lists that are joined by commas
-/

namespace Mailroom.Address

open Text

/-! ## Entries -/

/-- The texts that a list gives for its addresses. -/
def entries (t : Text) : List Text := ((fields ',' t).map trim).filter (!·.isEmpty)

/-- A list is parsed entry by entry. -/
theorem parseList_eq_map_entries (t : Text) : parseList t = (entries t).map parse := rfl

/-- The entries are the trimmed pieces between commas, without the empty ones. -/
theorem mem_entries_iff {t entry : Text} :
    entry ∈ entries t ↔ (∃ piece ∈ fields ',' t, trim piece = entry) ∧ entry ≠ [] := by
  simp [entries]

/-- An entry has no white space at its ends. -/
theorem trim_of_mem_entries {t entry : Text} (h : entry ∈ entries t) : trim entry = entry := by
  obtain ⟨⟨piece, -, rfl⟩, -⟩ := mem_entries_iff.1 h
  exact trim_trim piece

/-- There is something in every entry. -/
theorem ne_nil_of_mem_entries {t entry : Text} (h : entry ∈ entries t) : entry ≠ [] :=
  (mem_entries_iff.1 h).2

/-- A comma divides the entries before it from those after it. -/
theorem entries_append (a b : Text) : entries (a ++ ',' :: b) = entries a ++ entries b := by
  simp only [entries, fields_append, List.map_append, List.filter_append]

/-- A text without a comma is an entry, unless it is blank. -/
theorem entries_eq_singleton {t : Text} (hcomma : ',' ∉ t) (hblank : isBlankText t = false) :
    entries t = [trim t] := by
  have hne : trim t ≠ [] := fun h => by simp [isBlankText_of_trim_eq_nil h] at hblank
  rw [entries, fields_eq_singleton hcomma, List.map_singleton]
  simp [hne]

/-- White space before a list does not count. -/
theorem entries_append_blank {gap : Text} (hgap : isBlankText gap = true) (t : Text) :
    entries (gap ++ t) = entries t := by
  have hcomma : ',' ∉ gap := not_mem_of_isBlankText hgap (by decide)
  have htrim (piece : Text) : trim (gap ++ piece) = trim piece := by
    have := trim_append_blank hgap isBlankText_nil piece
    rwa [List.append_nil] at this
  rw [entries, fields_append_of_not_mem hcomma, entries]
  cases fields ',' t with
  | nil => rfl
  | cons piece pieces => rw [List.modifyHead_cons, List.map_cons, List.map_cons, htrim]

/-- A list with a character that is neither white space nor a comma has an entry. -/
theorem entries_ne_nil {t : Text} {c : Char} (h : c ∈ t) (hcomma : c ≠ ',')
    (hblank : isBlank c = false) : entries t ≠ [] := by
  obtain ⟨piece, hpiece, hmem⟩ := exists_mem_splitWhere h (p := (· == ',')) (by simpa using hcomma)
  have hne : trim piece ≠ [] := fun hnil => by
    simp [isBlankText_iff.1 (isBlankText_of_trim_eq_nil hnil) c hmem] at hblank
  exact List.ne_nil_of_mem (mem_entries_iff.2 ⟨⟨piece, hpiece, rfl⟩, hne⟩)

/-! ## Addresses -/

/-- A comma divides the addresses before it from those after it. -/
theorem parseList_append (a b : Text) :
    parseList (a ++ ',' :: b) = parseList a ++ parseList b := by
  simp only [parseList_eq_map_entries, entries_append, List.map_append]

/-- Lists that are joined by commas, and white space behind them, hold the addresses of each of
them. -/
theorem parseList_join {gap : Text} (hgap : isBlankText gap = true) (values : List Text) :
    parseList (join (',' :: gap) values) = values.flatMap parseList := by
  induction values with
  | nil => rfl
  | cons value values ih =>
    by_cases hrest : values = []
    · rw [hrest, join, List.intercalate_singleton, List.flatMap_singleton]
    · rw [join_cons hrest, List.cons_append, parseList_append, List.flatMap_cons, ← ih]
      simp only [parseList_eq_map_entries, entries_append_blank hgap]

end Mailroom.Address
