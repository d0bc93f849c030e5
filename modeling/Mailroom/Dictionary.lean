import Mailroom.Text.Basic

/-!
# Dictionaries

A dictionary gives texts for texts.  Its entries are kept in the strict order of their keys,
so two dictionaries with the same entries are equal, whatever the order in which the entries
were made.  Keys are compared by their code points, which is also the order of their UTF-8
bytes.

## Key results

* `get?_insert`        an entry is found under its key and touches no other
* `ofList_entries`     a dictionary is made of its entries
* `ext_get?`           dictionaries that answer alike are equal
-/

namespace Mailroom

/-- The order of texts by their code points. -/
def Text.precedes : Text → Text → Bool
  | _, [] => false
  | [], _ :: _ => true
  | a :: s, b :: t => a.toNat < b.toNat || (a == b && precedes s t)

namespace Text

/-- No text precedes itself. -/
theorem precedes_irrefl (s : Text) : precedes s s = false := by
  induction s with
  | nil => rfl
  | cons a s ih => simp [precedes, ih]

/-- The order of texts is transitive. -/
theorem precedes_trans {s t u : Text} (h : precedes s t) (h' : precedes t u) :
    precedes s u := by
  induction s generalizing t u with
  | nil => cases t <;> cases u <;> simp_all [precedes]
  | cons a s ih =>
    cases t with
    | nil => simp [precedes] at h
    | cons b t =>
      cases u with
      | nil => simp [precedes] at h'
      | cons c u =>
        simp only [precedes, Bool.or_eq_true, decide_eq_true_eq, Bool.and_eq_true,
          beq_iff_eq] at h h' ⊢
        -- the first characters decide, or they are the same in all three texts
        rcases h with h | ⟨rfl, h⟩ <;> rcases h' with h' | ⟨rfl, h'⟩
        · exact .inl (by omega)
        · exact .inl h
        · exact .inl h'
        · exact .inr ⟨rfl, ih h h'⟩

/-- Of two texts, one precedes the other unless they are the same. -/
theorem eq_of_not_precedes {s t : Text} (h : precedes s t = false)
    (h' : precedes t s = false) : s = t := by
  induction s generalizing t with
  | nil => cases t <;> simp_all [precedes]
  | cons a s ih =>
    cases t with
    | nil => simp [precedes] at h'
    | cons b t =>
      simp only [precedes, Bool.or_eq_false_iff, decide_eq_false_iff_not, Bool.and_eq_false_iff,
        beq_eq_false_iff_ne] at h h'
      -- the numbers of the first characters are the same, hence the characters
      have hab : a = b := by
        rw [← Char.ofNat_toNat a, ← Char.ofNat_toNat b, show a.toNat = b.toNat by omega]
      subst hab
      simp only [ne_eq, not_true_eq_false, false_or] at h h'
      rw [ih h.2 h'.2]

end Text

/-- A finite map from texts to texts. -/
structure Dictionary where
  entries : List (Text × Text)
  sorted : entries.Pairwise fun a b => a.1.precedes b.1

namespace Dictionary

/-- A dictionary is determined by its entries. -/
theorem ext_entries {a b : Dictionary} (h : a.entries = b.entries) : a = b := by
  cases a
  cases b
  simp_all

instance : DecidableEq Dictionary := fun a b =>
  if h : a.entries = b.entries then isTrue (ext_entries h)
  else isFalse fun hab => h (hab ▸ rfl)

/-- The dictionary without entries. -/
def empty : Dictionary := ⟨[], .nil⟩

instance : Inhabited Dictionary := ⟨empty⟩

/-- The dictionary has no entries. -/
def isEmpty (d : Dictionary) : Bool := d.entries.isEmpty

/-- Puts an entry at its place among entries in order, in the place of an entry with the
same key. -/
def insertEntry (key value : Text) : List (Text × Text) → List (Text × Text)
  | [] => [(key, value)]
  | (k, v) :: rest =>
    if key.precedes k then (key, value) :: (k, v) :: rest
    else if k.precedes key then (k, v) :: insertEntry key value rest
    else (key, value) :: rest

/-- A key that precedes all entries and a new one precedes them together. -/
private theorem precedes_of_mem_insertEntry {k key value : Text} {entries : List (Text × Text)}
    (hk : k.precedes key) (h : ∀ e ∈ entries, k.precedes e.1) :
    ∀ e ∈ insertEntry key value entries, k.precedes e.1 := by
  induction entries with
  | nil => simpa [insertEntry] using hk
  | cons e rest ih =>
    have hrest := ih fun e' he' => h e' (List.mem_cons_of_mem _ he')
    have he := h e List.mem_cons_self
    simp only [insertEntry]
    -- the new entry comes before `e`, behind it, or takes its place
    split
    · intro e' he'
      rcases List.mem_cons.1 he' with rfl | he'
      · exact hk
      · exact h e' he'
    · split
      · intro e' he'
        rcases List.mem_cons.1 he' with rfl | he'
        · exact he
        · exact hrest e' he'
      · intro e' he'
        rcases List.mem_cons.1 he' with rfl | he'
        · exact hk
        · exact h e' (List.mem_cons_of_mem _ he')

/-- Inserting an entry keeps the keys in order. -/
private theorem sorted_insertEntry (key value : Text) {entries : List (Text × Text)}
    (h : entries.Pairwise fun a b => a.1.precedes b.1) :
    (insertEntry key value entries).Pairwise fun a b => a.1.precedes b.1 := by
  induction entries with
  | nil => simp [insertEntry]
  | cons e rest ih =>
    obtain ⟨he, hrest⟩ := List.pairwise_cons.1 h
    simp only [insertEntry]
    split
    · next hlt =>
      -- the entry goes to the front
      refine List.pairwise_cons.2 ⟨fun e' he' => ?_, h⟩
      rcases List.mem_cons.1 he' with rfl | he'
      · exact hlt
      · exact Text.precedes_trans hlt (he e' he')
    · next hge =>
      split
      · next hlt =>
        exact List.pairwise_cons.2 ⟨precedes_of_mem_insertEntry hlt he, ih hrest⟩
      · next hle =>
        -- neither key precedes the other, so the value is replaced
        have := Text.eq_of_not_precedes (by simpa using hge) (by simpa using hle)
        subst this
        exact List.pairwise_cons.2 ⟨he, hrest⟩

/-- The dictionary with the given entry, which takes the place of one with the same key. -/
def insert (d : Dictionary) (key value : Text) : Dictionary :=
  ⟨insertEntry key value d.entries, sorted_insertEntry key value d.sorted⟩

/-- The dictionary of the given pairs; of pairs with the same key the last counts. -/
def ofList (pairs : List (Text × Text)) : Dictionary :=
  pairs.foldl (fun d (key, value) => d.insert key value) empty

/-- The value of the entry with the given key. -/
def valueOf? (key : Text) : List (Text × Text) → Option Text
  | [] => none
  | (k, v) :: rest => if key = k then some v else valueOf? key rest

/-- The value of the entry with the given key. -/
def get? (d : Dictionary) (key : Text) : Option Text := valueOf? key d.entries

/-- The empty dictionary has no keys. -/
@[simp] theorem get?_empty (key : Text) : empty.get? key = none := rfl

/-- A text that precedes another differs from it. -/
private theorem ne_of_precedes {s t : Text} (h : s.precedes t) : s ≠ t := by
  rintro rfl
  simp [Text.precedes_irrefl] at h

/-- There is no value under a key that precedes all entries. -/
private theorem valueOf?_eq_none {key : Text} {entries : List (Text × Text)}
    (h : ∀ e ∈ entries, key.precedes e.1) : valueOf? key entries = none := by
  induction entries with
  | nil => rfl
  | cons e rest ih =>
    rw [valueOf?, if_neg (ne_of_precedes (h e List.mem_cons_self))]
    exact ih fun e' he' => h e' (List.mem_cons_of_mem _ he')

/-- What is inserted is found under its key, and the other values stay. -/
private theorem valueOf?_insertEntry (key value k : Text) (entries : List (Text × Text)) :
    valueOf? k (insertEntry key value entries) =
      if k = key then some value else valueOf? k entries := by
  induction entries with
  | nil => simp [insertEntry, valueOf?]
  | cons e rest ih =>
    obtain ⟨k', v'⟩ := e
    simp only [insertEntry]
    split
    · simp [valueOf?]
    · next hge =>
      split
      · next hlt =>
        have := ne_of_precedes hlt
        simp only [valueOf?, ih]
        by_cases hk : k = k' <;> simp_all
      · next hle =>
        -- of two keys neither of which comes first both are the same
        have := Text.eq_of_not_precedes (by simpa using hge) (by simpa using hle)
        subst this
        by_cases hk : k = key <;> simp [valueOf?, hk]

/-- An entry is found under its key and touches no other. -/
theorem get?_insert (d : Dictionary) (key value k : Text) :
    (d.insert key value).get? k = if k = key then some value else d.get? k :=
  valueOf?_insertEntry key value k d.entries

/-- What is put under a key is found there. -/
theorem get?_insert_self (d : Dictionary) (key value : Text) :
    (d.insert key value).get? key = some value := by
  rw [get?_insert, if_pos rfl]

/-- Other keys keep what they have. -/
theorem get?_insert_of_ne {key k : Text} (h : k ≠ key) (d : Dictionary) (value : Text) :
    (d.insert key value).get? k = d.get? k := by
  rw [get?_insert, if_neg h]

/-- The entries of a dictionary come from the pairs that it is made of. -/
theorem mem_of_get?_ofList {pairs : List (Text × Text)} {key value : Text}
    (h : (ofList pairs).get? key = some value) : (key, value) ∈ pairs := by
  suffices hfold : ∀ d : Dictionary,
      (pairs.foldl (fun d (key, value) => d.insert key value) d).get? key = some value →
        (key, value) ∈ pairs ∨ d.get? key = some value by
    rcases hfold empty h with hmem | hnone
    · exact hmem
    · rw [get?_empty] at hnone
      exact nomatch hnone
  -- from here on by the pairs, for every dictionary that they are put into
  clear h
  induction pairs with
  | nil => exact fun d h => .inr h
  | cons pair pairs ih =>
    intro d h
    obtain ⟨k, v⟩ := pair
    rcases ih (d.insert k v) h with hmem | hget
    · exact .inl (List.mem_cons_of_mem _ hmem)
    · rw [get?_insert] at hget
      split at hget
      · next hk =>
        rw [Option.some.injEq] at hget
        exact .inl (hk ▸ hget ▸ List.mem_cons_self)
      · exact .inr hget

/-- Of the pairs with a key the last counts. -/
theorem get?_ofList (pairs : List (Text × Text)) (key : Text) :
    (ofList pairs).get? key = (pairs.reverse.find? (·.1 == key)).map (·.2) := by
  suffices hfold : ∀ d : Dictionary,
      (pairs.foldl (fun d (key, value) => d.insert key value) d).get? key =
        ((pairs.reverse.find? (·.1 == key)).map (·.2)).or (d.get? key) by
    rw [ofList, hfold, get?_empty, Option.or_none]
  induction pairs with
  | nil => exact fun d => rfl
  | cons pair pairs ih =>
    intro d
    -- a pair is inserted after those before it and gives way to those behind it
    obtain ⟨k, value⟩ := pair
    rw [List.foldl_cons, ih, List.reverse_cons, List.find?_append, Option.map_or, Option.or_assoc,
      get?_insert]
    by_cases hk : key = k
    · simp [hk]
    · have hne : k ≠ key := fun h => hk h.symm
      simp [hk, hne]

/-- An entry whose key comes after all others goes to the end. -/
private theorem insertEntry_of_precedes {key value : Text} {entries : List (Text × Text)}
    (h : ∀ e ∈ entries, e.1.precedes key) :
    insertEntry key value entries = entries ++ [(key, value)] := by
  induction entries with
  | nil => rfl
  | cons e rest ih =>
    have he := h e List.mem_cons_self
    -- a key behind `e` is put neither before it nor in its place
    have hnot : ¬key.precedes e.1 := by
      intro hlt
      have hself := Text.precedes_trans he hlt
      rw [Text.precedes_irrefl] at hself
      exact Bool.false_ne_true hself
    rw [insertEntry, if_neg hnot, if_pos he, ih fun e' he' => h e' (List.mem_cons_of_mem _ he'),
      List.cons_append]

/-- A dictionary is made of its entries. -/
theorem ofList_entries (d : Dictionary) : ofList d.entries = d := by
  suffices hfold : ∀ (rest : List (Text × Text)) (made : Dictionary),
      (made.entries ++ rest).Pairwise (fun a b => a.1.precedes b.1) →
        (rest.foldl (fun made (key, value) => made.insert key value) made).entries =
          made.entries ++ rest from
    ext_entries (hfold d.entries empty d.sorted)
  intro rest
  induction rest with
  | nil => exact fun made _ => (List.append_nil _).symm
  | cons e rest ih =>
    intro made hsorted
    -- what is made so far comes before the next entry
    have hlast : (made.insert e.1 e.2).entries = made.entries ++ [e] :=
      insertEntry_of_precedes fun e' he' =>
        (List.pairwise_append.1 hsorted).2.2 e' he' e List.mem_cons_self
    have happend : (made.insert e.1 e.2).entries ++ rest = made.entries ++ e :: rest := by
      rw [hlast, List.append_assoc, List.singleton_append]
    rw [List.foldl_cons, ih _ (happend ▸ hsorted), happend]

/-- Entries in order are determined by the values under all keys. -/
private theorem entries_eq_of_valueOf? {a b : List (Text × Text)}
    (ha : a.Pairwise fun x y => x.1.precedes y.1) (hb : b.Pairwise fun x y => x.1.precedes y.1)
    (h : ∀ k, valueOf? k a = valueOf? k b) : a = b := by
  induction a generalizing b with
  | nil =>
    cases b with
    | nil => rfl
    | cons y b => simpa [valueOf?] using h y.1
  | cons x a ih =>
    cases b with
    | nil => simpa [valueOf?] using h x.1
    | cons y b =>
      obtain ⟨kx, vx⟩ := x
      obtain ⟨ky, vy⟩ := y
      obtain ⟨hx, hxs⟩ := List.pairwise_cons.1 ha
      obtain ⟨hy, hys⟩ := List.pairwise_cons.1 hb
      -- the first key on one side would have no value on the other if it preceded the first key
      -- there
      have hkey : kx = ky := by
        refine Text.eq_of_not_precedes ?_ ?_
        · refine Bool.eq_false_iff.2 fun hlt => ?_
          have := h kx
          rw [valueOf?, if_pos rfl, valueOf?_eq_none] at this
          · simp at this
          · intro e he
            rcases List.mem_cons.1 he with rfl | he
            · exact hlt
            · exact Text.precedes_trans hlt (hy e he)
        · refine Bool.eq_false_iff.2 fun hlt => ?_
          have := h ky
          rw [valueOf?_eq_none, valueOf?, if_pos rfl] at this
          · simp at this
          · intro e he
            rcases List.mem_cons.1 he with rfl | he
            · exact hlt
            · exact Text.precedes_trans hlt (hx e he)
      subst hkey
      have hvalue : vx = vy := by simpa [valueOf?] using h kx
      subst hvalue
      congr 1
      -- behind the first entries the values are the same too, since neither has its key again
      refine ih hxs hys fun k => ?_
      by_cases hk : k = kx
      · subst hk
        rw [valueOf?_eq_none hx, valueOf?_eq_none hy]
      · simpa [valueOf?, hk] using h k

/-- Dictionaries that answer alike are equal. -/
theorem ext_get? {a b : Dictionary} (h : ∀ k, a.get? k = b.get? k) : a = b :=
  ext_entries (entries_eq_of_valueOf? a.sorted b.sorted h)

end Dictionary

end Mailroom
