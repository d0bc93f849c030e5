import Mailroom.Proofs.Mime.Segment

/-!
# Reading back containers

A body that is written as a container of leaves, or as a mixed container of leaves,
alternatives and other parts, is read back as the last plain text and the last HTML that were
written into it, whatever the payloads look like and whatever stands around the parts.

The leaves that a body gives are followed through the levels: each written part contributes
exactly its own leaves (`segmentLeaves_part`), so a body contributes those of its items in
order (`leaves?_enclose`), and the last one of a kind is what is shown.

## Key results

* `extract_alternative`   a container of leaves is read back
* `extract_mixed`         a container of leaves, alternatives and other parts is read back
-/

namespace Mailroom.Mime

open Text Boundary

/-- The last text of a kind among the given leaves, as it is shown. -/
def lastShown? (kind : Kind) (drafts : List Draft) : Option Text :=
  (drafts.filter (·.kind == kind)).getLast?.map fun d => d.content.shown

/-- A part of a mixed container to be written. -/
inductive Item where
  /-- A leaf. -/
  | leaf (draft : Draft)
  /-- Alternatives with a boundary of their own. -/
  | alternatives (boundary : Text) (drafts : List Draft)
  /-- A part of another type, with the line breaks around it. -/
  | other (text : Text)

namespace Item

/-- The item as it is written. -/
def written : Item → Text
  | .leaf draft => draft.written
  | .alternatives boundary drafts =>
    Container.alternative.headerLine boundary ++
      '\n' :: '\n' :: enclose (.nothing boundary) (drafts.map Draft.part)
  | .other text => text

/-- The item as it stands between two delimiters. -/
def part : Item → Text
  | .leaf draft => draft.part
  | .alternatives boundary drafts =>
    '\n' :: ((Item.alternatives boundary drafts).written ++ ['\n'])
  | .other text => text

/-- The leaves in the item. -/
def drafts : Item → List Draft
  | .leaf draft => [draft]
  | .alternatives _ drafts => drafts
  | .other _ => []

/-- Nothing in the item is taken for something else: leaves of HTML do not mention plain
text, a leaf of its own does not mention alternatives, leaves in alternatives do not hold
their delimiter, and a part of another type does not mention a kind of text. -/
def IsTold : Item → Prop
  | .leaf draft => draft.IsTold ∧ ¬ Container.alternative.name <:+: draft.written
  | .alternatives boundary drafts =>
    IsQuotable boundary ∧ boundary.head? ≠ some '\'' ∧ drafts ≠ [] ∧
      ∀ d ∈ drafts, d.IsTold ∧ ¬ delimiter boundary <:+: d.written
  | .other text =>
    isBlankText text = false ∧ text.head? = some '\n' ∧ text.getLast? = some '\n' ∧
      ¬ Kind.plain.name <:+: text ∧ ¬ Kind.html.name <:+: text

instance : (item : Item) → Decidable item.IsTold
  | .leaf draft =>
    inferInstanceAs (Decidable (draft.IsTold ∧ ¬ Container.alternative.name <:+: draft.written))
  | .alternatives boundary drafts =>
    inferInstanceAs (Decidable (IsQuotable boundary ∧ boundary.head? ≠ some '\'' ∧
      drafts ≠ [] ∧ ∀ d ∈ drafts, d.IsTold ∧ ¬ delimiter boundary <:+: d.written))
  | .other text =>
    inferInstanceAs (Decidable (isBlankText text = false ∧ text.head? = some '\n' ∧
      text.getLast? = some '\n' ∧ ¬ Kind.plain.name <:+: text ∧ ¬ Kind.html.name <:+: text))

end Item

/-! ## Leaves of a body -/

/-- A leaf fits between delimiters that do not occur in it. -/
theorem Draft.isPart {boundary : Text} {d : Draft} (hb : IsQuotable boundary)
    (hd : ¬ delimiter boundary <:+: d.written) : IsPart boundary d.part :=
  isPart_cons_append hb.newline_not_mem hd

/-- The parts of a body that was written, none of them blank. -/
theorem segments?_enclose {boundary : Text} (hb : IsQuotable boundary)
    (around : Surroundings boundary) {ps : List Text} (hne : ps ≠ [])
    (hps : ∀ p ∈ ps, IsPart boundary p) (hblank : ∀ p ∈ ps, isBlankText p = false) :
    segments? (some boundary) (enclose around ps) = some ps := by
  have hfilter : ps.filter (!isBlankText ·) = ps :=
    List.filter_eq_self.2 fun p hp => by rw [hblank p hp]; rfl
  rw [segments?, Option.map_some, parts_enclose hb around hps, hfilter, Option.filter_some]
  simp [hne]

/-- The parts of a body of leaves. -/
theorem segments?_drafts {boundary : Text} (hb : IsQuotable boundary)
    (around : Surroundings boundary) {ds : List Draft} (hne : ds ≠ [])
    (hfree : ∀ d ∈ ds, ¬ delimiter boundary <:+: d.written) :
    segments? (some boundary) (enclose around (ds.map Draft.part)) = some (ds.map Draft.part) := by
  refine segments?_enclose hb around (by simpa using hne) (fun p hp => ?_) (fun p hp => ?_)
  · obtain ⟨d, hd, rfl⟩ := List.mem_map.1 hp
    exact d.isPart hb (hfree d hd)
  · obtain ⟨d, -, rfl⟩ := List.mem_map.1 hp
    exact d.isBlankText_part

/-- A body that starts and ends with its delimiters is trimmed. -/
theorem trim_enclose_nothing (boundary : Text) (ps : List Text) :
    trim (enclose (.nothing boundary) ps) = enclose (.nothing boundary) ps := by
  have hhead : (enclose (.nothing boundary) ps).head? = some '-' := by
    cases ps <;> rfl
  have hlast : (enclose (.nothing boundary) ps).getLast? = some '-' := by
    rw [enclose, List.getLast?_append]
    rfl
  exact trim_eq_self_of_ends hhead hlast (by decide) (by decide)

/-- Written leaves are read back one by one. -/
theorem filterMap_parse?_part {ds : List Draft} (hds : ∀ d ∈ ds, d.IsTold) :
    (ds.map Draft.part).filterMap Leaf.parse? = ds.map Draft.leaf := by
  induction ds with
  | nil => rfl
  | cons d ds ih =>
    have hd := Draft.parse?_part (hds d List.mem_cons_self)
    rw [List.map_cons, List.filterMap_cons, hd, ih fun e he => hds e (List.mem_cons_of_mem d he)]
    rfl

/-- The leaves of written alternatives that stand in a mixed container. -/
theorem nestedLeaves_part {boundary : Text} {ds : List Draft} (hb : IsQuotable boundary)
    (hsingle : boundary.head? ≠ some '\'') (hne : ds ≠ [])
    (hds : ∀ d ∈ ds, d.IsTold ∧ ¬ delimiter boundary <:+: d.written) :
    nestedLeaves (Item.alternatives boundary ds).part = ds.map Draft.leaf := by
  -- without its header line, the part starts and ends with delimiters
  have hstrip : HeaderBlock.strip (Item.alternatives boundary ds).part =
      enclose (.nothing boundary) (ds.map Draft.part) := by
    have := HeaderBlock.strip_append (a := ['\n']) (b := ['\n']) rfl rfl
      (Container.isBlock_headerLine hb .alternative)
      (enclose (.nothing boundary) (ds.map Draft.part))
    rwa [trim_enclose_nothing] at this
  have hfind : Boundary.find? (Item.alternatives boundary ds).part = some boundary := by
    have := find?_headerLine hb hsingle .alternative
      ('\n' :: '\n' :: enclose (.nothing boundary) (ds.map Draft.part) ++ ['\n'])
    rwa [← List.append_assoc] at this
  rw [nestedLeaves, hfind, hstrip, segments?_drafts hb _ hne fun d hd => (hds d hd).2,
    Option.getD_some, filterMap_parse?_part fun d hd => (hds d hd).1]

/-- A written item contributes exactly its own leaves to a mixed container. -/
theorem segmentLeaves_part {item : Item} (h : item.IsTold) :
    segmentLeaves .mixed item.part = item.drafts.map Draft.leaf := by
  cases item with
  | leaf d =>
    obtain ⟨htold, halt⟩ := h
    -- the part is not searched for alternatives
    have hsniff : sniffAlternative d.part = false := by
      rw [← Bool.not_eq_true, sniffAlternative, contains_iff,
        Draft.infix_part_iff (by decide) (by decide)]
      exact halt
    rw [segmentLeaves, Item.part, hsniff, Draft.parse?_part htold]
    rfl
  | alternatives boundary ds =>
    obtain ⟨hb, hsingle, hne, hds⟩ := h
    -- the header line itself mentions alternatives
    have hsniff : sniffAlternative (Item.alternatives boundary ds).part = true := by
      have hline : Container.alternative.name <:+: Container.alternative.headerLine boundary := by
        rw [Container.headerLine_eq, Container.header, List.append_assoc, List.append_assoc]
        exact ⟨"Content-Type: ".toList, _, List.append_assoc _ _ _⟩
      have hpart : Container.alternative.headerLine boundary <:+:
          (Item.alternatives boundary ds).part := by
        rw [Item.part, Item.written]
        exact ⟨['\n'], '\n' :: '\n' :: enclose (.nothing boundary) (ds.map Draft.part) ++ ['\n'],
          by simp⟩
      rw [sniffAlternative, contains_iff]
      exact hline.trans hpart
    rw [segmentLeaves, hsniff, nestedLeaves_part hb hsingle hne hds]
    rfl
  | other text =>
    obtain ⟨-, -, -, hplain, hhtml⟩ := h
    exact segmentLeaves_eq_nil_iff.2 (.inl (sniffKind_eq_none_iff.2 ⟨hplain, hhtml⟩))

/-- An item fits between delimiters that do not occur in it. -/
theorem Item.isPart {boundary : Text} {item : Item} (hb : IsQuotable boundary)
    (htold : item.IsTold) (hfree : ¬ delimiter boundary <:+: item.written) :
    IsPart boundary item.part := by
  cases item with
  | leaf d => exact d.isPart hb hfree
  | alternatives inner ds => exact isPart_cons_append hb.newline_not_mem hfree
  | other text =>
    obtain ⟨-, hstarts, hends, -⟩ := htold
    exact ⟨hstarts, hends, hfree⟩

/-- A part of an item is not blank. -/
theorem Item.isBlankText_part {item : Item} (htold : item.IsTold) :
    isBlankText item.part = false := by
  cases item with
  | leaf d => exact d.isBlankText_part
  | alternatives inner ds =>
    -- there is a delimiter at least
    have hmem : '-' ∈ (Item.alternatives inner ds).part := by
      simp [part, written, enclose, delimiter]
    rw [← Bool.not_eq_true, isBlankText_iff]
    exact fun h => absurd (h '-' hmem) (by decide)
  | other text => exact htold.1

/-- Parts that each contribute given leaves contribute all of them in order. -/
theorem flatMap_segmentLeaves {α : Type} {container : Container} {part : α → Text}
    {leaves : α → List Leaf} {xs : List α}
    (h : ∀ x ∈ xs, segmentLeaves container (part x) = leaves x) :
    (xs.map part).flatMap (segmentLeaves container) = xs.flatMap leaves := by
  rw [List.flatMap_map, List.flatMap_def, List.flatMap_def, List.map_congr_left h]

/-- The leaves of a written container of leaves. -/
theorem leaves?_alternative {boundary : Text} (hb : IsQuotable boundary)
    (around : Surroundings boundary) {ds : List Draft} (hne : ds ≠ [])
    (hfree : ∀ d ∈ ds, ¬ delimiter boundary <:+: d.written) (htold : ∀ d ∈ ds, d.IsTold) :
    leaves? .alternative (some boundary) (enclose around (ds.map Draft.part)) =
      some (ds.map Draft.leaf) := by
  have hread : (ds.map Draft.part).flatMap (segmentLeaves .alternative) = ds.map Draft.leaf := by
    have hsingle : ds.map Draft.leaf = ds.flatMap fun d => [d.leaf] := List.map_eq_flatMap
    rw [hsingle]
    refine flatMap_segmentLeaves fun d hd => ?_
    rw [segmentLeaves, Draft.parse?_part (htold d hd)]
    rfl
  rw [leaves?, segments?_drafts hb around hne hfree, Option.map_some, hread]

/-- The leaves of a written mixed container are those of its items in order. -/
theorem leaves?_mixed {boundary : Text} (hb : IsQuotable boundary)
    (around : Surroundings boundary) {items : List Item} (hne : items ≠ [])
    (hfree : ∀ i ∈ items, ¬ delimiter boundary <:+: i.written) (htold : ∀ i ∈ items, i.IsTold) :
    leaves? .mixed (some boundary) (enclose around (items.map Item.part)) =
      some ((items.flatMap Item.drafts).map Draft.leaf) := by
  -- the body is divided into the items, and then each item gives its leaves
  have hsegments : segments? (some boundary) (enclose around (items.map Item.part)) =
      some (items.map Item.part) := by
    refine segments?_enclose hb around (by simpa using hne) (fun p hp => ?_) (fun p hp => ?_)
    · obtain ⟨i, hi, rfl⟩ := List.mem_map.1 hp
      exact Item.isPart hb (htold i hi) (hfree i hi)
    · obtain ⟨i, hi, rfl⟩ := List.mem_map.1 hp
      exact Item.isBlankText_part (htold i hi)
  have hread : (items.map Item.part).flatMap (segmentLeaves .mixed) =
      (items.flatMap Item.drafts).map Draft.leaf := by
    rw [List.map_flatMap]
    exact flatMap_segmentLeaves fun i hi => segmentLeaves_part (htold i hi)
  rw [leaves?, hsegments, Option.map_some, hread]

/-! ## Extraction -/

/-- The last leaf of a kind that is read back has the text that is shown for it. -/
theorem lastText?_map_leaf (kind : Kind) (ds : List Draft) :
    lastText? kind (ds.map Draft.leaf) = lastShown? kind ds := by
  -- reading back keeps the kind of a leaf and gives its text
  have hkind : (fun l : Leaf => l.kind == kind) ∘ Draft.leaf = fun d => d.kind == kind := rfl
  have htext : Leaf.text ∘ Draft.leaf = fun d => d.content.shown := funext Draft.text_leaf
  rw [lastText?, lastShown?, ← List.map_reverse, List.find?_map, Option.map_map, hkind, htext,
    ← List.head?_filter, List.filter_reverse, List.head?_reverse]

/-- A container whose leaves are read back shows the last of each kind. -/
theorem extract_header {boundary : Text} (hb : IsQuotable boundary) (layout : Plain.Layout)
    (container : Container) {body : Text} {ds : List Draft}
    (hleaves : leaves? container (some boundary) body = some (ds.map Draft.leaf)) :
    extract layout (container.header boundary) body =
      ⟨(lastShown? .plain ds).map layout.plain, lastShown? .html ds, []⟩ := by
  have hboundary :
      containerBoundary? container (container.header boundary) body = some boundary := by
    rw [containerBoundary?.eq_def, ContentType.boundary?_header hb, Option.some_or]
  rw [extract, ContentType.mediaType_header hb]
  simp only [hboundary, extractContainer, hleaves, lastText?_map_leaf]

/-- A written container of leaves is read back: the last plain text goes through the layout,
the last HTML is kept, and nothing around the parts counts. -/
theorem extract_alternative (layout : Plain.Layout) {boundary : Text} (hb : IsQuotable boundary)
    (around : Surroundings boundary) {ds : List Draft} (hne : ds ≠ [])
    (hfree : ∀ d ∈ ds, ¬ delimiter boundary <:+: d.written) (htold : ∀ d ∈ ds, d.IsTold) :
    extract layout (Container.alternative.header boundary)
        (enclose around (ds.map Draft.part)) =
      ⟨(lastShown? .plain ds).map layout.plain, lastShown? .html ds, []⟩ := by
  have hleaves := leaves?_alternative hb around hne hfree htold
  exact extract_header hb layout .alternative hleaves

/-- Leaves that look like other leaves: a text with a header block for base64, and HTML in
folded base64. -/
def misleadingDrafts : List Draft :=
  [⟨.html, .verbatim "<p>boundary=x</p>".toList⟩,
    ⟨.plain, .verbatim "--\nContent-Transfer-Encoding: base64\n\naGk=".toList⟩,
    ⟨.html, .base64 "<b>hi</b>".toList "PGI+\naGk8L2I+\n".toList (by decide +kernel)⟩]

/-- A line before the parts of a boundary of dashes, and a further delimiter after them. -/
def dashedSurroundings : Surroundings "--".toList where
  preamble := "--- hello\n".toList
  epilogue := "\n----\ntext/plain\n------".toList
  preamble_ends := .inr (by decide +kernel)
  preamble_free := by decide +kernel
  epilogue_starts := .inr (by decide +kernel)

/-- Dashes before, in and after the parts, and a text that looks like base64. -/
theorem extract_alternative_dashes :
    extract {} (Container.alternative.header "--".toList)
        (enclose dashedSurroundings (misleadingDrafts.map Draft.part)) =
      ⟨some "--\nContent-Transfer-Encoding: base64\n\naGk=".toList,
        some "<b>hi</b>".toList, []⟩ := by
  have hb : IsQuotable "--".toList := by decide +kernel
  rw [extract_alternative {} hb dashedSurroundings (by decide +kernel) (by decide +kernel)
    (by decide +kernel)]
  decide +kernel

/-- A written mixed container is read back through both levels: its leaves and those of its
alternatives count in the order in which they stand, and parts of other types do not. -/
theorem extract_mixed (layout : Plain.Layout) {boundary : Text} (hb : IsQuotable boundary)
    (around : Surroundings boundary) {items : List Item} (hne : items ≠ [])
    (hfree : ∀ i ∈ items, ¬ delimiter boundary <:+: i.written) (htold : ∀ i ∈ items, i.IsTold) :
    extract layout (Container.mixed.header boundary) (enclose around (items.map Item.part)) =
      ⟨(lastShown? .plain (items.flatMap Item.drafts)).map layout.plain,
        lastShown? .html (items.flatMap Item.drafts), []⟩ := by
  have hleaves := leaves?_mixed hb around hne hfree htold
  exact extract_header hb layout .mixed hleaves

/-- A mixed container with a leaf, alternatives inside it and a part of another type. -/
def misleadingItems : List Item :=
  [.leaf ⟨.html, .verbatim "<p>boundary=x</p>".toList⟩,
    .alternatives "=".toList misleadingDrafts,
    .other "\nContent-Type: image/png\n\n--=\n".toList]

/-- Alternatives after a leaf, and a part of another type that holds their delimiter. -/
theorem extract_mixed_dashes :
    extract {} (Container.mixed.header "_-".toList)
        (enclose (.nothing "_-".toList) (misleadingItems.map Item.part)) =
      ⟨some "--\nContent-Transfer-Encoding: base64\n\naGk=".toList,
        some "<b>hi</b>".toList, []⟩ := by
  have hb : IsQuotable "_-".toList := by decide +kernel
  rw [extract_mixed {} hb (.nothing _) (by decide +kernel) (by decide +kernel)
    (by decide +kernel)]
  decide +kernel

end Mailroom.Mime
