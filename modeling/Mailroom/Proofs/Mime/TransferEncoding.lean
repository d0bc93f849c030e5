import Mailroom.Proofs.Mime.HeaderLines
import Mailroom.Proofs.Text.AsciiCase

/-!
# Where the transfer encoding is read

The reader of the transfer encoding looks for the name of its header anywhere in a part, and reads
on to the end of the line.  A line is read for itself, so the first line that mentions the name
decides, whatever the others hold: it declares an encoding, or it hides the header that does.

## Key results

* `transferEncoding?_append`     one line decides, or the lines behind it do
* `transferEncoding?_unlines`    the first line that mentions the name decides
* `transferEncoding?_trim`       white space around the part does not count
* `transferEncoding?_declared`   a declaration counts unless a line before it mentions the name
* `not_transferEncoding?_namedPart`   a file name before the declaration hides it
-/

namespace Mailroom.Mime.HeaderBlock

open Text

/-! ## Mentions in a line -/

/-- The encoding that a value names: without white space around it and semicolons at its end. -/
def encodingIn? (value : Text) : Option Text :=
  let encoding := trim (dropEndWhile (· == ';') (trim value))
  if encoding.isEmpty then none else some encoding

/-- What follows the name of the header in its line, read as the rest of a declaration. -/
def declaration? (rest : Text) : Option Text :=
  (after? [':'] (rest.dropWhile fun c => c == ' ' || c == '\t')).bind encodingIn?

/-- What a line that mentions the name of the header declares. -/
def mention? (line : Text) : Option (Option Text) :=
  (cutAnyCase? encodingName line).map fun (_, rest) => declaration? rest

/-- A character is looked for within the first line, unless it is the line break. -/
theorem after?_firstLine {c : Char} (hc : c ≠ '\n') (t : Text) :
    after? [c] (firstLine t) = (after? [c] t).map firstLine := by
  cases t with
  | nil => rfl
  | cons d t =>
    by_cases hd : d = '\n'
    · -- the first line is empty
      subst hd
      rw [after?_singleton_cons, if_neg (by simpa using hc)]
      rfl
    · rw [firstLine_cons hd, after?_singleton_cons, after?_singleton_cons]
      split <;> rfl

/-- It makes no difference where the reader stops at the line break. -/
theorem declaration?_firstLine (rest : Text) :
    (after? [':'] (rest.dropWhile fun c => c == ' ' || c == '\t')).bind
      (fun value => encodingIn? (firstLine value)) = declaration? (firstLine rest) := by
  -- blanks and tabs are skipped within the line
  have hdrop : (firstLine rest).dropWhile (fun c => c == ' ' || c == '\t') =
      firstLine (rest.dropWhile fun c => c == ' ' || c == '\t') := by
    induction rest with
    | nil => rfl
    | cons c rest ih =>
      by_cases hn : c = '\n'
      · subst hn; rfl
      · rw [firstLine_cons hn, List.dropWhile_cons, List.dropWhile_cons]
        split
        · exact ih
        · rw [firstLine_cons hn]
  rw [declaration?, hdrop, after?_firstLine (by decide), Option.bind_map]
  rfl

/-- The encoding is read from the first mention of the name and no further than its line. -/
theorem transferEncoding?_eq_bind (part : Text) : transferEncoding? part =
    (cutAnyCase? encodingName part).bind fun (_, rest) => declaration? (firstLine rest) := by
  simp only [← declaration?_firstLine]
  rfl

/-- The name of the header holds no white space, in any case. -/
theorem blank_toLower_not_mem_encodingName {c : Char} (hc : isBlank c = true) :
    c.toLower ∉ encodingName.map Char.toLower := by
  have hsolid : (encodingName.map Char.toLower).all (!isBlank ·) = true := by decide +kernel
  exact not_mem_of_isBlank hsolid ((isBlank_toLower c).trans hc)

/-- A line break ends the line that the encoding is read from. -/
theorem transferEncoding?_append {l : Text} (hl : '\n' ∉ l) (t : Text) :
    transferEncoding? (l ++ '\n' :: t) = (mention? l).getD (transferEncoding? t) := by
  have hnewline : Char.toLower '\n' ∉ encodingName.map Char.toLower :=
    blank_toLower_not_mem_encodingName (by decide)
  rw [transferEncoding?_eq_bind, transferEncoding?_eq_bind, cutAnyCase?_eq_cutBy?,
    cutBy?_append_cons (by decide) hnewline, mention?, cutAnyCase?_eq_cutBy?]
  -- the name occurs in the line or behind it, but not across the line break
  cases hc : cutBy? (sameBy Char.toLower) encodingName l with
  | none => cases cutBy? (sameBy Char.toLower) encodingName t <;> rfl
  | some sides =>
    obtain ⟨left, right⟩ := sides
    obtain ⟨found, rfl, -⟩ := cutBy?_eq_some hc
    have hright : '\n' ∉ right := fun h => hl (List.mem_append_right _ h)
    simp [firstLine_append hright]

/-- A single line decides alone. -/
theorem transferEncoding?_eq_mention? {l : Text} (hl : '\n' ∉ l) :
    transferEncoding? l = (mention? l).getD none := by
  rw [transferEncoding?_eq_bind, mention?]
  cases hc : cutAnyCase? encodingName l with
  | none => rfl
  | some sides =>
    obtain ⟨left, right⟩ := sides
    rw [cutAnyCase?_eq_cutBy?] at hc
    obtain ⟨found, rfl, -⟩ := cutBy?_eq_some hc
    have hright : '\n' ∉ right := fun h => hl (List.mem_append_right _ h)
    simp [firstLine_eq_self hright]

/-- The encoding is read from the first line that mentions the name of the header. -/
theorem transferEncoding?_unlines {ls : List Text} (h : ∀ l ∈ ls, '\n' ∉ l) :
    transferEncoding? (unlines ls) = (ls.findSome? mention?).getD none := by
  induction ls with
  | nil => rfl
  | cons l ls ih =>
    have hl := h l List.mem_cons_self
    by_cases hls : ls = []
    · -- no line break ends the last line
      subst hls
      rw [unlines_singleton, transferEncoding?_eq_mention? hl, List.findSome?_singleton]
    · rw [unlines_cons hls, transferEncoding?_append hl,
        ih fun m hm => h m (List.mem_cons_of_mem l hm), List.findSome?_cons]
      cases mention? l <;> rfl

/-! ## White space -/

/-- White space at the end does not count in what a value names. -/
theorem encodingIn?_append_blank {b : Text} (hb : isBlankText b = true) (value : Text) :
    encodingIn? (value ++ b) = encodingIn? value := by
  rw [encodingIn?, trim_append_blankEnd hb, encodingIn?]

/-- White space at the end does not count in what a text starts with. -/
theorem after?_append_blank {c : Char} {b : Text} (hc : isBlank c = false)
    (hb : isBlankText b = true) (t : Text) :
    after? [c] (t ++ b) = (after? [c] t).map (· ++ b) := by
  cases b with
  | nil => simp
  | cons d b =>
    have hd := isBlankText_iff.1 hb d List.mem_cons_self
    have hforeign : id d ∉ [c].map id := by
      rw [List.map_id, List.mem_singleton]
      rintro rfl
      exact absurd (hd.symm.trans hc) (by decide)
    exact afterBy?_append_cons hforeign

/-- White space at the end of a line does not count in what it declares. -/
theorem declaration?_append_blank {b : Text} (hb : isBlankText b = true) (rest : Text) :
    declaration? (rest ++ b) = declaration? rest := by
  have hdrop : ∃ b', isBlankText b' = true ∧
      (rest ++ b).dropWhile (fun c => c == ' ' || c == '\t') =
        rest.dropWhile (fun c => c == ' ' || c == '\t') ++ b' := by
    rw [List.dropWhile_append]
    split
    · next hrest =>
      -- what is skipped may reach into the white space
      refine ⟨b.dropWhile fun c => c == ' ' || c == '\t', ?_, ?_⟩
      · exact isBlankText_of_subset hb (List.dropWhile_suffix _).subset
      · rw [List.isEmpty_iff.1 hrest, List.nil_append]
    · exact ⟨b, hb, rfl⟩
  obtain ⟨b', hb', hdrop⟩ := hdrop
  have hvalue : (encodingIn? ∘ fun value => value ++ b') = encodingIn? := by
    funext value
    rw [Function.comp_apply, encodingIn?_append_blank hb']
  rw [declaration?, hdrop, after?_append_blank (by decide) hb', Option.bind_map, hvalue,
    declaration?]

/-- White space before a part does not matter to its encoding. -/
theorem transferEncoding?_blank_append {a : Text} (ha : isBlankText a = true) (t : Text) :
    transferEncoding? (a ++ t) = transferEncoding? t := by
  rw [isBlankText_iff] at ha
  induction a with
  | nil => rfl
  | cons c a ih =>
    -- the name is looked for behind the character alone
    have hcut := cutBy?_append_cons (l := []) (r := a ++ t) (by decide)
      (blank_toLower_not_mem_encodingName (ha c List.mem_cons_self))
    rw [← ih fun d hd => ha d (List.mem_cons_of_mem c hd), transferEncoding?_eq_bind,
      transferEncoding?_eq_bind, cutAnyCase?_eq_cutBy?, List.cons_append,
      ← List.nil_append (c :: _), hcut]
    cases cutBy? (sameBy Char.toLower) encodingName (a ++ t) <;> rfl

/-- White space behind a text may go on in its first line. -/
theorem firstLine_append_blank {b : Text} (hb : isBlankText b = true) (t : Text) :
    ∃ b', isBlankText b' = true ∧ firstLine (t ++ b) = firstLine t ++ b' := by
  rw [firstLine, List.takeWhile_append]
  split
  · next hlength =>
    refine ⟨firstLine b, isBlankText_of_subset hb (List.takeWhile_prefix _).subset, ?_⟩
    rw [firstLine, firstLine, (List.takeWhile_prefix _).eq_of_length hlength]
  · exact ⟨[], rfl, (List.append_nil _).symm⟩

/-- White space behind it does not matter either. -/
theorem transferEncoding?_append_blank {b : Text} (hb : isBlankText b = true) (t : Text) :
    transferEncoding? (t ++ b) = transferEncoding? t := by
  cases b with
  | nil => rw [List.append_nil]
  | cons c b =>
    have hc := isBlankText_iff.1 hb c List.mem_cons_self
    -- the name is looked for before the white space alone
    have hnone : cutBy? (sameBy Char.toLower) encodingName b = none := by
      rw [Option.eq_none_iff_forall_ne_some]
      rintro ⟨left, right⟩ hsome
      have hdash := dash_mem_of_infix_toLower (infix_map_toLower_of_cutAnyCase? hsome)
      exact absurd (List.mem_cons_of_mem c hdash) (not_mem_of_isBlankText hb (by decide))
    rw [transferEncoding?_eq_bind, transferEncoding?_eq_bind, cutAnyCase?_eq_cutBy?,
      cutBy?_append_cons (by decide) (blank_toLower_not_mem_encodingName hc), hnone]
    cases cutBy? (sameBy Char.toLower) encodingName t with
    | none => rfl
    | some sides =>
      obtain ⟨b', hb', hfirst⟩ := firstLine_append_blank hb sides.2
      show declaration? (firstLine (sides.2 ++ c :: b)) = declaration? (firstLine sides.2)
      rw [hfirst, declaration?_append_blank hb']

/-- White space around a part does not count in what it declares. -/
theorem transferEncoding?_trim (part : Text) :
    transferEncoding? (trim part) = transferEncoding? part := by
  obtain ⟨a, b, ha, hb, hpart⟩ := exists_eq_append_trim part
  conv => rhs; rw [hpart, transferEncoding?_append_blank hb, transferEncoding?_blank_append ha]

/-! ## Declared encodings -/

/-- A line is no mention of the header when its name does not occur in any case. -/
theorem mention?_eq_none_iff {line : Text} :
    mention? line = none ↔ ¬ encodingName <:+: line.map Char.toLower := by
  have hlower : encodingName.map Char.toLower = encodingName := by decide +kernel
  rw [mention?, Option.map_eq_none_iff, ← Option.not_isSome_iff_eq_none, cutAnyCase?_eq_cutBy?,
    isSome_cutBy?_iff, hlower]

/-- A line that starts with the name and a colon declares what follows them. -/
theorem mention?_declaration {spelling value : Text}
    (hspelling : equalsAnyCase spelling encodingName = true) :
    mention? (spelling ++ ':' :: value) = some (encodingIn? value) := by
  have hcut : cutAnyCase? encodingName ([] ++ spelling ++ ':' :: value) =
      some ([], ':' :: value) :=
    cutBy?_of_clearBy (clearBy_nil _ _) (by decide) (beq_iff_eq.1 hspelling) _
  rw [List.nil_append] at hcut
  rw [mention?, hcut]
  rfl

/-- A part is base64 exactly if the encoding it declares is, in any ASCII case. -/
theorem detect_eq_base64_iff {part : Text} : TransferEncoding.detect part = .base64 ↔
    ∃ encoding, transferEncoding? part = some encoding ∧
      equalsAnyCase encoding "base64".toList = true := by
  rw [TransferEncoding.detect]
  generalize "base64".toList = name
  cases transferEncoding? part with
  | none => simp
  | some encoding => cases h : equalsAnyCase encoding name <;> simp [h]

/-- A header that declares the transfer encoding counts unless a line before it mentions the name:
the first such line decides what the part declares, and it is the declaration when the lines before
that leave the name out. -/
theorem transferEncoding?_declared {part spelling value : Text} {before after rest : List Text}
    (h : IsLongestBlock (lines (trim part)) (before ++ (spelling ++ ':' :: value) :: after) rest)
    (hspelling : equalsAnyCase spelling encodingName = true) :
    transferEncoding? part = (before.findSome? mention?).getD (encodingIn? value) ∧
    ((∀ line ∈ before, ¬ encodingName <:+: line.map Char.toLower) →
      transferEncoding? part = encodingIn? value ∧
      (TransferEncoding.detect part = .base64 ↔
        ∃ encoding, encodingIn? value = some encoding ∧
          equalsAnyCase encoding "base64".toList = true)) := by
  have hlines : lines (trim part) = before ++ (spelling ++ ':' :: value) :: (after ++ rest) := by
    rw [h.append, List.append_assoc, List.cons_append]
  -- the declaration is a mention, so no line behind it is looked at
  have hread := transferEncoding?_unlines fun l hl =>
    newline_not_mem_of_mem_lines (t := trim part) hl
  rw [unlines_lines, transferEncoding?_trim, hlines, List.findSome?_append, List.findSome?_cons,
    mention?_declaration hspelling] at hread
  have hfirst : transferEncoding? part = (before.findSome? mention?).getD (encodingIn? value) := by
    rw [hread]
    cases before.findSome? mention? <;> rfl
  refine ⟨hfirst, fun hbefore => ?_⟩
  have hnone : before.findSome? mention? = none :=
    List.findSome?_eq_none_iff.2 fun line hline => mention?_eq_none_iff.2 (hbefore line hline)
  rw [hnone, Option.getD_none] at hfirst
  exact ⟨hfirst, by rw [detect_eq_base64_iff, hfirst]⟩

/-- A part whose encoding is declared behind a folded header. -/
def foldedPart : Text :=
  "\nContent-Type: text/html;\n    charset=utf-8\ncontent-transfer-encoding: BASE64 ;\n\naGk=\n".toList

/-- The name occurs in no line before its declaration, so the declaration is read, as it is spelled.
-/
theorem transferEncoding?_foldedPart :
    IsLongestBlock (lines (trim foldedPart))
      (["Content-Type: text/html;", "    charset=utf-8"].map String.toList ++
        ("content-transfer-encoding".toList ++ ':' :: " BASE64 ;".toList) :: [])
      (["", "aGk="].map String.toList) ∧
    equalsAnyCase "content-transfer-encoding".toList encodingName = true ∧
    transferEncoding? foldedPart = some "BASE64".toList ∧
    TransferEncoding.detect foldedPart = .base64 := by
  have hblock : IsLongestBlock (lines (trim foldedPart))
      (["Content-Type: text/html;", "    charset=utf-8"].map String.toList ++
        ("content-transfer-encoding".toList ++ ':' :: " BASE64 ;".toList) :: [])
      (["", "aGk="].map String.toList) := by
    decide +kernel
  have hspelling : equalsAnyCase "content-transfer-encoding".toList encodingName = true := by
    decide +kernel
  have hfree : ∀ line ∈ ["Content-Type: text/html;", "    charset=utf-8"].map String.toList,
      ¬ contains encodingName (line.map Char.toLower) = true := by
    decide +kernel
  have hvalue : encodingIn? " BASE64 ;".toList = some "BASE64".toList := by decide +kernel
  obtain ⟨hread, hdetect⟩ := (transferEncoding?_declared hblock hspelling).2
    fun line hline hmem => hfree line hline (contains_iff.2 hmem)
  exact ⟨hblock, hspelling, hread.trans hvalue,
    hdetect.2 ⟨"BASE64".toList, hvalue, by decide +kernel⟩⟩

/-- A part that gives its file a name in which the name of the header occurs. -/
def namedPart : Text :=
  unlines (["Content-Type: text/plain; name=\"content-transfer-encoding.txt\"",
    "Content-Transfer-Encoding: base64", "", "aGk="].map String.toList)

/-- The name of the file hides the declaration behind it. -/
theorem not_transferEncoding?_namedPart :
    IsLongestBlock (lines (trim namedPart))
      (["Content-Type: text/plain; name=\"content-transfer-encoding.txt\"".toList] ++
        ("Content-Transfer-Encoding".toList ++ ':' :: " base64".toList) :: [])
      (["", "aGk="].map String.toList) ∧
    encodingIn? " base64".toList = some "base64".toList ∧
    transferEncoding? namedPart = none ∧ TransferEncoding.detect namedPart = .none := by
  decide +kernel

end Mailroom.Mime.HeaderBlock
