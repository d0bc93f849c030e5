import Mailroom.Html.Reference
import Mailroom.Text.Case

/-!
# Tags

What a tag contributes to the rendering of a document as plain text, and where reading goes
on after it.  Most tags contribute nothing.  Block elements and list items break the line,
scripts, style sheets, document heads and comments vanish with their contents, and a link
is shown by its label and its target.

## Key results

* `length_readMark_le`          reading goes on in what follows the tag
* `length_label_readMark_le`    the label of a link is part of what follows the tag
-/

namespace Mailroom.Html

open Text

/-- What a tag contributes. -/
inductive Mark where
  /-- The text itself. -/
  | text (t : Text)
  /-- A link, whose label is a document of its own. -/
  | link (label target : Text)

/-- A tag, read from what follows its opening bracket. -/
structure Tag where
  /-- The name in lower case, a leading slash included. -/
  name : Text
  /-- What follows the name within the brackets. -/
  attributes : Text
  /-- What follows the closing bracket. -/
  rest : Text

/-- The tag at the start of `s`.  Without a closing bracket, or with nothing before it,
there is none. -/
def Tag.read? (s : Text) : Option Tag :=
  match cut? ['>'] s with
  | none => none
  | some ([], _) => none
  | some (tag, rest) =>
    some ⟨lower (tag.takeWhile (!isBlank ·)), (tag.dropWhile (!isBlank ·)).drop 1, rest⟩

/-- What follows the first occurrence of `needle`, and nothing when there is none. -/
def past (needle t : Text) : Text :=
  match cut? needle t with
  | none => []
  | some (_, rest) => rest

/-- The tags that start a new line. -/
def breakTags : List Text := ["br", "br/", "li", "/ol", "/ul"].map String.toList

/-- The tags that leave an empty line. -/
def paragraphTags : List Text :=
  ["p", "h1", "h2", "h3", "h4", "h5", "h6", "/h1", "/h2", "/h3", "/h4", "/h5", "/h6"].map
    String.toList

/-- The tags of the elements that are left out with their contents. -/
def hiddenTags : List Text := ["head", "script", "style"].map String.toList

/-- A line break of the rendering. -/
def lineBreak : Text := ['\r', '\n']

/-- What follows the closing tag of the element `name`, found by the start of its name in
any ASCII case. -/
def pastElement (name t : Text) : Text :=
  match cutAnyCase? ('<' :: '/' :: name) t with
  | none => []
  | some (_, rest) => past ['>'] rest

/-- The target among the attributes of a link: the quoted value of the first `href`, unless
it is a script. -/
def target? (attributes : Text) : Option Text :=
  (cut? "href".toList attributes).bind fun (_, afterName) =>
  (after? ['='] (trimStart afterName)).bind fun afterEquals =>
  match trimStart afterEquals with
  | [] => none
  | quote :: t =>
    if quote == '\'' || quote == '"' then
      (cut? [quote] t).bind fun (value, _) =>
        if startsWith "javascript:".toList value then none else some (decodeReferences value)
    else none

/-- The mark of a link and what follows its closing tag.  The label is in ASCII lower case;
it is not shown beside a target that it repeats. -/
def readLink (tag : Tag) : Mark × Text :=
  let target := target? tag.attributes
  match cutAnyCase? "</a".toList tag.rest with
  | none => (.text (target.getD []), [])
  | some (inner, rest) =>
    let label := trim (inner.map Char.toLower)
    let mark : Mark :=
      match target with
      | none => .text label
      | some target => if label == target then .text target else .link label target
    (mark, past ['>'] rest)

/-- A text in which no tag ends: its brackets stay, and what stands between them is
decoded. -/
def decodeUntagged (s : Text) : Text := join ['<'] ((fields '<' s).map decodeReferences)

/-- The mark of the tag whose opening bracket stands before `s`, and what follows the tag or
the element it opens.  A bracket that opens no tag stands for itself, and without a closing
bracket nothing opens one up to the end. -/
def readMark (s : Text) : Mark × Text :=
  match Tag.read? s with
  | none =>
    if contains ['>'] s then (.text ['<'], s) else (.text ('<' :: decodeUntagged s), [])
  | some tag =>
    if breakTags.contains tag.name then (.text lineBreak, tag.rest)
    else if paragraphTags.contains tag.name then (.text (lineBreak ++ lineBreak), tag.rest)
    else if hiddenTags.contains tag.name then (.text [], pastElement tag.name tag.rest)
    -- the end of a comment is looked for from its start, across brackets
    else if tag.name == "!--".toList then (.text [], past "-->".toList s)
    else if tag.name == ['a'] then readLink tag
    else (.text [], tag.rest)

/-! ## What is left to read -/

/-- What follows a tag is no longer than the text. -/
private theorem length_rest_le {s : Text} {tag : Tag} (h : Tag.read? s = some tag) :
    tag.rest.length ≤ s.length := by
  unfold Tag.read? at h
  split at h
  · simp at h
  · simp at h
  · next hc =>
    have := length_cutBy? hc
    simp only [Option.some.injEq] at h
    subst h
    simp only
    omega

/-- Nor is what follows a word. -/
private theorem length_past_le (needle t : Text) : (past needle t).length ≤ t.length := by
  unfold past
  split
  · simp
  · next hc =>
    have := length_cutBy? hc
    omega

/-- Nor is what follows an element. -/
private theorem length_pastElement_le (name t : Text) :
    (pastElement name t).length ≤ t.length := by
  unfold pastElement
  split
  · simp
  · next rest hc =>
    have := length_cutBy? hc
    have := length_past_le ['>'] rest
    omega

/-- Nor is what follows a link. -/
private theorem length_readLink_le (tag : Tag) :
    (readLink tag).2.length ≤ tag.rest.length := by
  unfold readLink
  split
  · simp
  · next inner rest hc =>
    have := length_cutBy? hc
    have := length_past_le ['>'] rest
    simp only
    omega

/-- The label of a link stands between its tags. -/
private theorem length_label_readLink_le {tag : Tag} {label target rest : Text}
    (h : readLink tag = (.link label target, rest)) : label.length ≤ tag.rest.length := by
  unfold readLink at h
  split at h
  · simp at h
  · next inner _ hc =>
    have := length_cutBy? hc
    -- the label is the trimmed inside of the element
    have := length_trim_le (inner.map Char.toLower)
    simp only [List.length_map] at this
    simp only [Prod.mk.injEq] at h
    obtain ⟨hm, _⟩ := h
    split at hm
    · simp at hm
    · split at hm
      · simp at hm
      · simp only [Mark.link.injEq] at hm
        obtain ⟨rfl, _⟩ := hm
        omega

/-- Reading goes on in what follows the opening bracket. -/
theorem length_readMark_le (s : Text) : (readMark s).2.length ≤ s.length := by
  unfold readMark
  split
  · split <;> simp
  · next tag ht =>
    split
    · exact length_rest_le ht
    split
    · exact length_rest_le ht
    split
    · exact Nat.le_trans (length_pastElement_le tag.name tag.rest) (length_rest_le ht)
    split
    · exact length_past_le "-->".toList s
    split
    · exact Nat.le_trans (length_readLink_le tag) (length_rest_le ht)
    · exact length_rest_le ht

/-- The label of a link is no longer than what follows the opening bracket. -/
theorem length_label_readMark_le {s label target rest : Text}
    (h : readMark s = (.link label target, rest)) : label.length ≤ s.length := by
  unfold readMark at h
  split at h
  · split at h <;> simp at h
  · next tag ht =>
    have := length_rest_le ht
    split at h
    · simp at h
    split at h
    · simp at h
    split at h
    · simp at h
    split at h
    · simp at h
    split at h
    · -- only a link has a label
      have := length_label_readLink_le h
      omega
    · simp at h

end Mailroom.Html
