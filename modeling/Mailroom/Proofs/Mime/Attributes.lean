import Mailroom.Proofs.Mime.ContentType
import Mailroom.Proofs.Text.Case

/-!
# Writing a content type with its attributes

The counterpart of `ContentType.parse`: a media type with attributes behind it, each value
between double quotes, white space around every separator, and segments without an equals sign
anywhere among the attributes.  Reading it gives the media type in lower case and the attributes
under their names in lower case.  One pair of quotes is taken off a value, so the value may hold
quotes of its own, an equals sign, or nothing at all.

## Key results

* `attributeOf?_written`   an attribute is read back with its value
* `parse_text`             the content type that a written header gives
* `parse_written`          the media type and the attributes that are found in it
-/

namespace Mailroom.Mime.ContentType

open Text

/-- A stretch of white space. -/
abbrev Spaces := { t : Text // isBlankText t = true }

/-- Spaces hold nothing but white space. -/
theorem Spaces.not_mem (s : Spaces) {c : Char} (hc : isBlank c = false) : c ∉ s.val := by
  intro hmem
  have hblank := isBlankText_iff.1 s.property c hmem
  rw [hc] at hblank
  exact nomatch hblank

/-- An attribute as it is written. -/
structure Attribute where
  name : Text
  value : Text
  beforeName : Spaces
  afterName : Spaces
  beforeValue : Spaces
  afterValue : Spaces
  name_ne_nil : name ≠ []
  trim_name : trim name = name
  semicolon_not_mem_name : ';' ∉ name
  equals_not_mem_name : '=' ∉ name
  trim_value : trim value = value
  semicolon_not_mem_value : ';' ∉ value

/-- The text of an attribute. -/
def Attribute.written (a : Attribute) : Text :=
  a.beforeName.val ++ a.name ++ a.afterName.val ++
    '=' :: (a.beforeValue.val ++ '"' :: (a.value ++ ['"']) ++ a.afterValue.val)

/-- What stands between two semicolons behind the media type. -/
inductive Segment where
  | named (a : Attribute)
  /-- No attribute, for want of an equals sign. -/
  | bare (text : Text) (semicolon_not_mem : ';' ∉ text) (equals_not_mem : '=' ∉ text)

/-- The text of a segment. -/
def Segment.written : Segment → Text
  | .named a => a.written
  | .bare text _ _ => text

/-- The attribute that a segment is. -/
def Segment.attribute? : Segment → Option Attribute
  | .named a => some a
  | .bare _ _ _ => none

/-- A content type header as it is written. -/
structure Spelling where
  type : Text
  before : Spaces
  after : Spaces
  segments : List Segment
  trim_type : trim type = type
  semicolon_not_mem : ';' ∉ type
  no_doubleQuotes : ∀ inner, type ≠ '"' :: (inner ++ ['"'])
  no_singleQuotes : ∀ inner, type ≠ '\'' :: (inner ++ ['\''])

namespace Spelling

/-- The attributes of a header in order. -/
def attributes (h : Spelling) : List Attribute := h.segments.filterMap Segment.attribute?

/-- The text of a header. -/
def text (h : Spelling) : Text :=
  join [';'] ((h.before.val ++ h.type ++ h.after.val) :: h.segments.map Segment.written)

/-- The header without the segments that are no attributes. -/
def withoutBare (h : Spelling) : Spelling := { h with segments := h.attributes.map .named }

/-- The other segments are not among the attributes. -/
theorem attributes_withoutBare (h : Spelling) : h.withoutBare.attributes = h.attributes := by
  rw [attributes, withoutBare, List.filterMap_map]
  exact List.filterMap_some

end Spelling

/-! ## Segments -/

/-- No written segment has a semicolon, so they can be told apart. -/
theorem semicolon_not_mem_written (s : Segment) : ';' ∉ s.written := by
  cases s with
  | bare text semicolon_not_mem _ => exact semicolon_not_mem
  | named a =>
    have hspaces (s : Spaces) : ';' ∉ s.val := s.not_mem (by decide)
    simp [Segment.written, Attribute.written, hspaces, a.semicolon_not_mem_name,
      a.semicolon_not_mem_value]

/-- An attribute is read back with its value. -/
theorem attributeOf?_written (a : Attribute) :
    attributeOf? a.written = some (lower a.name, a.value) := by
  have hname : '=' ∉ a.beforeName.val ++ a.name ++ a.afterName.val := by
    have hspaces (s : Spaces) : '=' ∉ s.val := s.not_mem (by decide)
    simp [hspaces, a.equals_not_mem_name]
  -- the white space around the name is trimmed, and the name does not end in any
  have hkey : trim (a.beforeName.val ++ a.name ++ a.afterName.val) = a.name := by
    rw [trim_append_blank a.beforeName.property a.afterName.property, a.trim_name]
  have hne : lower a.name ≠ [] := mt lower_eq_nil_iff.1 a.name_ne_nil
  rw [Attribute.written, attributeOf?_quoted hname (by rwa [hkey]) a.beforeValue.property
    a.afterValue.property, hkey, a.trim_value]

/-- The attributes that are read from some segments. -/
theorem filterMap_attributeOf?_written (segments : List Segment) :
    (segments.map Segment.written).filterMap attributeOf? =
      (segments.filterMap Segment.attribute?).map fun a => (lower a.name, a.value) := by
  -- a segment without an equals sign is passed by
  have hsegment : attributeOf? ∘ Segment.written =
      fun s => s.attribute?.map fun a => (lower a.name, a.value) := by
    funext s
    cases s with
    | named a => exact attributeOf?_written a
    | bare text _ equals_not_mem => exact attributeOf?_eq_none equals_not_mem
  rw [List.filterMap_map, List.map_filterMap, hsegment]

/-! ## Headers -/

/-- The content type that a written header gives. -/
theorem parse_text (h : Spelling) :
    parse h.text = ⟨lower h.type, .ofList (h.attributes.map fun a => (lower a.name, a.value))⟩ := by
  have hspaces (s : Spaces) : ';' ∉ s.val := s.not_mem (by decide)
  have htype : ';' ∉ h.before.val ++ h.type ++ h.after.val := by
    simp [hspaces, h.semicolon_not_mem]
  -- no segment holds a semicolon, so cutting at them gives the segments back
  have hfields : fields ';' h.text =
      (h.before.val ++ h.type ++ h.after.val) :: h.segments.map Segment.written := by
    refine fields_join (by simp) (List.forall_mem_cons.2 ⟨htype, ?_⟩)
    exact List.forall_mem_map.2 fun s _ => semicolon_not_mem_written s
  have hunquote : unquote (h.before.val ++ h.type ++ h.after.val) = h.type := by
    rw [unquote, trim_append_blank h.before.property h.after.property, ← unquote]
    exact unquote_eq_self h.trim_type h.no_doubleQuotes h.no_singleQuotes
  rw [parse, hfields]
  simp only [hunquote, filterMap_attributeOf?_written, Spelling.attributes]

/-- A written header gives its media type in lower case.  Under every name stands the value of the
last attribute whose name has the same lower-case form, and segments without an equals sign
change nothing. -/
theorem parse_written (h : Spelling) :
    (parse h.text).name = lower h.type ∧
    (∀ name, (parse h.text).attribute? name =
      (h.attributes.reverse.find? fun a => lower a.name == lower name).map (·.value)) ∧
    parse h.text = parse h.withoutBare.text := by
  refine ⟨by rw [parse_text], fun name => ?_, ?_⟩
  · rw [parse_text, attribute?, Dictionary.get?_ofList, ← List.map_reverse, List.find?_map,
      Option.map_map]
    rfl
  · rw [parse_text, parse_text, Spelling.attributes_withoutBare]
    rfl

/-- A header whose first attribute is given again in other letters, without a value, behind a
segment that is no attribute. -/
def Spelling.repeated : Spelling where
  type := "Text/Plain".toList
  before := ⟨[], rfl⟩
  after := ⟨" ".toList, by decide⟩
  segments :=
    [.named ⟨"Näme".toList, "a=\"b\"".toList, ⟨" ".toList, by decide⟩, ⟨"\t".toList, by decide⟩,
        ⟨" ".toList, by decide⟩, ⟨[], rfl⟩, by decide, by decide, by decide, by decide, by decide,
        by decide⟩,
      .bare "flowed".toList (by decide) (by decide),
      .named ⟨"NÄME".toList, [], ⟨[], rfl⟩, ⟨[], rfl⟩, ⟨[], rfl⟩, ⟨[], rfl⟩, by decide, by decide,
        by decide, by decide, by decide, by decide⟩]
  trim_type := by decide
  semicolon_not_mem := by decide
  no_doubleQuotes inner h := absurd (congrArg List.head? h) (by simp)
  no_singleQuotes inner h := absurd (congrArg List.head? h) (by simp)

/-- The empty value of the last attribute hides that of the first. -/
theorem parse_written_repeated :
    Spelling.repeated.text =
      "Text/Plain ; Näme\t= \"a=\"b\"\";flowed;NÄME=\"\"".toList ∧
    (parse Spelling.repeated.text).name = "text/plain".toList ∧
    (parse Spelling.repeated.text).attribute? "nämE".toList = some [] ∧
    (parse Spelling.repeated.text).attribute? "flowed".toList = none := by
  obtain ⟨hname, hattribute, -⟩ := parse_written Spelling.repeated
  refine ⟨by decide +kernel, ?_, ?_, ?_⟩
  · rw [hname]
    decide +kernel
  · rw [hattribute]
    decide +kernel
  · rw [hattribute]
    decide +kernel

end Mailroom.Mime.ContentType
