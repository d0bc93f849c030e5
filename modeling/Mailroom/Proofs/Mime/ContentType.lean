import Mailroom.Mime.ContentType
import Mailroom.Proofs.Mime.Boundary
import Mailroom.Proofs.Mime.HeaderBlock

/-!
# Declaring a container

A container declares its boundary between double quotes, in the content type header of a body
or in the header line of a part.  The content type is read from its header by fields, and a
part is searched for the word; both give the boundary back, but the search takes single quotes
off it as well.

## Key results

* `isValueOf_of_boundary?`   the boundary of a content type stands in its header
* `parse_header`             the content type reads back its own header
* `find?_headerLine`         the search for a declared boundary reads it from a header line
* `find?_header_iff`         the two readers agree unless the boundary has single quotes around it
-/

namespace Mailroom.Mime

open Text

/-! ## Reading a header -/

namespace ContentType

/-- The value of an attribute stands in its segment of the header. -/
theorem isValueOf_of_attributeOf? {segment name value : Text}
    (h : attributeOf? segment = some (name, value)) : IsValueOf value segment := by
  rw [attributeOf?] at h
  obtain ⟨⟨left, right⟩, hcut, hvalue⟩ := Option.bind_eq_some_iff.1 h
  -- the value is read from what stands behind the sign
  have hright : right <:+: segment := by
    rw [cut?_eq_some hcut]
    exact (List.suffix_append (left ++ ['=']) right).isInfix
  simp only at hvalue
  split at hvalue
  · simp at hvalue
  · rw [Option.some.injEq, Prod.mk.injEq] at hvalue
    rw [← hvalue.2]
    exact (isValueOf_unquote right).mono hright

/-- An attribute whose value stands between double quotes. -/
theorem attributeOf?_quoted {name a value b : Text} (hname : '=' ∉ name)
    (hkey : lower (trim name) ≠ []) (ha : isBlankText a = true) (hb : isBlankText b = true) :
    attributeOf? (name ++ '=' :: (a ++ '"' :: (value ++ ['"']) ++ b)) =
      some (lower (trim name), trim value) := by
  have hcut := cut?_append_cons hname (a ++ '"' :: (value ++ ['"']) ++ b)
  have hvalue : unquote (a ++ '"' :: (value ++ ['"']) ++ b) = trim value := by
    rw [unquote, trim_append_blank ha hb, ← unquote, unquote_quoted]
  rw [attributeOf?, hcut, Option.bind_some]
  simp only [hvalue]
  rw [if_neg (by simpa using hkey)]

/-- A segment without an equals sign is no attribute. -/
theorem attributeOf?_eq_none {segment : Text} (h : '=' ∉ segment) :
    attributeOf? segment = none := by
  have hfree : ¬ ['='] <:+: segment := fun hin => h (hin.subset List.mem_cons_self)
  rw [attributeOf?, cut?_eq_none_iff.2 hfree, Option.bind_none]

/-- The value of an attribute stands in the header. -/
theorem isValueOf_of_attribute? {header name value : Text}
    (h : (parse header).attribute? name = some value) : IsValueOf value header := by
  cases hf : fields ';' header with
  | nil => exact absurd hf (splitWhere_ne_nil _ header)
  | cons first segments =>
    rw [attribute?, parse, hf] at h
    -- the entry was made from one of the segments after the media type
    obtain ⟨segment, hmem, hattr⟩ := List.mem_filterMap.1 (Dictionary.mem_of_get?_ofList h)
    have hfield : segment ∈ fields ';' header := by
      rw [hf]
      exact List.mem_cons_of_mem first hmem
    exact (isValueOf_of_attributeOf? hattr).mono (infix_of_mem_splitWhere hfield)

/-- The boundary of a content type stands in its header. -/
theorem isValueOf_of_boundary? {header boundary : Text}
    (h : (parse header).boundary? = some boundary) : IsValueOf boundary header := by
  rw [boundary?, Option.filter_eq_some_iff] at h
  exact isValueOf_of_attribute? h.1

end ContentType

/-! ## Writing a header -/

/-- The content type header of a container that declares its boundary between double
quotes. -/
def Container.header (container : Container) (boundary : Text) : Text :=
  container.name ++ "; boundary=\"".toList ++ boundary ++ ['"']

/-- The start of the header line that declares a container. -/
def Container.typeLine : Container → Text
  | .alternative => "Content-Type: multipart/alternative".toList
  | .mixed => "Content-Type: multipart/mixed".toList

/-- The header line of a part that is a container.  It stays folded in proofs, where only the
facts below are used. -/
@[irreducible] def Container.headerLine (container : Container) (boundary : Text) : Text :=
  container.typeLine ++ "; boundary=\"".toList ++ boundary ++ ['"']

/-- The header line is the name of the header and the content type. -/
theorem Container.headerLine_eq (container : Container) (boundary : Text) :
    container.headerLine boundary = "Content-Type: ".toList ++ container.header boundary := by
  have hline : container.typeLine = "Content-Type: ".toList ++ container.name := by
    cases container <;> decide +kernel
  rw [headerLine, header, hline]
  simp only [List.append_assoc]

section Header

variable {boundary : Text} (hb : Boundary.IsQuotable boundary)

include hb

/-- The header line is a header block of its own. -/
theorem Container.isBlock_headerLine (container : Container) :
    HeaderBlock.IsBlock (container.headerLine boundary) := by
  have hquoted : container.headerLine boundary =
      container.typeLine ++ "; boundary=\"".toList ++ boundary ++ ['"'] := by
    rw [headerLine]
  have hlast : (container.headerLine boundary).getLast? = some '"' := by
    rw [hquoted, List.getLast?_concat]
  have htrim : trim (container.headerLine boundary) = container.headerLine boundary := by
    have hhead : (container.headerLine boundary).head? = some 'C' := by
      rw [headerLine_eq]
      rfl
    exact trim_eq_self_of_ends hhead hlast (by decide) (by decide)
  have hnewline : '\n' ∉ container.headerLine boundary := by
    have hline : '\n' ∉ container.typeLine := by
      cases container <;> decide +kernel
    rw [hquoted]
    simp [hline, hb.newline_not_mem]
  refine ⟨?_, htrim, fun line hline => ?_⟩
  · rw [hquoted]
    simp
  · rw [lines_eq_singleton hnewline, List.mem_singleton] at hline
    subst hline
    have hend : trimEnd (container.headerLine boundary) = container.headerLine boundary :=
      dropEndWhile_eq_self fun c hc => not_isBlank_of_getLast?_trim (htrim ▸ hc)
    rw [HeaderBlock.isOpen, hend]
    constructor
    · rw [headerLine_eq]
      rfl
    · -- the line ends with the quote, so it is not continued
      rw [hlast]
      rfl

/-- A boundary that is declared between double quotes is unquoted once more. -/
theorem Boundary.declared?_quoted (rest : Text) :
    declared? ('=' :: '"' :: (boundary ++ '"' :: rest)) =
      if (unquote boundary).isEmpty then none else some (unquote boundary) := by
  have hafter : after? ['='] (trimStart ('=' :: '"' :: (boundary ++ '"' :: rest))) =
      some ('"' :: (boundary ++ '"' :: rest)) := rfl
  have hstart : trimStart ('"' :: (boundary ++ '"' :: rest)) = '"' :: (boundary ++ '"' :: rest) :=
    rfl
  rw [declared?, hafter, Option.bind_some, hstart, token_quoted hb.no_quote]

/-- A boundary without single quotes around it stands for itself. -/
theorem Boundary.unquote_eq_self_of_isQuotable
    (hsingle : ∀ inner, boundary ≠ '\'' :: (inner ++ ['\''])) : unquote boundary = boundary := by
  refine unquote_eq_self (trim_eq_self_of_isQuotable hb) ?_ hsingle
  rintro inner rfl
  exact hb.no_quote List.mem_cons_self

/-- Single quotes around a boundary are taken off. -/
theorem Boundary.unquote_eq_inner {inner : Text} (hsingle : boundary = '\'' :: (inner ++ ['\''])) :
    unquote boundary = inner := by
  have hsolid : ∀ c ∈ inner, isBlank c = false := by
    intro c hc
    refine hb.solid c ?_
    rw [hsingle]
    exact List.mem_cons_of_mem _ (List.mem_append_left _ hc)
  rw [hsingle, unquote_singleQuoted]
  exact trim_eq_self (fun c hc => hsolid c (List.mem_of_head? hc))
    (fun c hc => hsolid c (List.mem_of_getLast? hc))

/-- The search reads the attribute of a content type whose media type does not hold the word. -/
theorem Boundary.find?_quoted {type : Text}
    (htype : ¬ "boundary".toList.map Char.toLower <:+: type.map Char.toLower) (rest : Text) :
    Boundary.find? (type ++ "; boundary=\"".toList ++ boundary ++ '"' :: rest) =
      (if (unquote boundary).isEmpty then none else some (unquote boundary)).or
        (Boundary.find? ('=' :: '"' :: (boundary ++ '"' :: rest))) := by
  have hfree : ¬ "boundary".toList.map Char.toLower <:+:
      (type ++ "; ".toList).map Char.toLower := by
    have hsemicolon : ';' ∉ "boundary".toList.map Char.toLower := by decide +kernel
    have hmap : (type ++ "; ".toList).map Char.toLower = type.map Char.toLower ++ ';' :: [' '] := by
      rw [List.map_append]
      rfl
    rw [hmap, infix_append_cons_iff hsemicolon]
    rintro (h | h)
    · exact htype h
    · exact absurd h (by decide +kernel)
  have hlast : (type ++ "; ".toList).getLast? = some ' ' := by
    rw [List.getLast?_append, show "; ".toList.getLast? = some ' ' by decide, Option.some_or]
  -- the word does not stand in the media type
  have hclear := clearBy_of_getLast? hfree hlast (by decide)
  have hreassoc : type ++ "; boundary=\"".toList ++ boundary ++ '"' :: rest =
      type ++ "; ".toList ++ "boundary".toList ++ '=' :: '"' :: (boundary ++ '"' :: rest) := by
    simp
  have hcut : cutAnyCase? "boundary".toList
      (type ++ "; boundary=\"".toList ++ boundary ++ '"' :: rest) =
        some (type ++ "; ".toList, '=' :: '"' :: (boundary ++ '"' :: rest)) := by
    rw [hreassoc]
    exact cutBy?_of_clearBy hclear (by decide) rfl _
  rw [find?_eq_or hcut, declared?_quoted hb]

/-- The search for a declared boundary finds the one in a header line. -/
theorem Boundary.find?_headerLine (hsingle : boundary.head? ≠ some '\'') (container : Container)
    (rest : Text) :
    Boundary.find? ('\n' :: (container.headerLine boundary ++ rest)) = some boundary := by
  have htype : ¬ "boundary".toList.map Char.toLower <:+:
      ('\n' :: container.typeLine).map Char.toLower := by
    rw [← contains_iff]
    cases container <;> decide +kernel
  have hreassoc : '\n' :: (container.headerLine boundary ++ rest) =
      '\n' :: container.typeLine ++ "; boundary=\"".toList ++ boundary ++ '"' :: rest := by
    simp [Container.headerLine]
  -- a boundary that starts with no single quote has no pair of them
  have hunquote : unquote boundary = boundary := by
    refine unquote_eq_self_of_isQuotable hb ?_
    rintro inner rfl
    exact hsingle rfl
  rw [hreassoc, find?_quoted hb htype, hunquote, if_neg (by simp [hb.ne_nil]), Option.some_or]

/-- The content type reads back its own header. -/
theorem ContentType.parse_header (container : Container) :
    ContentType.parse (container.header boundary) =
      ⟨container.name, .ofList [("boundary".toList, boundary)]⟩ := by
  have hattr : ';' ∉ " boundary=\"".toList ++ boundary ++ ['"'] := by
    simp [hb.no_semicolon]
  have hreassoc : container.header boundary =
      container.name ++ ';' :: (" boundary=\"".toList ++ boundary ++ ['"']) := by
    simp [Container.header]
  have hfields : fields ';' (container.header boundary) =
      [container.name, " boundary=\"".toList ++ boundary ++ ['"']] := by
    rw [hreassoc, fields_append, fields_eq_singleton hattr]
    cases container <;> rfl
  have hname : lower (unquote container.name) = container.name := by
    cases container <;> decide +kernel
  have hkey : lower (trim " boundary".toList) = "boundary".toList := by decide +kernel
  -- the boundary stands in quotes right behind the sign
  have hattribute : attributeOf? (" boundary=\"".toList ++ boundary ++ ['"']) =
      some ("boundary".toList, boundary) := by
    have hne : lower (trim " boundary".toList) ≠ [] := by
      rw [hkey]
      decide
    have hquoted : attributeOf?
        (" boundary".toList ++ '=' :: ([] ++ '"' :: (boundary ++ ['"']) ++ [])) =
          some (lower (trim " boundary".toList), trim boundary) :=
      attributeOf?_quoted (by decide) hne rfl rfl
    rw [hkey, Boundary.trim_eq_self_of_isQuotable hb, List.nil_append, List.append_nil] at hquoted
    rw [← hquoted, List.append_assoc]
    rfl
  rw [parse, hfields]
  simp only [hname, List.filterMap_cons, hattribute, List.filterMap_nil]

/-- A written content type is that of its container. -/
theorem ContentType.mediaType_header (container : Container) :
    (ContentType.parse (container.header boundary)).mediaType = .multipart container := by
  rw [parse_header hb]
  cases container <;> rfl

/-- It gives the boundary. -/
theorem ContentType.boundary?_header (container : Container) :
    (ContentType.parse (container.header boundary)).boundary? = some boundary := by
  have hkey : lower "boundary".toList = "boundary".toList := by decide +kernel
  have hne : (!boundary.isEmpty) = true := by simp [hb.ne_nil]
  rw [parse_header hb, boundary?, attribute?, hkey, Dictionary.ofList, List.foldl_cons,
    List.foldl_nil, Dictionary.get?_insert, if_pos rfl, Option.filter_some, if_pos hne]

/-- The search reads the boundary of a header without single quotes around it.  Where nothing is
left, it goes on behind the header. -/
theorem Boundary.find?_header (container : Container) (rest : Text) :
    Boundary.find? (container.header boundary ++ rest) =
      if (unquote boundary).isEmpty then Boundary.find? rest else some (unquote boundary) := by
  have htype : ¬ "boundary".toList.map Char.toLower <:+: container.name.map Char.toLower := by
    rw [← contains_iff]
    cases container <;> decide +kernel
  have hreassoc : container.header boundary ++ rest =
      container.name ++ "; boundary=\"".toList ++ boundary ++ '"' :: rest := by
    simp [Container.header]
  rw [hreassoc, find?_quoted hb htype]
  by_cases hempty : unquote boundary = []
  · -- only a pair of single quotes leaves nothing
    have hquotes : boundary = ['\'', '\''] := by
      by_cases hsingle : ∃ inner, boundary = '\'' :: (inner ++ ['\''])
      · obtain ⟨inner, hinner⟩ := hsingle
        rw [unquote_eq_inner hb hinner] at hempty
        rw [hinner, hempty]
        rfl
      · rw [unquote_eq_self_of_isQuotable hb (not_exists.1 hsingle)] at hempty
        exact absurd hempty hb.ne_nil
    have hfree : cutAnyCase? "boundary".toList ('=' :: '"' :: boundary) = none := by
      rw [hquotes]
      decide +kernel
    simp only [hempty, List.isEmpty_nil, if_true, Option.none_or]
    exact find?_append_cons hfree (by decide +kernel)
  · simp [hempty]

/-- The two readers of a boundary agree, unless it stands between single quotes: the content type
gives it as it is declared, and the search takes the single quotes off as well. -/
theorem Boundary.find?_header_iff (container : Container) :
    (ContentType.parse (container.header boundary)).boundary? = some boundary ∧
    ((Boundary.find? (container.header boundary) = some boundary ∧
        ∀ rest, Boundary.find? (container.header boundary ++ '\n' :: rest) = some boundary) ↔
      ∀ inner, boundary ≠ '\'' :: (inner ++ ['\''])) ∧
    ∀ inner rest, boundary = '\'' :: (inner ++ ['\'']) →
      Boundary.find? (container.header boundary ++ rest) =
        if inner.isEmpty then Boundary.find? rest else some inner := by
  -- between single quotes, only what stands inside them is found
  have hquoted : ∀ inner rest, boundary = '\'' :: (inner ++ ['\'']) →
      Boundary.find? (container.header boundary ++ rest) =
        if inner.isEmpty then Boundary.find? rest else some inner := by
    intro inner rest hinner
    rw [find?_header hb, unquote_eq_inner hb hinner]
  refine ⟨ContentType.boundary?_header hb container, ⟨?_, fun hsingle => ?_⟩, hquoted⟩
  · rintro ⟨hfind, -⟩ inner hinner
    have hread := hquoted inner [] hinner
    rw [List.append_nil, hfind] at hread
    split at hread
    · rw [find?_eq_none rfl] at hread
      exact nomatch hread
    · -- what is found is shorter than the boundary by its quotes
      rw [Option.some.injEq] at hread
      have hlength := congrArg List.length hinner
      rw [List.length_cons, List.length_append, ← hread] at hlength
      omega
  · have hread (rest : Text) :
        Boundary.find? (container.header boundary ++ rest) = some boundary := by
      rw [find?_header hb, unquote_eq_self_of_isQuotable hb hsingle, if_neg (by simp [hb.ne_nil])]
    have hheader := hread []
    rw [List.append_nil] at hheader
    exact ⟨hheader, fun rest => hread ('\n' :: rest)⟩

end Header

/-- A boundary may hold the word itself, an equals sign and a quote. -/
theorem Boundary.find?_header_equalsBoundary :
    Boundary.IsQuotable "'=boundary=?".toList ∧
    Boundary.find? (Container.mixed.header "'=boundary=?".toList) = some "'=boundary=?".toList ∧
    Boundary.find? (Container.mixed.header "'=boundary=?".toList ++ '\n' :: "--".toList) =
      some "'=boundary=?".toList := by
  have hb : Boundary.IsQuotable "'=boundary=?".toList :=
    Boundary.isQuotable_of_subset (by decide) (by decide +kernel)
  have hsingle : ∀ inner, "'=boundary=?".toList ≠ '\'' :: (inner ++ ['\'']) := by
    intro inner hinner
    have hlast := congrArg List.getLast? hinner
    rw [← List.cons_append, List.getLast?_concat] at hlast
    exact absurd hlast (by decide)
  obtain ⟨hheader, hrest⟩ := (Boundary.find?_header_iff hb .mixed).2.1.2 hsingle
  exact ⟨hb, hheader, hrest "--".toList⟩

/-- The search takes single quotes off that belong to the boundary. -/
theorem Boundary.not_find?_header_singleQuoted :
    "'x'".toList ⊆ Boundary.tokenCharacters ∧
    (ContentType.parse (Container.mixed.header "'x'".toList)).boundary? = some "'x'".toList ∧
    Boundary.find? (Container.mixed.header "'x'".toList) = some "x".toList := by
  have hsubset : "'x'".toList ⊆ Boundary.tokenCharacters := by decide +kernel
  have hb := Boundary.isQuotable_of_subset (by decide) hsubset
  have hfind := Boundary.find?_header hb .mixed []
  rw [List.append_nil] at hfind
  exact ⟨hsubset, ContentType.boundary?_header hb .mixed, hfind⟩

/-! ## Declared boundaries -/

/-- The header declares a container and its boundary. -/
structure Declares (header : Text) (container : Container) (boundary : Text) : Prop where
  mediaType : (ContentType.parse header).mediaType = .multipart container
  boundary : (ContentType.parse header).boundary? = some boundary

/-- A header declares the boundary that it gives between double quotes, wherever the attribute
stands and in whatever case its name and the media type are written, if no later attribute has
the same name. -/
theorem declares_of_quoted {boundary header type name a b : Text} {before after : List Text}
    {container : Container} (hb : Boundary.IsQuotable boundary)
    (hfields : fields ';' header =
      type :: (before ++ (name ++ '=' :: (a ++ '"' :: (boundary ++ ['"']) ++ b)) :: after))
    (htype : lower (unquote type) = container.name)
    (hname : '=' ∉ name) (hkey : lower (trim name) = "boundary".toList)
    (hleft : isBlankText a = true) (hright : isBlankText b = true)
    (hafter : ∀ segment ∈ after,
      (ContentType.attributeOf? segment).map Prod.fst ≠ some "boundary".toList) :
    Declares header container boundary := by
  have hattribute : ContentType.attributeOf?
      (name ++ '=' :: (a ++ '"' :: (boundary ++ ['"']) ++ b)) =
        some ("boundary".toList, boundary) := by
    rw [ContentType.attributeOf?_quoted hname (by rw [hkey]; decide) hleft hright, hkey,
      Boundary.trim_eq_self_of_isQuotable hb]
  have hparse : ContentType.parse header = ⟨container.name, .ofList
      (before.filterMap ContentType.attributeOf? ++
        ("boundary".toList, boundary) :: after.filterMap ContentType.attributeOf?)⟩ := by
    rw [ContentType.parse, hfields]
    simp only [htype, List.filterMap_append, List.filterMap_cons, hattribute]
  -- the last attribute of the name counts, and none comes behind this one
  have hlast : (after.filterMap ContentType.attributeOf?).reverse.find?
      (·.1 == "boundary".toList) = none := by
    rw [List.find?_eq_none]
    intro pair hpair hsame
    obtain ⟨segment, hmem, hsegment⟩ := List.mem_filterMap.1 (List.mem_reverse.1 hpair)
    apply hafter segment hmem
    rw [hsegment, Option.map_some, eq_of_beq hsame]
  constructor
  · rw [hparse]
    cases container <;> rfl
  · have hlower : lower "boundary".toList = "boundary".toList := by decide +kernel
    rw [hparse, ContentType.boundary?, ContentType.attribute?, hlower, Dictionary.get?_ofList,
      List.reverse_append, List.reverse_cons, List.append_assoc, List.find?_append, hlast,
      Option.none_or, List.singleton_append, List.find?_cons_of_pos (by simp), Option.map_some]
    simp [hb.ne_nil]

end Mailroom.Mime
