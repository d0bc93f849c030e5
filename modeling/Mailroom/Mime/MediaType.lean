import Mailroom.Text.Basic

/-!
# Media types

The types of content that the library knows apart: the two kinds of text, the two kinds of
containers, and all else by its name.
-/

namespace Mailroom.Mime

open Text

/-- The kinds of text that a mail can hold. -/
inductive Kind where
  | plain
  | html
  deriving DecidableEq, Repr

/-- The media type of a kind of text. -/
def Kind.name : Kind → Text
  | .plain => "text/plain".toList
  | .html => "text/html".toList

@[simp] theorem Kind.name_plain : Kind.plain.name = "text/plain".toList := rfl

@[simp] theorem Kind.name_html : Kind.html.name = "text/html".toList := rfl

/-- The kinds of bodies that are made of parts. -/
inductive Container where
  /-- The parts are versions of the same content. -/
  | alternative
  /-- The parts follow each other. -/
  | mixed
  deriving DecidableEq, Repr

/-- The media type of a container. -/
def Container.name : Container → Text
  | .alternative => "multipart/alternative".toList
  | .mixed => "multipart/mixed".toList

@[simp] theorem Container.name_alternative :
    Container.alternative.name = "multipart/alternative".toList := rfl

@[simp] theorem Container.name_mixed : Container.mixed.name = "multipart/mixed".toList := rfl

/-- The media type of a body. -/
inductive MediaType where
  | text (kind : Kind)
  | multipart (container : Container)
  | other (name : Text)
  deriving DecidableEq, Repr

/-- The media type with the given name, which is in lower case. -/
def MediaType.ofName (name : Text) : MediaType :=
  if name == Kind.plain.name then .text .plain
  else if name == Kind.html.name then .text .html
  else if name == Container.alternative.name then .multipart .alternative
  else if name == Container.mixed.name then .multipart .mixed
  else .other name

/-- The name of a media type. -/
def MediaType.name : MediaType → Text
  | .text kind => kind.name
  | .multipart container => container.name
  | .other name => name

/-- A media type is found by its name, and nothing else is. -/
theorem MediaType.name_ofName (name : Text) : (MediaType.ofName name).name = name := by
  unfold MediaType.ofName
  repeat' split
  all_goals simp_all [MediaType.name]

end Mailroom.Mime
