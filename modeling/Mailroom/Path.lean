import Mailroom.Text.Utf8

/-!
# Paths

A path is a string of bytes, as the file system takes it.  Two of them have a meaning, the slash
between components and the dot; the others need not even be UTF-8.  Such a path can be attached and
shown, with replacement characters in it, but there is no text that spells it.
-/

namespace Mailroom

open Text

/-- A path of the file system. -/
structure Path where
  bytes : Bytes
  deriving DecidableEq, Repr

namespace Path

/-- The path that a text spells. -/
def ofText (t : Text) : Path := ⟨toUtf8 t⟩

/-- The path as it is shown, with a replacement character for what is not UTF-8. -/
def shown (path : Path) : Text := ofUtf8 path.bytes

/-- The text that spells the path, if there is one. -/
def text? (path : Path) : Option Text :=
  -- a replacement character that was put in does not spell what it stands for
  if toUtf8 path.shown = path.bytes then some path.shown else none

/-- The slash, which divides components. -/
def slash : UInt8 := 0x2F

/-- The dot: one is the directory at hand, and two are the one above it. -/
def dot : UInt8 := 0x2E

/-- The component leads nowhere, being empty or a single dot. -/
def isIdle (component : Bytes) : Bool := component.isEmpty || component == [dot]

/-- The components of a path that lead somewhere. -/
def components (path : Path) : List Bytes :=
  (path.bytes.splitOn slash).filter fun component => !isIdle component

/-- The last component of a path, unless it is the directory above. -/
def lastName? (path : Path) : Option Bytes :=
  path.components.getLast?.filter fun component => component != [dot, dot]

/-- The name of the file at a path as it is shown. -/
def fileName (path : Path) : Text := (path.lastName?.map ofUtf8).getD "noname".toList

/-- A path leads to a directory, not to a file, if it ends in a slash or a single dot. -/
def endsInDirectory (path : Path) : Bool :=
  match (path.bytes.splitOn slash).getLast? with
  | none => true
  | some component => isIdle component

end Path

end Mailroom
