import Mailroom.Base64
import Mailroom.Error
import Mailroom.Settings

/-!
# Attachments

An attachment is made of contents at hand or of a file.  The media type of a file is guessed
from its contents and has to be accepted by the settings of the service.
-/

namespace Mailroom

open Text

/-- The media type of a file by its contents: text holds no zero byte. -/
def sniffMediaType (bytes : Bytes) : Text :=
  if bytes.contains 0 then "application/octet-stream".toList else "text/plain".toList

/-- Files that can be attached.  What else there may be at a path, a directory for instance, counts
as nothing, and a file that is there can be read. -/
structure FileStore where
  /-- The contents of the file at a path, if there is a file. -/
  read? : Path → Option Bytes := fun _ => none
  /-- The media type of a file by its contents. -/
  mediaTypeOf : Bytes → Text := sniffMediaType

namespace FileStore

/-- The store of the given files, each under its path. -/
def ofList (files : List (Path × Bytes)) : FileStore :=
  let named := files.map fun (path, bytes) => (path.components, bytes)
  { read? := fun path =>
      if path.endsInDirectory then none
      else (named.find? (·.1 == path.components)).map (·.2) }

/-- There is a file at the path. -/
def isFile (store : FileStore) (path : Path) : Bool := (store.read? path).isSome

end FileStore

/-- An attachment of a mail. -/
structure Attachment where
  /-- The contents in base64. -/
  content : Text
  mediaType : Text
  filename : Text
  disposition : Text
  deriving DecidableEq, Repr

namespace Attachment

/-- The attachment with the given contents. -/
def ofContent (filename mediaType : Text) (bytes : Bytes) : Attachment :=
  ⟨Base64.encode bytes, mediaType, filename, "attachment".toList⟩

/-- The attachment of the file at a path.  It has the name of the file unless it is given
another one. -/
def ofFile (store : FileStore) (service : Service) (path : Path) (filename : Option Text) :
    Except MailError Attachment :=
  match store.read? path with
  | none => .error (.attachmentNotAFile path)
  | some bytes =>
    let mediaType := store.mediaTypeOf bytes
    if service.accepts mediaType then
      .ok (ofContent (filename.getD path.fileName) mediaType bytes)
    else .error (.refusedAttachmentType mediaType path)

end Attachment

end Mailroom
