import Mailroom.Path

/-!
# Errors

An error names the file that it is about by its path, and what is shown of it shows the path.
-/

namespace Mailroom

/-- What can go wrong with a mail. -/
inductive MailError where
  | missingApiKey
  /-- A file that is there cannot be read.  No operation of the library gives this error, since the
  files of a `FileStore` can all be read; it has its message like the others. -/
  | unreadableAttachment (path : Path)
  | attachmentNotAFile (path : Path)
  | refusedAttachmentType (mediaType : Text) (path : Path)
  /-- A mail cannot be written as JSON.  No operation of the library gives this error, since a
  payload holds nothing but texts, numbers and truth values; it has its message like the others. -/
  | unserializable
  deriving DecidableEq, Repr

/-- An error as it is shown. -/
def MailError.message : MailError → Text
  | .missingApiKey => "cannot build mail: no API secret key has been set".toList
  | .unreadableAttachment path => "cannot read attachment at ".toList ++ path.shown
  | .attachmentNotAFile path => "cannot attach ".toList ++ path.shown ++ ": not a valid file".toList
  | .refusedAttachmentType mediaType path =>
    "cannot attach ".toList ++ path.shown ++ ": ".toList ++ mediaType
      ++ " is not a valid content type".toList
  | .unserializable => "cannot serialize mail to JSON".toList

end Mailroom
