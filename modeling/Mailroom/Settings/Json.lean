import Mailroom.Json.Record
import Mailroom.Settings

/-!
# Settings as JSON
-/

namespace Mailroom

open Json

namespace Site

/-- The site as JSON. -/
def toJson (site : Site) : Json :=
  .record [("name", .string site.name), ("mail", .string site.mail)]

/-- The site that an object holds. -/
def ofJson? (v : Json) : Option Site := do
  let members ← members? v
  let name ← required text? "name" members
  let mail ← required text? "mail" members
  return { name, mail }

end Site

namespace Service

/-- The settings as JSON. -/
def toJson (service : Service) : Json :=
  .record [("api-key", .ofText? service.apiKey), ("track-clicks", .bool service.trackClicks),
    ("track-opens", .bool service.trackOpens),
    ("valid-attachment-types", match service.attachmentTypes with
      | none => .null
      | some types => .array (types.map .string))]

/-- The settings that an object holds. -/
def ofJson? (v : Json) : Option Service := do
  let members ← members? v
  let apiKey ← optional text? "api-key" members
  let trackClicks ← defaulted bool? false "track-clicks" members
  let trackOpens ← defaulted bool? false "track-opens" members
  let attachmentTypes ← optional (list? text?) "valid-attachment-types" members
  return { apiKey, trackClicks, trackOpens, attachmentTypes }

end Service

end Mailroom
