import Mailroom.Json.Parser
import Mailroom.Mailer
import Mailroom.Message.Json
import Mailroom.Mime.Json
import Mailroom.Payload.Json
import Mailroom.Settings.Json
import Mailroom.Proofs.Mime.LineBreaks
import Mailroom.Proofs.Mime.Loss
import Mailroom.Proofs.Mime.RoundTrip
import Mailroom.Proofs.Plain.Wrap
import Mailroom.Proofs.Text.Case
import Mailroom.Proofs.Plain.Markup
import Mailroom.Proofs.Plain.Flow
import Mailroom.Proofs.Plain.QuoteDepth
import Mailroom.Proofs.Mailer.Content
import Mailroom.Proofs.Mime.Width
import Mailroom.Proofs.Mailer.Headers
import Mailroom.Proofs.Payload.Json
import Mailroom.Proofs.Json.RoundTrip
import Mailroom.Proofs.Mime.LastLeaf
import Mailroom.Proofs.Mime.Shape
import Mailroom.Proofs.Mailer.Chunks
import Mailroom.Proofs.Encoded.Search
import Mailroom.Proofs.Encoded.Mime
import Mailroom.Proofs.Encoded.Wrap
import Mailroom.Proofs.Encoded.Extraction
import Mailroom.Proofs.Plain.Groups
import Mailroom.Proofs.Mailer.Outcome
import Mailroom.Proofs.Mailer.Recipients
import Mailroom.Proofs.Plain.Fit
import Mailroom.Proofs.Mime.HeaderLines
import Mailroom.Proofs.Mime.TransferEncoding
import Mailroom.Proofs.Mime.LetterCase
import Mailroom.Proofs.Mime.Base64Text
import Mailroom.Proofs.Mime.Delimiter
import Mailroom.Proofs.Mime.Attributes
import Mailroom.Proofs.Address.Pattern
import Mailroom.Proofs.Address.RoundTrip
import Mailroom.Proofs.Address.Blank
import Mailroom.Proofs.Mailer.Correspondents
import Mailroom.Proofs.Mailer.Attachments
import Mailroom.Proofs.Mailer.Inputs
import Mailroom.Proofs.Payload.Commute
import Mailroom.Proofs.Mime.Declaration
import Mailroom.Proofs.Plain.Tokens
