import ActionGateway.Action
import ActionGateway.Action.Result
import ActionGateway.ActionError
import ActionGateway.ApiVersion
import ActionGateway.Autocomplete
import ActionGateway.Builtins
import ActionGateway.Call
import ActionGateway.Call.Payload
import ActionGateway.CallContext
import ActionGateway.Decimal.Binary64
import ActionGateway.Decimal.Numeral
import ActionGateway.Decimal.Reading
import ActionGateway.Decimal.Shortest
import ActionGateway.Envelope
import ActionGateway.FileTree
import ActionGateway.Form.Multipart
import ActionGateway.Form.Params
import ActionGateway.Form.UrlEncoded
import ActionGateway.Framing
import ActionGateway.Gateway
import ActionGateway.Http.Header
import ActionGateway.Http.MediaType
import ActionGateway.Http.Message
import ActionGateway.Identity
import ActionGateway.Identity.Reader
import ActionGateway.Identity.Tokens
import ActionGateway.Json.Basic
import ActionGateway.Json.Fault
import ActionGateway.Json.Printer
import ActionGateway.Json.Reader
import ActionGateway.Json.Skipping
import ActionGateway.Lifecycle
import ActionGateway.NameMap
import ActionGateway.Network.Config
import ActionGateway.Network.PathPattern
import ActionGateway.Network.Route
import ActionGateway.Network.Server
import ActionGateway.Payload
import ActionGateway.Refusal
import ActionGateway.Service
import ActionGateway.SiteConfig
import ActionGateway.Taxonomy
import ActionGateway.Text.Basic
import ActionGateway.Text.CharRanges
import ActionGateway.Text.Charset
import ActionGateway.Text.Charset.Big5
import ActionGateway.Text.Charset.Chart
import ActionGateway.Text.Charset.Chinese
import ActionGateway.Text.Charset.Front
import ActionGateway.Text.Charset.Gb2312
import ActionGateway.Text.Charset.Japanese
import ActionGateway.Text.Charset.Jis0208
import ActionGateway.Text.Charset.Jis0212
import ActionGateway.Text.Charset.Korean
import ActionGateway.Text.Charset.Ksx1001
import ActionGateway.Text.Charset.SingleByte
import ActionGateway.Text.Charset.Utf16
import ActionGateway.Text.Extender
import ActionGateway.Text.Printable
import ActionGateway.Text.Quoted
import ActionGateway.Text.Search
import ActionGateway.Text.Utf8
import ActionGateway.Translations
import ActionGateway.Proofs.NameMap
import ActionGateway.Proofs.Params
import ActionGateway.Proofs.Extraction
import ActionGateway.Proofs.Serving
import ActionGateway.Proofs.Anonymity
import ActionGateway.Proofs.EnvelopeContract
import ActionGateway.Proofs.Layers
import ActionGateway.Proofs.WriteProtection
import ActionGateway.Proofs.Completions
import ActionGateway.Proofs.Sources
import ActionGateway.Proofs.ErrorContract
import ActionGateway.Proofs.Numeral
import ActionGateway.Proofs.Utf8
import ActionGateway.Proofs.JsonSorting
import ActionGateway.Proofs.JsonReading
import ActionGateway.Proofs.Transports
import ActionGateway.Proofs.UrlEncoding
import ActionGateway.Proofs.Segments
import ActionGateway.Proofs.Routing
import ActionGateway.Proofs.HelpLinks
import ActionGateway.Proofs.FailureSecrecy
import ActionGateway.Proofs.Updates
import ActionGateway.Proofs.Health
import ActionGateway.Proofs.Shutdown
import ActionGateway.Proofs.Responses
import ActionGateway.Proofs.Documents
import ActionGateway.Proofs.WireForms
import ActionGateway.Proofs.Twins
import ActionGateway.Proofs.BodyLimit
import ActionGateway.Proofs.ChangeReports
import ActionGateway.Proofs.FileSecrecy
import ActionGateway.Proofs.Heads
import ActionGateway.Proofs.Folding
import ActionGateway.Proofs.Dispositions
import ActionGateway.Proofs.MediaTypes
import ActionGateway.Proofs.PartHeaders
import ActionGateway.Proofs.PartsReading
import ActionGateway.Proofs.SmuggledDocuments
import ActionGateway.Proofs.Wrapping
import ActionGateway.Proofs.TokenConfiguration
import ActionGateway.Proofs.TokenResolution
import ActionGateway.Proofs.Draining
import ActionGateway.Proofs.Locations
import ActionGateway.Proofs.Origins
import ActionGateway.Proofs.Candidates
import ActionGateway.Proofs.WrittenJson
import ActionGateway.Proofs.SkippedValues
import ActionGateway.Proofs.TextReading
import ActionGateway.Proofs.PrincipalTexts
import ActionGateway.Proofs.References
import ActionGateway.Proofs.Callbacks
import ActionGateway.Proofs.Versions
