import ActionGateway.ActionError
import ActionGateway.Envelope
import ActionGateway.Payload

/-!
# The taxonomy of errors

How a failure is answered is a matter of its kind: the taxonomy gives each kind a label, a status,
a base message, and a way to compose the message of the record from the base and the error's own
detail.
-/

namespace ActionGateway

/-! ## Entries

A kind is described by data, and by one of five ways to compose a message. What differs between
kinds of one composition are their texts. -/

/-- How the record of an error is composed. -/
inductive Composition
  /-- the error's own message, and the call's payload under `data` -/
  | detailWithData
  /-- the base message, and the cause after a colon if the error gives one -/
  | baseWithCause
  /-- no message, but the errors of the fields as members -/
  | fieldErrors
  /-- the base message and the error's detail right after it -/
  | baseWithDetail
  /-- the base message alone -/
  | fixed
  deriving DecidableEq, Repr

/-- What the taxonomy says about a kind. -/
structure TaxonomyEntry where
  label : String
  status : Nat
  baseMessage : String
  composition : Composition
  deriving DecidableEq, Repr

namespace Taxonomy

/-- The kinds in the order in which the taxonomy lists them. -/
def kinds : List ErrorKind :=
  [.integrity, .notAuthorized, .notFound, .validation, .searchQuery, .search, .searchIndex,
   .searchConnection, .internal]

/-- The entry of a kind. -/
def entry : ErrorKind → TaxonomyEntry
  | .integrity => ⟨"Integrity Error", 400, "", .detailWithData⟩
  | .notAuthorized => ⟨"Authorization Error", 403, "Access denied", .baseWithCause⟩
  | .notFound => ⟨"Not Found Error", 404, "Not found", .baseWithCause⟩
  | .validation => ⟨"Validation Error", 409, "", .fieldErrors⟩
  | .searchQuery => ⟨"Search Query Error", 400, "Search Query is invalid: ", .baseWithDetail⟩
  | .search => ⟨"Search Error", 409, "Search error: ", .baseWithDetail⟩
  | .searchIndex =>
    ⟨"Search Index Error", 500, "Unable to add package to search index: ", .baseWithDetail⟩
  | .searchConnection =>
    ⟨"Search Connection Error", 500, "Unable to connect to the search server", .fixed⟩
  | .internal => ⟨"Internal Server Error", 500, "Internal Server Error", .fixed⟩

/-- The label of a kind. -/
def label (kind : ErrorKind) : String :=
  (entry kind).label

/-! ## Records

A record is composed of what an error carries for its caller: a text, or the errors of fields. What
`internal` carries is neither of them, so no record shows it. -/

/-- The text that an error carries for the caller: its message, its cause or its detail. -/
def detail? : ActionError → Option String
  | .integrity message => some message
  | .notAuthorized cause => cause
  | .notFound cause => cause
  | .searchQuery detail => some detail
  | .search detail => some detail
  | .searchIndex detail => some detail
  | .validation _ => none
  | .searchConnection => none
  | .internal _ => none

/-- The errors by field that an error carries. -/
def fieldErrors : ActionError → NameMap Json
  | .validation errors => errors
  | _ => .empty

/-- The base message with a cause that is not empty after a colon. -/
def withCause (base : String) : Option String → String
  | none => base
  | some cause => if cause.isEmpty then base else base ++ ": " ++ cause

/-- The record of an error. `__type` always holds the label: a field error of that name is left
out. -/
def record (error : ActionError) (payload : Payload) : ErrorRecord :=
  let e := entry error.kind
  match e.composition with
  | .detailWithData =>
    -- Kinds of this composition always carry a text, as do those of `baseWithDetail`.
    (ErrorRecord.new e.label ((detail? error).getD error.message)).extend "data" payload.toJson
  | .baseWithCause => .new e.label (withCause e.baseMessage (detail? error))
  | .fieldErrors => { ErrorRecord.bare e.label with extra := (fieldErrors error).erase "__type" }
  | .baseWithDetail => .new e.label (e.baseMessage ++ (detail? error).getD error.message)
  | .fixed => .new e.label e.baseMessage

/-- The status and the record that answer an error; `payload` is what the action was given. -/
def classify (error : ActionError) (payload : Payload) : Nat × ErrorRecord :=
  ((entry error.kind).status, record error payload)

/-- The record for the name of an action that does not exist. -/
def unknownAction (name : String) : ErrorRecord :=
  .new (label .validation) ("Action name not known: " ++ name)

/-- The record for input that was refused before the action could run. -/
def refused (details : String) : ErrorRecord :=
  .new (label .validation) ("Input Error: " ++ details)

end Taxonomy

end ActionGateway
