import ActionGateway.Call
import ActionGateway.Json.Reader

/-!
# Payloads of calls

The payload of a call comes from **one** of three sources: form fields, if the method carries them
and there are any; else the query, if the action only reads and there is one; else the body, unless
it was a form. Uploaded files are put over the payload last.

A form whose only name is a JSON document may stand for that document: callers that can send nothing
but forms write it there, with the value `1` or an empty one.
-/

namespace ActionGateway

/-! ## Sources

The first source that has something to offer is the only one. The others are not looked at, so what
is wrong with them is no fault of the call. -/

/-- Where a payload comes from. -/
inductive Source
  | form
  | query
  | body
  | nothing
  deriving DecidableEq, Repr

namespace Call

/-- The source of the payload; `readOnly` says that the action has no side effects. -/
def source (call : Call) (readOnly : Bool) : Source :=
  if call.method.carriesForm && !call.form.isEmpty then .form
  else if readOnly && !call.query.isEmpty then .query
  else if !call.body.isEmpty && !call.isMultipart then .body
  else .nothing

/-! ## What a source gives -/

/-- The payload of a JSON document. -/
def parseDocument (raw : Bytes) : Except Refusal Payload :=
  match Json.read raw with
  | .error error => .error (.malformedJson error (Utf8.decodeLossy raw))
  | .ok document =>
    match Payload.ofJson? document with
    | none => .error (.notAMapping document)
    | some payload => .ok payload

/-- The JSON document that a form stands for: all its pairs have one name, and the first value marks
the name as a document. -/
def smuggledDocument? (form : Params) : Option String :=
  form.onlyName?.bind fun name =>
    match form.first? name with
    -- Only the first value is looked at, however many there are.
    | some value => if value = "1" ∨ value = "" then some name else none
    | none => none

/-- The payload of form fields. -/
def parseForm (form : Params) : Except Refusal Payload :=
  match smuggledDocument? form with
  | some document => parseDocument (Utf8.encode document)
  | none => .ok form.toPayload

/-- The payload that a source gives. -/
def parseSource (call : Call) : Source → Except Refusal Payload
  | .form => parseForm call.form
  | .query => .ok call.query.toPayload
  | .body => parseDocument call.body
  | .nothing => .ok .empty

/-! ## Payloads -/

/-- A payload with files put over it; of files with one name the last counts. -/
def overlay (payload : Payload) (files : List (String × Upload)) : Payload :=
  files.foldl (fun payload file => payload.insert file.1 (.file file.2)) payload

/-- The payload of a call to an action; `readOnly` says that the action has no side effects. An
update must bring fields; files alone are none. -/
def payload (call : Call) (readOnly : Bool) : Except Refusal Payload :=
  if !readOnly && call.method.isRetrieval then .error .methodNotAllowed
  else
    match call.parseSource (call.source readOnly) with
    | .error error => .error error
    | .ok payload =>
      -- Before the files are put over it: they do not make an update.
      if call.method.isUpdate && payload.isEmpty then .error .emptyUpdate
      else .ok (overlay payload call.files)

end Call

end ActionGateway
