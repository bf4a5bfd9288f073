import ActionGateway.CallContext

/-!
# Response envelopes

Every call of an action is answered by an envelope: a JSON object that says whether the call
succeeded and holds its result or an error record. Records and envelopes have two JSON forms.
`written` lists the members in the order in which they are written out; in a record an extra member
may then repeat `__type` or `message`. `toJson` is the orderly value, in which the last member of a
name counts.
-/

namespace ActionGateway

/-! ## Error records -/

/-- The error of a failed call. -/
structure ErrorRecord where
  /-- the label of the error's category, which is stable -/
  errorType : String
  message : Option String
  /-- further members: the call's data, or errors by field -/
  extra : NameMap Json

namespace ErrorRecord

/-- A record of a label and a message. -/
def new (errorType message : String) : ErrorRecord :=
  ⟨errorType, some message, .empty⟩

/-- A record that carries its label and nothing else. -/
def bare (errorType : String) : ErrorRecord :=
  ⟨errorType, none, .empty⟩

/-- The record with one more member, or with another value for one it has. -/
def extend (r : ErrorRecord) (name : String) (value : Json) : ErrorRecord :=
  { r with extra := r.extra.insert name value }

/-- The members in the order in which they are written out. -/
def members (r : ErrorRecord) : List (String × Json) :=
  ("__type", .str r.errorType) ::
    ((r.message.map fun m => ("message", Json.str m)).toList ++ r.extra.toList)

def written (r : ErrorRecord) : Json :=
  .obj r.members

def toJson (r : ErrorRecord) : Json :=
  .object r.members

/-- The text that the record is written out as. -/
def text (r : ErrorRecord) : String :=
  r.written.text

end ErrorRecord

/-! ## Envelopes -/

/-- The answer to a call.

What is sent has three members for how the call ended: `success`, `result` and `error`. Envelopes
are made by `success` and by `failure` and in no other way, so of the eight ways to fill in the
three members two can occur: a result with `true`, and an error with `false`. That is one `Except`,
from which the members are read off (`isSuccess`, `result?`, `error?`). -/
structure Envelope where
  /-- the address of the action's documentation; absent when there is no such action, and in the
  answers of the routes for completions -/
  help : Option String
  /-- the result of the call, or the error that it failed with -/
  outcome : Except ErrorRecord Json
  /-- for each type the ascending list of the changed entities, if there is something to report -/
  changedEntities : Option (NameMap (List String))

namespace Envelope

/-- The envelope of a call that succeeded. -/
def success (help : Option String) (result : Json) : Envelope :=
  ⟨help, .ok result, none⟩

/-- The envelope of a call that failed. -/
def failure (help : Option String) (error : ErrorRecord) : Envelope :=
  ⟨help, .error error, none⟩

/-- The envelope with what the call has changed. -/
def withChangedEntities (e : Envelope) (changed : NameMap (List String)) : Envelope :=
  { e with changedEntities := some changed }

/-- Whether the call succeeded. -/
def isSuccess (e : Envelope) : Bool :=
  match e.outcome with
  | .ok _ => true
  | .error _ => false

/-- The result, which a failed call does not have. -/
def result? (e : Envelope) : Option Json :=
  match e.outcome with
  | .ok result => some result
  | .error _ => none

/-- The error, which a successful call does not have. -/
def error? (e : Envelope) : Option ErrorRecord :=
  match e.outcome with
  | .ok _ => none
  | .error error => some error

/-- The changed entities as JSON. -/
def changedJson (changed : NameMap (List String)) : Json :=
  .ofNameMap (changed.map Json.strs)

/-- The members that are present, in the order in which they are written out; `record` is the form
of the error record. -/
def members (record : ErrorRecord → Json) (e : Envelope) : List (String × Json) :=
  (e.help.map fun h => ("help", Json.str h)).toList ++
    ("success", .bool e.isSuccess) ::
      ((e.result?.map fun r => ("result", r)).toList ++
        (e.error?.map fun r => ("error", record r)).toList ++
        (e.changedEntities.map fun c => ("changed_entities", changedJson c)).toList)

def written (e : Envelope) : Json :=
  .obj (e.members ErrorRecord.written)

def toJson (e : Envelope) : Json :=
  .object (e.members ErrorRecord.toJson)

/-- The text that the envelope is written out as. -/
def text (e : Envelope) : String :=
  e.written.text

end Envelope

end ActionGateway
