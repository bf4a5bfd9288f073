import ActionGateway.Builtins
import ActionGateway.Call.Payload
import ActionGateway.Framing
import ActionGateway.Taxonomy

/-!
# The service

How a call is served: the action is looked up, the payload is taken from the call, the action runs,
and an envelope says what came of it. A call whose payload has a **callback** field came from a page
of anyone's making, so it runs without the caller's identity, and the action does not see the field.

Results are **traced**: beside the value stands the list of the invocations that led to it, and
`Service.perform` is the only place where that list grows.
-/

namespace ActionGateway

/-! ## Traced results -/

/-- An action with what it is given. -/
structure Invocation where
  action : Action
  context : CallContext
  payload : Payload

/-- A value, and the invocations that led to it, in order. -/
structure Traced (α : Type) where
  invocations : List Invocation
  value : α

namespace Traced

/-- A value to which no invocation led. -/
def pure {α : Type} (value : α) : Traced α :=
  ⟨[], value⟩

/-- The invocations of a value that is computed from another are those of the other. -/
def map {α β : Type} (f : α → β) (t : Traced α) : Traced β :=
  ⟨t.invocations, f t.value⟩

end Traced

/-! ## Answers -/

/-- The status and the envelope that answer a call. -/
structure Answer where
  status : Nat
  envelope : Envelope

/-- The actions, and the site for which they run. -/
structure Service where
  registry : Registry
  config : SiteConfig

namespace Service

/-- An action runs. This is the only function of the gateway that runs one, so the list of
invocations is complete by construction. -/
def perform (service : Service) (invocation : Invocation) : Traced Outcome :=
  ⟨[invocation],
    invocation.action.invoke (some service.registry) invocation.context invocation.payload⟩

/-- The field that names a callback. -/
def callbackField : String :=
  "callback"

/-! ## Calls -/

/-- The invocation of an action for a caller, with the payload of a call. -/
def invocation (action : Action) (version : ApiVersion) (caller : Identity) (payload : Payload) :
    Invocation :=
  let context := CallContext.new caller version
  -- The field is taken out after the payload has been looked at, so an update whose only field it
  -- is runs on nothing.
  ⟨action, if payload.contains callbackField then context.anonymized else context,
    payload.erase callbackField⟩

/-- The answer to a call by the name of an action that does not exist. -/
def unknownAction (name : String) : Answer :=
  ⟨400, .failure none (Taxonomy.unknownAction name)⟩

/-- The answer to a call that is refused. -/
def refused (help : String) (refusal : Refusal) : Answer :=
  ⟨refusal.status, .failure (some help) (Taxonomy.refused refusal.message)⟩

/-- The answer that an outcome gives. The changes are shown only when the action succeeded. -/
def answer (help : String) (invocation : Invocation) (outcome : Outcome) : Answer :=
  match outcome.result with
  | .ok result =>
    let envelope := Envelope.success (some help) result
    let changed := (invocation.context.reportAll outcome.changes).changedEntities
    ⟨200, if changed.isEmpty then envelope else envelope.withChangedEntities changed.toLists⟩
  | .error error =>
    let (status, record) := Taxonomy.classify error invocation.payload
    ⟨status, .failure (some help) record⟩

/-- Serves a call of an action that exists. -/
def run (service : Service) (action : Action) (version : ApiVersion) (caller : Identity)
    (help : String) (call : Call) : Traced Answer :=
  match call.payload action.readOnly with
  | .error refusal => .pure (refused help refusal)
  | .ok payload =>
    let invocation := invocation action version caller payload
    (service.perform invocation).map (answer help invocation)

/-- Serves a call of the action of a name. -/
def call (service : Service) (name : String) (version : ApiVersion) (caller : Identity)
    (call : Call) : Traced Answer :=
  match service.registry.find? name with
  | none => .pure (unknownAction name)
  | some action => service.run action version caller (service.config.helpUrl version name) call

/-- Serves a request to the action of a name. The body is read only if there is such an action, and
may be no longer than the limit. -/
def answerRequest (service : Service) (limit : Option Nat) (name : String) (version : ApiVersion)
    (caller : Identity) (request : Request) : Traced Answer :=
  match service.registry.find? name with
  | none => .pure (unknownAction name)
  | some action =>
    let help := service.config.helpUrl version name
    match Call.read limit request with
    | .error refusal => .pure (refused help refusal)
    | .ok call => service.run action version caller help call

/-- The framed answer to a request to the action of a name. -/
def respond (service : Service) (limit : Option Nat) (name : String) (version : ApiVersion)
    (caller : Identity) (request : Request) : Traced Response :=
  (service.answerRequest limit name version caller request).map fun answer =>
    (Framing.ofQuery request.method request.target.query).envelope answer.status answer.envelope

/-- Runs the action of a name, if there is one, with a payload as it is. -/
def invokeDirectly (service : Service) (name : String) (version : ApiVersion) (caller : Identity)
    (payload : Payload) : Traced (Option (Except ActionError Json)) :=
  match service.registry.find? name with
  | none => .pure none
  | some action =>
    (service.perform ⟨action, CallContext.new caller version, payload⟩).map fun outcome =>
      some outcome.result

end Service

end ActionGateway
