import ActionGateway.Proofs.Extraction
import ActionGateway.Service

/-!
# How calls are served

`Served` lists the three things that can come of a call by name: there is no such action, the input
is refused, or the action runs, once. `Service.served_call` says that nothing else can, and every
later statement about a call is a case distinction over it.

A request is served like the call that it makes (`Service.answerRequest_of_read`), unless its body
cannot be read. Two services that differ in the action of a name are told apart by nothing but the
answers that the two actions give (`Service.value_call_congr`, `Service.value_respond_congr`).

The equations `call_of_unknown`, `call_of_refusal` and `call_of_payload` give the whole traced
answer in each case. They are what a proof rewrites by if it knows which case it is in.
-/

namespace ActionGateway

/-! ## Traces

A traced value can be asked for what ran and for what came of it. Mapping it changes the second and
runs nothing more, and performing an invocation runs that one and no other. -/

namespace Traced

variable {α β : Type}

@[simp] theorem invocations_pure (value : α) : (Traced.pure value).invocations = [] := rfl

@[simp] theorem value_pure (value : α) : (Traced.pure value).value = value := rfl

@[simp] theorem invocations_map (f : α → β) (t : Traced α) :
    (t.map f).invocations = t.invocations := rfl

@[simp] theorem value_map (f : α → β) (t : Traced α) : (t.map f).value = f t.value := rfl

end Traced

/-- A refusal does not count as success. -/
theorem Refusal.status_ne_200 (refusal : Refusal) : refusal.status ≠ 200 := by
  intro hstatus
  cases refusal <;> cases hstatus

namespace Service

variable {service : Service} {name : String} {version : ApiVersion} {caller : Identity}
  {action : Action}

@[simp] theorem invocations_perform (service : Service) (invocation : Invocation) :
    (service.perform invocation).invocations = [invocation] := rfl

@[simp] theorem value_perform (service : Service) (invocation : Invocation) :
    (service.perform invocation).value =
      invocation.action.invoke (some service.registry) invocation.context invocation.payload := rfl

/-! ## Calls

Two questions are put to a call, one after the other: is there an action of the name, and has the
call a payload for it? The cases of `Served` are the answers. -/

/-- What can come of the call of an action by name. -/
inductive Served (service : Service) (name : String) (version : ApiVersion) (caller : Identity)
    (call : Call) : Traced Answer → Prop
  /-- there is no action of the name -/
  | unknown (hfind : service.registry.find? name = none) :
    Served service name version caller call (.pure (unknownAction name))
  /-- the input is refused, and the action does not run -/
  | refused (action : Action) (refusal : Refusal)
    (hfind : service.registry.find? name = some action)
    (hpayload : call.payload action.readOnly = .error refusal) :
    Served service name version caller call
      (.pure (refused (service.config.helpUrl version name) refusal))
  /-- the action runs -/
  | ran (action : Action) (payload : Payload)
    (hfind : service.registry.find? name = some action)
    (hpayload : call.payload action.readOnly = .ok payload) :
    Served service name version caller call
      ((service.perform (invocation action version caller payload)).map
        (answer (service.config.helpUrl version name)
          (invocation action version caller payload)))

/-- A name of no action: nothing else of the call is looked at. -/
theorem call_of_unknown (hfind : service.registry.find? name = none) (version : ApiVersion)
    (caller : Identity) (call : Call) :
    service.call name version caller call = .pure (unknownAction name) := by
  rw [Service.call, hfind]

/-- There is an action, and the call has no payload for it. -/
theorem call_of_refusal {call : Call} {refusal : Refusal}
    (hfind : service.registry.find? name = some action)
    (hpayload : call.payload action.readOnly = .error refusal) (version : ApiVersion)
    (caller : Identity) :
    service.call name version caller call =
      .pure (refused (service.config.helpUrl version name) refusal) := by
  simp only [Service.call, hfind, run, hpayload]

/-- The action runs with the payload of the call, and its outcome is answered. -/
theorem call_of_payload {call : Call} {payload : Payload}
    (hfind : service.registry.find? name = some action)
    (hpayload : call.payload action.readOnly = .ok payload) (version : ApiVersion)
    (caller : Identity) :
    service.call name version caller call =
      (service.perform (invocation action version caller payload)).map
        (answer (service.config.helpUrl version name)
          (invocation action version caller payload)) := by
  simp only [Service.call, hfind, run, hpayload]

/-- **Nothing else can come of a call.** Whoever knows something of each of the three ways knows it
of every call. -/
theorem served_call (service : Service) (name : String) (version : ApiVersion) (caller : Identity)
    (call : Call) :
    Served service name version caller call (service.call name version caller call) := by
  rcases hfind : service.registry.find? name with _ | action
  · rw [call_of_unknown hfind]
    exact .unknown hfind
  · rcases hpayload : call.payload action.readOnly with refusal | payload
    · rw [call_of_refusal hfind hpayload]
      exact .refused action refusal hfind hpayload
    · rw [call_of_payload hfind hpayload]
      exact .ran action payload hfind hpayload

/-- **What a call runs** is the action of its name, with the payload of the call. There is one such
invocation at most, since a call is served once. -/
theorem ran_of_mem_call {call : Call} {invocation : Invocation}
    (h : invocation ∈ (service.call name version caller call).invocations) :
    ∃ action payload, service.registry.find? name = some action ∧
      call.payload action.readOnly = .ok payload ∧
      invocation = Service.invocation action version caller payload := by
  have hserved := service.served_call name version caller call
  -- the traced answer has to be a variable for its cases to be told apart
  generalize service.call name version caller call = traced at h hserved
  cases hserved with
  | unknown => cases h
  | refused => cases h
  | ran action payload hfind hpayload =>
    exact ⟨action, payload, hfind, hpayload, List.mem_singleton.mp h⟩

/-! ## Requests

A request is looked at in another order: whether there is an action is asked before its body is
read. So a request to a name of no action is answered without having been read. -/

/-- A name of no action: the body is not read. -/
theorem answerRequest_of_unknown (hfind : service.registry.find? name = none)
    (limit : Option Nat) (version : ApiVersion) (caller : Identity) (request : Request) :
    service.answerRequest limit name version caller request = .pure (unknownAction name) := by
  rw [answerRequest, hfind]

/-- There is an action, and the body cannot be read. -/
theorem answerRequest_of_unreadable {limit : Option Nat} {request : Request} {refusal : Refusal}
    (hfind : service.registry.find? name = some action)
    (hread : Call.read limit request = .error refusal) (version : ApiVersion)
    (caller : Identity) :
    service.answerRequest limit name version caller request =
      .pure (refused (service.config.helpUrl version name) refusal) := by
  simp only [answerRequest, hfind, hread]

/-- **A request is served like the call that it makes.** What is proved of calls holds of all
requests that can be read. -/
theorem answerRequest_of_read {limit : Option Nat} {request : Request} {call : Call}
    (hread : Call.read limit request = .ok call) (name : String) (version : ApiVersion)
    (caller : Identity) :
    service.answerRequest limit name version caller request =
      service.call name version caller call := by
  rcases hfind : service.registry.find? name with _ | action
  · rw [answerRequest_of_unknown hfind, call_of_unknown hfind]
  · simp only [answerRequest, Service.call, hfind, hread]

/-- A request whose body cannot be read runs nothing, and its answer is the same for all callers. -/
theorem answerRequest_of_read_error {limit : Option Nat} {request : Request} {refusal : Refusal}
    (hread : Call.read limit request = .error refusal) (name : String) (version : ApiVersion)
    (caller : Identity) :
    service.answerRequest limit name version caller request =
      .pure (match service.registry.find? name with
        | none => unknownAction name
        | some _ => refused (service.config.helpUrl version name) refusal) := by
  rcases hfind : service.registry.find? name with _ | action
  · rw [answerRequest_of_unknown hfind]
  · rw [answerRequest_of_unreadable hfind hread]

/-- **What a request runs** is run by the call that it makes. -/
theorem ran_of_mem_answerRequest {limit : Option Nat} {request : Request} {invocation : Invocation}
    (h : invocation ∈ (service.answerRequest limit name version caller request).invocations) :
    ∃ call, Call.read limit request = .ok call ∧
      invocation ∈ (service.call name version caller call).invocations := by
  rcases hread : Call.read limit request with refusal | call
  · rw [answerRequest_of_read_error hread] at h
    cases h
  · rw [answerRequest_of_read hread] at h
    exact ⟨call, rfl, h⟩

/-! ## Two services

What a call shows of an action is its answer. So if two actions take the same input, and give the
same answers wherever they are run, nothing that a call gets tells them apart. -/

section

variable {other : Service} {action' : Action}

/-- **Two services answer a call alike** that have the same configuration, and for the name of the
call two actions that take the same input and give the same answers to it. -/
theorem value_call_congr (hconfig : service.config = other.config)
    (hfind : service.registry.find? name = some action)
    (hfind' : other.registry.find? name = some action')
    (hreadOnly : action.readOnly = action'.readOnly) {call : Call}
    (h : ∀ payload, call.payload action.readOnly = .ok payload → ∀ help,
      answer help (invocation action version caller payload)
          (service.perform (invocation action version caller payload)).value =
        answer help (invocation action' version caller payload)
          (other.perform (invocation action' version caller payload)).value) :
    (service.call name version caller call).value =
      (other.call name version caller call).value := by
  rcases hpayload : call.payload action.readOnly with refusal | payload
  · -- the input is refused by both, since they take the same; or it is taken by both
    have hpayload' := hpayload
    rw [hreadOnly] at hpayload'
    rw [call_of_refusal hfind hpayload, call_of_refusal hfind' hpayload', hconfig]
  · have hpayload' := hpayload
    rw [hreadOnly] at hpayload'
    rw [call_of_payload hfind hpayload, call_of_payload hfind' hpayload', Traced.value_map,
      Traced.value_map, h payload hpayload, hconfig]

/-- **And so they do with a request** to the action of the name. -/
theorem value_respond_congr (hconfig : service.config = other.config)
    (hfind : service.registry.find? name = some action)
    (hfind' : other.registry.find? name = some action')
    (hreadOnly : action.readOnly = action'.readOnly) {limit : Option Nat} {request : Request}
    (h : ∀ call payload, Call.read limit request = .ok call →
      call.payload action.readOnly = .ok payload → ∀ help,
        answer help (invocation action version caller payload)
            (service.perform (invocation action version caller payload)).value =
          answer help (invocation action' version caller payload)
            (other.perform (invocation action' version caller payload)).value) :
    (service.respond limit name version caller request).value =
      (other.respond limit name version caller request).value := by
  have hanswer : (service.answerRequest limit name version caller request).value =
      (other.answerRequest limit name version caller request).value := by
    rcases hread : Call.read limit request with refusal | call
    · rw [answerRequest_of_unreadable hfind hread, answerRequest_of_unreadable hfind' hread,
        hconfig]
    · rw [answerRequest_of_read hread, answerRequest_of_read hread]
      exact value_call_congr hconfig hfind hfind' hreadOnly fun payload hpayload =>
        h call payload hread hpayload
  rw [respond, respond, Traced.value_map, Traced.value_map, hanswer]

end

end Service

end ActionGateway
