import ActionGateway.Proofs.Serving

/-!
# Calls for a callback are anonymous

A page of anyone's making can have a script loaded from the gateway, and the browser sends the
visitor's credentials along. So a call that names a **callback** must not depend on who makes it.
Two places have a say in this: the framing looks for a callback in the query of a retrieval, the
service for a callback field in the payload. `Call.contains_payload_of_retrieval` is the bridge: the
first implies the second, whatever else the request brings.

The main result is `Service.callback_calls_are_anonymous`.
-/

namespace ActionGateway

/-- An action that answers with the name of its caller. -/
def Action.tellCaller (name : String) (readOnly : Bool) : Action :=
  ⟨name, readOnly, none, .run fun context _ => ⟨[], .ok (.str context.identity.userName)⟩⟩

namespace Service

variable {service : Service} {name : String} {version : ApiVersion} {caller other : Identity}

/-! ## One invocation

The identity is dropped where an invocation is put together, and nowhere else. `Service.invocation`
looks at the payload, so it is the same for a field that came in a form, in a query or in a
document. -/

/-- The action of a call with a callback field runs for nobody in particular. -/
theorem identity_invocation {payload : Payload} (h : payload.contains callbackField = true)
    (action : Action) (version : ApiVersion) (caller : Identity) :
    (invocation action version caller payload).context.identity = .anonymous := by
  simp only [invocation, if_pos h]
  rfl

/-- With a callback field in the payload the caller makes no difference: the invocation that the
service makes is the same one, context and all. So what an action does with what it is given, and
what it reports, need not be looked at. -/
theorem invocation_eq_of_contains {payload : Payload}
    (h : payload.contains callbackField = true) (action : Action) (version : ApiVersion)
    (caller other : Identity) :
    invocation action version caller payload = invocation action version other payload := by
  simp only [invocation, if_pos h]
  rfl

/-- The callback field is kept from the action, also where it is the only field. This does not
depend on the identity: the field goes for whoever calls. -/
theorem find?_payload_invocation (action : Action) (version : ApiVersion) (caller : Identity)
    (payload : Payload) :
    (invocation action version caller payload).payload.find? callbackField = none := by
  simp only [invocation]
  rw [NameMap.find?_erase, if_pos rfl]

/-! ## Calls and requests

What holds of one invocation holds of all that a call or a request leads to, since there is at most
one (`Service.ran_of_mem_call`). For two callers the refusals have to be compared too: what is
answered before an action is found, or because there is no payload, does not look at the caller. -/

/-- **No action sees the callback field**, whatever the call. Files cannot bring it back, since they
are put over the payload before it is taken out. -/
theorem find?_callback_of_mem_call {call : Call} {invocation : Invocation}
    (h : invocation ∈ (service.call name version caller call).invocations) :
    invocation.payload.find? callbackField = none := by
  obtain ⟨action, payload, -, -, rfl⟩ := ran_of_mem_call h
  exact find?_payload_invocation action version caller payload

/-- **No action sees the callback field**, whatever the request. -/
theorem find?_callback_of_mem_answerRequest {limit : Option Nat} {request : Request}
    {invocation : Invocation}
    (h : invocation ∈ (service.answerRequest limit name version caller request).invocations) :
    invocation.payload.find? callbackField = none := by
  obtain ⟨call, -, hcall⟩ := ran_of_mem_answerRequest h
  exact find?_callback_of_mem_call hcall

/-- Two callers whose payload has a callback field are answered alike. -/
theorem call_eq_of_contains {action : Action} {call : Call} {payload : Payload}
    (hfind : service.registry.find? name = some action)
    (hpayload : call.payload action.readOnly = .ok payload)
    (h : payload.contains callbackField = true) (version : ApiVersion) (caller other : Identity) :
    service.call name version caller call = service.call name version other call := by
  rw [call_of_payload hfind hpayload, call_of_payload hfind hpayload,
    invocation_eq_of_contains h action version caller other]

/-- Two callers whose query names a callback are answered alike, if the call retrieves. If there is
no such action or no payload, the answer is the same for everyone; and if there is a payload, the
parameter of the query is one of its fields. -/
theorem call_eq_of_retrieval {call : Call} (hmethod : call.method.isRetrieval = true)
    (hquery : (call.query.first? callbackField).isSome = true) (name : String)
    (version : ApiVersion) (caller other : Identity) :
    service.call name version caller call = service.call name version other call := by
  rcases hfind : service.registry.find? name with _ | action
  · rw [call_of_unknown hfind, call_of_unknown hfind]
  · rcases hpayload : call.payload action.readOnly with refusal | payload
    · rw [call_of_refusal hfind hpayload, call_of_refusal hfind hpayload]
    · -- a retrieval with a payload takes it from the query, and with it the callback
      have hcontains := Call.contains_payload_of_retrieval hmethod hquery hpayload
      exact call_eq_of_contains hfind hpayload hcontains version caller other

/-- Two callers whose query names a callback are answered alike, if the request retrieves: there may
be such an action or not, and the body may be readable or not. A body that cannot be read is refused
before anything asks for the caller. -/
theorem answerRequest_eq_of_retrieval {request : Request}
    (hmethod : request.method.isRetrieval = true)
    (hquery : ((queryParams request.target.query).first? callbackField).isSome = true)
    (limit : Option Nat) (name : String) (version : ApiVersion) (caller other : Identity) :
    service.answerRequest limit name version caller request =
      service.answerRequest limit name version other request := by
  rcases hread : Call.read limit request with refusal | call
  · rw [answerRequest_of_read_error hread, answerRequest_of_read_error hread]
  · obtain ⟨hcallMethod, hcallQuery⟩ := Call.method_and_query_of_read hread
    rw [answerRequest_of_read hread, answerRequest_of_read hread]
    refine call_eq_of_retrieval ?_ ?_ name version caller other
    · rw [hcallMethod, hmethod]
    · rw [hcallQuery, hquery]

/-! ## The result

The two places that look for a callback do not look alike. The framing asks for the first value in
the query of a retrieval, the service for a field of any value in the payload of any method. The
statement takes each as it stands: the first part is about fields, the second about queries, and
neither asks what the value is. -/

/-- **Calls for a callback carry no identity.**

* A call whose payload has a `callback` field runs its action once, for nobody in particular, and
  is answered alike for any two callers.
* A retrieval whose query names a `callback` gets the same response for any two callers, after the
  same invocations, whatever the name, the action, the body, the files and the other parameters.
* No action sees a field `callback`, whatever the call or the request. -/
theorem callback_calls_are_anonymous (service : Service) (name : String) (version : ApiVersion)
    (caller other : Identity) :
    (∀ (action : Action) (call : Call) (payload : Payload),
      service.registry.find? name = some action →
      call.payload action.readOnly = .ok payload →
      payload.contains "callback" = true →
        (∃ invocation, (service.call name version caller call).invocations = [invocation] ∧
          invocation.action = action ∧ invocation.context.identity = .anonymous) ∧
        service.call name version caller call = service.call name version other call) ∧
    (∀ (limit : Option Nat) (request : Request),
      request.method = .get ∨ request.method = .head →
      (∃ value, ("callback", value) ∈ queryParams request.target.query) →
        service.respond limit name version caller request =
          service.respond limit name version other request) ∧
    (∀ (call : Call), ∀ invocation ∈ (service.call name version caller call).invocations,
      invocation.payload.find? "callback" = none) ∧
    (∀ (limit : Option Nat) (request : Request),
      ∀ invocation ∈ (service.respond limit name version caller request).invocations,
        invocation.payload.find? "callback" = none) := by
  refine ⟨?_, ?_, ?_, ?_⟩
  · intro action call payload hfind hpayload hcontains
    refine ⟨⟨invocation action version caller payload, ?_, rfl, ?_⟩, ?_⟩
    · rw [call_of_payload hfind hpayload]
      rfl
    · exact identity_invocation hcontains action version caller
    · exact call_eq_of_contains hfind hpayload hcontains version caller other
  · intro limit request hmethod hquery
    have hretrieval : request.method.isRetrieval = true := Method.isRetrieval_iff.mpr hmethod
    have hfirst : ((queryParams request.target.query).first? callbackField).isSome = true :=
      Entries.isSome_find?_iff.mpr hquery
    rw [respond, respond, answerRequest_eq_of_retrieval hretrieval hfirst limit name version
      caller other]
  · intro call invocation hmem
    exact find?_callback_of_mem_call hmem
  · intro limit request invocation hmem
    exact find?_callback_of_mem_answerRequest hmem

/-- Where the only action tells who calls: alice is told her name, but a script that names a
callback is told what nobody in particular would be. -/
theorem callback_calls_are_anonymous_for_alice :
    let action : Action := .tellCaller "whoami" true
    let service : Service := ⟨Registry.register .empty action, .default⟩
    let alice : Identity := .authenticated (.named "alice")
    let pairs : Params := [("id", "x"), ("callback", "f"), ("callback", "g")]
    let bare : Request := ⟨.get, ⟨"/api/action/whoami", none⟩, [], []⟩
    let request : Request := ⟨.get, ⟨"/api/action/whoami", some "callback=f"⟩, [], []⟩
    (service.call "whoami" .v3 alice (Call.new .get)).value.envelope.result? =
        some (.str "alice") ∧
      service.call "whoami" .v3 alice { Call.new .get with query := pairs } =
        service.call "whoami" .v3 .anonymous { Call.new .get with query := pairs } ∧
      service.respond none "whoami" .v3 alice request =
        service.respond none "whoami" .v3 .anonymous request ∧
      (∃ invocation ∈
          (service.call "whoami" .v3 alice { Call.new .get with query := pairs }).invocations,
        invocation.payload.find? "callback" = none) ∧
      ∃ invocation ∈ (service.respond none "whoami" .v3 alice bare).invocations,
        invocation.payload.find? "callback" = none := by
  intro action service alice pairs bare request
  have hfind : service.registry.find? "whoami" = some action := rfl
  have hpayload : { Call.new .get with query := pairs }.payload action.readOnly =
      .ok pairs.toPayload := rfl
  have hcontains : pairs.toPayload.contains "callback" = true := by
    rw [Params.contains_toPayload]
    rfl
  have hquery : ("callback", "f") ∈ queryParams request.target.query := by decide +kernel
  have hran : invocation action .v3 alice pairs.toPayload ∈
      (service.call "whoami" .v3 alice { Call.new .get with query := pairs }).invocations :=
    List.mem_singleton_self _
  have hrequested : invocation action .v3 alice .empty ∈
      (service.respond none "whoami" .v3 alice bare).invocations := List.mem_singleton_self _
  obtain ⟨hcalls, hresponses, hcallFields, hrequestFields⟩ :=
    callback_calls_are_anonymous service "whoami" .v3 alice .anonymous
  refine ⟨rfl, ?_, ?_, ⟨_, hran, hcallFields _ _ hran⟩,
    ⟨_, hrequested, hrequestFields none bare _ hrequested⟩⟩
  · exact (hcalls action _ _ hfind hpayload hcontains).2
  · exact hresponses none request (.inl rfl) ⟨"f", hquery⟩

end Service

end ActionGateway
