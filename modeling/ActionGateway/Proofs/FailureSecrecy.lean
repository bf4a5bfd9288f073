import ActionGateway.Proofs.Completions

/-!
# Failures tell nothing beyond the taxonomy

An action that fails may have put anything into its error, and may have reported changes before.
When its failure is answered the error, the report and the payload are all at hand, so it has to be
shown that of an **internal** error nothing gets out but that there was one, and of a report that
ends in a failure nothing at all.

This is a statement about two services that differ in nothing but what one action does
(`Service.replacing`). Three facts carry it:

* failures that are **alike** give the same answer (`Outcome.FailAlike.answer_eq`);
* what the other actions do is the same in both services, also where it is about the registry in
  which they stand (`Service.value_perform_replacing`);
* so are the responses of all routes that run nothing (`Gateway.value_respond_withRegistry`).

The main result is `Gateway.failures_leak_nothing`.

Whether an action fails alike is asked only where it is run (`Service.FailsAlike`), so the theorem
covers actions that fail on some input and succeed on other input, if both of them are replaced by
ones that do the same there.
-/

namespace ActionGateway

/-- Two actions that are declared alike. What they do is another matter. -/
structure Action.DeclaredAlike (action other : Action) : Prop where
  name : action.name = other.name
  readOnly : action.readOnly = other.readOnly
  help : action.help = other.help

/-- Two failures that callers must not be able to tell apart: they come with one error, or both with
an internal one. Nothing is said of the changes that were reported before. -/
inductive Outcome.FailAlike : Outcome → Outcome → Prop
  | same (changes changes' : List (String × String)) (error : ActionError) :
    FailAlike ⟨changes, .error error⟩ ⟨changes', .error error⟩
  | internal (changes changes' : List (String × String)) (message message' : String) :
    FailAlike ⟨changes, .error (.internal message)⟩ ⟨changes', .error (.internal message')⟩

/-! ## Failures that are alike

The answer to a failure is made of the error and the payload by the taxonomy, and of the reports
nothing is used. So it is enough that the taxonomy does not tell the errors apart. -/

namespace Outcome.FailAlike

variable {outcome outcome' : Outcome}

/-- **The taxonomy makes no difference between failures that are alike.** For one error this says
nothing; of internal errors neither the message nor the payload is looked at. -/
theorem classify_eq (h : FailAlike outcome outcome') :
    ∃ error error', outcome.result = .error error ∧ outcome'.result = .error error' ∧
      ∀ payload, Taxonomy.classify error payload = Taxonomy.classify error' payload := by
  cases h with
  | same changes changes' error => exact ⟨error, error, rfl, rfl, fun _ => rfl⟩
  | internal changes changes' message message' =>
    -- the record of an internal error is composed of the base message alone
    exact ⟨.internal message, .internal message', rfl, rfl, fun _ => rfl⟩

/-- Failures that are alike give the same answer, if the payload is the same. -/
theorem answer_eq (h : FailAlike outcome outcome') (help : String) {invocation other : Invocation}
    (hpayload : invocation.payload = other.payload) :
    Service.answer help invocation outcome = Service.answer help other outcome' := by
  obtain ⟨error, error', herror, herror', hclassify⟩ := h.classify_eq
  simp only [Service.answer, herror, herror', hpayload, hclassify]

/-- They give the same response where completions are asked for. -/
theorem frameResult_eq (h : FailAlike outcome outcome') (route : Autocomplete) (framing : Framing)
    (payload : Payload) :
    route.frameResult framing payload (some outcome.result) =
      route.frameResult framing payload (some outcome'.result) := by
  obtain ⟨error, error', herror, herror', hclassify⟩ := h.classify_eq
  simp only [Autocomplete.frameResult, herror, herror', hclassify]

end Outcome.FailAlike

/-! ## One action in the place of another

Registering an action under a name that is taken replaces what stood there. The registry then has as
many actions as before, and the same one under each other name, which is what the two built-in
actions can see of it. -/

namespace Service

/-- The service with another action under a name. -/
def replacing (service : Service) (name : String) (other : Action) : Service :=
  { service with registry := service.registry.insert name other }

/-- Where the action of a name has run, the other one in its place would have failed as it did. -/
def FailsAlike (service : Service) (name : String) (other : Action)
    (invocations : List Invocation) : Prop :=
  ∀ invocation ∈ invocations, service.registry.find? name = some invocation.action →
    Outcome.FailAlike (service.perform invocation).value
      ((service.replacing name other).perform { invocation with action := other }).value

variable {service : Service} {name asked : String} {action other : Action}

/-- The other action stands under the name. -/
theorem find?_replacing_self (service : Service) (name : String) (other : Action) :
    (service.replacing name other).registry.find? name = some other := by
  rw [replacing, NameMap.find?_insert, if_pos rfl]

/-- All other names are as they were. -/
theorem find?_replacing_ne (h : name ≠ asked) (service : Service) (other : Action) :
    (service.replacing name other).registry.find? asked = service.registry.find? asked := by
  rw [replacing, NameMap.find?_insert, if_neg h]

/-- There are as many actions as before, so the number of them that is shown does not change. -/
theorem size_replacing (hfind : service.registry.find? name = some action) (other : Action) :
    (service.replacing name other).registry.size = service.registry.size := by
  refine NameMap.size_insert_of_isSome ?_ other
  rw [hfind]
  rfl

/-- The documentation of an action does not tell the registries apart. -/
theorem help_replacing (hfind : service.registry.find? name = some action)
    (hdeclared : action.DeclaredAlike other) (payload : Payload) :
    Builtins.help (some (service.replacing name other).registry) payload =
      Builtins.help (some service.registry) payload := by
  simp only [Builtins.help]
  rcases payload.str? "name" with _ | asked
  · rfl
  by_cases hname : name = asked
  · subst hname
    simp only [find?_replacing_self, hfind, hdeclared.help]
  · simp only [find?_replacing_ne hname]

/-- **What an action does is the same in both services**, also if it tells about the registry: it
can tell how many actions there are and what their documentation is, and both are the same. -/
theorem value_perform_replacing (hfind : service.registry.find? name = some action)
    (hdeclared : action.DeclaredAlike other) (invocation : Invocation) :
    ((service.replacing name other).perform invocation).value =
      (service.perform invocation).value := by
  simp only [value_perform, Action.invoke]
  cases invocation.action.behaviour with
  | run run => rfl
  | showHelp => simp only [help_replacing hfind hdeclared]
  | showStatus config => simp only [Builtins.status, size_replacing hfind]

/-! ## Calls and requests

A call asks for the name of the replaced action, or for another one. In the first case the two
failures are alike where the call runs the action, and where it is refused nothing runs; in the
second one the same action runs in both services. -/

/-- **Calls are answered alike**, if the action fails alike where they run it. A call of another
action may still see the one that is replaced, in the registry. -/
theorem value_call_replacing (hfind : service.registry.find? name = some action)
    (hdeclared : action.DeclaredAlike other) {version : ApiVersion} {caller : Identity}
    {call : Call}
    (h : service.FailsAlike name other (service.call asked version caller call).invocations) :
    ((service.replacing name other).call asked version caller call).value =
      (service.call asked version caller call).value := by
  by_cases hname : name = asked
  · subst hname
    have hother := find?_replacing_self service name other
    have hconfig : service.config = (service.replacing name other).config := rfl
    refine (value_call_congr hconfig hfind hother hdeclared.readOnly ?_).symm
    intro payload hpayload help
    rw [call_of_payload hfind hpayload] at h
    have halike := h _ (List.mem_singleton_self _) hfind
    exact halike.answer_eq help rfl
  · have hother := find?_replacing_ne hname service other
    rcases hasked : service.registry.find? asked with _ | found
    · rw [call_of_unknown hasked, call_of_unknown (hother.trans hasked)]
    · rcases hpayload : call.payload found.readOnly with refusal | payload
      · rw [call_of_refusal hasked hpayload, call_of_refusal (hother.trans hasked) hpayload]
        rfl
      · rw [call_of_payload hasked hpayload, call_of_payload (hother.trans hasked) hpayload,
          Traced.value_map, Traced.value_map, value_perform_replacing hfind hdeclared]
        rfl

/-- **Requests get the same response**, if the action fails alike where they run it. A request that
cannot be read is answered without it. -/
theorem value_respond_replacing (hfind : service.registry.find? name = some action)
    (hdeclared : action.DeclaredAlike other) {limit : Option Nat} {version : ApiVersion}
    {caller : Identity} {request : Request}
    (h : service.FailsAlike name other
      (service.respond limit asked version caller request).invocations) :
    ((service.replacing name other).respond limit asked version caller request).value =
      (service.respond limit asked version caller request).value := by
  rw [respond, Traced.invocations_map] at h
  -- the framing of the answer does not look at the service
  have hanswer :
      ((service.replacing name other).answerRequest limit asked version caller request).value =
        (service.answerRequest limit asked version caller request).value := by
    rcases hread : Call.read limit request with refusal | call
    · rw [answerRequest_of_read_error hread, answerRequest_of_read_error hread]
      by_cases hname : name = asked
      · subst hname
        rw [find?_replacing_self, hfind]
        rfl
      · rw [find?_replacing_ne hname]
        rfl
    · rw [answerRequest_of_read hread] at h
      rw [answerRequest_of_read hread, answerRequest_of_read hread,
        value_call_replacing hfind hdeclared h]
  rw [respond, respond, Traced.value_map, Traced.value_map, hanswer]

/-! ## Completions

A route for completions runs its action directly, with a payload that it makes itself, and answers a
failure by a record without the address of the documentation. The cases are the same as those of a
call. -/

/-- **Requests for completions get the same response**, if the action fails alike where they run
it. -/
theorem value_completions_replacing (hfind : service.registry.find? name = some action)
    (hdeclared : action.DeclaredAlike other) {route : Autocomplete} {version : ApiVersion}
    {caller : Identity} {request : Request}
    (h : service.FailsAlike name other
      (route.respond service version caller request).invocations) :
    (route.respond (service.replacing name other) version caller request).value =
      (route.respond service version caller request).value := by
  rcases hpayload : route.payload? (queryParams request.target.query) with _ | payload
  · simp only [Autocomplete.respond, hpayload]
  simp only [Autocomplete.respond, hpayload, Traced.value_map] at h ⊢
  by_cases hname : name = route.action
  · subst hname
    rw [invokeDirectly_of_find hfind] at h ⊢
    rw [invokeDirectly_of_find (find?_replacing_self service route.action other)]
    have halike := h _ (List.mem_singleton_self _) hfind
    exact (halike.frameResult_eq route _ payload).symm
  · have hother := find?_replacing_ne hname service other
    rcases hasked : service.registry.find? route.action with _ | found
    · rw [invokeDirectly_of_unknown hasked, invokeDirectly_of_unknown (hother.trans hasked)]
    · rw [invokeDirectly_of_find hasked, invokeDirectly_of_find (hother.trans hasked),
        Traced.value_map, Traced.value_map, value_perform_replacing hfind hdeclared]

end Service

/-! ## The whole gateway

A gateway has its actions at several endpoints, and it shows the number of them on its health page.
The lemma first takes the layers around the endpoints away, and leaves one goal for each endpoint.
-/

namespace Gateway

/-- **Gateways with different actions are told apart by nothing but the endpoint** that a request
gets to, if they have the same number of actions. -/
theorem value_respond_withRegistry {g : Gateway} {request : Request} {registry : Registry}
    (hsize : registry.size = g.service.registry.size)
    (hserve : ∀ {endpoint limit version subject},
      g.Reaches request endpoint limit version subject →
        ((g.withRegistry registry).serveEndpoint (some limit) version subject request
            endpoint).value =
          (g.serveEndpoint (some limit) version subject request endpoint).value) :
    ((g.withRegistry registry).respond request).value = (g.respond request).value := by
  have hbodyLimit : (g.withRegistry registry).bodyLimit? request = g.bodyLimit? request := rfl
  have hroutes : (g.withRegistry registry).route? request = g.route? request := rfl
  simp only [respond, hbodyLimit, hroutes, Traced.value_map]
  rcases hlimit : g.bodyLimit? request with _ | limit
  · rfl
  -- the health page shows how many actions there are, and nothing else of them
  have hjson : g.healthJson = (g.withRegistry registry).healthJson := by
    simp only [healthJson, withRegistry, hsize]
  have hhandle : (g.handle (some limit) request (g.route? request)).value =
      ((g.withRegistry registry).handle (some limit) request (g.route? request)).value :=
    handle_congr Traced.value hlimit rfl rfl hjson (fun _ => rfl) fun hreaches =>
      (hserve hreaches).symm
  simp only [respondWithin]
  split
  · rfl
  · simp only [Traced.value_map, hhandle]
    rfl

/-- **Failures tell nothing beyond the taxonomy.** Let two services differ in nothing but what the
action of a name does, and let it fail alike in both wherever it is run: with one error, or with two
internal ones, after any changes. Then nobody can tell them apart:

* not by a request to an action of any name, whoever makes it and whatever it brings;
* not by a request for completions;
* not by any request to a gateway, with any configuration and any tokens. -/
theorem failures_leak_nothing {service : Service} {name : String} {action other : Action}
    (hfind : service.registry.find? name = some action)
    (hdeclared : action.DeclaredAlike other) :
    (∀ (limit : Option Nat) (asked : String) (version : ApiVersion) (caller : Identity)
      (request : Request),
      service.FailsAlike name other
        (service.respond limit asked version caller request).invocations →
        ((service.replacing name other).respond limit asked version caller request).value =
          (service.respond limit asked version caller request).value) ∧
    (∀ (route : Autocomplete) (version : ApiVersion) (caller : Identity) (request : Request),
      service.FailsAlike name other (route.respond service version caller request).invocations →
        (route.respond (service.replacing name other) version caller request).value =
          (route.respond service version caller request).value) ∧
    (∀ (g : Gateway) (request : Request), g.service = service →
      service.FailsAlike name other (g.respond request).invocations →
        ((g.withRegistry (service.replacing name other).registry).respond request).value =
          (g.respond request).value) := by
  refine ⟨?_, ?_, ?_⟩
  · intro limit asked version caller request h
    exact Service.value_respond_replacing hfind hdeclared h
  · intro route version caller request h
    exact Service.value_completions_replacing hfind hdeclared h
  · rintro g request rfl h
    refine value_respond_withRegistry (Service.size_replacing hfind other) ?_
    intro endpoint limit version subject hreaches
    rw [respond_of_reaches hreaches, Traced.invocations_map] at h
    -- an endpoint that runs no action answers without the registry
    cases endpoint with
    | root => rfl
    | action => exact Service.value_respond_replacing hfind hdeclared h
    | translations => rfl
    | autocomplete route => exact Service.value_completions_replacing hfind hdeclared h

/-- An action for completions reports a change and fails, and the one in its place fails otherwise.
Both are run, as a call and for completions, and neither the changes nor the messages show. -/
theorem failures_leak_nothing_internal :
    let name : String := "user_autocomplete"
    let action : Action :=
      ⟨name, true, none, .run fun _ _ => ⟨[("user", "al")], .error (.internal "disk full")⟩⟩
    let other : Action :=
      ⟨name, true, none, .run fun _ _ => ⟨[], .error (.internal "password: hunter2")⟩⟩
    let service : Service := ⟨Registry.register .empty action, .default⟩
    let route : Autocomplete :=
      ⟨["user", "autocomplete"], name, "q", 20, [.flag "ignore_self"], .plain⟩
    let g : Gateway := .offering service .empty
    let call : Request := ⟨.get, ⟨"/api/action/user_autocomplete", some "q=al"⟩, [], []⟩
    let request : Request := ⟨.get, ⟨"/api/util/user/autocomplete", some "q=al"⟩, [], []⟩
    (g.respond call).invocations.length = 1 ∧ (g.respond request).invocations.length = 1 ∧
      ((service.replacing name other).respond none name .v3 .anonymous call).value =
        (service.respond none name .v3 .anonymous call).value ∧
      (route.respond (service.replacing name other) .v1 .anonymous request).value =
        (route.respond service .v1 .anonymous request).value ∧
      ((g.withRegistry (service.replacing name other).registry).respond request).value =
        (g.respond request).value := by
  intro name action other service route g call request
  have hfind : service.registry.find? name = some action := rfl
  have halike (invocations : List Invocation) : service.FailsAlike name other invocations := by
    intro invocation _ hran
    obtain ⟨_, context, payload⟩ := invocation
    obtain rfl := Option.some.inj (hfind.symm.trans hran)
    exact .internal _ _ _ _
  have hdeclared : action.DeclaredAlike other := ⟨rfl, rfl, rfl⟩
  obtain ⟨hcalls, hroutes, hgateways⟩ := failures_leak_nothing hfind hdeclared
  refine ⟨by decide +kernel, by decide +kernel, ?_, ?_, ?_⟩
  · exact hcalls none name .v3 .anonymous call (halike _)
  · exact hroutes route .v1 .anonymous request (halike _)
  · exact hgateways g request rfl (halike _)

end Gateway

end ActionGateway
