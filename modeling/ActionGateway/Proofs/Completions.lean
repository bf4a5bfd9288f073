import ActionGateway.Proofs.Anonymity
import ActionGateway.Proofs.Layers

/-!
# Completions run as their caller

The routes for completions build their payload themselves and run its action **directly**. The
service drops the caller's identity only on its way from a call to an action, and this way does not
lead past there: so unlike a call, a request for completions runs its action as its caller, also
where its query names a callback and its response is wrapped into a script.

When a request is safe all the same is the subject here. `Gateway.AsksFor` says that a request comes
to ask an action for completions, and `Gateway.completions_run_as_caller` that then nothing keeps
the response from telling who calls, unless the caller is unknown.
-/

namespace ActionGateway

/-- An action that admits one caller and nobody else. -/
def Action.admitting (name : String) (caller : Identity) : Action :=
  ⟨name, true, none, .run fun context _ =>
    ⟨[], if context.identity = caller then .ok .null else .error (.notAuthorized none)⟩⟩

/-! ## Credentials

A request carries a token in one of a few headers. To compare what two callers get, the requests
must be alike in all else: `SameButCredentials` takes the headers that carry tokens out of both and
asks for the rest to be equal, names, values and order. -/

/-- The headers without those that can carry a token. -/
def Headers.withoutCredentials (headers : Headers) : Headers :=
  headers.filter fun header => header.1 ∉ Tokens.headerNames

/-- Headers that carry no token are all that is left, so any other name has the same first value as
before. -/
theorem Headers.first?_withoutCredentials (headers : Headers) {name : String}
    (h : name ∉ Tokens.headerNames) :
    headers.withoutCredentials.first? name = headers.first? name := by
  rw [Headers.first?, Headers.first?, Headers.withoutCredentials, List.find?_filter]
  congr 2
  funext header
  by_cases hname : header.1 = name
  · simp [hname, h]
  · simp [hname]

/-- Two requests that differ at most in their credentials. -/
structure Request.SameButCredentials (request other : Request) : Prop where
  method : request.method = other.method
  target : request.target = other.target
  headers : request.headers.withoutCredentials = other.headers.withoutCredentials
  body : request.body = other.body

/-- The layers do not look at credentials. -/
theorem Request.SameButCredentials.agree {request other : Request}
    (h : request.SameButCredentials other) : request.Agree other where
  method := h.method
  path := by rw [h.target]
  header := by
    intro name hname
    -- the headers that the layers look at carry no token
    have hother : name ∉ Tokens.headerNames := by
      revert name
      decide
    rw [← Headers.first?_withoutCredentials _ hother, h.headers,
      Headers.first?_withoutCredentials _ hother]

/-! ## Routes for completions

Between the route and the action there is one step, `Service.invokeDirectly`, which takes the
identity as it is given. A response is made of what the action gives, and the trace shows for whom
it ran. Both follow from the same equation for the response (`respond_of_asksFor`). -/

namespace Service

variable {service : Service} {name : String}

/-- Where there is no action of the name nothing runs. -/
theorem invokeDirectly_of_unknown (hfind : service.registry.find? name = none)
    (version : ApiVersion) (caller : Identity) (payload : Payload) :
    service.invokeDirectly name version caller payload = .pure none := by
  rw [invokeDirectly, hfind]

/-- An action that is run directly runs as the caller. There is no look at the payload on this way,
and so no callback field that could take the identity away. -/
theorem invokeDirectly_of_find {action : Action}
    (hfind : service.registry.find? name = some action) (version : ApiVersion) (caller : Identity)
    (payload : Payload) :
    service.invokeDirectly name version caller payload =
      (service.perform ⟨action, CallContext.new caller version, payload⟩).map fun outcome =>
        some outcome.result := by
  rw [invokeDirectly, hfind]

end Service

namespace Gateway

variable {g : Gateway} {request other : Request} {route : Autocomplete} {version : ApiVersion}
  {payload : Payload}

/-- A request asks for completions: it gets to the route, and something has been typed. -/
def AsksFor (g : Gateway) (request : Request) (route : Autocomplete) (version : ApiVersion)
    (payload : Payload) : Prop :=
  (∃ limit subject, g.Reaches request (.autocomplete route) limit version subject) ∧
    route.payload? (queryParams request.target.query) = some payload

/-- A request for completions runs an action: it asks for them, and there is such an action. -/
def Runs (g : Gateway) (request : Request) (route : Autocomplete) : Prop :=
  (∃ version payload, g.AsksFor request route version payload) ∧
    (g.service.registry.find? route.action).isSome = true

/-- **The response to a request for completions**, from what its action gives. The layers do not
look into it: they dress the response of the route, whatever it is. -/
theorem respond_of_asksFor (h : g.AsksFor request route version payload) :
    g.respond request =
      (g.service.invokeDirectly route.action version (g.tokens.resolve request.headers)
        payload).map fun result =>
          g.dressed request (route.frameResult (framing request) payload result) := by
  obtain ⟨⟨limit, subject, hreaches⟩, hpayload⟩ := h
  rw [respond_of_reaches hreaches]
  simp only [serveEndpoint, Autocomplete.respond, hpayload]
  rfl

/-- A request for completions runs what it asks for, as its caller. -/
theorem invocations_of_asksFor {action : Action} (h : g.AsksFor request route version payload)
    (hfind : g.service.registry.find? route.action = some action) :
    (g.respond request).invocations =
      [⟨action, CallContext.new (g.tokens.resolve request.headers) version, payload⟩] := by
  rw [respond_of_asksFor h, Service.invokeDirectly_of_find hfind]
  rfl

/-- **Nothing else is run** where a path leads to a route for completions. An invocation in the
trace is that of the action of the route, the request asks for it, and its caller is the one whose
token the request carries. -/
theorem asksFor_of_mem_respond {versioned : Bool} {found : List (String × String)}
    {invocation : Invocation}
    (hroute : g.route? request = some (.api versioned (.autocomplete route), found))
    (h : invocation ∈ (g.respond request).invocations) :
    ∃ version payload, g.AsksFor request route version payload ∧
      g.service.registry.find? route.action = some invocation.action ∧
      invocation.context.identity = g.tokens.resolve request.headers := by
  -- what ran, ran at the endpoint, and by the path that is the route
  obtain ⟨endpoint, limit, version, subject, hreaches, hmem⟩ := reaches_of_mem_respond h
  obtain rfl := hreaches.endpoint_eq hroute
  simp only [serveEndpoint, Autocomplete.respond] at hmem
  rcases hpayload : route.payload? (queryParams request.target.query) with _ | payload
  · rw [hpayload] at hmem
    cases hmem
  simp only [hpayload, Traced.invocations_map] at hmem
  rcases hfind : g.service.registry.find? route.action with _ | action
  · rw [Service.invokeDirectly_of_unknown hfind] at hmem
    cases hmem
  rw [Service.invokeDirectly_of_find hfind] at hmem
  obtain rfl := List.mem_singleton.mp hmem
  exact ⟨version, payload, ⟨⟨limit, subject, hreaches⟩, hpayload⟩, rfl, rfl⟩

/-- Whether a request asks for completions is not a matter of its credentials. -/
theorem AsksFor.congr (hsame : request.SameButCredentials other)
    (h : g.AsksFor request route version payload) : g.AsksFor other route version payload := by
  obtain ⟨⟨limit, subject, hreaches⟩, hpayload⟩ := h
  refine ⟨⟨limit, subject, hreaches.congr hsame.agree⟩, ?_⟩
  rw [← hsame.target, hpayload]

/-- The gateway with other actions. -/
def withRegistry (g : Gateway) (registry : Registry) : Gateway :=
  { g with service := { g.service with registry := registry } }

/-- Whether a request asks for completions is not a matter of what actions there are. -/
theorem AsksFor.withRegistry (h : g.AsksFor request route version payload)
    (registry : Registry) :
    (g.withRegistry registry).AsksFor request route version payload := by
  obtain ⟨⟨limit, _, versioned, found, values, hlimit, hroute, hserves, hvalues, hversion⟩,
    hpayload⟩ := h
  exact ⟨⟨limit, _, .intro versioned found values hlimit hroute hserves hvalues hversion⟩, hpayload⟩

/-! ## Who can tell

Whether two requests that differ in nothing but their credentials are told apart is a question in
two parts. If they come from one caller, or nothing runs, they are not: everything that the response
depends on is equal. If they come from two callers and something is asked for, there is an action
that tells them apart: one that admits the first caller and nobody else (`Action.admitting`). The
registry is the free part of a gateway here, so "whatever the actions do" is said over all
registries. -/

/-- Two requests that differ at most in their credentials get the same response if they come from
one caller, or run nothing. The traces are the same as well. -/
theorem respond_eq_of_sameButCredentials {versioned : Bool} {found : List (String × String)}
    (hroute : g.route? request = some (.api versioned (.autocomplete route), found))
    (hsame : request.SameButCredentials other)
    (h : g.tokens.resolve request.headers = g.tokens.resolve other.headers ∨
      ¬ g.Runs request route) :
    g.respond request = g.respond other := by
  refine respond_congr hsame.agree ?_
  intro endpoint limit version subject hreaches
  obtain rfl := hreaches.endpoint_eq hroute
  simp only [serveEndpoint, Autocomplete.respond, ← hsame.method, ← hsame.target]
  rcases hpayload : route.payload? (queryParams request.target.query) with _ | payload
  · rfl
  rcases h with hcaller | hruns
  · rw [hcaller]
  · have hfind : g.service.registry.find? route.action = none := by
      rw [← Option.not_isSome_iff_eq_none]
      exact fun hsome => hruns ⟨⟨version, payload, ⟨limit, subject, hreaches⟩, hpayload⟩, hsome⟩
    simp only [Service.invokeDirectly_of_unknown hfind]

/-- The status of the response where there is an action that admits one caller only. It is 200 for
that caller and 403 for all others; nothing else of the response is needed to tell them apart. -/
theorem status_of_admitting (h : g.AsksFor request route version payload) {caller : Identity}
    (hfind : g.service.registry.find? route.action = some (.admitting route.action caller)) :
    (g.respond request).value.status =
      if g.tokens.resolve request.headers = caller then 200 else 403 := by
  rw [respond_of_asksFor h, Service.invokeDirectly_of_find hfind]
  simp only [Traced.value_map, status_dressed]
  by_cases hcaller : g.tokens.resolve request.headers = caller
  · have hresult : (g.service.perform ⟨.admitting route.action caller,
        CallContext.new (g.tokens.resolve request.headers) version, payload⟩).value.result =
          .ok .null := if_pos hcaller
    rw [if_pos hcaller, hresult]
    rfl
  · have hresult : (g.service.perform ⟨.admitting route.action caller,
        CallContext.new (g.tokens.resolve request.headers) version, payload⟩).value.result =
          .error (.notAuthorized none) := if_neg hcaller
    rw [if_neg hcaller, hresult]
    rfl

/-- **Different callers can be told apart** by what completions they are given. -/
theorem exists_registry_status_ne (hsame : request.SameButCredentials other)
    (h : g.AsksFor request route version payload)
    (hcaller : g.tokens.resolve request.headers ≠ g.tokens.resolve other.headers) :
    ∃ registry, ((g.withRegistry registry).respond request).value.status ≠
      ((g.withRegistry registry).respond other).value.status := by
  -- an action that admits the first caller refuses the second
  let action : Action := .admitting route.action (g.tokens.resolve request.headers)
  let registry : Registry := NameMap.insert .empty route.action action
  have hfind : registry.find? route.action = some action := by
    rw [NameMap.find?_insert, if_pos rfl]
  have hrequest := status_of_admitting (h.withRegistry registry) hfind
  have hother := status_of_admitting ((h.congr hsame).withRegistry registry) hfind
  have hadmitted : (g.withRegistry registry).tokens.resolve request.headers =
      g.tokens.resolve request.headers := rfl
  have hrefused : (g.withRegistry registry).tokens.resolve other.headers ≠
      g.tokens.resolve request.headers := hcaller.symm
  rw [if_pos hadmitted] at hrequest
  rw [if_neg hrefused] at hother
  refine ⟨registry, ?_⟩
  rw [hrequest, hother]
  decide

/-- Requests that run an action for different callers leave different traces, whatever the action
does. So if the traced responses are equal, the callers are. -/
theorem resolve_eq_of_respond_eq (hsame : request.SameButCredentials other)
    (hruns : g.Runs request route) (h : g.respond request = g.respond other) :
    g.tokens.resolve request.headers = g.tokens.resolve other.headers := by
  obtain ⟨⟨version, payload, hasks⟩, hsome⟩ := hruns
  obtain ⟨action, hfind⟩ := Option.isSome_iff_exists.mp hsome
  have hinvocations := congrArg Traced.invocations h
  rw [invocations_of_asksFor hasks hfind,
    invocations_of_asksFor (hasks.congr hsame) hfind] at hinvocations
  have hinvocation := List.singleton_inj.mp hinvocations
  exact congrArg (fun invocation => invocation.context.identity) hinvocation

/-- **Completions are for their caller**, whether the query names a callback or not.

* Whatever a request for completions runs, runs as the caller whose token it carries.
* So nothing runs but for nobody in particular exactly if the caller is unknown, or nothing runs.
* Two requests that differ in nothing but their credentials are served alike exactly if they come
  from one caller, or nothing runs.
* Their responses are the same, whatever the actions do, exactly if they come from one caller, or
  ask for nothing. -/
theorem completions_run_as_caller {versioned : Bool} {found : List (String × String)}
    (hroute : g.route? request = some (.api versioned (.autocomplete route), found)) :
    (∀ invocation ∈ (g.respond request).invocations,
      invocation.context.identity = g.tokens.resolve request.headers) ∧
    ((∀ invocation ∈ (g.respond request).invocations,
      invocation.context.identity = .anonymous) ↔
        g.tokens.resolve request.headers = .anonymous ∨ ¬ g.Runs request route) ∧
    (∀ other : Request, request.SameButCredentials other →
      (g.respond request = g.respond other ↔
        g.tokens.resolve request.headers = g.tokens.resolve other.headers ∨
          ¬ g.Runs request route) ∧
      ((∀ registry, ((g.withRegistry registry).respond request).value =
          ((g.withRegistry registry).respond other).value) ↔
        g.tokens.resolve request.headers = g.tokens.resolve other.headers ∨
          ¬ ∃ version payload, g.AsksFor request route version payload)) := by
  have hcaller : ∀ invocation ∈ (g.respond request).invocations,
      invocation.context.identity = g.tokens.resolve request.headers := by
    intro invocation hmem
    obtain ⟨_, _, -, -, hidentity⟩ := asksFor_of_mem_respond hroute hmem
    exact hidentity
  refine ⟨hcaller, ⟨?_, ?_⟩, fun other hsame => ⟨⟨?_, ?_⟩, ⟨?_, ?_⟩⟩⟩
  · intro hanonymous
    by_cases hruns : g.Runs request route
    · obtain ⟨⟨version, payload, hasks⟩, hsome⟩ := hruns
      obtain ⟨action, hfind⟩ := Option.isSome_iff_exists.mp hsome
      rw [invocations_of_asksFor hasks hfind] at hanonymous
      exact .inl (hanonymous _ (List.mem_singleton_self _))
    · exact .inr hruns
  · intro h invocation hmem
    rcases h with hresolve | hruns
    · rw [hcaller invocation hmem, hresolve]
    · obtain ⟨version, payload, hasks, hfind, -⟩ := asksFor_of_mem_respond hroute hmem
      exact absurd ⟨⟨version, payload, hasks⟩, by rw [hfind]; rfl⟩ hruns
  · intro heq
    by_cases hruns : g.Runs request route
    · exact .inl (resolve_eq_of_respond_eq hsame hruns heq)
    · exact .inr hruns
  · exact respond_eq_of_sameButCredentials hroute hsame
  · intro heq
    by_cases hresolve : g.tokens.resolve request.headers = g.tokens.resolve other.headers
    · exact .inl hresolve
    · refine .inr ?_
      rintro ⟨version, payload, hasks⟩
      obtain ⟨registry, hstatus⟩ := exists_registry_status_ne hsame hasks hresolve
      exact hstatus (congrArg Response.status (heq registry))
  · intro h registry
    have hquiet : g.tokens.resolve request.headers = g.tokens.resolve other.headers ∨
        ¬ (g.withRegistry registry).Runs request route := by
      refine h.imp_right fun hasks hruns => hasks ?_
      obtain ⟨⟨version, payload, hregistered⟩, -⟩ := hruns
      -- to ask is not a matter of the actions, so those of the gateway can be put back
      exact ⟨version, payload, hregistered.withRegistry g.service.registry⟩
    rw [respond_eq_of_sameButCredentials (g := g.withRegistry registry) hroute hsame hquiet]

/-- Where completions tell who asks for them, alice is served alike whichever header carries her
token. -/
theorem completions_run_as_caller_alice :
    let service : Service :=
      ⟨Registry.register .empty (.tellCaller "user_autocomplete" true), .default⟩
    let g : Gateway := .offering service (Tokens.empty.withToken "secret" (.named "alice"))
    let target : Target := ⟨"/api/util/user/autocomplete", some "q=al&callback=cb"⟩
    let request : Request := ⟨.get, target, [("authorization", Utf8.encode "secret")], []⟩
    let other : Request := ⟨.get, target, [("x-ckan-api-key", Utf8.encode "secret")], []⟩
    (∃ invocation ∈ (g.respond request).invocations,
        invocation.context.identity = .authenticated (.named "alice")) ∧
      g.respond request = g.respond other := by
  intro service g target request other
  have hroute : g.route? request = some (.api false (.autocomplete ⟨["user", "autocomplete"],
      "user_autocomplete", "q", 20, [.flag "ignore_self"], .plain⟩), []) := by
    decide +kernel
  have hrequest : g.tokens.resolve request.headers = .authenticated (.named "alice") := by
    decide +kernel
  have hother : g.tokens.resolve other.headers = .authenticated (.named "alice") := by
    decide +kernel
  have hsame : request.SameButCredentials other := ⟨rfl, rfl, by decide +kernel, rfl⟩
  have hran : (g.respond request).invocations.isEmpty = false := by decide +kernel
  obtain ⟨invocation, hmem⟩ :=
    List.exists_mem_of_ne_nil _ (List.isEmpty_eq_false_iff.mp hran)
  obtain ⟨hcaller, -, hpairs⟩ := completions_run_as_caller hroute
  refine ⟨⟨invocation, hmem, ?_⟩, ?_⟩
  · rw [hcaller invocation hmem, hrequest]
  · exact (hpairs other hsame).1.mpr (.inl (hrequest.trans hother.symm))

/-- **A script gets to know who loads it.** The query names a callback, so what the action says of
its caller is wrapped into a script; without the token the script says something else. -/
theorem callback_completions_leak :
    let service : Service :=
      ⟨Registry.register .empty (.tellCaller "user_autocomplete" true), .default⟩
    let g : Gateway := .offering service (Tokens.empty.withToken "secret" (.named "alice"))
    let target : Target := ⟨"/api/util/user/autocomplete", some "q=al&callback=cb"⟩
    let request : Request := ⟨.get, target, [("authorization", Utf8.encode "secret")], []⟩
    let other : Request := ⟨.get, target, [], []⟩
    request.SameButCredentials other ∧ ("callback", "cb") ∈ queryParams target.query ∧
      (∃ invocation ∈ (g.respond request).invocations,
        invocation.context.identity ≠ .anonymous) ∧
      (g.respond request).value.body = "cb(\"alice\");" ∧
      (g.respond other).value.body = "cb(\"\");" := by
  intro service g target request other
  have hknown : (g.respond request).invocations.any
      (fun invocation => !invocation.context.identity.isAnonymous) = true := by
    decide +kernel
  obtain ⟨invocation, hmem, hidentity⟩ := List.any_eq_true.mp hknown
  refine ⟨⟨rfl, rfl, by decide +kernel, rfl⟩, by decide +kernel, ⟨invocation, hmem, ?_⟩,
    by decide +kernel, by decide +kernel⟩
  intro hanonymous
  rw [hanonymous] at hidentity
  cases hidentity

end Gateway

end ActionGateway
