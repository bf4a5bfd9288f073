import ActionGateway.Proofs.Layers

/-!
# Actions with side effects are protected

A link or an image on a page of anyone's making can have a browser send a request with a query, but
not one that posts. So an action that **writes** must not run for a retrieval, and nothing in a
query may change what it does. The query has a say in two places, in the payload and in the framing:

* the payload for such an action is never taken from the query (`Call.payload_with_query`);
* the framing asks for a callback only if the request retrieves, and then the action is refused, and
  a refusal is never wrapped (`Service.respond_of_write`).

The main result is `Service.write_actions_are_protected`.

The statements about a service hold of requests for the action under any method; those about a
gateway add which methods a route lets through. Only `POST` is let through besides the two that
retrieve, so that an update comes to an action by no route.
-/

namespace ActionGateway

/-! ## Framing

A callback changes a response only if the request retrieves and the answer is a success. These are
the two lemmas that take it out of the picture, each by one of the two conditions. -/

namespace Framing

/-- Only success is wrapped. -/
theorem frame_of_status_ne_200 {status : Nat} (h : status ≠ 200) (framing : Framing)
    (body : Option ResponseBody) (kind : ContentKind) (headers : Headers) :
    framing.frame status body kind headers = plain.frame status body kind headers := by
  obtain ⟨callback⟩ := framing
  cases body with
  | none => rfl
  | some body =>
    cases callback with
    | none => rfl
    | some callback => simp only [frame, if_neg h, plain]

/-- Only a retrieval asks for a callback. -/
theorem ofQuery_of_not_retrieval {method : Method} (h : method.isRetrieval = false)
    (query : Option String) : ofQuery method query = plain := by
  rw [ofQuery, ofParams, h]
  rfl

end Framing

/-- A route serves retrievals, and some routes serve `POST`. -/
theorem Route.retrieval_or_post_of_serves {route : Route} {method : Method}
    (h : route.serves method = true) : method.isRetrieval = true ∨ method = .post := by
  cases method with
  | get => exact .inl rfl
  | head => exact .inl rfl
  | post => exact .inr rfl
  | put => cases h
  | options => cases h
  | other token => cases h

/-! ## Requests to an action with side effects

A retrieval is refused before its payload is looked at. Any other request is read, and what is made
of it depends on the form, the body and the files; the query is carried along in the call, but no
one looks at it. -/

namespace Service

variable {service : Service} {name : String} {action : Action}

/-- **An answer that is no success is never wrapped**, whatever callback the query names. Callbacks
are the only way in which a query reaches the framing. -/
theorem respond_of_answer {limit : Option Nat} {version : ApiVersion} {caller : Identity}
    {request : Request} {answer : Answer}
    (hanswer : service.answerRequest limit name version caller request = .pure answer)
    (hstatus : answer.status ≠ 200) :
    service.respond limit name version caller request =
      .pure (Framing.plain.envelope answer.status answer.envelope) := by
  rw [respond, hanswer]
  exact congrArg Traced.pure (Framing.frame_of_status_ne_200 hstatus _ _ _ _)

/-- A retrieval is refused, whether its body can be read or not. -/
theorem answerRequest_of_write_of_retrieval (hfind : service.registry.find? name = some action)
    (hwrite : action.readOnly = false) {request : Request}
    (hmethod : request.method.isRetrieval = true) (limit : Option Nat) (version : ApiVersion)
    (caller : Identity) :
    ∃ refusal, service.answerRequest limit name version caller request =
      .pure (refused (service.config.helpUrl version name) refusal) := by
  rcases hread : Call.read limit request with refusal | call
  · exact ⟨refusal, answerRequest_of_unreadable hfind hread version caller⟩
  · have hcallMethod : call.method.isRetrieval = true := by
      rw [(Call.method_and_query_of_read hread).1, hmethod]
    have hpayload : call.payload action.readOnly = .error .methodNotAllowed := by
      rw [hwrite, Call.payload_of_retrieval_of_write hcallMethod]
    rw [answerRequest_of_read hread]
    exact ⟨.methodNotAllowed, call_of_refusal hfind hpayload version caller⟩

/-- **The answer is never wrapped**, whatever callback the query names. -/
theorem respond_of_write (hfind : service.registry.find? name = some action)
    (hwrite : action.readOnly = false) (limit : Option Nat) (version : ApiVersion)
    (caller : Identity) (request : Request) :
    service.respond limit name version caller request =
      (service.answerRequest limit name version caller request).map fun answer =>
        Framing.plain.envelope answer.status answer.envelope := by
  -- only a retrieval asks for a callback, and a retrieval is refused
  rcases hmethod : request.method.isRetrieval with _ | _
  · rw [respond, Framing.ofQuery_of_not_retrieval hmethod]
  · obtain ⟨refusal, hanswer⟩ :=
      answerRequest_of_write_of_retrieval hfind hwrite hmethod limit version caller
    rw [respond_of_answer hanswer refusal.status_ne_200, hanswer]
    rfl

/-- What runs, and what the answer is, does not depend on the query. -/
theorem answerRequest_withQuery_of_write (hfind : service.registry.find? name = some action)
    (hwrite : action.readOnly = false) (limit : Option Nat) (version : ApiVersion)
    (caller : Identity) (request : Request) (query : Option String) :
    service.answerRequest limit name version caller (request.withQuery query) =
      service.answerRequest limit name version caller request := by
  simp only [answerRequest, hfind, Call.read_withQuery]
  rcases hread : Call.read limit request with refusal | call
  · rfl
  · simp only [Except.map, run, hwrite, Call.payload_with_query]

/-- **Nothing depends on the query**: neither what runs nor how the answer is framed. -/
theorem respond_withQuery_of_write (hfind : service.registry.find? name = some action)
    (hwrite : action.readOnly = false) (limit : Option Nat) (version : ApiVersion)
    (caller : Identity) (request : Request) (query : Option String) :
    service.respond limit name version caller (request.withQuery query) =
      service.respond limit name version caller request := by
  rw [respond_of_write hfind hwrite, respond_of_write hfind hwrite,
    answerRequest_withQuery_of_write hfind hwrite]

/-- **Where a retrieval runs an action, it is one without side effects.** For any other the call is
refused before a payload is looked for. -/
theorem readOnly_of_mem_answerRequest {limit : Option Nat} {version : ApiVersion}
    {caller : Identity} {request : Request} {invocation : Invocation}
    (hmethod : request.method.isRetrieval = true)
    (h : invocation ∈ (service.answerRequest limit name version caller request).invocations) :
    invocation.action.readOnly = true := by
  obtain ⟨call, hread, hcall⟩ := ran_of_mem_answerRequest h
  obtain ⟨action, payload, -, hpayload, rfl⟩ := ran_of_mem_call hcall
  have hsuits := (Call.payload_eq_ok_iff.mp hpayload).1
  rw [(Call.method_and_query_of_read hread).1, hmethod] at hsuits
  exact hsuits.resolve_right Bool.noConfusion

end Service

/-! ## The routes of actions

A request that comes by a route for actions gets to the action of its path or nowhere. So what holds
of requests to the action holds of those to the gateway, for each method that the route serves. -/

/-- **Through the routes of actions only `POST` runs an action with side effects.** They serve
`GET`, `HEAD` and `POST`, and the first two are retrievals. -/
theorem Gateway.post_of_mem_respond {g : Gateway} {request : Request} {versioned : Bool}
    {found : List (String × String)} {invocation : Invocation}
    (hroute : g.route? request = some (.api versioned .action, found))
    (h : invocation ∈ (g.respond request).invocations)
    (hwrite : invocation.action.readOnly = false) : request.method = .post := by
  obtain ⟨endpoint, limit, version, subject, hreaches, hmem⟩ := reaches_of_mem_respond h
  obtain rfl := hreaches.endpoint_eq hroute
  obtain ⟨_, _, _, _, _, hserves, _, _⟩ := hreaches
  rcases Route.retrieval_or_post_of_serves hserves with hretrieval | hpost
  · have hread := Service.readOnly_of_mem_answerRequest hretrieval hmem
    rw [hwrite] at hread
    cases hread
  · exact hpost

/-- **Through the routes of actions nothing depends on the query** either, if the action of the
path has side effects. -/
theorem Gateway.respond_withQuery_of_write {g : Gateway} {request : Request} {versioned : Bool}
    {found : List (String × String)} {values : Route.Values} {action : Action}
    (hroute : g.route? request = some (.api versioned .action, found))
    (hvalues : (Route.api versioned .action).values found = .ok values)
    (hfind : g.service.registry.find? values.subject = some action)
    (hwrite : action.readOnly = false) (query query' : Option String) :
    g.respond (request.withQuery query) = g.respond (request.withQuery query') := by
  refine respond_congr (request.agree_withQuery query query') ?_
  intro endpoint limit version subject hreaches
  obtain rfl := hreaches.endpoint_eq hroute
  obtain rfl := hreaches.subject_eq hroute hvalues
  simp only [serveEndpoint]
  rw [Service.respond_withQuery_of_write hfind hwrite,
    Service.respond_withQuery_of_write hfind hwrite]
  rfl

/-- **The gateway protects actions with side effects.**

* A retrieval does not run the action, and is not answered by success.
* Through the routes of actions only `POST` runs such an action.
* Requests that differ in nothing but their queries get the same response after the same
  invocations, whatever their method. -/
theorem Service.write_actions_are_protected {service : Service} {name : String} {action : Action}
    (hfind : service.registry.find? name = some action) (hwrite : action.readOnly = false)
    (limit : Option Nat) (version : ApiVersion) (caller : Identity) :
    (∀ request : Request, request.method = .get ∨ request.method = .head →
      (service.respond limit name version caller request).invocations = [] ∧
        (service.respond limit name version caller request).value.status ≠ 200) ∧
    (∀ (g : Gateway) (request : Request) (versioned : Bool) (found : List (String × String)),
      g.service = service → g.route? request = some (.api versioned .action, found) →
        ∀ invocation ∈ (g.respond request).invocations,
          invocation.action = action → request.method = .post) ∧
    (∀ (request : Request) (query query' : Option String),
      service.respond limit name version caller (request.withQuery query) =
        service.respond limit name version caller (request.withQuery query')) := by
  refine ⟨?_, ?_, ?_⟩
  · intro request hmethod
    obtain ⟨refusal, hanswer⟩ := answerRequest_of_write_of_retrieval hfind hwrite
      (Method.isRetrieval_iff.mpr hmethod) limit version caller
    rw [respond, hanswer]
    exact ⟨rfl, refusal.status_ne_200⟩
  · intro g request versioned found _ hroute invocation hmem haction
    rw [← haction] at hwrite
    exact Gateway.post_of_mem_respond hroute hmem hwrite
  · intro request query query'
    rw [respond_withQuery_of_write hfind hwrite, respond_withQuery_of_write hfind hwrite]

/-- Where the only action reports a change, it runs for a request that posts, and a query makes no
difference to that; for a request that gets with the same query it does not run. -/
theorem Service.write_actions_are_protected_touch :
    let action : Action := ⟨"touch", false, none, .run fun _ _ => ⟨[("thing", "1")], .ok .null⟩⟩
    let service : Service := ⟨Registry.register .empty action, .default⟩
    let g : Gateway := .offering service .empty
    let get : Request := ⟨.get, ⟨"/api/action/touch", some "callback=f"⟩, [], []⟩
    let post : Request := ⟨.post, ⟨"/api/action/touch", none⟩, [], []⟩
    (service.respond none "touch" .v3 .anonymous get).invocations = [] ∧
      (service.respond none "touch" .v3 .anonymous get).value.status ≠ 200 ∧
      (∃ invocation ∈ (g.respond post).invocations,
        invocation.action = action ∧ post.method = .post) ∧
      service.respond none "touch" .v3 .anonymous (post.withQuery (some "callback=f")) =
        service.respond none "touch" .v3 .anonymous (post.withQuery none) := by
  intro action service g get post
  have hfind : service.registry.find? "touch" = some action := rfl
  have hroute : g.route? post = some (.api false .action, [("name", "touch")]) := by
    decide +kernel
  have hdecode : Utf8.decode? (UrlEncoded.percentDecode (Utf8.encode "touch")) = some "touch" := by
    decide +kernel
  have hvalues : (Route.api false .action).values [("name", "touch")] = .ok ⟨none, "touch"⟩ := by
    simp only [Route.values, Route.decodeAll, hdecode]
    rfl
  have hreaches : g.Reaches post .action g.network.maxBodyBytes .v3 "touch" :=
    .intro false _ ⟨none, "touch"⟩ rfl hroute rfl hvalues rfl
  have hran : Service.invocation action .v3 .anonymous .empty ∈ (g.respond post).invocations := by
    rw [Gateway.respond_of_reaches hreaches]
    exact List.mem_singleton_self _
  obtain ⟨hget, hpost, hquery⟩ :=
    Service.write_actions_are_protected hfind rfl none .v3 .anonymous
  refine ⟨(hget get (.inl rfl)).1, (hget get (.inl rfl)).2, ⟨_, hran, rfl, ?_⟩, hquery post _ _⟩
  exact hpost g post false _ rfl hroute _ hran rfl

end ActionGateway
