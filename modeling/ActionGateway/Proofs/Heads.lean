import ActionGateway.Proofs.BodyLimit

/-!
# Asking for the head alone

A `HEAD` request asks for what a `GET` request would get, without the body. The method of a request
is looked at where a payload is taken from its call, where the response is framed, where a route
says which methods it serves, where options are asked for, and where the body is left out. All but
the last do not tell the two methods apart, so that both requests run the same and get the same
status and headers (`Gateway.respond_head`).

The last one leaves a gap. Where a path from the root leads nowhere the body stays, and of the two
responses that are given there one has a body: the refusal of a body that is declared too long. The
main result, `Gateway.head_is_get_but_for_refusals_astray`, says that this is the only exception.

A request is compared with itself under the other method (`Request.withMethod`), so that the path,
the query, the headers and the body are the same on both sides.
-/

namespace ActionGateway

/-! ## What does not tell the methods apart

Most places ask whether a method only retrieves, and both do. The lemmas go outwards: the payload of
a call, the framing that is asked for, whether a route serves the method, and from these what a
request to an action gets. -/

/-- **Both methods give a call the same payload.** -/
theorem Call.payload_head (call : Call) (readOnly : Bool) :
    { call with method := .head }.payload readOnly =
      { call with method := .get }.payload readOnly := rfl

/-- Both methods ask for the same framing. -/
theorem Framing.ofQuery_head (query : Option String) :
    Framing.ofQuery .head query = Framing.ofQuery .get query := rfl

/-- Every route serves both methods. -/
theorem Route.serves_retrieval {method : Method} (h : method.isRetrieval = true) (route : Route) :
    route.serves method = true := by
  cases method <;> first | rfl | cases h

/-- **Requests for an action are answered alike by both methods.** They differ in nothing that a
call is asked for: both are retrievals, and neither carries a form or updates. -/
theorem Service.respond_head (service : Service) (limit : Option Nat) (name : String)
    (version : ApiVersion) (caller : Identity) (request : Request) :
    service.respond limit name version caller (request.withMethod .head) =
      service.respond limit name version caller (request.withMethod .get) := by
  -- a call with a payload is run, one without is refused; the method has no part in either
  have hrun (action : Action) (help : String) (call : Call) :
      service.run action version caller help { call with method := .head } =
        service.run action version caller help { call with method := .get } := by
    rw [run, run, Call.payload_head]
  have hanswer : service.answerRequest limit name version caller (request.withMethod .head) =
      service.answerRequest limit name version caller (request.withMethod .get) := by
    rw [answerRequest, answerRequest, Call.read_withMethod, Call.read_withMethod]
    rcases service.registry.find? name with _ | action
    · rfl
    rcases Call.read limit request with refusal | call
    · rfl
    · exact hrun action _ call
  have hframing : Gateway.framing (request.withMethod .head) =
      Gateway.framing (request.withMethod .get) := Framing.ofQuery_head request.target.query
  rw [Gateway.framing, Gateway.framing] at hframing
  rw [respond, respond, hanswer, hframing]

namespace Gateway

variable {g : Gateway} {request : Request}

/-- Endpoints respond alike to both methods. An action reads its call under the method; the other
endpoints do not ask for it. -/
theorem serveEndpoint_head (g : Gateway) (limit : Option Nat) (version : ApiVersion)
    (subject : String) (request : Request) (endpoint : Endpoint) :
    g.serveEndpoint limit version subject (request.withMethod .head) endpoint =
      g.serveEndpoint limit version subject (request.withMethod .get) endpoint := by
  cases endpoint with
  | root => rfl
  | action => exact g.service.respond_head limit subject version _ request
  | translations => rfl
  | autocomplete route => rfl

/-! ## The layers

Around the endpoints two layers ask for the method: the one that lists the methods of a route, and
the outermost one, which leaves the body out. The first does nothing to a retrieval; the second does
nothing to a `GET` request, and to a `HEAD` request it depends on where the path leads. -/

/-- No methods are listed for either of the two. -/
theorem withAllow_retrieval {method : Method} (h : method.isRetrieval = true)
    (route : Option Route) (request : Request) (response : Response) :
    withAllow route (request.withMethod method) response = response := by
  cases route with
  | none => rfl
  | some route => exact if_pos (route.serves_retrieval h)

/-- What is got keeps its body. -/
theorem withoutBody_get (route : Option Route) (request : Request) (response : Response) :
    withoutBody route (request.withMethod .get) response = response := rfl

/-- A head loses its body, unless its path is stray. -/
theorem withoutBody_head (route : Option Route) (request : Request) (response : Response) :
    withoutBody route (request.withMethod .head) response =
      if isStray route request then response else { response with body := "" } := by
  have hmethod : decide ((request.withMethod .head).method = .head) = true := rfl
  have hstray : isStray route (request.withMethod .head) = isStray route request := rfl
  rw [withoutBody, hmethod, hstray, Bool.true_and]
  cases isStray route request <;> rfl

/-- What the gateway makes of a retrieval before its body may be left out. -/
theorem respondWithin_head {limit : Nat} (hlimit : g.bodyLimit? request = some limit) :
    g.respondWithin limit (g.route? request) (request.withMethod .head) =
      g.respondWithin limit (g.route? request) (request.withMethod .get) := by
  have hhead : (request.withMethod .head).method ≠ .options := show Method.head ≠ .options by decide
  have hget : (request.withMethod .get).method ≠ .options := show Method.get ≠ .options by decide
  -- every route serves both methods, so none of them is refused as not allowed
  have hserves (route : Route) : route.serves (request.withMethod .head).method =
      route.serves (request.withMethod .get).method :=
    (route.serves_retrieval rfl).trans (route.serves_retrieval rfl).symm
  have hhandle : g.handle (some limit) (request.withMethod .head) (g.route? request) =
      g.handle (some limit) (request.withMethod .get) (g.route? request) :=
    handle_congr id hlimit rfl rfl rfl hserves fun _ => g.serveEndpoint_head _ _ _ _ _
  rw [respondWithin, respondWithin, if_neg hhead, if_neg hget, hhandle]
  rfl

/-- **The gateway serves both methods alike, and leaves out the body of a head** unless the path is
stray. -/
theorem respond_head (g : Gateway) (request : Request) :
    g.respond (request.withMethod .head) =
      (g.respond (request.withMethod .get)).map fun response =>
        if isStray ((g.route? request).map Prod.fst) request then response
        else { response with body := "" } := by
  have hbodyLimit (method : Method) :
      g.bodyLimit? (request.withMethod method) = g.bodyLimit? request := rfl
  have hroute (method : Method) : g.route? (request.withMethod method) = g.route? request := rfl
  have hget := withAllow_retrieval (rfl : Method.isRetrieval .get = true)
  have hhead := withAllow_retrieval (rfl : Method.isRetrieval .head = true)
  simp only [respond, hbodyLimit, hroute, hget, hhead, withoutBody_get, withoutBody_head]
  rcases hlimit : g.bodyLimit? request with _ | limit
  · rfl
  · simp only [respondWithin_head hlimit]
    rfl

/-! ## Refusals astray

What is left is to say where a path is stray and the response has a body. `isStray` is asked where
no route was found, so the response is one of two: the refusal of a body that is declared too long,
which has a text, or that nothing is found, which has none. -/

/-- A request is refused astray: its path starts at the root and leads nowhere, and its body is
declared longer than the limit. -/
structure RefusedAstray (g : Gateway) (request : Request) : Prop where
  nowhere : g.route? request = none
  fromRoot : request.target.path.toList.head? = some '/'
  tooLong : ∃ length, declaredLength? request = some length ∧ g.network.maxBodyBytes < length

/-- A path is stray if it starts at the root and no route has it. -/
theorem isStray_iff :
    isStray ((g.route? request).map Prod.fst) request = true ↔
      g.route? request = none ∧ request.target.path.toList.head? = some '/' := by
  simp [isStray]

/-- **Where a path leads nowhere there are two responses**, and only the refusal has a body. It is
the one body that a `HEAD` request may get. -/
theorem body_respond_get_of_nowhere (hroute : g.route? request = none) :
    (g.respond (request.withMethod .get)).value.body =
      if g.bodyLimit? request = none then "length limit exceeded" else "" := by
  have hbodyLimit : g.bodyLimit? (request.withMethod .get) = g.bodyLimit? request := rfl
  have hroute' : g.route? (request.withMethod .get) = none := hroute
  rcases hlimit : g.bodyLimit? request with _ | limit
  · simp only [respond, hbodyLimit, hlimit, hroute']
    rfl
  · have hget : (request.withMethod .get).method ≠ .head := show Method.get ≠ .head by decide
    have hdressed := g.body_dressed hget (.empty 404)
    rw [dressed, hroute'] at hdressed
    simp only [respond, hbodyLimit, hlimit, hroute', respondWithin, handle]
    exact hdressed

/-- How the responses to a request by both methods hang together. The first three fields have no
exception. The body of a head is empty but for one case, which the last two describe from both
sides: it is the only case, and in it the body is that of the refusal. -/
structure HeadIsGet (g : Gateway) (request : Request) : Prop where
  /-- the same is run, or nothing is -/
  invocations : (g.respond (request.withMethod .head)).invocations =
    (g.respond (request.withMethod .get)).invocations
  status : (g.respond (request.withMethod .head)).value.status =
    (g.respond (request.withMethod .get)).value.status
  headers : (g.respond (request.withMethod .head)).value.headers =
    (g.respond (request.withMethod .get)).value.headers
  /-- the head has no body, unless it is refused astray -/
  body_eq_empty_iff :
    (g.respond (request.withMethod .head)).value.body = "" ↔ ¬ g.RefusedAstray request
  /-- then its body is that of the refusal, as it is for both methods -/
  body_of_refusedAstray : g.RefusedAstray request → ∀ method, method.isRetrieval = true →
    (g.respond (request.withMethod method)).value.body = "length limit exceeded"

/-- **A head is what would be got, without the body**, for every gateway and every request but those
that are refused astray: the same is run, and the status and the headers are the same. -/
theorem head_is_get_but_for_refusals_astray (g : Gateway) (request : Request) :
    g.HeadIsGet request := by
  have hhead := g.respond_head request
  have hbody (hastray : g.RefusedAstray request) :
      (g.respond (request.withMethod .get)).value.body = "length limit exceeded" := by
    rw [body_respond_get_of_nowhere hastray.nowhere,
      if_pos (bodyLimit?_eq_none_iff.mpr hastray.tooLong)]
  have hsame (hastray : g.RefusedAstray request) :
      g.respond (request.withMethod .head) = g.respond (request.withMethod .get) := by
    rw [hhead]
    simp only [isStray_iff.mpr ⟨hastray.nowhere, hastray.fromRoot⟩, if_pos]
    rfl
  constructor
  case invocations =>
    rw [hhead]
    rfl
  case status =>
    rw [hhead, Traced.value_map]
    split <;> rfl
  case headers =>
    rw [hhead, Traced.value_map]
    split <;> rfl
  case body_eq_empty_iff =>
    constructor
    · intro hempty hastray
      rw [hsame hastray, hbody hastray] at hempty
      exact absurd hempty (by decide)
    · intro hastray
      rw [hhead, Traced.value_map]
      split
      case isFalse => rfl
      case isTrue hstray =>
        obtain ⟨hroute, hpath⟩ := isStray_iff.mp hstray
        rw [body_respond_get_of_nowhere hroute, if_neg]
        exact fun hlimit => hastray ⟨hroute, hpath, bodyLimit?_eq_none_iff.mp hlimit⟩
  case body_of_refusedAstray =>
    intro hastray method hmethod
    rcases Method.isRetrieval_iff.mp hmethod with rfl | rfl
    · exact hbody hastray
    · rw [hsame hastray, hbody hastray]

/-- **A head can have a body.** The path leads nowhere, and one byte is declared where none is
allowed. Where the path leads to the health of the server the same refusal comes without a body. -/
theorem refused_head_has_body :
    let g : Gateway := (offering ⟨.empty, .default⟩ .empty).withLimit 0
    let request (path : String) : Request :=
      ⟨.head, ⟨path, none⟩, [("content-length", Utf8.encode "1")], []⟩
    (g.respond (request "/nope")).value = .plain 413 "length limit exceeded" ∧
      (g.respond (request "/health")).value = .plain 413 "" := by
  decide +kernel

end Gateway

end ActionGateway
