import ActionGateway.Gateway
import ActionGateway.Proofs.Serving

/-!
# Behind the layers

The gateway puts the same layers around every route. `Gateway.Reaches` says that a request gets
through them to an **endpoint**, and a few facts are all that later statements about the gateway
need:

* the response is then that of the endpoint, **dressed** by the layers
  (`Gateway.respond_of_reaches`), and a request that gets to no endpoint runs nothing
  (`Gateway.reaches_of_mem_respond`);
* a dressed response differs in the headers that the layers set and in no others, and maybe in the
  body (`Gateway.exists_headers_dressed`);
* two requests that **agree** on the few things that the layers look at are told apart by nothing
  but the endpoint that they get to (`Gateway.respond_congr`), and neither are two gateways that
  are configured alike (`Gateway.handle_congr`).
-/

namespace ActionGateway

/-! ## What the layers look at

Of a request the layers see its method, its path, the length that it declares, its origin and its
identifier. The table of routes sees the path. Two requests that are the same in these get through
the layers in the same way and to the same route. -/

/-- The headers that the layers look at. -/
def Gateway.layerHeaders : List String :=
  ["content-length", "origin", "x-request-id"]

/-- Two requests that are the same to the layers and to the table of routes. They may differ in
their queries, their bodies, and their other headers. -/
structure Request.Agree (request other : Request) : Prop where
  method : request.method = other.method
  path : request.target.path = other.target.path
  header : ∀ name ∈ Gateway.layerHeaders, request.headers.first? name = other.headers.first? name

/-- What the layers look at is not in the query. -/
theorem Request.agree_withQuery (request : Request) (query query' : Option String) :
    (request.withQuery query).Agree (request.withQuery query') :=
  ⟨rfl, rfl, fun _ _ => rfl⟩

namespace Headers

/-! ### Headers that are set

A layer sets one header, and readers ask for first values. Setting a name changes the first value of
that name and of no other. -/

/-- A name that is given a value has it. -/
theorem first?_set_self (name : String) (headers : Headers) (value : Bytes) :
    (headers.set name value).first? name = some value := by
  have hothers : (headers.filter fun header => header.1 ≠ name).find?
      (fun header => decide (header.1 = name)) = none := by
    rw [List.find?_eq_none]
    intro header hheader
    simpa using (List.mem_filter.mp hheader).2
  rw [first?, set, List.find?_append, hothers, Option.none_or]
  simp

/-- A name that is given another value leaves the values of other names as they are. -/
theorem first?_set_ne {name other : String} (h : name ≠ other) (headers : Headers)
    (value : Bytes) : (headers.set name value).first? other = headers.first? other := by
  have hnew : [(name, value)].find? (fun header => decide (header.1 = other)) = none := by
    simp [h]
  rw [first?, first?, set, List.find?_append, hnew, Option.or_none, List.find?_filter]
  congr 2
  funext header
  by_cases hheader : header.1 = other
  · simp [hheader, Ne.symm h]
  · simp [hheader]

/-- So does a name that is given a value if it has none. -/
theorem first?_setIfAbsent_ne {name other : String} (h : name ≠ other) (headers : Headers)
    (value : Bytes) : (headers.setIfAbsent name value).first? other = headers.first? other := by
  rw [setIfAbsent]
  split
  · rfl
  · rw [first?, first?, List.find?_append]
    simp [h]

end Headers

namespace Gateway

/-- A service and its callers' tokens behind the layers, where nothing else is configured. -/
def offering (service : Service) (tokens : Tokens) : Gateway :=
  ⟨service, tokens, .default, ⟨.directory [], []⟩, .new, 0⟩

variable {g : Gateway} {request other : Request}

/-- A request gets to an endpoint: its body is not declared too long, its path leads there with
values for all parameters, and the endpoint serves its method and has the version asked for. -/
inductive Reaches (g : Gateway) (request : Request) :
    Endpoint → Nat → ApiVersion → String → Prop
  | intro (versioned : Bool) {endpoint : Endpoint} {limit : Nat} {version : ApiVersion}
    (found : List (String × String)) (values : Route.Values)
    (hlimit : g.bodyLimit? request = some limit)
    (hroute : g.route? request = some (.api versioned endpoint, found))
    (hserves : (Route.api versioned endpoint).serves request.method = true)
    (hvalues : (Route.api versioned endpoint).values found = .ok values)
    (hversion : endpoint.version? g.config values.version = some version) :
    Reaches g request endpoint limit version values.subject

/-! ## What the layers change

Every layer but the last sets at most one header, each of another name, and the last one may drop
the body. So of a response behind all layers the status, the content type and, if not only the head
was asked for, the body are those of the response that the route gave. `SetsOnly` is the form in
which this is said of one layer, so that the three can be put together. -/

/-- What the layers make of a response on its way out. -/
def dressed (g : Gateway) (request : Request) (response : Response) : Response :=
  let route := (g.route? request).map Prod.fst
  withoutBody route request
    (withAllow route request (g.withOrigin request (withRequestId request response)))

/-- A layer that sets one header and changes nothing else. -/
def SetsOnly (name : String) (layer : Response → Response) : Prop :=
  ∀ response, ∃ headers, layer response = { response with headers := headers } ∧
    ∀ other, name ≠ other → headers.first? other = response.headers.first? other

/-- The identifier of the request is copied, unless the route has set one itself. -/
theorem setsOnly_withRequestId (request : Request) :
    SetsOnly "x-request-id" (withRequestId request) := by
  intro response
  rw [withRequestId]
  split
  · exact ⟨_, rfl, fun _ _ => rfl⟩
  · exact ⟨_, rfl, fun _ h => Headers.first?_setIfAbsent_ne h _ _⟩

/-- What is said about the origin replaces whatever the route may have said. -/
theorem setsOnly_withOrigin (g : Gateway) (request : Request) :
    SetsOnly "access-control-allow-origin" (g.withOrigin request) := by
  intro response
  rw [withOrigin]
  split
  · exact ⟨_, rfl, fun _ _ => rfl⟩
  · exact ⟨_, rfl, fun _ h => Headers.first?_set_ne h _ _⟩

/-- The list of methods is added where the route does not serve the method of the request. -/
theorem setsOnly_withAllow (route : Option Route) (request : Request) :
    SetsOnly "allow" (withAllow route request) := by
  intro response
  cases route with
  | none => exact ⟨_, rfl, fun _ _ => rfl⟩
  | some route =>
    rw [withAllow]
    split
    · exact ⟨_, rfl, fun _ _ => rfl⟩
    · exact ⟨_, rfl, fun _ h => Headers.first?_setIfAbsent_ne h _ _⟩

/-- The headers that the layers set. -/
def setHeaders : List String :=
  ["x-request-id", "access-control-allow-origin", "allow"]

/-- **The layers set no headers but theirs**, and may leave the body out. The status is never theirs
to change. -/
theorem exists_headers_dressed (g : Gateway) (request : Request) (response : Response) :
    ∃ headers, g.dressed request response =
        withoutBody ((g.route? request).map Prod.fst) request
          { response with headers := headers } ∧
      ∀ name, name ∉ setHeaders → headers.first? name = response.headers.first? name := by
  obtain ⟨idHeaders, hid, hkept⟩ := setsOnly_withRequestId request response
  obtain ⟨originHeaders, horigin, hkept'⟩ :=
    g.setsOnly_withOrigin request { response with headers := idHeaders }
  obtain ⟨headers, hallow, hkept''⟩ := setsOnly_withAllow ((g.route? request).map Prod.fst) request
    { response with headers := originHeaders }
  refine ⟨headers, by rw [dressed, hid, horigin, hallow], fun name hname => ?_⟩
  simp only [setHeaders, List.mem_cons, List.not_mem_nil, or_false, not_or] at hname
  obtain ⟨hneId, hneOrigin, hneAllow⟩ := hname
  rw [hkept'' name (Ne.symm hneAllow), hkept' name (Ne.symm hneOrigin), hkept name (Ne.symm hneId)]

/-- With or without the body the headers are the same. -/
theorem headers_withoutBody (route : Option Route) (request : Request) (response : Response) :
    (withoutBody route request response).headers = response.headers := by
  rw [withoutBody]
  split <;> rfl

/-- With or without the body the status is the same. -/
theorem status_withoutBody (route : Option Route) (request : Request) (response : Response) :
    (withoutBody route request response).status = response.status := by
  rw [withoutBody]
  split <;> rfl

/-- The layers leave the status as it is. -/
theorem status_dressed (g : Gateway) (request : Request) (response : Response) :
    (g.dressed request response).status = response.status := by
  obtain ⟨headers, hdressed, -⟩ := g.exists_headers_dressed request response
  rw [hdressed, status_withoutBody]

/-- The layers leave the content type as it is. -/
theorem contentType_dressed (g : Gateway) (request : Request) (response : Response) :
    (g.dressed request response).headers.first? "content-type" =
      response.headers.first? "content-type" := by
  obtain ⟨headers, hdressed, hkept⟩ := g.exists_headers_dressed request response
  rw [hdressed, headers_withoutBody, hkept "content-type" (by decide)]

/-- The layers leave the body as it is, unless only the head was asked for. -/
theorem body_dressed {request : Request} (h : request.method ≠ .head) (g : Gateway)
    (response : Response) : (g.dressed request response).body = response.body := by
  obtain ⟨headers, hdressed, -⟩ := g.exists_headers_dressed request response
  have hhead : decide (request.method = .head) = false := decide_eq_false h
  rw [hdressed, withoutBody, hhead, Bool.false_and, if_neg Bool.false_ne_true]

/-! ## Where a request gets to

From the outside in there are five reasons why a request does not get to an endpoint: its body is
declared too long, its path leads nowhere, its method is not served, a value of its path cannot be
read, or the endpoint does not have the version. Each is answered without running anything.
`Gateway.Reaches` holds the evidence that none of them is the case. -/

/-- No route serves the method that asks for the options of a path. -/
theorem ne_options_of_serves {route : Route} {method : Method} (h : route.serves method = true) :
    method ≠ .options := by
  rintro rfl
  cases h

/-- Behind the layers a route that serves the method responds, whether it belongs to the interface
or tells about the server. -/
theorem respond_of_serves {route : Route} {found : List (String × String)} {limit : Nat}
    (hlimit : g.bodyLimit? request = some limit) (hroute : g.route? request = some (route, found))
    (hserves : route.serves request.method = true) :
    g.respond request = (g.serve (some limit) route found request).map (g.dressed request) := by
  have hdressed : g.dressed request = fun response =>
      withoutBody (some route) request
        (withAllow (some route) request
          (g.withOrigin request (withRequestId request response))) := by
    funext response
    rw [dressed, hroute]
    rfl
  rw [hdressed]
  simp only [respond, hlimit, hroute, respondWithin, if_neg (ne_options_of_serves hserves), handle,
    if_pos hserves]
  rfl

/-- **Behind the layers an endpoint responds.** This cuts a response in two: what the endpoint says,
and the same dress for all of them. -/
theorem respond_of_reaches {endpoint : Endpoint} {limit : Nat} {version : ApiVersion}
    {subject : String} (h : g.Reaches request endpoint limit version subject) :
    g.respond request =
      (g.serveEndpoint (some limit) version subject request endpoint).map (g.dressed request) := by
  obtain ⟨versioned, found, values, hlimit, hroute, hserves, hvalues, hversion⟩ := h
  rw [respond_of_serves hlimit hroute hserves, serve, hvalues]
  simp only [serveWith, hversion]

/-- **What runs, runs at the endpoint that the request gets to.** The cases follow the layers from
the outside in: at each of them a request that goes no further leaves an empty trace. -/
theorem reaches_of_mem_respond {invocation : Invocation}
    (h : invocation ∈ (g.respond request).invocations) :
    ∃ endpoint limit version subject, g.Reaches request endpoint limit version subject ∧
      invocation ∈
        (g.serveEndpoint (some limit) version subject request endpoint).invocations := by
  rw [respond, Traced.invocations_map] at h
  rcases hlimit : g.bodyLimit? request with _ | limit
  · rw [hlimit] at h
    cases h
  simp only [hlimit, respondWithin] at h
  split at h
  · cases h
  rw [Traced.invocations_map] at h
  rcases hroute : g.route? request with _ | ⟨route, found⟩
  · rw [hroute] at h
    cases h
  simp only [hroute, handle] at h
  split at h
  case isFalse => cases h
  case isTrue hserves =>
    rcases hvalues : route.values found with fault | values
    · simp only [serve, hvalues] at h
      cases h
    simp only [serve, hvalues] at h
    -- only the routes of the interface have an endpoint, the others tell about the server
    -- the routes that tell about the server are compared by what they show
    cases route with
    | health => cases h
    | alive => cases h
    | readiness => cases h
    | api versioned endpoint =>
      rcases hversion : endpoint.version? g.config values.version with _ | version
      · simp only [serveWith, hversion] at h
        cases h
      simp only [serveWith, hversion] at h
      exact ⟨endpoint, limit, version, values.subject,
        .intro versioned found values hlimit hroute hserves hvalues hversion, h⟩

/-- The endpoint is that of the route: a path leads to one route only. -/
theorem Reaches.endpoint_eq {endpoint endpoint' : Endpoint} {limit : Nat} {version : ApiVersion}
    {subject : String} {versioned : Bool} {found : List (String × String)}
    (h : g.Reaches request endpoint limit version subject)
    (hroute : g.route? request = some (.api versioned endpoint', found)) :
    endpoint = endpoint' := by
  obtain ⟨_, _, _, _, hroute', _, _, _⟩ := h
  rw [hroute, Option.some.injEq, Prod.mk.injEq, Route.api.injEq] at hroute'
  exact hroute'.1.2.symm

/-- The subject is what the path names. -/
theorem Reaches.subject_eq {endpoint : Endpoint} {limit : Nat} {version : ApiVersion}
    {subject : String} {versioned : Bool} {found : List (String × String)} {values : Route.Values}
    (h : g.Reaches request endpoint limit version subject)
    (hroute : g.route? request = some (.api versioned endpoint, found))
    (hvalues : (Route.api versioned endpoint).values found = .ok values) :
    subject = values.subject := by
  obtain ⟨_, _, values', _, hroute', _, hvalues', _⟩ := h
  obtain ⟨hapi, rfl⟩ := Prod.mk.inj (Option.some.inj (hroute.symm.trans hroute'))
  obtain ⟨rfl, -⟩ := Route.api.inj hapi
  obtain rfl : values = values' := Except.ok.inj (hvalues.symm.trans hvalues')
  rfl

/-! ## What is handled alike

Many statements compare two requests, or two gateways. All of them go through the same cases and
differ in one: what the endpoint does. So the cases are gone through here once, for any part of the
response that is to be compared (`view`), and the difference is left as a hypothesis. -/

/-- **Behind the layers nothing counts but the endpoint.** Two gateways that are configured alike
and are in the same health handle two requests to one path alike, if every route serves either
method or none, and the endpoint responds alike. What is compared of the responses may be a part of
them. -/
theorem handle_congr {α : Type} (view : Traced Response → α) {g g' : Gateway}
    {request other : Request} {limit : Nat} (hlimit : g.bodyLimit? request = some limit)
    (hconfig : g.config = g'.config) (hhealth : g.lifecycle.health = g'.lifecycle.health)
    (hjson : g.healthJson = g'.healthJson)
    (hserves : ∀ route : Route, route.serves request.method = route.serves other.method)
    (hserve : ∀ {endpoint version subject},
      g.Reaches request endpoint limit version subject →
        view (g.serveEndpoint (some limit) version subject request endpoint) =
          view (g'.serveEndpoint (some limit) version subject other endpoint)) :
    view (g.handle (some limit) request (g.route? request)) =
      view (g'.handle (some limit) other (g.route? request)) := by
  rcases hroute : g.route? request with _ | ⟨route, found⟩
  · rfl
  simp only [handle, ← hserves]
  split
  case isFalse => rfl
  case isTrue hmethod =>
    rcases hvalues : route.values found with fault | values
    · simp only [serve, hvalues]
    simp only [serve, hvalues]
    cases route with
    | health => simp only [serveWith, hjson]
    | alive => rfl
    | readiness => simp only [serveWith, hhealth]
    | api versioned endpoint =>
      rcases hversion : endpoint.version? g.config values.version with _ | version
      · simp only [serveWith, ← hconfig, hversion]
      · simp only [serveWith, ← hconfig, hversion]
        exact hserve (.intro versioned found values hlimit hroute hmethod hvalues hversion)

/-! ## Requests that agree

What the layers look at is the same for two requests that agree, so each layer does the same to a
response. There is one lemma for each function of a layer, and `respond_congr` puts them together.
-/

/-- They declare the same length, so they are read under the same limit or both refused. -/
theorem bodyLimit?_congr (h : request.Agree other) : g.bodyLimit? request = g.bodyLimit? other := by
  rw [bodyLimit?, bodyLimit?, declaredLength?, declaredLength?,
    h.header "content-length" (by decide)]

/-- They have one path, so they are led to one route. -/
theorem route?_congr (h : request.Agree other) : g.route? request = g.route? other := by
  rw [route?, route?, h.path]

/-- They have one origin. -/
theorem withOrigin_congr (h : request.Agree other) : g.withOrigin request = g.withOrigin other := by
  funext response
  rw [withOrigin, withOrigin, h.header "origin" (by decide)]

/-- They carry one identifier, or neither carries any. -/
theorem withRequestId_congr (h : request.Agree other) :
    withRequestId request = withRequestId other := by
  funext response
  rw [withRequestId, withRequestId, h.header "x-request-id" (by decide)]

/-- They have one method, which the route serves or does not. -/
theorem withAllow_congr (h : request.Agree other) (route : Option Route) :
    withAllow route request = withAllow route other := by
  funext response
  simp only [withAllow, h.method]

/-- The body is dropped for both or for neither. -/
theorem withoutBody_congr (h : request.Agree other) (route : Option Route) :
    withoutBody route request = withoutBody route other := by
  funext response
  rw [withoutBody, withoutBody, isStray, isStray, h.method, h.path]

/-- Requests that agree get to the same endpoint. -/
theorem Reaches.congr {endpoint : Endpoint} {limit : Nat} {version : ApiVersion}
    {subject : String} (hagree : request.Agree other)
    (h : g.Reaches request endpoint limit version subject) :
    g.Reaches other endpoint limit version subject := by
  obtain ⟨versioned, found, values, hlimit, hroute, hserves, hvalues, hversion⟩ := h
  rw [bodyLimit?_congr hagree] at hlimit
  rw [route?_congr hagree] at hroute
  rw [hagree.method] at hserves
  exact .intro versioned found values hlimit hroute hserves hvalues hversion

/-- **Requests that agree are told apart by nothing but the endpoint.** For a refusal, a health
route or a path that leads nowhere nothing is left to be shown. -/
theorem respond_congr (h : request.Agree other)
    (hserve : ∀ {endpoint limit version subject},
      g.Reaches request endpoint limit version subject →
        g.serveEndpoint (some limit) version subject request endpoint =
          g.serveEndpoint (some limit) version subject other endpoint) :
    g.respond request = g.respond other := by
  simp only [respond, ← bodyLimit?_congr h, ← route?_congr h, ← withAllow_congr h,
    ← withoutBody_congr h]
  rcases hlimit : g.bodyLimit? request with _ | limit
  · rfl
  have hserves (route : Route) : route.serves request.method = route.serves other.method := by
    rw [h.method]
  have hhandle := handle_congr id hlimit rfl rfl rfl hserves hserve
  simp only [id_eq] at hhandle
  simp only [respondWithin, ← h.method, hhandle, withOrigin_congr h, withRequestId_congr h]

end Gateway

end ActionGateway
