import ActionGateway.Identity.Tokens
import ActionGateway.Lifecycle
import ActionGateway.Network.Config
import ActionGateway.Network.Route
import ActionGateway.Translations

/-!
# The gateway

How a request is answered. Around every route, and around the answer to paths that lead nowhere, lie
the same layers, from the outside in:

* a body that declares itself longer than the limit is refused, and any other is read under it;
* a request for the options of a path is answered at once, and every response says whether the
  origin of its request is allowed;
* the identifier that a request carries is copied onto its response.

A method that the route does not serve is answered by the list of those that it does. A `HEAD`
request is answered like a `GET` request, but for the body; where a path from the root leads nowhere
the body stays, and there it is empty but for that of the refusal.

Some things that the layers do besides are **left out**:

* a request without an identifier is given a random one; here it is left without;
* the body of a response is compressed where the request takes that; here it stays as it is;
* a request that takes longer than `NetworkConfig.requestTimeout` is given up and answered by 408;
  here time does not pass while a request is answered;
* responses name in `vary` the headers of the request that they depend on; here they do not;
* requests and responses are written to a log; here there is none.

None of these looks at a payload, at who calls or at an action, and what a request runs is not a
matter of any of them, as long as it is not given up.
-/

namespace ActionGateway

/-- What the answers to requests depend on. A gateway does not change while it answers one: what it
reads of the lifecycle and of the clock is what they are at that time. -/
structure Gateway where
  service : Service
  tokens : Tokens
  network : NetworkConfig
  /-- the directory that paths of files start from -/
  files : Place
  lifecycle : Lifecycle
  /-- for how many seconds the process has been running -/
  uptime : Nat

namespace Gateway

/-- The site that the actions run for. -/
def config (g : Gateway) : SiteConfig :=
  g.service.config

/-! ## Routes

What a route answers, as if there were no layers around it. What its pattern takes of the path is
decoded first; then a version that the endpoint does not have makes the path lead nowhere. -/

/-- How the server is, as JSON. -/
def healthJson (g : Gateway) : Json :=
  .object
    [("state", .str g.lifecycle.health.text), ("actions", .ofNat g.service.registry.size),
     ("in_flight", .ofNat g.lifecycle.inFlight.toNat), ("uptime_secs", .ofNat g.uptime)]

/-- The framing that a request asks for. -/
def framing (request : Request) : Framing :=
  .ofQuery request.method request.target.query

/-- The response of an endpoint at a version; `subject` names the action or the locale. -/
def serveEndpoint (g : Gateway) (limit : Option Nat) (version : ApiVersion) (subject : String)
    (request : Request) : Endpoint → Traced Response
  | .root =>
    .pure ((framing request).ok (.json (.obj [("version", .ofNat version.number)])) .json)
  | .action =>
    g.service.respond limit subject version (g.tokens.resolve request.headers) request
  | .translations => .pure (Translations.respond g.files g.config subject (framing request))
  | .autocomplete route =>
    route.respond g.service version (g.tokens.resolve request.headers) request

/-- The response of a route whose parameters have values. -/
def serveWith (g : Gateway) (limit : Option Nat) (values : Route.Values) (request : Request) :
    Route → Traced Response
  | .health =>
    .pure ⟨200, [("content-type", Utf8.encode "application/json")], g.healthJson.text⟩
  | .alive => .pure (.empty 200)
  | .readiness => .pure (.empty (if g.lifecycle.health = .ready then 200 else 503))
  | .api _ endpoint =>
    match endpoint.version? g.config values.version with
    | none => .pure (.empty 404)
    | some version => g.serveEndpoint limit version values.subject request endpoint

/-- The response of a route; `found` is what the parameters of its pattern take of the path. -/
def serve (g : Gateway) (limit : Option Nat) (route : Route) (found : List (String × String))
    (request : Request) : Traced Response :=
  match route.values found with
  | .error fault => .pure (.plain fault.status fault.message)
  | .ok values => g.serveWith limit values request route

/-- The response to a request, before the layers have their say. -/
def handle (g : Gateway) (limit : Option Nat) (request : Request) :
    Option (Route × List (String × String)) → Traced Response
  | none => .pure (.empty 404)
  | some (route, found) =>
    if route.serves request.method then g.serve limit route found request else .pure (.empty 405)

/-! ## Layers

Each layer is a function from responses to responses, or stands between the request and the route.
`respond` puts them together; the order matters where two of them touch one header or the body. -/

/-- The greatest length that can be declared, the greatest number of 64 bits. -/
def maxDeclaredLength : Nat :=
  18446744073709551615

/-- The length that a request declares for its body. -/
def declaredLength? (request : Request) : Option Nat :=
  ((request.headers.first? "content-length").bind HeaderValue.text?).bind
    (Decimal.numeral? maxDeclaredLength)

/-- The response to a body that declares itself too long. -/
def tooLong : Response :=
  .plain 413 "length limit exceeded"

/-- The limit under which a body is read, unless it declares itself longer than the gateway
allows. -/
def bodyLimit? (g : Gateway) (request : Request) : Option Nat :=
  match declaredLength? request with
  | none => some g.network.maxBodyBytes
  | some length => if length ≤ g.network.maxBodyBytes then some length else none

/-- The response with what it says about the origin of its request. -/
def withOrigin (g : Gateway) (request : Request) (response : Response) : Response :=
  match g.network.allowedOrigin? (request.headers.first? "origin") with
  | none => response
  | some origin =>
    { response with headers := response.headers.set "access-control-allow-origin" origin }

/-- The response to a request for the options of a path. -/
def options : Response :=
  ⟨200,
    [("access-control-allow-methods", Utf8.encode "GET,POST"),
     ("access-control-allow-headers", Utf8.encode "*")], ""⟩

/-- The response with the identifier that its request carries. -/
def withRequestId (request : Request) (response : Response) : Response :=
  match request.headers.first? "x-request-id" with
  | none => response
  | some id => { response with headers := response.headers.setIfAbsent "x-request-id" id }

/-- The response with the methods that its route serves, if that of the request is none of them. -/
def withAllow (route : Option Route) (request : Request) (response : Response) : Response :=
  match route with
  | none => response
  | some route =>
    if route.serves request.method then response
    else { response with headers := response.headers.setIfAbsent "allow" (Utf8.encode route.allow) }

/-- Whether the path of a request starts at the root and leads to no route. Only such a path keeps
the body of the answer to a `HEAD` request. -/
def isStray (route : Option Route) (request : Request) : Bool :=
  route.isNone && request.target.path.toList.head? = some '/'

/-- The response without its body, if only the head was asked for and the path is not stray. -/
def withoutBody (route : Option Route) (request : Request) (response : Response) : Response :=
  if request.method = .head && !isStray route request then { response with body := "" }
  else response

/-- The response to a request that is not refused for its length. -/
def respondWithin (g : Gateway) (limit : Nat) (found : Option (Route × List (String × String)))
    (request : Request) : Traced Response :=
  if request.method = .options then .pure (g.withOrigin request options)
  else
    (g.handle (some limit) request found).map fun response =>
      g.withOrigin request (withRequestId request response)

/-- The route of a request, and what the parameters of its pattern take of the path. -/
def route? (g : Gateway) (request : Request) : Option (Route × List (String × String)) :=
  Route.find? g.config.basePath request.target.path

/-- The response to a request. -/
def respond (g : Gateway) (request : Request) : Traced Response :=
  let found := g.route? request
  let route := found.map Prod.fst
  let response : Traced Response :=
    -- The declared length is looked at before the route, but the list of methods and the removal of
    -- the body lie outside of that: a refused `HEAD` request loses its body too, unless its path is
    -- stray.
    match g.bodyLimit? request with
    | none => .pure tooLong
    | some limit => g.respondWithin limit found request
  response.map fun response => withoutBody route request (withAllow route request response)

end Gateway

end ActionGateway
