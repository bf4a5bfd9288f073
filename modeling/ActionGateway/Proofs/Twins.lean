import ActionGateway.Proofs.Routing

/-!
# Paths without a version

A path may name a version in front of an endpoint or leave it out, and then the endpoint has one of
its own. Each way has its own row in the table of routes, and its own values. Here it is shown that
nothing else depends on it: without a version a path is served like its **twin**, the path with the
version that the endpoint has of its own (`Gateway.paths_have_twins`), whatever the request is and
whatever comes of it.

Two things are needed. A request is told from one for another path by nothing but what the table
finds (`Gateway.respond_withPath_of_twins`). And of what the table finds, the endpoint sees no more
than its version and the subject (`Gateway.serve_unversioned`, `Gateway.serve_versioned`).

A trace is a part of what is compared. So twins run the same action in the same context and on the
same payload, and do not only show the same.
-/

namespace ActionGateway

/-- The request for another path. -/
def Request.withPath (request : Request) (path : String) : Request :=
  { request with target := { request.target with path := path } }

namespace Gateway

variable {g : Gateway} {request : Request} {path other : String} {endpoint : Endpoint}
  {subject : String} {version : ApiVersion}

/-! ## What the path is for

The lemmas go from the inside out: an endpoint, a route, what comes before the layers, and the
layers. Each of them asks of the path less than the one before, until nothing is left but what the
table of routes finds, and whether the path begins at the root. -/

/-- An endpoint does not look at the path. -/
theorem serveEndpoint_withPath (g : Gateway) (limit : Option Nat) (version : ApiVersion)
    (subject : String) (request : Request) (path : String) (endpoint : Endpoint) :
    g.serveEndpoint limit version subject (request.withPath path) endpoint =
      g.serveEndpoint limit version subject request endpoint := by
  cases endpoint <;> rfl

/-- A route sees of the path what the parameters of its pattern take. -/
theorem serve_withPath (g : Gateway) (limit : Option Nat) (route : Route)
    (found : List (String × String)) (request : Request) (path : String) :
    g.serve limit route found (request.withPath path) = g.serve limit route found request := by
  rw [serve, serve]
  rcases route.values found with fault | values
  · rfl
  cases route with
  | health => rfl
  | alive => rfl
  | readiness => rfl
  | api versioned endpoint =>
    simp only [serveWith, serveEndpoint_withPath]

/-- What the table finds for two paths, where it makes no difference to a request: nothing, or one
endpoint that serves the request alike. Nothing is said of how the two paths look. -/
inductive Twins (g : Gateway) (request : Request) :
    Option (Route × List (String × String)) → Option (Route × List (String × String)) → Prop
  | nowhere : Twins g request none none
  | endpoint (endpoint : Endpoint) (versioned versioned' : Bool)
    (found found' : List (String × String))
    (h : ∀ limit, g.serve limit (.api versioned endpoint) found request =
      g.serve limit (.api versioned' endpoint) found' request) :
    Twins g request (some (.api versioned endpoint, found))
      (some (.api versioned' endpoint, found'))

/-- Where it makes no difference, the same methods are served, … -/
theorem Twins.withAllow_eq {found found' : Option (Route × List (String × String))}
    (h : g.Twins request found found') :
    withAllow (found.map Prod.fst) request = withAllow (found'.map Prod.fst) request := by
  cases h with
  | nowhere => rfl
  | endpoint endpoint versioned versioned' found found' h => cases endpoint <;> rfl

/-- … as many paths are stray, … -/
theorem Twins.isNone_eq {found found' : Option (Route × List (String × String))}
    (h : g.Twins request found found') : found.isNone = found'.isNone := by
  cases h with
  | nowhere => rfl
  | endpoint endpoint versioned versioned' found found' h => rfl

/-- … and the response before the layers is the same. -/
theorem Twins.handle_eq {found found' : Option (Route × List (String × String))}
    (h : g.Twins request found found') (limit : Option Nat) :
    g.handle limit request found = g.handle limit request found' := by
  cases h with
  | nowhere => rfl
  | endpoint endpoint versioned versioned' found found' h =>
    have hserves : (Route.api versioned endpoint).serves request.method =
        (Route.api versioned' endpoint).serves request.method := by
      cases endpoint <;> rfl
    rw [handle, handle, hserves, h limit]

/-- What comes before the layers depends on the path by what the table finds. -/
theorem handle_withPath (g : Gateway) (limit : Option Nat) (request : Request) (path : String)
    (found : Option (Route × List (String × String))) :
    g.handle limit (request.withPath path) found = g.handle limit request found := by
  cases found with
  | none => rfl
  | some found =>
    rw [handle, handle, serve_withPath]
    rfl

/-- Paths from the root keep the body or lose it alike. -/
theorem Twins.withoutBody_eq {found found' : Option (Route × List (String × String))}
    (h : g.Twins request found found') (hpath : path.toList.head? = some '/')
    (hother : other.toList.head? = some '/') :
    withoutBody (found.map Prod.fst) (request.withPath path) =
      withoutBody (found'.map Prod.fst) (request.withPath other) := by
  have hstray : isStray (found.map Prod.fst) (request.withPath path) =
      isStray (found'.map Prod.fst) (request.withPath other) := by
    simp only [isStray, Request.withPath, Option.isNone_map, h.isNone_eq, hpath, hother]
  funext response
  rw [withoutBody, withoutBody, hstray]
  rfl

/-- **Paths from the root are told apart by nothing but what the table finds.** That they start at
the root is needed for the body of a `HEAD` request, which is kept where such a path is stray. -/
theorem respond_withPath_of_twins (hpath : path.toList.head? = some '/')
    (hother : other.toList.head? = some '/')
    (h : g.Twins request (Route.find? g.config.basePath path)
      (Route.find? g.config.basePath other)) :
    g.respond (request.withPath path) = g.respond (request.withPath other) := by
  have hwithin (limit : Nat) :
      g.respondWithin limit (Route.find? g.config.basePath path) (request.withPath path) =
        g.respondWithin limit (Route.find? g.config.basePath other) (request.withPath other) := by
    rw [respondWithin, respondWithin, handle_withPath, handle_withPath, h.handle_eq]
    rfl
  have hlimit : g.bodyLimit? (request.withPath path) = g.bodyLimit? (request.withPath other) := rfl
  have hallow :
      withAllow ((Route.find? g.config.basePath path).map Prod.fst) (request.withPath path) =
        withAllow ((Route.find? g.config.basePath other).map Prod.fst) (request.withPath other) :=
    h.withAllow_eq
  have htarget (path : String) : (request.withPath path).target.path = path := rfl
  simp only [respond, route?, htarget, hlimit, hwithin, hallow, h.withoutBody_eq hpath hother]

/-! ## What an endpoint sees of the path

A row with a version gives its endpoint one value more than a row without. What the endpoint is
asked comes out the same: at which version, and for what subject. `Gateway.ask` is that question,
and both rows are shown to put it. -/

/-- The response of an endpoint at a version to what stands for the subject in a path. That must be
a text. -/
def ask (g : Gateway) (limit : Option Nat) (version : ApiVersion) (endpoint : Endpoint)
    (subject : String) (request : Request) : Traced Response :=
  match Route.decodeAll (endpoint.given subject) with
  | .error fault => .pure (.plain fault.status fault.message)
  | .ok texts => g.serveEndpoint limit version (texts.getLastD "") request endpoint

/-- **Without a version an endpoint is asked at its own.** What the path gives for the subject need
not be text, and then this is what both sides answer. -/
theorem serve_unversioned (g : Gateway) (limit : Option Nat) (endpoint : Endpoint)
    (subject : String) (request : Request) :
    g.serve limit (.api false endpoint) (endpoint.given subject) request =
      g.ask limit (endpoint.ownVersion g.config) endpoint subject request := by
  have hlength :
      (endpoint.given subject).length = (Route.api false endpoint).parameters.length := by
    cases endpoint <;> rfl
  cases endpoint with
  | root => rfl
  | autocomplete route => rfl
  | action =>
    rw [serve, Route.values_eq (by decide) hlength, ask]
    rcases Route.decodeAll (Endpoint.given subject .action) with fault | texts <;> rfl
  | translations =>
    rw [serve, Route.values_eq (by decide) hlength, ask]
    rcases Route.decodeAll (Endpoint.given subject .translations) with fault | texts <;> rfl

/-- **At a version that it has, an endpoint is asked at that version.** The version is read from the
text that it is written as, which cannot go wrong. -/
theorem serve_versioned (limit : Option Nat) (hleast : endpoint.leastVersion ≤ version.number)
    (hgreatest : version.number ≤ endpoint.greatestVersion g.config) :
    g.serve limit (.api true endpoint) (("ver", version.text) :: endpoint.given subject) request =
      g.ask limit version endpoint subject request := by
  have hdecode : Route.decodeAll (("ver", version.text) :: endpoint.given subject) =
      (Route.decodeAll (endpoint.given subject)).map (version.text :: ·) :=
    Route.decodeAll_cons (ApiVersion.not_mem_text (by decide) version) _ _
  have hparameters : (Route.api true endpoint).parameters ≠ [] :=
    List.cons_ne_nil "ver" endpoint.parameter?.toList
  have hlength : (("ver", version.text) :: endpoint.given subject).length =
      (Route.api true endpoint).parameters.length := by cases endpoint <;> rfl
  have hver : (Route.api true endpoint).parameters.contains "ver" = true := by
    cases endpoint <;> rfl
  rw [serve, Route.values_eq hparameters hlength, hdecode, ask]
  -- the subject may be no text; then the fault is the same in either row
  rcases htexts : Route.decodeAll (endpoint.given subject) with fault | texts
  · rfl
  have hversion : endpoint.version? g.config (some version.text) = some version :=
    ApiVersion.parseWithin_text hleast hgreatest
  simp only [Except.map, hver, if_true, List.head?_cons, serveWith, hversion]
  -- without a text for a subject the version is the last one, and then none is looked at
  cases endpoint with
  | root => rfl
  | autocomplete route => rfl
  | action | translations =>
    obtain ⟨text, rfl⟩ := List.length_eq_one_iff.mp (Route.length_of_decodeAll htexts)
    rfl

/-! ## Twins

For each endpoint there is a path without a version and one with it. Where they lead is known from
`Route.find?_unversioned` and `Route.find?_versioned`, and that the endpoint is asked the same at
both is a matter of its own version. -/

/-- For a request it makes no difference which of two paths below the API it is for: it runs the
same, with the same contexts and payloads, and gets the same response. -/
def SameAt (g : Gateway) (request : Request) (path other : String) : Prop :=
  g.respond (request.withPath (g.config.basePath ++ path)) =
    g.respond (request.withPath (g.config.basePath ++ other))

/-- Paths of segments are the same to a request where the table finds twins. -/
theorem sameAt_of_twins (hbase : PlainPath g.config.basePath) {first first' : String}
    {rest rest' : List String} (hpath : path.toList = pathOf (first :: rest))
    (hother : other.toList = pathOf (first' :: rest'))
    (h : g.Twins request
      (Route.find? g.config.basePath (Route.below g.config.basePath (first :: rest)))
      (Route.find? g.config.basePath (Route.below g.config.basePath (first' :: rest')))) :
    g.SameAt request path other := by
  obtain rfl : path = String.ofList (pathOf (first :: rest)) := by
    rw [← hpath, String.ofList_toList]
  obtain rfl : other = String.ofList (pathOf (first' :: rest')) := by
    rw [← hother, String.ofList_toList]
  exact respond_withPath_of_twins (Route.head?_below hbase first rest)
    (Route.head?_below hbase first' rest') h

/-- **An endpoint is the same to a request without a version and at one that it has**, if that is
its own or makes no difference to it. -/
theorem sameAt_of_endpoint (hbase : PlainPath g.config.basePath)
    (hendpoint : endpoint ∈ Endpoint.belowRoot) (hsubject : '/' ∉ subject.toList)
    (hleast : endpoint.leastVersion ≤ version.number)
    (hgreatest : version.number ≤ endpoint.greatestVersion g.config)
    (hsame : ∀ limit, g.ask limit (endpoint.ownVersion g.config) endpoint subject request =
      g.ask limit version endpoint subject request) :
    g.SameAt request (endpoint.pathText subject)
      ("/" ++ version.text ++ endpoint.pathText subject) := by
  have hpath := Endpoint.toList_pathText hendpoint subject
  have hother : ("/" ++ version.text ++ endpoint.pathText subject).toList =
      pathOf (version.text :: endpoint.path subject) := by
    rw [String.toList_append, String.toList_append, hpath]
    rfl
  obtain ⟨first, -, hfirst⟩ := Endpoint.path_cons hendpoint subject
  rw [hfirst] at hpath
  refine sameAt_of_twins hbase hpath hother ?_
  rw [← hfirst, Route.find?_unversioned hbase hendpoint hsubject,
    Route.find?_versioned hbase (List.mem_cons_of_mem _ hendpoint) hsubject]
  -- a subject that is empty leads nowhere, with a version or without
  split
  next => exact .nowhere
  next =>
    refine .endpoint endpoint false true _ _ fun limit => ?_
    rw [serve_unversioned, serve_versioned limit hleast hgreatest, hsame]

/-- The root is the same to a request after a slash and at its own version. -/
theorem sameAt_root (hbase : PlainPath g.config.basePath) (request : Request) :
    g.SameAt request "/" ("/" ++ ApiVersion.v1.text) := by
  have hother : ("/" ++ ApiVersion.v1.text).toList = pathOf [ApiVersion.v1.text] := by
    rw [String.toList_append, pathOf, List.flatMap_singleton]
    rfl
  have hslash : "/".toList = pathOf [""] := rfl
  refine sameAt_of_twins hbase hslash hother ?_
  have hunversioned : Route.find? g.config.basePath (Route.below g.config.basePath [""]) =
      some (.api false .root, Endpoint.given "" .root) := Route.find?_root hbase
  have hroot : Endpoint.root ∈ .root :: Endpoint.belowRoot := List.mem_cons_self
  have hempty : '/' ∉ "".toList := by decide
  have hversioned :
      Route.find? g.config.basePath (Route.below g.config.basePath [ApiVersion.v1.text]) =
        some (.api true .root, ("ver", ApiVersion.v1.text) :: Endpoint.given "" .root) :=
    Route.find?_versioned hbase hroot hempty .v1
  rw [hunversioned, hversioned]
  refine .endpoint .root false true _ _ fun limit => ?_
  have hleast : Endpoint.leastVersion .root ≤ ApiVersion.v1.number := Nat.le_refl 1
  have hgreatest : ApiVersion.v1.number ≤ Endpoint.greatestVersion g.config .root :=
    g.config.maxVersion.one_le
  rw [serve_unversioned, serve_versioned limit hleast hgreatest]
  rfl

/-- The paths without a version, each with its twins: those of actions at the default version, those
for completions at version 1, those of translations at the two versions that they have, and the root
at version 1. -/
structure PathsHaveTwins (g : Gateway) (request : Request) : Prop where
  action : ∀ name : String, '/' ∉ name.toList →
    g.SameAt request ("/action/" ++ name)
      ("/" ++ g.config.defaultVersion.text ++ "/action/" ++ name)
  completions : ∀ route ∈ Autocomplete.routes,
    g.SameAt request ("/util/" ++ route.pathText) ("/1/util/" ++ route.pathText)
  translations : ∀ locale : String, '/' ∉ locale.toList →
    g.SameAt request ("/i18n/" ++ locale) ("/1/i18n/" ++ locale) ∧
      g.SameAt request ("/i18n/" ++ locale) ("/2/i18n/" ++ locale)
  root : g.SameAt request "/" "/1"

/-- **A path without a version is served like its twins.** Whatever the method, the query, the
headers and the body, and whatever actions there are, it is the same to a request whether it is for
one path or for the other: it runs the same and gets the same response. -/
theorem paths_have_twins (hbase : PlainPath g.config.basePath)
    (hleast : 3 ≤ g.config.defaultVersion.number)
    (hgreatest : g.config.defaultVersion.number ≤ g.config.maxVersion.number) (request : Request) :
    g.PathsHaveTwins request := by
  have hempty : '/' ∉ "".toList := by decide
  constructor
  case action =>
    intro name hname
    have hsame : g.SameAt request (Endpoint.pathText name .action)
        ("/" ++ g.config.defaultVersion.text ++ Endpoint.pathText name .action) :=
      sameAt_of_endpoint hbase (by decide) hname hleast hgreatest fun _ => rfl
    rw [String.append_assoc]
    exact hsame
  case completions =>
    intro route hroute
    have hendpoint : .autocomplete route ∈ Endpoint.belowRoot :=
      List.mem_append_right _ (List.mem_map_of_mem hroute)
    have hsame : g.SameAt request (Endpoint.pathText "" (.autocomplete route))
        ("/" ++ ApiVersion.v1.text ++ Endpoint.pathText "" (.autocomplete route)) :=
      sameAt_of_endpoint hbase hendpoint hempty (Nat.le_refl 1) (Nat.le_succ 1) fun _ => rfl
    have hfirst : "/1/util/" = "/" ++ ApiVersion.v1.text ++ "/util/" := by decide +kernel
    rw [hfirst, String.append_assoc]
    exact hsame
  case translations =>
    intro locale hlocale
    have hendpoint : .translations ∈ Endpoint.belowRoot := by decide
    have hsame (version : ApiVersion) (hgreatest : version.number ≤ 2) :
        g.SameAt request (Endpoint.pathText locale .translations)
          ("/" ++ version.text ++ Endpoint.pathText locale .translations) :=
      sameAt_of_endpoint hbase hendpoint hlocale version.one_le hgreatest fun _ => rfl
    have hfirst : "/1/i18n/" = "/" ++ ApiVersion.v1.text ++ "/i18n/" := by decide +kernel
    have hsecond : "/2/i18n/" = "/" ++ ApiVersion.v2.text ++ "/i18n/" := by decide +kernel
    rw [hfirst, hsecond, String.append_assoc, String.append_assoc]
    exact ⟨hsame .v1 (Nat.le_succ 1), hsame .v2 (Nat.le_refl 2)⟩
  case root =>
    have hfirst : "/1" = "/" ++ ApiVersion.v1.text := by decide +kernel
    rw [hfirst]
    exact sameAt_root hbase request

/-- A site with another default version, and a request for a script. -/
theorem paths_have_twins_script :
    let config : SiteConfig :=
      { SiteConfig.default with
        apiPrefix := "/my/api/"
        defaultVersion := ⟨4, by decide, by decide⟩
        maxVersion := ⟨7, by decide, by decide⟩ }
    let g : Gateway := .offering ⟨Registry.registerBuiltins .empty config, config⟩ .empty
    let request : Request := ⟨.get, ⟨"/", some "callback=show"⟩, [], []⟩
    g.PathsHaveTwins request ∧
      g.respond (request.withPath "/my/api/action/help_show") =
        g.respond (request.withPath "/my/api/4/action/help_show") := by
  intro config g request
  have hbase : PlainPath g.config.basePath := by
    refine ⟨["my", "api"], ?_, by decide +kernel⟩
    simp [PlainSegment]
  have htwins : g.PathsHaveTwins request :=
    paths_have_twins hbase (show 3 ≤ 4 by decide) (show 4 ≤ 7 by decide) request
  have hpath : "/my/api/action/help_show" = g.config.basePath ++ ("/action/" ++ "help_show") := by
    decide +kernel
  have hother : "/my/api/4/action/help_show" =
      g.config.basePath ++ ("/" ++ g.config.defaultVersion.text ++ "/action/" ++ "help_show") := by
    decide +kernel
  refine ⟨htwins, ?_⟩
  rw [hpath, hother]
  exact htwins.action "help_show" (by decide)

end Gateway

end ActionGateway
