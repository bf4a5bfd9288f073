import ActionGateway.Proofs.BodyLimit
import ActionGateway.Proofs.Locations

/-!
# Which origins are allowed

A page of another origin may use a response only if the response says that its origin is allowed.
Nothing behind the layers says so (`Gateway.hasTypeOnly_handle`), and of the layers there is one
that does, around every route and every other response but the refusal of a body that is declared
too long. So what a response says is what the configuration allows
(`Gateway.all_allowOrigin_respond`), whatever the route, the method and the status.

`Gateway.OriginContract` tells what that is: any origin if the configuration lists `*`, and
otherwise that of the request, if it is listed **byte for byte** and can stand in a header. The main
result is `Gateway.originContract`.

What the layer reads of a request is one header, and what it writes is one header. So the contract
is about the values of these two, and about the list of the configuration.
-/

namespace ActionGateway

/-! ## Headers that are added

The layers put headers into a response if they are not there. A header of another name is not
touched by that, so that each layer can be asked for the one header that matters here. -/

/-- A name that is given a value if it has none leaves the values of other names as they are. -/
theorem Headers.all_setIfAbsent_ne {name other : String} (h : other ≠ name) (headers : Headers)
    (value : Bytes) : (headers.setIfAbsent name value).all other = headers.all other := by
  rw [setIfAbsent]
  split
  · rfl
  · rw [all, all, List.filter_append]
    simp [Ne.symm h]

/-- A response has no header but the content type. -/
def Response.HasTypeOnly (response : Response) : Prop :=
  ∀ name, name ≠ "content-type" → response.headers.all name = []

/-- What is framed has its kind in the headers, and nothing besides. -/
theorem Framing.hasTypeOnly_frame (framing : Framing) (status : Nat) (body : Option ResponseBody)
    (kind : ContentKind) : (framing.frame status body kind []).HasTypeOnly :=
  fun _ hname => all_frame hname framing status body kind []

/-- So has a plain text. -/
theorem Response.hasTypeOnly_plain (status : Nat) (body : String) :
    (Response.plain status body).HasTypeOnly := by
  intro name hname
  simp [plain, Headers.all, Ne.symm hname]

/-- A response without a body has not even that. -/
theorem Response.hasTypeOnly_empty (status : Nat) : (Response.empty status).HasTypeOnly :=
  fun _ _ => rfl

/-! ## What is configured

The entries of the configuration are texts, and the origin of a request is a list of bytes. An entry
that cannot stand in a header is left out before they are compared; the others are compared as their
bytes are, without regard to case, slashes or ports. -/

namespace NetworkConfig

variable {config : NetworkConfig} {origin value : Bytes}

/-- The configuration lists an origin: one of its entries can stand in a header, and has the same
bytes. -/
def Lists (config : NetworkConfig) (origin : Bytes) : Prop :=
  ∃ entry ∈ config.corsOrigins,
    (∀ b ∈ Utf8.encode entry, ¬ HeaderValue.IsControl b) ∧ Utf8.encode entry = origin

/-- The origins that are compared are those that the configuration lists. -/
theorem mem_listedOrigins_iff : origin ∈ config.listedOrigins ↔ config.Lists origin := by
  simp only [listedOrigins, List.mem_filterMap, HeaderValue.ofString?_eq_some_iff, Lists,
    @eq_comm _ origin]

/-- With a wildcard everything is allowed, also to a request that names no origin. -/
theorem allowedOrigin?_of_mem (h : "*" ∈ config.corsOrigins) (origin : Option Bytes) :
    config.allowedOrigin? origin = some (Utf8.encode "*") := by
  unfold allowedOrigin?
  rw [if_pos (List.contains_iff_mem.mpr h)]

/-- **Without a wildcard the origin of the request is allowed if it is listed**, and no other.
Origins are compared byte by byte. -/
theorem allowedOrigin?_eq_some_iff (h : "*" ∉ config.corsOrigins) {origin : Option Bytes} :
    config.allowedOrigin? origin = some value ↔ origin = some value ∧ config.Lists value := by
  unfold allowedOrigin?
  rw [if_neg (mt List.contains_iff_mem.mp h)]
  rcases origin with _ | origin
  · simp
  · simp only [List.contains_iff_mem, mem_listedOrigins_iff, Option.ite_none_right_eq_some,
      Option.some.injEq]
    constructor
    · rintro ⟨hlists, rfl⟩
      exact ⟨rfl, hlists⟩
    · rintro ⟨rfl, hlists⟩
      exact ⟨hlists, rfl⟩

/-- The wildcard itself can stand in a header, so it is no entry of the kind that is left out. -/
theorem not_isControl_wildcard : ∀ b ∈ Utf8.encode "*", ¬ HeaderValue.IsControl b :=
  HeaderValue.all_isAllowed_iff.mp (by decide)

/-- An entry that cannot stand in a header allows nothing, and keeps no other one from it. -/
theorem allowedOrigin?_congr {other : NetworkConfig} {before after : List String} {entry : String}
    (hlist : config.corsOrigins = before ++ entry :: after)
    (hothers : other.corsOrigins = before ++ after)
    (hentry : ∃ b ∈ Utf8.encode entry, HeaderValue.IsControl b) (origin : Option Bytes) :
    other.allowedOrigin? origin = config.allowedOrigin? origin := by
  have hne : "*" ≠ entry := by
    rintro rfl
    obtain ⟨b, hb, hcontrol⟩ := hentry
    exact not_isControl_wildcard b hb hcontrol
  have hwildcard : other.corsOrigins.contains "*" = config.corsOrigins.contains "*" := by
    simp [hlist, hothers, hne]
  have hlisted : other.listedOrigins = config.listedOrigins := by
    simp only [listedOrigins, hlist, hothers, List.filterMap_append, List.filterMap_cons,
      HeaderValue.ofString?_eq_none_iff.mpr hentry]
  unfold allowedOrigin?
  rw [hwildcard, hlisted]

end NetworkConfig

namespace Gateway

variable {g : Gateway} {request : Request}

/-! ## Behind the layers

Whatever a request gets to, its response is framed, a plain text, or empty. The cases are those of
the routes and, for the API, of the endpoints. -/

/-- Endpoints frame what they answer, with no headers of their own. -/
theorem hasTypeOnly_serveEndpoint (g : Gateway) (limit : Option Nat) (version : ApiVersion)
    (subject : String) (request : Request) (endpoint : Endpoint) :
    (g.serveEndpoint limit version subject request endpoint).value.HasTypeOnly := by
  cases endpoint with
  | root => exact Framing.hasTypeOnly_frame _ _ _ _
  | action => exact Framing.hasTypeOnly_frame _ _ _ _
  | translations =>
    simp only [serveEndpoint, Traced.value_pure, Translations.respond]
    split
    · split <;> exact Framing.hasTypeOnly_frame _ _ _ _
    · exact Framing.hasTypeOnly_frame _ _ _ _
  | autocomplete route =>
    simp only [serveEndpoint, Autocomplete.respond]
    split
    · exact Framing.hasTypeOnly_frame _ _ _ _
    · rw [Traced.value_map]
      unfold Autocomplete.frameResult
      split <;> exact Framing.hasTypeOnly_frame _ _ _ _

/-- **Behind the layers a response has no header but the content type.** So whatever a response says
of origins was said by the layer for them. -/
theorem hasTypeOnly_handle (g : Gateway) (limit : Option Nat) (request : Request)
    (found : Option (Route × List (String × String))) :
    (g.handle limit request found).value.HasTypeOnly := by
  rcases found with _ | ⟨route, found⟩
  · exact Response.hasTypeOnly_empty 404
  rw [handle]
  split
  case isFalse => exact Response.hasTypeOnly_empty 405
  case isTrue =>
    rw [serve]
    split
    next fault _ => exact Response.hasTypeOnly_plain fault.status fault.message
    next values _ =>
      cases route with
      | health =>
        intro name hname
        simp [serveWith, Headers.all, Ne.symm hname]
      | alive => exact Response.hasTypeOnly_empty 200
      | readiness => exact Response.hasTypeOnly_empty _
      | api versioned endpoint =>
        simp only [serveWith]
        split
        · exact Response.hasTypeOnly_empty 404
        · exact g.hasTypeOnly_serveEndpoint _ _ _ _ _

/-! ## The layers

Of the layers around a route two write headers of other names, and one leaves the body out, so the
origins are a matter of the one that is left. The refusal of a body that is declared too long is
made outside of it. -/

/-- The identifier of a request is another header. -/
theorem all_withRequestId {name : String} (h : name ≠ "x-request-id") (request : Request)
    (response : Response) :
    (withRequestId request response).headers.all name = response.headers.all name := by
  rw [withRequestId]
  split
  · rfl
  · exact Headers.all_setIfAbsent_ne h _ _

/-- So is the list of methods. -/
theorem all_withAllow {name : String} (h : name ≠ "allow") (route : Option Route)
    (request : Request) (response : Response) :
    (withAllow route request response).headers.all name = response.headers.all name := by
  cases route with
  | none => rfl
  | some route =>
    rw [withAllow]
    split
    · rfl
    · exact Headers.all_setIfAbsent_ne h _ _

/-- The layer that speaks of origins says what the configuration allows. -/
theorem all_withOrigin {response : Response}
    (h : response.headers.all "access-control-allow-origin" = []) :
    (g.withOrigin request response).headers.all "access-control-allow-origin" =
      (g.network.allowedOrigin? (request.headers.first? "origin")).toList := by
  rw [withOrigin]
  split
  next hnone => rw [hnone, h, Option.toList_none]
  next origin hsome => rw [hsome, Headers.all_set_self, Option.toList_some]

/-- **A response says of origins what the configuration allows**, unless it is a refusal. The header
is there once or not at all: the layers around it set other ones. -/
theorem all_allowOrigin_respond {limit : Nat} (h : g.bodyLimit? request = some limit) :
    (g.respond request).value.headers.all "access-control-allow-origin" =
      (g.network.allowedOrigin? (request.headers.first? "origin")).toList := by
  simp only [respond, h, Traced.value_map]
  rw [headers_withoutBody, all_withAllow (by decide), respondWithin]
  split
  · exact all_withOrigin rfl
  · rw [Traced.value_map]
    refine all_withOrigin ?_
    rw [all_withRequestId (by decide)]
    exact g.hasTypeOnly_handle _ _ _ _ (by decide)

/-- The refusal says nothing of origins. -/
theorem all_allowOrigin_refusal (h : g.bodyLimit? request = none) :
    (g.respond request).value.headers.all "access-control-allow-origin" = [] := by
  simp only [respond, h, Traced.value_map, Traced.value_pure]
  rw [headers_withoutBody, all_withAllow (by decide)]
  rfl

/-! ## The contract -/

/-- The gateway with other origins listed. -/
def withOrigins (g : Gateway) (origins : List String) : Gateway :=
  { g with network := { g.network with corsOrigins := origins } }

/-- A body is declared within the limit, or not at all. -/
def DeclaresWithin (g : Gateway) (request : Request) : Prop :=
  ∀ length, declaredLength? request = some length → length ≤ g.network.maxBodyBytes

/-- What the response to a request says of origins. The first three fields are the cases of the
configuration, and say all the values of the header; so it is never given twice. The fourth is about
the one response that is made outside of the layer, and the last one compares two gateways that
differ in one entry of their lists. -/
structure OriginContract (g : Gateway) (request : Request) : Prop where
  /-- if the configuration lists `*`, any origin is allowed -/
  of_wildcard : g.DeclaresWithin request → "*" ∈ g.network.corsOrigins →
    (g.respond request).value.headers.all "access-control-allow-origin" = [Utf8.encode "*"]
  /-- otherwise the first origin that the request names is, if it is listed -/
  of_listed : g.DeclaresWithin request → "*" ∉ g.network.corsOrigins →
    ∀ origin, request.headers.first? "origin" = some origin → g.network.Lists origin →
      (g.respond request).value.headers.all "access-control-allow-origin" = [origin]
  /-- and no other -/
  of_not_listed : "*" ∉ g.network.corsOrigins →
    (¬ ∃ origin, request.headers.first? "origin" = some origin ∧ g.network.Lists origin) →
      (g.respond request).value.headers.all "access-control-allow-origin" = []
  /-- a request that is refused for the length that it declares is told nothing -/
  of_refused : ¬ g.DeclaresWithin request →
    (g.respond request).value.headers.all "access-control-allow-origin" = []
  /-- an entry that cannot stand in a header might as well not be listed -/
  of_unusable : ∀ before entry after, g.network.corsOrigins = before ++ entry :: after →
    (∃ b ∈ Utf8.encode entry, HeaderValue.IsControl b) →
      (g.withOrigins (before ++ after)).respond request = g.respond request

/-- A request declares its body within the limit exactly if there is a limit for it to be read by.
-/
theorem declaresWithin_iff : g.DeclaresWithin request ↔ g.bodyLimit? request ≠ none := by
  rw [ne_eq, bodyLimit?_eq_none_iff, DeclaresWithin]
  simp only [not_exists, not_and, Nat.not_lt]

/-- **A response allows the origins that are configured, and no more**: for every gateway and every
request, whatever the route, the method and the status are. -/
theorem originContract (g : Gateway) (request : Request) : g.OriginContract request := by
  -- what the header says in either case, from which the fields are read
  have hwithin (h : g.DeclaresWithin request) :
      (g.respond request).value.headers.all "access-control-allow-origin" =
        (g.network.allowedOrigin? (request.headers.first? "origin")).toList := by
    obtain ⟨limit, hlimit⟩ := Option.ne_none_iff_exists'.mp (declaresWithin_iff.mp h)
    exact all_allowOrigin_respond hlimit
  have hrefused (h : ¬ g.DeclaresWithin request) :
      (g.respond request).value.headers.all "access-control-allow-origin" = [] :=
    all_allowOrigin_refusal (Classical.not_not.mp (mt declaresWithin_iff.mpr h))
  constructor
  case of_wildcard =>
    intro h hmem
    rw [hwithin h, NetworkConfig.allowedOrigin?_of_mem hmem, Option.toList_some]
  case of_listed =>
    intro h hmem origin horigin hlists
    rw [hwithin h, (NetworkConfig.allowedOrigin?_eq_some_iff hmem).mpr ⟨horigin, hlists⟩,
      Option.toList_some]
  case of_not_listed =>
    intro hmem hnot
    by_cases h : g.DeclaresWithin request
    · have hnone : g.network.allowedOrigin? (request.headers.first? "origin") = none := by
        rw [Option.eq_none_iff_forall_ne_some]
        exact fun origin horigin =>
          hnot ⟨origin, (NetworkConfig.allowedOrigin?_eq_some_iff hmem).mp horigin⟩
      rw [hwithin h, hnone, Option.toList_none]
    · exact hrefused h
  case of_refused => exact hrefused
  case of_unusable =>
    intro before entry after hlist hentry
    have horigin : (g.withOrigins (before ++ after)).withOrigin request = g.withOrigin request := by
      funext response
      rw [withOrigin, withOrigin, NetworkConfig.allowedOrigin?_congr hlist rfl hentry]
    have hlimit : (g.withOrigins (before ++ after)).bodyLimit? request = g.bodyLimit? request := rfl
    simp only [respond, respondWithin, horigin, hlimit]
    rfl

end Gateway

end ActionGateway
