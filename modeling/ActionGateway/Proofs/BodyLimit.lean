import ActionGateway.Proofs.EnvelopeContract
import ActionGateway.Proofs.Responses
import ActionGateway.Proofs.Updates

/-!
# The limit on bodies is exact

A body can pass the limit in two ways. The length that it **declares** is looked at before anything
else, and the chunks in which it arrives are counted while they are read. An honest declaration
becomes the limit of the reading, so the two do not get into each other's way. It is shown here that
together they draw one line, between the bodies of at most so many bytes as are configured and the
longer ones, wherever the chunks end:

* reading under a limit gives all bytes or nothing (`readChunks_eq`), so that to every request it
  makes no difference how its body is cut (`Gateway.respond_withChunks`);
* a body that keeps to the limit is served as if there were none (`Gateway.respond_of_within`);
* for a longer one nothing runs, and the request is refused (`Gateway.respond_of_declared_beyond`,
  `Gateway.respond_of_undeclared_beyond`).

The main result is `Gateway.body_limit_is_exact`.
-/

namespace ActionGateway

/-! ## Chunks

The reader keeps the chunks that it has read in reverse, and counts down how much room is left. The
count is the invariant: what has been read and the room that is left add up to the limit, so that
the chunk with which the limit is passed is the first one for which there is no room. Where the
chunks end does not enter into it. -/

/-- Joining puts the chunks, which are listed in reverse, in front of what there is. -/
theorem joinChunks_eq (after : Bytes) (chunks : List Bytes) :
    joinChunks after chunks = chunks.reverse.flatten ++ after := by
  induction chunks generalizing after with
  | nil => rfl
  | cons chunk earlier ih =>
    -- the last chunk is taken as it is, which saves a copy and changes nothing
    have hfront : (if after.isEmpty then chunk else chunk ++ after) = chunk ++ after := by
      cases after with
      | nil => exact (List.append_nil chunk).symm
      | cons b rest => rfl
    rw [joinChunks, hfront, ih, List.reverse_cons, List.flatten_append, List.flatten_singleton,
      List.append_assoc]

/-- **Reading under a limit gives all bytes or nothing**, wherever the chunks end. The induction
goes along the chunks, for anything read before and any room that is left. -/
theorem readChunks_eq (read : List Bytes) (room : Nat) (chunks : List Bytes) :
    readChunks read room chunks =
      if chunks.flatten.length ≤ room then some (read.reverse.flatten ++ chunks.flatten)
      else none := by
  induction chunks generalizing read room with
  | nil =>
    rw [readChunks, joinChunks_eq]
    exact (if_pos (Nat.zero_le room)).symm
  | cons chunk rest ih =>
    rw [readChunks, List.flatten_cons, List.length_append]
    by_cases hchunk : chunk.length ≤ room
    · have hread : (chunk :: read).reverse.flatten ++ rest.flatten =
          read.reverse.flatten ++ (chunk ++ rest.flatten) := by
        rw [List.reverse_cons, List.flatten_append, List.flatten_singleton, List.append_assoc]
      -- what is left fits into what is left of the room exactly if all of it fits into the room
      have hroom : rest.flatten.length ≤ room - chunk.length ↔
          chunk.length + rest.flatten.length ≤ room := by omega
      rw [if_pos hchunk, ih, hread]
      simp only [hroom]
    · rw [if_neg hchunk, if_neg (by omega)]

namespace Request

/-- All bytes of the body. -/
def bytes (request : Request) : Bytes :=
  request.body.flatten

/-- The request with another body, in chunks. -/
def withChunks (request : Request) (chunks : List Bytes) : Request :=
  { request with body := chunks }

variable {request : Request}

/-- Without a limit all bytes are read. -/
theorem readBody_none (request : Request) : request.readBody none = some request.bytes := by
  rw [readBody, joinChunks_eq, List.reverse_reverse, List.append_nil, bytes]

/-- Under a limit all bytes are read if there are no more of them than that. -/
theorem readBody_some (request : Request) (limit : Nat) :
    request.readBody (some limit) =
      if request.bytes.length ≤ limit then some request.bytes else none := by
  rw [readBody, readChunks_eq, bytes]
  rfl

/-- A body that keeps to the limit, if there is one, is read as it is. -/
theorem readBody_of_within {limit : Option Nat}
    (h : ∀ most, limit = some most → request.bytes.length ≤ most) :
    request.readBody limit = some request.bytes := by
  cases limit with
  | none => exact readBody_none request
  | some most => rw [readBody_some, if_pos (h most rfl)]

/-- A body that keeps to the limit is read as if there were none. -/
theorem readBody_of_le {limit : Nat} (h : request.bytes.length ≤ limit) :
    request.readBody (some limit) = request.readBody none := by
  rw [readBody_some, readBody_none, if_pos h]

/-- A body is read the same however it is cut. -/
theorem readBody_withChunks {chunks : List Bytes} (h : chunks.flatten = request.bytes)
    (limit : Option Nat) : (request.withChunks chunks).readBody limit = request.readBody limit := by
  have hbytes : (request.withChunks chunks).bytes = request.bytes := h
  cases limit with
  | none => rw [readBody_none, readBody_none, hbytes]
  | some limit => rw [readBody_some, readBody_some, hbytes]

end Request

/-! ## Calls

A request becomes a call by way of its head and its body. The limit enters into the second only, and
there it makes the difference between all bytes and a refusal; so two requests with one head make
one call if their bodies are read alike. -/

namespace Call

/-- A request makes the call that its head and its body make. -/
theorem read_congr {request other : Request} {limit limit' : Option Nat}
    (hhead : ofHead request = ofHead other)
    (hbody : request.readBody limit = other.readBody limit') :
    read limit request = read limit' other := by
  simp only [read, readBody, readParts, hhead, hbody]

/-- A body beyond the limit is too large, unless it is looked through for the parts of a form. For
such a form the refusal may be another one, since a boundary that is missing is told first. -/
theorem read_of_beyond {request : Request} {limit : Nat}
    (hkind : (ofHead request).isMultipart = false) (h : limit < request.bytes.length) :
    read (some limit) request = .error .tooLarge := by
  have hbody : request.readBody (some limit) = none := by
    rw [Request.readBody_some, if_neg (Nat.not_le.mpr h)]
  rw [read, hkind, if_neg Bool.false_ne_true, readBody, hbody]

/-- Without a limit no body is too large. Other refusals remain: a form in several parts may be
broken. -/
theorem read_none_ne_tooLarge (request : Request) : read none request ≠ .error .tooLarge := by
  intro hread
  rw [read] at hread
  split at hread
  · rw [readParts] at hread
    split at hread
    · cases hread
    · rw [Request.readBody_none] at hread
      dsimp only at hread
      split at hread <;> cases hread
  · rw [readBody, Request.readBody_none] at hread
    dsimp only at hread
    split at hread <;> cases hread

end Call

/-! ## Requests to an action

That the status tells the longer bodies needs the other direction too: no other request is answered
by 413. An action cannot choose a status, its errors have statuses of the taxonomy, and a call that
runs nothing is answered by 400. -/

/-- No kind of error means that a body is too large. -/
theorem Taxonomy.status_ne_413 (kind : ErrorKind) : (Taxonomy.entry kind).status ≠ 413 := by
  cases kind <;> decide

namespace Service

variable {service : Service} {name : String} {version : ApiVersion} {caller : Identity}

/-- A framing leaves the status of an answer as it is. -/
theorem status_respond (service : Service) (limit : Option Nat) (name : String)
    (version : ApiVersion) (caller : Identity) (request : Request) :
    (service.respond limit name version caller request).value.status =
      (service.answerRequest limit name version caller request).value.status := rfl

/-- Requests that differ in nothing but their bodies are told apart by nothing but the calls that
they make. -/
theorem respond_of_read_eq {request other : Request} {limit limit' : Option Nat}
    (hmethod : request.method = other.method) (htarget : request.target = other.target)
    (hread : Call.read limit request = Call.read limit' other) :
    service.respond limit name version caller request =
      service.respond limit' name version caller other := by
  simp only [respond, answerRequest, hmethod, htarget, hread]

/-- A call is never answered as one whose body is too large. Either nothing has run, and the status
is that of a refused call, or something has, and it is that of a success or of an error. -/
theorem status_call_ne_413 (service : Service) (name : String) (version : ApiVersion)
    (caller : Identity) (call : Call) :
    (service.call name version caller call).value.status ≠ 413 := by
  intro hstatus
  rcases hruns : (service.call name version caller call).invocations with _ | ⟨first, rest⟩
  · rw [status_of_runs_nothing hruns] at hstatus
    cases hstatus
  · have hanswered := (service.served_call name version caller call).answered
    rw [hruns] at hanswered
    generalize (service.call name version caller call).value = answer at hstatus hanswered
    cases hanswered with
    | failed invocation error hfind hresult => exact Taxonomy.status_ne_413 error.kind hstatus
    | succeeded invocation result changed hfind hresult hchanged => cases hstatus

/-- Without a limit no request is refused for the length of its body. What can be wrong with it is
wrong with what it says. -/
theorem status_respond_none_ne_413 (service : Service) (name : String) (version : ApiVersion)
    (caller : Identity) (request : Request) :
    (service.respond none name version caller request).value.status ≠ 413 := by
  rw [status_respond]
  rcases hread : Call.read none request with refusal | call
  · have hstatus : refusal.status = 400 :=
      refusal.status_eq.2 fun htooLarge => Call.read_none_ne_tooLarge request (htooLarge ▸ hread)
    rw [answerRequest_of_read_error hread]
    cases service.registry.find? name with
    | none => exact fun h => nomatch h
    | some action => exact fun h => nomatch hstatus.symm.trans h
  · rw [answerRequest_of_read hread]
    exact status_call_ne_413 service name version caller call

end Service

namespace Gateway

variable {g : Gateway} {request : Request} {name : String} {version : ApiVersion}

/-! ## Requests of any kind

Of all endpoints the actions alone read a body. That a body is cut differently is therefore a matter
of how actions read it, and the layers and the other endpoints need not be asked. -/

/-- **To a request it makes no difference how its body is cut**, whatever it is and wherever it
leads. -/
theorem respond_withChunks {chunks : List Bytes} (h : chunks.flatten = request.bytes) :
    g.respond (request.withChunks chunks) = g.respond request := by
  refine respond_congr ⟨rfl, rfl, fun _ _ => rfl⟩ ?_
  intro endpoint limit version subject _
  cases endpoint with
  | root => rfl
  | action =>
    have hread : Call.read (some limit) (request.withChunks chunks) =
        Call.read (some limit) request := Call.read_congr rfl (Request.readBody_withChunks h _)
    exact Service.respond_of_read_eq rfl rfl hread
  | translations => rfl
  | autocomplete route => rfl

/-- A body is given no limit exactly if it declares itself beyond that of the gateway. Then the
request is refused before its path is looked at. -/
theorem bodyLimit?_eq_none_iff :
    g.bodyLimit? request = none ↔
      ∃ length, declaredLength? request = some length ∧ g.network.maxBodyBytes < length := by
  rw [bodyLimit?]
  rcases declaredLength? request with _ | length
  · simp
  · simp

/-! ## Requests for an action

A request for an action passes the limit at one of two places. If it declares its length, it is
refused by the outermost layer, as plain text; if it does not, the body is refused while it is read,
in an envelope. In both cases nothing has run before. -/

/-- A request is for an action: a route of actions serves its method, and its path names the action
and a version that there is. -/
inductive IsFor (g : Gateway) (request : Request) : String → ApiVersion → Prop
  | intro (versioned : Bool) {version : ApiVersion} (found : List (String × String))
    (values : Route.Values)
    (hmethod : request.method = .get ∨ request.method = .head ∨ request.method = .post)
    (hroute : g.route? request = some (.api versioned .action, found))
    (hvalues : (Route.api versioned .action).values found = .ok values)
    (hversion : Endpoint.version? g.config .action values.version = some version) :
    IsFor g request values.subject version

/-- A body is declared honestly: with its own length, or with none. -/
def DeclaresHonestly (request : Request) : Prop :=
  ∀ length, declaredLength? request = some length → length = request.bytes.length

/-- The gateway with another limit. -/
def withLimit (g : Gateway) (limit : Nat) : Gateway :=
  { g with network := { g.network with maxBodyBytes := limit } }

/-- The response to a request for an action, if there were no limit on bodies. -/
def respondUnlimited (g : Gateway) (name : String) (version : ApiVersion) (request : Request) :
    Traced Response :=
  (g.service.respond none name version (g.tokens.resolve request.headers) request).map
    (g.dressed request)

/-- A request for an action gets there, unless its body is declared too long. -/
theorem IsFor.reaches {limit : Nat} (h : g.IsFor request name version)
    (hlimit : g.bodyLimit? request = some limit) :
    g.Reaches request .action limit version name := by
  obtain ⟨versioned, found, values, hmethod, hroute, hvalues, hversion⟩ := h
  have hserves : (Route.api versioned .action).serves request.method = true := by
    rcases hmethod with hmethod | hmethod | hmethod <;> rw [hmethod] <;> rfl
  exact .intro versioned found values hlimit hroute hserves hvalues hversion

/-- A body that is declared honestly is read under a limit that it keeps to, if it keeps to that of
the gateway. Where a length is declared that is the limit; an honest declaration is the length
itself, so it is kept to without anything to spare. -/
theorem bodyLimit?_of_within (hdeclared : DeclaresHonestly request)
    (h : request.bytes.length ≤ g.network.maxBodyBytes) :
    ∃ limit, g.bodyLimit? request = some limit ∧ request.bytes.length ≤ limit := by
  rw [bodyLimit?]
  rcases hlength : declaredLength? request with _ | length
  · exact ⟨_, rfl, h⟩
  · obtain rfl := hdeclared length hlength
    exact ⟨_, if_pos h, Nat.le_refl _⟩

/-- **A body that keeps to the limit is served as if there were none.** Reading it comes to the same
under any limit that it keeps to, and all that follows depends on what was read. -/
theorem respond_of_within (hfor : g.IsFor request name version)
    (hdeclared : DeclaresHonestly request)
    (h : request.bytes.length ≤ g.network.maxBodyBytes) :
    g.respond request = g.respondUnlimited name version request := by
  obtain ⟨limit, hlimit, hwithin⟩ := bodyLimit?_of_within hdeclared h
  have hread : Call.read (some limit) request = Call.read none request :=
    Call.read_congr rfl (Request.readBody_of_le hwithin)
  rw [respond_of_reaches (hfor.reaches hlimit), serveEndpoint, respondUnlimited,
    Service.respond_of_read_eq rfl rfl hread]

/-- **A body that declares itself beyond the limit is refused at once**, wherever the request leads,
also where the method is not served or the path leads nowhere. -/
theorem respond_of_declared_beyond {length : Nat} (hlength : declaredLength? request = some length)
    (h : g.network.maxBodyBytes < length) :
    (g.respond request).invocations = [] ∧ (g.respond request).value.status = 413 := by
  have hlimit : g.bodyLimit? request = none := bodyLimit?_eq_none_iff.mpr ⟨length, hlength, h⟩
  obtain ⟨headers, hallow, -⟩ :=
    setsOnly_withAllow ((g.route? request).map Prod.fst) request tooLong
  simp only [respond, hlimit, Traced.value_map, Traced.value_pure, hallow, status_withoutBody]
  exact ⟨rfl, rfl⟩

/-- **A longer body that declares no length is refused while it is read**, in an envelope. -/
theorem respond_of_undeclared_beyond {action : Action} (hfor : g.IsFor request name version)
    (hfind : g.service.registry.find? name = some action)
    (hkind : (Call.ofHead request).isMultipart = false)
    (hdeclared : declaredLength? request = none)
    (h : g.network.maxBodyBytes < request.bytes.length) :
    g.respond request =
      .pure (g.dressed request (Framing.plain.envelope 413
        (.failure (some (g.config.helpUrl version name))
          (Taxonomy.refused Refusal.tooLarge.message)))) := by
  have hlimit : g.bodyLimit? request = some g.network.maxBodyBytes := by
    rw [bodyLimit?, hdeclared]
  rw [respond_of_reaches (hfor.reaches hlimit), serveEndpoint,
    Service.respond_of_read_error hfind (Call.read_of_beyond hkind h)]
  rfl

/-- Of what a request for an action gets, only a `HEAD` request loses the body. -/
theorem IsFor.body_dressed (h : g.IsFor request name version) (response : Response) :
    (g.dressed request response).body =
      if request.method = .head then "" else response.body := by
  by_cases hhead : request.method = .head
  · obtain ⟨versioned, found, values, -, hroute, -, -⟩ := h
    have hstray : isStray ((g.route? request).map Prod.fst) request = false := by
      rw [hroute]
      rfl
    rw [dressed, withoutBody, hstray, decide_eq_true hhead, if_pos hhead]
    rfl
  · rw [Gateway.body_dressed hhead, if_neg hhead]

/-! ## The limit

The contract says in which requests the limit shows and how. It is put together from the two
refusals, which differ in what the caller is told, and from the fact that nothing else gives their
status. -/

/-- What the limit on bodies does to a request for an action. -/
structure LimitIsExact (g : Gateway) (request : Request) (name : String) (version : ApiVersion) :
    Prop where
  /-- the status tells exactly the bodies that are longer than the limit -/
  status_eq_413_iff :
    (g.respond request).value.status = 413 ↔ g.network.maxBodyBytes < request.bytes.length
  /-- for them nothing runs -/
  runs_nothing : g.network.maxBodyBytes < request.bytes.length →
    (g.respond request).invocations = []
  /-- unless its length was declared, such a body is refused in an envelope with the address of the
  documentation, of which a `HEAD` request sees no more than the headers -/
  refusal : g.network.maxBodyBytes < request.bytes.length → declaredLength? request = none →
    (g.respond request).value.headers.first? "content-type" =
        some (Utf8.encode "application/json;charset=utf-8") ∧
      (g.respond request).value.body =
        if request.method = .head then ""
        else
          (Envelope.failure (some (g.config.helpUrl version name))
            (.new "Validation Error"
              "Input Error: Request body exceeds the configured size limit")).toJson.text
  /-- all other bodies are served as if there were no limit -/
  unlimited : request.bytes.length ≤ g.network.maxBodyBytes →
    g.respond request = g.respondUnlimited name version request
  /-- and so they are under any other limit that they keep to -/
  withLimit : request.bytes.length ≤ g.network.maxBodyBytes →
    ∀ limit, request.bytes.length ≤ limit → (g.withLimit limit).respond request = g.respond request
  /-- it makes no difference how a body is cut -/
  withChunks : ∀ chunks, chunks.flatten = request.bytes →
    g.respond (request.withChunks chunks) = g.respond request

/-- **The limit on bodies is exact.** Let a request be for an action that there is, with a content
type that does not begin with that of a form in several parts, and let it declare its length
honestly or not at all. Then the length alone decides: with a body of more bytes than the limit
allows it is refused and nothing runs; with any other it is served as if there were no limit,
however the body is cut into chunks.

A declaration that is not honest is cut out: a body that turns out longer than it declares is
refused by the same count, against the length that it declared. -/
theorem body_limit_is_exact {action : Action} (hfor : g.IsFor request name version)
    (hfind : g.service.registry.find? name = some action)
    (hkind : (Call.ofHead request).isMultipart = false) (hdeclared : DeclaresHonestly request) :
    g.LimitIsExact request name version := by
  have hbeyond (h : g.network.maxBodyBytes < request.bytes.length) :
      (g.respond request).invocations = [] ∧ (g.respond request).value.status = 413 := by
    rcases hlength : declaredLength? request with _ | length
    · rw [respond_of_undeclared_beyond hfor hfind hkind hlength h]
      exact ⟨rfl, status_dressed _ _ _⟩
    · obtain rfl := hdeclared length hlength
      exact respond_of_declared_beyond hlength h
  constructor
  case status_eq_413_iff =>
    refine ⟨fun hstatus => ?_, fun h => (hbeyond h).2⟩
    -- a body within the limit is served without one, and without one there is no such status
    refine Nat.lt_of_not_le fun hwithin => ?_
    rw [respond_of_within hfor hdeclared hwithin, respondUnlimited, Traced.value_map,
      status_dressed] at hstatus
    exact Service.status_respond_none_ne_413 _ _ _ _ _ hstatus
  case runs_nothing => exact fun h => (hbeyond h).1
  case refusal =>
    intro h hundeclared
    rw [respond_of_undeclared_beyond hfor hfind hkind hundeclared h, Traced.value_pure,
      contentType_dressed, hfor.body_dressed]
    exact ⟨rfl, rfl⟩
  case unlimited => exact respond_of_within hfor hdeclared
  case withLimit =>
    intro hwithin limit hlimit
    have hfor' : (g.withLimit limit).IsFor request name version := by
      obtain ⟨versioned, found, values, hmethod, hroute, hvalues, hversion⟩ := hfor
      exact .intro versioned found values hmethod hroute hvalues hversion
    rw [respond_of_within hfor hdeclared hwithin, respond_of_within hfor' hdeclared hlimit]
    rfl
  case withChunks => exact fun chunks h => respond_withChunks h

/-- A limit of seven bytes lets a document of seven bytes pass that comes in two chunks. One of
eight bytes is refused, which it declares. -/
theorem body_limit_is_exact_seven :
    let echo : Action := ⟨"echo", false, none, .run fun _ payload => ⟨[], .ok payload.toJson⟩⟩
    let service : Service := ⟨Registry.register .empty echo, .default⟩
    let g : Gateway := (offering service .empty).withLimit 7
    let target : Target := ⟨"/api/action/echo", none⟩
    let short : Request :=
      ⟨.post, target, [], [Utf8.encode "\x7b\x22a", Utf8.encode "\x22:1\x7d"]⟩
    let long : Request :=
      ⟨.post, target, [("content-length", Utf8.encode "8")], [Utf8.encode "\x7b\x22ab\x22:1\x7d"]⟩
    g.LimitIsExact short "echo" .v3 ∧ g.LimitIsExact long "echo" .v3 ∧
      g.respond short = g.respondUnlimited "echo" .v3 short ∧
      (g.respond short).invocations.length = 1 ∧ (g.respond long).value.status = 413 := by
  intro echo service g target short long
  have hfind : g.service.registry.find? "echo" = some echo := rfl
  have hroute : Route.find? "/api" target.path = some (.api false .action, [("name", "echo")]) := by
    decide +kernel
  have hdecode : Utf8.decode? (UrlEncoded.percentDecode (Utf8.encode "echo")) = some "echo" := by
    decide +kernel
  have hvalues : (Route.api false .action).values [("name", "echo")] = .ok ⟨none, "echo"⟩ := by
    simp only [Route.values, Route.decodeAll, hdecode]
    rfl
  have hbase : g.config.basePath = "/api" := by decide +kernel
  have hfor {request : Request} (hmethod : request.method = .post)
      (htarget : request.target = target) : g.IsFor request "echo" .v3 := by
    refine .intro false _ ⟨none, "echo"⟩ (.inr (.inr hmethod)) ?_ hvalues rfl
    rw [route?, hbase, htarget, hroute]
  have hundeclared : declaredLength? short = none := rfl
  have hdeclared : declaredLength? long = some long.bytes.length := by decide +kernel
  have hshort : g.LimitIsExact short "echo" .v3 :=
    body_limit_is_exact (hfor rfl rfl) hfind rfl fun length h =>
      absurd (h.symm.trans hundeclared) (Option.some_ne_none length)
  have hlong : g.LimitIsExact long "echo" .v3 :=
    body_limit_is_exact (hfor rfl rfl) hfind rfl fun length h =>
      Option.some.inj (h.symm.trans hdeclared)
  refine ⟨hshort, hlong, hshort.unlimited (by decide +kernel), by decide +kernel, ?_⟩
  exact hlong.status_eq_413_iff.mpr (by decide +kernel)

end Gateway

end ActionGateway
