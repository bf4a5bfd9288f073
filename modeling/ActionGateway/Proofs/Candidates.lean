import ActionGateway.Proofs.Callbacks
import ActionGateway.Proofs.Completions
import ActionGateway.Proofs.ErrorContract

/-!
# What routes for completions ask for and hand on

A route for completions reads a few parameters of the query (`Autocomplete.reads`), and of each of
them the **first** value. What it makes of them is all that its action gets to see
(`Autocomplete.Forwards`), so a query can bring in nothing else, and whatever else it holds makes no
difference (`Autocomplete.payload?_congr`).

As long as nothing has been typed (`Autocomplete.Untyped`) there is no payload and no action runs.
The response is then the one to an empty list of candidates.

On the way back candidates are put into the shape of the route, and a widget takes them out again
(`CandidateShape.candidates?`). The main result is `Autocomplete.completionContract`.
-/

namespace ActionGateway

/-! ## Shapes

A route says in which shape its candidates are handed on, and a widget that knows the route takes
them out again. What is proved here is the round trip for lists of any length. A result that is no
list has a shape only where each candidate is put into an object of its own: there it counts as a
list of one. -/

/-- The items of an array. -/
def Json.items? : Json → Option (List Json)
  | .arr items => some items
  | _ => none

namespace CandidateShape

/-- The list that a result set holds. -/
def resultItems? (response : Json) : Option (List Json) :=
  ((response.member? "ResultSet").bind (Json.member? "Result")).bind Json.items?

/-- The candidates that a widget takes out of what is handed on. -/
def candidates? (response : Json) : CandidateShape → Option (List Json)
  | plain => response.items?
  | resultSet => resultItems? response
  | resultSetOf field => (resultItems? response).bind (List.mapM (Json.member? field))

/-- What is put into a result set is what is found in it. -/
theorem resultItems?_wrap (items : List Json) : resultItems? (wrap (.arr items)) = some items :=
  rfl

/-- What is no list counts as a list of one candidate. Which kind of value it is makes no
difference, so a text, a number and an object are all handed on alike. -/
theorem keyed_of_ne_arr {value : Json} (h : ∀ items, value ≠ .arr items) (field : String) :
    keyed field value = keyed field (.arr [value]) := by
  cases value with
  | arr items => exact absurd rfl (h items)
  | null | bool | num | str | obj => rfl

/-- A candidate is the only member of its object, so reading that member from each object in turn
finds all of them. Reading stops at the first object without the member; here there is none. -/
theorem mapM_member?_keyed (field : String) (items : List Json) :
    (items.map fun item => Json.obj [(field, item)]).mapM (Json.member? field) = some items := by
  induction items with
  | nil => rfl
  | cons item items ih =>
    have hitem : Json.member? field (.obj [(field, item)]) = some item :=
      Entries.find?_cons_self field item []
    rw [List.map_cons, List.mapM_cons, hitem, ih]
    rfl

/-- **Candidates come out of a shape as they were put in**, all of them and in their order. There
may be none. -/
theorem candidates?_apply (shape : CandidateShape) (items : List Json) :
    shape.candidates? (shape.apply (.arr items)) = some items := by
  cases shape with
  | plain => rfl
  | resultSet => exact resultItems?_wrap items
  | resultSetOf field =>
    simp only [candidates?, apply, keyed, resultItems?_wrap, Option.bind_some]
    exact mapM_member?_keyed field items

end CandidateShape

/-! ## Parameters

What a parameter adds to a payload depends on the first value of its name, and is found under that
name again. Pairs can be added to a query in two ways without changing any first value: under names
that the route does not read, wherever they stand, and under a name that stands before them. -/

namespace Params

variable {name : String}

/-- Pairs of other names make no difference to a name, wherever they stand. -/
theorem first?_filter {names : List String} (h : name ∈ names) (query : Params) :
    first? (query.filter fun pair => pair.1 ∈ names) name = query.first? name := by
  rw [first?_eq_head?, first?_eq_head?, valuesOf, valuesOf, List.filter_filter]
  congr 2
  refine List.filter_congr fun pair _ => ?_
  by_cases hname : pair.1 = name
  · simp [hname, h]
  · simp [hname]

/-- A pair whose name came before makes no difference to any name. -/
theorem first?_of_repeated {before after : Params} {pair : String × String}
    (h : pair.1 ∈ before.map Prod.fst) (name : String) :
    first? (before ++ pair :: after) name = first? (before ++ after) name := by
  rw [first?, first?, Entries.find?_append, Entries.find?_append]
  by_cases hname : pair.1 = name
  · obtain ⟨⟨other, value⟩, hmem, hother⟩ := List.mem_map.mp h
    obtain rfl : other = name := hother.trans hname
    obtain ⟨first, hfirst⟩ :=
      Option.isSome_iff_exists.mp (Entries.isSome_find?_iff.mpr ⟨value, hmem⟩)
    rw [hfirst, Option.some_or, Option.some_or]
  · obtain ⟨other, value⟩ := pair
    rw [Entries.find?_cons_ne hname]

end Params

namespace ExtraParam

variable {query : Params} {payload : Payload}

/-- The name of the parameter, which is also that of its field. -/
def name : ExtraParam → String
  | ifPresent name => name
  | flag name => name

/-- What a query gives for the parameter: its first value, but for an optional one only if it is not
empty, and for a flag `false` if there is none. -/
def given? (query : Params) : ExtraParam → Option FieldValue
  | ifPresent name => ((query.first? name).filter fun value => value ≠ "").map .text
  | flag name => some ((query.first? name).elim (.json (.bool false)) .text)

/-- A parameter adds what the query gives for it, under its own name. -/
theorem find?_addTo_self (extra : ExtraParam) :
    (extra.addTo query payload).find? extra.name =
      (extra.given? query).or (payload.find? extra.name) := by
  cases extra with
  | flag name =>
    simp only [addTo, ExtraParam.name, given?, Option.some_or]
    rcases query.first? name with _ | value <;> simp
  | ifPresent name =>
    simp only [addTo, ExtraParam.name, given?]
    rcases query.first? name with _ | value
    · rfl
    · by_cases hempty : value = ""
      · simp [hempty, Option.filter]
      · simp [hempty, Option.filter]

/-- And nothing under another name. -/
theorem find?_addTo_ne {extra : ExtraParam} {name : String} (h : extra.name ≠ name) :
    (extra.addTo query payload).find? name = payload.find? name := by
  cases extra with
  | flag field =>
    have hne : ¬ field = name := h
    simp only [addTo]
    split <;> rw [NameMap.find?_insert, if_neg hne]
  | ifPresent field =>
    have hne : ¬ field = name := h
    simp only [addTo]
    split
    · rfl
    · split
      · rfl
      · rw [NameMap.find?_insert, if_neg hne]

/-- Only the first value of its name counts for a parameter: in two queries that agree on it, the
parameter adds the same. -/
theorem addTo_congr {other : Params} {extra : ExtraParam}
    (h : query.first? extra.name = other.first? extra.name) (payload : Payload) :
    extra.addTo query payload = extra.addTo other payload := by
  cases extra <;> rw [name] at h <;> simp only [addTo, h]

/-- So it is for several parameters, one after the other. -/
theorem foldl_addTo_congr {other : Params} {extras : List ExtraParam}
    (h : ∀ extra ∈ extras, query.first? extra.name = other.first? extra.name) (payload : Payload) :
    extras.foldl (addTo query) payload = extras.foldl (addTo other) payload := by
  induction extras generalizing payload with
  | nil => rfl
  | cons extra rest ih =>
    obtain ⟨hextra, hrest⟩ := List.forall_mem_cons.mp h
    rw [List.foldl_cons, List.foldl_cons, addTo_congr hextra, ih hrest]

/-- Parameters add nothing under a name that none of them has. -/
theorem find?_foldl_addTo_of_ne {extras : List ExtraParam} {name : String}
    (h : ∀ extra ∈ extras, extra.name ≠ name) :
    (extras.foldl (addTo query) payload).find? name = payload.find? name := by
  induction extras generalizing payload with
  | nil => rfl
  | cons extra rest ih =>
    obtain ⟨hextra, hrest⟩ := List.forall_mem_cons.mp h
    rw [List.foldl_cons, ih hrest, find?_addTo_ne hextra]

/-- Of parameters with different names each one adds what the query gives for it. The induction goes
along the parameters: what was added before does not touch the name, and what is added after has
other names. -/
theorem find?_foldl_addTo {extras : List ExtraParam} {extra : ExtraParam}
    (hnodup : (extras.map name).Nodup) (hmem : extra ∈ extras)
    (hfree : payload.find? extra.name = none) :
    (extras.foldl (addTo query) payload).find? extra.name = extra.given? query := by
  induction extras generalizing payload with
  | nil => cases hmem
  | cons first rest ih =>
    obtain ⟨hfirst, hrest⟩ := List.nodup_cons.mp hnodup
    rw [List.foldl_cons]
    rcases List.mem_cons.mp hmem with rfl | hmem
    · have hne : ∀ other ∈ rest, other.name ≠ extra.name := by
        rintro other hother heq
        exact hfirst (heq ▸ List.mem_map_of_mem hother)
      rw [find?_foldl_addTo_of_ne hne, find?_addTo_self, hfree, Option.or_none]
    · have hne : first.name ≠ extra.name := by
        intro heq
        exact hfirst (heq ▸ List.mem_map_of_mem hmem)
      exact ih hrest hmem (by rw [find?_addTo_ne hne, hfree])

end ExtraParam

/-! ## Payloads

The payload of a route is built up from two fixed fields, `q` and `limit`, to which the parameters
of the route are added in order. The names are all different (`Autocomplete.Distinct`), so no field
takes the place of another, and each can be looked up by itself. That is decided on the table of
routes; all else holds of any route with such names. -/

namespace Autocomplete

variable {route : Autocomplete} {query other : Params} {payload : Payload}

/-- The names of the parameters that a route reads. -/
def reads (route : Autocomplete) : List String :=
  route.typed :: "limit" :: route.extras.map ExtraParam.name

/-- Nothing has been typed: the parameter for it is missing, or its first value is empty. -/
def Untyped (route : Autocomplete) (query : Params) : Prop :=
  query.first? route.typed = none ∨ query.first? route.typed = some ""

/-- The parameters that a route hands on have names of their own. -/
structure Distinct (route : Autocomplete) : Prop where
  nodup : (route.extras.map ExtraParam.name).Nodup
  ne : ∀ extra ∈ route.extras, extra.name ≠ "q" ∧ extra.name ≠ "limit"

/-- The routes of the table have different names for all their parameters, and none is called `q` or
`limit`. -/
theorem distinct_of_mem_routes (h : route ∈ routes) : route.Distinct := by
  constructor
  · revert route
    decide
  · revert route
    decide

/-- There is no payload exactly if nothing has been typed: neither the limit nor a parameter that is
missing keeps a route from asking. -/
theorem payload?_eq_none_iff : route.payload? query = none ↔ route.Untyped query := by
  rw [payload?, Option.map_eq_none_iff, typed?, Untyped]
  rcases query.first? route.typed with _ | text
  · simp
  · simp

/-- **Nothing but the first values of the parameters that the route reads makes a difference.** A
callback in the query is not one of them. -/
theorem payload?_congr (h : ∀ name ∈ route.reads, query.first? name = other.first? name) :
    route.payload? query = route.payload? other := by
  simp only [reads, List.forall_mem_cons, List.forall_mem_map] at h
  obtain ⟨htyped, hlimit, hextras⟩ := h
  simp only [payload?, typed?, limit, htyped, hlimit, ExtraParam.foldl_addTo_congr hextras]

/-- The fields of a payload are what a query gives for the parameters of a route, and no others. -/
structure Forwards (route : Autocomplete) (query : Params) (payload : Payload) : Prop where
  typed : payload.find? "q" = (query.first? route.typed).map .text
  limit : payload.find? "limit" =
    some ((query.first? "limit").elim (.json (.ofNat route.defaultLimit)) .text)
  /-- a flag is always there -/
  flag : ∀ name, .flag name ∈ route.extras →
    payload.find? name = some ((query.first? name).elim (.json (.bool false)) .text)
  /-- an optional parameter is there if its first value is not empty -/
  ifPresent : ∀ name, .ifPresent name ∈ route.extras →
    payload.find? name = ((query.first? name).filter fun value => value ≠ "").map .text
  others : ∀ name, name ≠ "q" → name ≠ "limit" →
    (∀ extra ∈ route.extras, extra.name ≠ name) → payload.find? name = none

/-- **The payload of a query holds what the query gives the route.** It has a field for what has
been typed and one for the limit, a field for each flag and for each optional parameter that is not
empty, and no others. -/
theorem forwards_of_payload? (hdistinct : route.Distinct)
    (h : route.payload? query = some payload) :
    route.Forwards query payload := by
  obtain ⟨text, htext, rfl⟩ := Option.map_eq_some_iff.mp h
  -- that there is a payload means that the first value of the parameter is there and not empty
  have hfirst : query.first? route.typed = some text := by
    rw [typed?] at htext
    split at htext
    · cases htext
    · next first hfirst =>
      split at htext
      · cases htext
      · rw [hfirst, htext]
  have hfree {name : String} (hq : name ≠ "q") (hlimit : name ≠ "limit") :
      ((NameMap.empty.insert "q" (.text text)).insert "limit" (route.limit query)).find? name =
        none := by
    rw [NameMap.find?_insert, if_neg hlimit.symm, NameMap.find?_insert, if_neg hq.symm,
      NameMap.find?_empty]
  have hextra {extra : ExtraParam} (hmem : extra ∈ route.extras) :
      (route.extras.foldl (ExtraParam.addTo query)
        ((NameMap.empty.insert "q" (.text text)).insert "limit" (route.limit query))).find?
          extra.name = extra.given? query :=
    ExtraParam.find?_foldl_addTo hdistinct.nodup hmem
      (hfree (hdistinct.ne extra hmem).1 (hdistinct.ne extra hmem).2)
  constructor
  case typed =>
    -- no parameter is called `q`, so the field is as it was put there first
    rw [ExtraParam.find?_foldl_addTo_of_ne fun extra hmem => (hdistinct.ne extra hmem).1, hfirst]
    simp
  case limit =>
    rw [ExtraParam.find?_foldl_addTo_of_ne fun extra hmem => (hdistinct.ne extra hmem).2,
      NameMap.find?_insert, if_pos rfl, Autocomplete.limit]
    rcases query.first? "limit" with _ | limit <;> rfl
  case flag => exact fun name hmem => hextra hmem
  case ifPresent => exact fun name hmem => hextra hmem
  case others =>
    intro name hq hlimit hne
    rw [ExtraParam.find?_foldl_addTo_of_ne hne, hfree hq hlimit]

end Autocomplete

/-! ## Requests

A request gets through the layers to a route for completions, and then what the route reads of the
query decides. What runs is compared between two queries of one request
(`Gateway.invocations_withQuery_congr`); the responses may still differ, since the framing reads the
callback from the same query. -/

namespace Gateway

variable {g : Gateway} {request other : Request} {route : Autocomplete}

/-- Requests that agree are dressed alike. -/
theorem dressed_congr (h : request.Agree other) : g.dressed request = g.dressed other := by
  funext response
  simp only [dressed, ← route?_congr h, ← withOrigin_congr h, ← withRequestId_congr h,
    ← withAllow_congr h, ← withoutBody_congr h]

/-- **Where nothing has been typed the response is that to no candidates**, and nothing runs. The
parameter may be missing or empty. -/
theorem respond_of_untyped {limit : Nat} {version : ApiVersion} {subject : String}
    (hreaches : g.Reaches request (.autocomplete route) limit version subject)
    (h : route.Untyped (queryParams request.target.query)) :
    g.respond request =
      .pure (g.dressed request
        ((framing request).ok (.json (route.shaped (.arr []))) .json)) := by
  rw [respond_of_reaches hreaches]
  simp only [serveEndpoint, Autocomplete.respond, Autocomplete.payload?_eq_none_iff.mpr h]
  rfl

/-- **Where something has been typed, what the action gives is handed on** in the shape of the
route. -/
theorem respond_of_result {version : ApiVersion} {payload : Payload} {result : Json}
    (h : g.AsksFor request route version payload)
    (hresult : (g.service.invokeDirectly route.action version (g.tokens.resolve request.headers)
      payload).value = some (.ok result)) :
    (g.respond request).value =
      g.dressed request ((framing request).ok (.json (route.shaped result)) .json) := by
  rw [respond_of_asksFor h, Traced.value_map, hresult]
  rfl

/-- **What is run does not depend on the rest of the query.** Two queries that agree on the first
values of what the route reads lead to the same invocations, none or one, for the same caller and on
the same payload. -/
theorem invocations_withQuery_congr {versioned : Bool} {found : List (String × String)}
    (hroute : g.route? request = some (.api versioned (.autocomplete route), found))
    {query query' : Option String}
    (h : ∀ name ∈ route.reads, (queryParams query).first? name = (queryParams query').first? name) :
    (g.respond (request.withQuery query)).invocations =
      (g.respond (request.withQuery query')).invocations := by
  have hagree := request.agree_withQuery query query'
  have hpayload := Autocomplete.payload?_congr h
  simp only [respond, ← bodyLimit?_congr hagree, ← route?_congr hagree, Traced.invocations_map]
  rcases hlimit : g.bodyLimit? (request.withQuery query) with _ | limit
  · rfl
  -- at the endpoint the two queries have one payload, or neither has any
  have hserve {endpoint version subject}
      (hreaches : g.Reaches (request.withQuery query) endpoint limit version subject) :
      (g.serveEndpoint (some limit) version subject (request.withQuery query)
          endpoint).invocations =
        (g.serveEndpoint (some limit) version subject (request.withQuery query')
          endpoint).invocations := by
    obtain rfl := hreaches.endpoint_eq hroute
    simp only [serveEndpoint, Autocomplete.respond, Request.withQuery, hpayload]
    rcases route.payload? (queryParams query') with _ | payload
    · rfl
    · rw [Traced.invocations_map, Traced.invocations_map]
  have hserves (route : Route) : route.serves (request.withQuery query).method =
      route.serves (request.withQuery query').method := rfl
  have hhandle := handle_congr Traced.invocations hlimit rfl rfl rfl hserves hserve
  have hmethod : (request.withQuery query).method = (request.withQuery query').method := rfl
  simp only [respondWithin, ← hmethod]
  split
  · rfl
  · rw [Traced.invocations_map, Traced.invocations_map, hhandle]

end Gateway

/-! ## The contract

The contract follows a request through its route: whether there is a payload, what comes back if
there is none, what comes back if there is one, what the payload holds and depends on, and how
candidates are taken out of what comes back. -/

/-- What a route for completions does. -/
structure CompletionContract (route : Autocomplete) : Prop where
  /-- there is no payload exactly if nothing has been typed -/
  payload?_eq_none_iff : ∀ query, route.payload? query = none ↔
    query.first? route.typed = none ∨ query.first? route.typed = some ""
  /-- then nothing runs, and the response is the one that an empty list of candidates would have
  got, whatever actions there are and whoever asks -/
  of_untyped : ∀ (g : Gateway) request limit version subject,
    g.Reaches request (.autocomplete route) limit version subject →
      route.payload? (queryParams request.target.query) = none →
        (g.respond request).invocations = [] ∧ (g.respond request).value.status = 200 ∧
          (∀ payload, (g.respond request).value = g.dressed request
            (route.frameResult (Gateway.framing request) payload (some (.ok (.arr []))))) ∧
          ∀ registry tokens,
            ({ g.withRegistry registry with tokens := tokens } : Gateway).respond request =
              g.respond request
  /-- and it is the response to every request that does get an empty list, if nothing but the query
  is different, and not the callback -/
  eq_of_no_candidates : ∀ (g : Gateway) request limit version subject,
    g.Reaches request (.autocomplete route) limit version subject →
      route.payload? (queryParams request.target.query) = none →
        ∀ query version' payload, g.AsksFor (request.withQuery query) route version' payload →
          Gateway.framing (request.withQuery query) = Gateway.framing request →
          (g.service.invokeDirectly route.action version' (g.tokens.resolve request.headers)
            payload).value = some (.ok (.arr [])) →
              (g.respond (request.withQuery query)).value = (g.respond request).value
  /-- if there is a payload, the action runs on it as the caller whose token the request carries,
  and of the actions the response depends on nothing but what this one gives -/
  of_asksFor : ∀ (g : Gateway) request version payload, g.AsksFor request route version payload →
    g.respond request =
      (g.service.invokeDirectly route.action version (g.tokens.resolve request.headers)
        payload).map fun result =>
          g.dressed request (route.frameResult (Gateway.framing request) payload result)
  /-- the items that it gives come back with status 200, in the shape of the route; they are handed
  to the callback if the query names one -/
  of_result : ∀ (g : Gateway) request version payload, g.AsksFor request route version payload →
    ∀ result, (g.service.invokeDirectly route.action version (g.tokens.resolve request.headers)
        payload).value = some (.ok result) →
      (g.respond request).value.status = 200 ∧
        (request.method ≠ .head → (g.respond request).value.body =
          match (Gateway.framing request).callback with
          | none => (route.shaped result).text
          | some callback => Framing.wrap callback (route.shaped result).text)
  /-- a payload has the fields that the route hands on, and no others -/
  forwards : ∀ query payload, route.payload? query = some payload → route.Forwards query payload
  /-- it depends on the first values of the parameters that the route reads and on nothing else: -/
  payload?_congr : ∀ query other,
    (∀ name ∈ route.reads, Params.first? query name = Params.first? other name) →
      route.payload? query = route.payload? other
  /-- not on other parameters, wherever they stand -/
  payload?_of_others : ∀ query other : Params,
    (query.filter fun pair => pair.1 ∈ route.reads) =
        (other.filter fun pair => pair.1 ∈ route.reads) →
      route.payload? query = route.payload? other
  /-- and not on further values of any parameter -/
  payload?_of_repeated : ∀ (before after : Params) pair, pair.1 ∈ before.map Prod.fst →
    route.payload? (before ++ pair :: after) = route.payload? (before ++ after)
  /-- so what runs, for whom and on what, depends on no more of the query -/
  invocations_congr : ∀ (g : Gateway) request versioned found,
    g.route? request = some (.api versioned (.autocomplete route), found) →
      ∀ query query', (∀ name ∈ route.reads,
        (queryParams query).first? name = (queryParams query').first? name) →
          (g.respond (request.withQuery query)).invocations =
            (g.respond (request.withQuery query')).invocations
  /-- candidates come out of the shape of the route as they were put in -/
  candidates?_shaped : ∀ items, route.shape.candidates? (route.shaped (.arr items)) = some items
  /-- where each one is put into an object, what is no list is handed on as a list of one -/
  candidates?_of_ne_arr : ∀ field, route.shape = .resultSetOf field →
    ∀ value, (∀ items, value ≠ .arr items) →
      route.shaped value = route.shaped (.arr [value]) ∧
        route.shape.candidates? (route.shaped value) = some [value]

namespace Autocomplete

variable {route : Autocomplete}

/-- **A route for completions hands on what it reads and gives back what it gets.**

* As long as nothing has been typed, nothing runs, and the response is the one to an empty list.
* Otherwise the action of the route runs on a payload of known fields, which depends on the first
  values of the parameters that the route reads and on nothing else of the query.
* What the action gives comes back in the shape of the route, from which a widget takes out the same
  candidates in the same order.

The hypothesis is that the route stands in the table; it serves for the names of its parameters,
which must not meet. -/
theorem completionContract (h : route ∈ routes) : CompletionContract route := by
  constructor
  case payload?_eq_none_iff => exact fun query => payload?_eq_none_iff
  case of_untyped =>
    intro g request limit version subject hreaches hnone
    have huntyped := payload?_eq_none_iff.mp hnone
    rw [Gateway.respond_of_untyped hreaches huntyped]
    refine ⟨rfl, ?_, fun payload => rfl, fun registry tokens => ?_⟩
    · rw [Traced.value_pure, Gateway.status_dressed]
      rfl
    · obtain ⟨versioned, found, values, hlimit, hroute, hserves, hvalues, hversion⟩ := hreaches
      exact Gateway.respond_of_untyped (g := { g.withRegistry registry with tokens := tokens })
        (.intro versioned found values hlimit hroute hserves hvalues hversion) huntyped
  case eq_of_no_candidates =>
    intro g request limit version subject hreaches hnone query version' payload hasks hframing
      hempty
    have hagree : (request.withQuery query).Agree request := ⟨rfl, rfl, fun _ _ => rfl⟩
    rw [Gateway.respond_of_result hasks hempty,
      Gateway.respond_of_untyped hreaches (payload?_eq_none_iff.mp hnone), hframing,
      Gateway.dressed_congr hagree]
    rfl
  case of_asksFor => exact fun g request version payload => Gateway.respond_of_asksFor
  case of_result =>
    intro g request version payload hasks result hresult
    rw [Gateway.respond_of_result hasks hresult]
    refine ⟨?_, fun hmethod => ?_⟩
    · rw [Gateway.status_dressed]
      rfl
    · rw [Gateway.body_dressed hmethod]
      exact Framing.body_ok _ _ _
  case forwards =>
    exact fun query payload => forwards_of_payload? (distinct_of_mem_routes h)
  case payload?_congr => exact fun query other => payload?_congr
  case payload?_of_others =>
    intro query other hsame
    refine payload?_congr fun name hname => ?_
    rw [← Params.first?_filter hname query, hsame, Params.first?_filter hname other]
  case payload?_of_repeated =>
    intro before after pair hpair
    exact payload?_congr fun name _ => Params.first?_of_repeated hpair name
  case invocations_congr =>
    exact fun g request versioned found hroute query query' =>
      Gateway.invocations_withQuery_congr hroute
  case candidates?_shaped => exact fun items => route.shape.candidates?_apply items
  case candidates?_of_ne_arr =>
    intro field hshape value hne
    have heq : route.shaped value = route.shaped (.arr [value]) := by
      rw [shaped, shaped, hshape]
      exact congrArg CandidateShape.wrap (CandidateShape.keyed_of_ne_arr hne field)
    exact ⟨heq, heq ▸ route.shape.candidates?_apply [value]⟩

/-- A tag is asked for by what has been typed, with the limit of the route and in no vocabulary,
since the first one that is named is empty; a single tag is handed on as a list. Of two tags, which
an action gives, each comes back in an object of its own. -/
theorem completionContract_tag :
    let route : Autocomplete := ⟨["tag", "autocomplete"], "tag_autocomplete", "incomplete", 10,
      [.ifPresent "vocabulary_id"], .resultSetOf "Name"⟩
    let query : Params := [("vocabulary_id", ""), ("user", "alice"), ("incomplete", "ec"),
      ("vocabulary_id", "v1"), ("incomplete", "x")]
    let action : Action :=
      ⟨"tag_autocomplete", true, none, .run fun _ _ => ⟨[], .ok (.strs ["eco", "echo"])⟩⟩
    let g : Gateway := .offering ⟨Registry.register .empty action, .default⟩ .empty
    let request : Request := ⟨.get, ⟨"/api/util/tag/autocomplete", some "incomplete=ec"⟩, [], []⟩
    (∃ payload, route.payload? query = some payload ∧ payload.find? "q" = some (.text "ec") ∧
      payload.find? "limit" = some (.json (.ofNat 10)) ∧
      payload.find? "vocabulary_id" = none ∧ payload.find? "user" = none) ∧
      route.payload? query = route.payload? [("vocabulary_id", ""), ("incomplete", "ec")] ∧
      route.shape.candidates? (route.shaped (.str "eco")) = some [.str "eco"] ∧
      (g.respond request).value.status = 200 ∧ (g.respond request).value.body =
        "\x7b\"ResultSet\":\x7b\"Result\":" ++
          "[\x7b\"Name\":\"eco\"\x7d,\x7b\"Name\":\"echo\"\x7d]\x7d\x7d" := by
  intro route query action g request
  have hcontract : CompletionContract route := completionContract (by decide)
  have hsome : route.payload? query ≠ none := by
    rw [ne_eq, hcontract.payload?_eq_none_iff]
    decide
  obtain ⟨payload, hpayload⟩ := Option.ne_none_iff_exists'.mp hsome
  have hforwards := hcontract.forwards query payload hpayload
  have hasks : ∃ payload, g.AsksFor request route .v1 payload := by
    have hroute : g.route? request = some (.api false (.autocomplete route), []) := by
      decide +kernel
    have htyped : route.payload? (queryParams request.target.query) ≠ none := by
      rw [ne_eq, hcontract.payload?_eq_none_iff]
      decide +kernel
    obtain ⟨payload, hpayload⟩ := Option.ne_none_iff_exists'.mp htyped
    exact ⟨payload, ⟨_, _, .intro false [] ⟨none, ""⟩ rfl hroute rfl rfl rfl⟩, hpayload⟩
  obtain ⟨payload', hasks⟩ := hasks
  obtain ⟨hstatus, hbody⟩ :=
    hcontract.of_result g request .v1 payload' hasks (.strs ["eco", "echo"]) rfl
  refine ⟨⟨payload, hpayload, hforwards.typed, hforwards.limit, ?_, ?_⟩, ?_, ?_, hstatus,
    (hbody (by decide)).trans (by decide +kernel)⟩
  · exact hforwards.ifPresent "vocabulary_id" (by decide)
  · exact hforwards.others "user" (by decide) (by decide) (by decide)
  · calc route.payload? query
      _ = route.payload? (query.dropLast) :=
        hcontract.payload?_of_repeated query.dropLast [] ("incomplete", "x") (by decide)
      _ = route.payload? (query.take 3) :=
        hcontract.payload?_of_repeated (query.take 3) [] ("vocabulary_id", "v1") (by decide)
      _ = route.payload? [("vocabulary_id", ""), ("incomplete", "ec")] :=
        hcontract.payload?_of_others _ _ (by decide)
  · exact (hcontract.candidates?_of_ne_arr "Name" rfl (.str "eco") (fun _ h => nomatch h)).2

end Autocomplete

end ActionGateway
