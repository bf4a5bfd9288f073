import ActionGateway.Proofs.Routing

/-!
# Links to documentation

Every envelope links to the documentation of its action. The link is made by one part of the
gateway, and read by others: it is split at the question mark, its path is looked up in the table of
routes, its query is decoded, and the action that it leads to looks the name up in its registry.
Here these parts are put together. A request for a link **shows help** (`Gateway.ShowsHelp`): it
runs `help_show` at the version, and once, on the name from which the link was made, whatever
characters the name has. No link serves two names or two versions (`SiteConfig.helpUrl_injective`).

The name is any text. It may hold separators of paths and queries, percent signs, blanks and letters
outside ASCII; what the encoding makes of it holds none of the characters at which a link is split.
The path before it is the one of `help_show` at the version, below a base path of plain segments
(`PlainPath`).
-/

namespace ActionGateway

/-! ## What links are made of

A link is the address of the site, the path of `help_show`, and a query with one parameter. Reading
it is splitting it at the first question mark, which is the one that was written, because the path
holds none and the encoding leaves none in the name. -/

namespace SiteConfig

/-- The part of a link that follows the address of the site. -/
def helpLink (config : SiteConfig) (version : ApiVersion) (name : String) : String :=
  Route.actionPath config.basePath version "help_show" ++ "?" ++
    (UrlEncoded.encode "name" ++ "=" ++ UrlEncoded.encode name)

/-- The address of the site is followed by a path and a query. A client that is at the site sends
these two alone. -/
theorem helpUrl_eq (config : SiteConfig) (version : ApiVersion) (name : String) :
    config.helpUrl version name =
      withoutTrailingSlashes config.siteUrl ++ config.helpLink version name := by
  have hparameter : "/action/help_show?name=" =
      "/action/" ++ "help_show" ++ "?" ++ (UrlEncoded.encode "name" ++ "=") := by
    decide
  simp only [helpUrl, helpLink, Route.actionPath, hparameter, String.append_assoc]

/-- **A link is read as its path and the name, encoded.** No byte of an encoded name is taken for
the beginning of a query or of a fragment. -/
theorem parse_helpLink {config : SiteConfig} (hbase : PlainPath config.basePath)
    (version : ApiVersion) (name : String) :
    Target.parse (config.helpLink version name) =
      ⟨Route.actionPath config.basePath version "help_show",
        some (UrlEncoded.encode "name" ++ "=" ++ UrlEncoded.encode name)⟩ := by
  have hencoded (s : String) : '#' ∉ (UrlEncoded.encode s).toList := fun hmem =>
    (UrlEncoded.not_separator_of_mem_encode hmem).1 (by decide)
  have hquery : '#' ∉ (UrlEncoded.encode "name" ++ "=" ++ UrlEncoded.encode name).toList := by
    rw [String.toList_append, String.toList_append, List.mem_append, List.mem_append, not_or,
      not_or]
    exact ⟨⟨hencoded "name", by decide⟩, hencoded name⟩
  have hlink : config.helpLink version name =
      String.ofList ((Route.actionPath config.basePath version "help_show").toList ++ '?' ::
        (UrlEncoded.encode "name" ++ "=" ++ UrlEncoded.encode name).toList) := by
    apply String.toList_inj.mp
    simp [helpLink]
  rw [hlink, Target.parse_of_path (Route.head?_actionPath hbase version "help_show")
    (Route.not_mem_actionPath hbase version (.inl rfl) (by decide))
    (Route.not_mem_actionPath hbase version (.inr rfl) (by decide)) hquery,
    String.ofList_toList, String.ofList_toList]

/-- **No link serves two names or two versions.** From the front the links agree up to the version,
which ends at a slash; what is left is the encoded name. -/
theorem helpUrl_injective {config : SiteConfig} {version other : ApiVersion}
    {name otherName : String} (h : config.helpUrl version name = config.helpUrl other otherName) :
    version = other ∧ name = otherName := by
  have hshape (version : ApiVersion) (name : String) : (config.helpUrl version name).toList =
      (withoutTrailingSlashes config.siteUrl).toList ++ config.basePath.toList ++ '/' ::
        (version.text.toList ++ '/' ::
          ("action/help_show?name=".toList ++ (UrlEncoded.encode name).toList)) := by
    simp [helpUrl]
  -- behind what all links share the version ends at the first slash
  have hchars := congrArg String.toList h
  rw [hshape, hshape, List.append_cancel_left_eq, List.cons.injEq] at hchars
  have hslash (v : ApiVersion) : '/' ∉ v.text.toList := ApiVersion.not_mem_text (by decide) v
  obtain ⟨hversion, hrest⟩ :=
    Text.eq_of_append_separator (hslash version) (hslash other) hchars.2
  rw [List.append_cancel_left_eq] at hrest
  exact ⟨ApiVersion.text_injective (String.toList_inj.mp hversion),
    UrlEncoded.encode_injective (String.toList_inj.mp hrest)⟩

end SiteConfig

/-! ## Requests that only get

A client that follows a link sends a request without a body, and with headers of its own. The two
headers that say of a body what kind it is and how long are not among them. -/

/-- A request that gets a target, and has no body. -/
def Request.get (target : Target) (headers : Headers) : Request :=
  ⟨.get, target, headers, []⟩

/-- A request that declares no kind of body brings its query and nothing else. -/
theorem Call.read_get {target : Target} {headers : Headers}
    (hkind : headers.first? "content-type" = none) (limit : Nat) :
    Call.read (some limit) (.get target headers) =
      .ok { Call.new .get with query := queryParams target.query } := by
  have hhead : Call.ofHead (.get target headers) =
      { Call.new .get with query := queryParams target.query } := by
    rw [Call.ofHead, Request.get, hkind]
    rfl
  rw [Call.read, hhead]
  rfl

/-- A request that declares no length is within the limit of the gateway. -/
theorem Gateway.bodyLimit?_get {g : Gateway} {target : Target} {headers : Headers}
    (hlength : headers.first? "content-length" = none) :
    g.bodyLimit? (.get target headers) = some g.network.maxBodyBytes := by
  have hnone : declaredLength? (.get target headers) = none := by
    rw [declaredLength?, Request.get, hlength]
    rfl
  rw [bodyLimit?, hnone]

/-! ## Showing help

The request is followed through the gateway: the route of the path (`Gateway.reaches_actionPath`),
the call that is read, its payload, the one invocation, what `help_show` makes of it, and the
framing of the answer. Each step has a lemma about the name alone; they are put together in
`Gateway.respond_helpLink`. -/

/-- The payload with a name and nothing else. -/
def Payload.named (name : String) : Payload :=
  NameMap.empty.insert "name" (.text name)

/-- The gateway's own action is found where nothing has taken its name since. -/
theorem Registry.find?_registerBuiltins (registry : Registry) (config : SiteConfig) :
    (registry.registerBuiltins config).find? "help_show" = some Builtins.helpShow := by
  have hstatus : (Builtins.statusShow config).name ≠ "help_show" :=
    show "status_show" ≠ "help_show" by decide
  rw [registerBuiltins, register, NameMap.find?_insert, if_neg hstatus, register,
    NameMap.find?_insert]
  exact if_pos rfl

/-- The documentation of the action of a name. -/
def Registry.documentation? (registry : Registry) (name : String) : Option String :=
  (registry.find? name).bind Action.help

/-- A request shows the help of the action of a name, at a version. What comes back is said of the
whole response: its status and its body, which is an envelope of `help_show` and links to the
documentation of that action. -/
structure Gateway.ShowsHelp (g : Gateway) (version : ApiVersion) (name : String)
    (request : Request) : Prop where
  /-- the built-in action runs, once, and on the name alone -/
  runs : (g.respond request).invocations =
    [⟨Builtins.helpShow, .new (g.tokens.resolve request.headers) version, .named name⟩]
  /-- where there is documentation, it is the result -/
  documented : ∀ text, g.service.registry.documentation? name = some text →
    (g.respond request).value.status = 200 ∧
      (g.respond request).value.body =
        (Envelope.success (some (g.config.helpUrl version "help_show")) (.str text)).toJson.text
  /-- where there is none, the answer says so -/
  undocumented : g.service.registry.documentation? name = none →
    (g.respond request).value.status = 404 ∧
      ∃ message, (g.respond request).value.body =
        (Envelope.failure (some (g.config.helpUrl version "help_show"))
          (.new "Not Found Error" message)).toJson.text

/-- The query of a link names what it was made for. -/
theorem queryParams_helpLink (name : String) :
    queryParams (some (UrlEncoded.encode "name" ++ "=" ++ UrlEncoded.encode name)) =
      [("name", name)] :=
  UrlEncoded.parse_pair "name" name

/-- A call that only gets a name has it as its payload. -/
theorem Call.payload_named (name : String) :
    { Call.new .get with query := [("name", name)] }.payload true = .ok (.named name) := by
  refine payload_eq_ok_iff.mpr ⟨.inl rfl, .named name, ?_, .inl rfl, rfl⟩
  rw [source_of_retrieval rfl (List.cons_ne_nil _ _), parseSource, Payload.named,
    Params.toPayload_singleton]

/-- With that payload there is no callback, so the caller stays who it is. -/
theorem Service.invocation_named (action : Action) (version : ApiVersion) (caller : Identity)
    (name : String) :
    invocation action version caller (.named name) =
      ⟨action, .new caller version, .named name⟩ := by
  -- the one field is not that of a callback, whatever its value is
  have hcontains : (Payload.named name).contains callbackField = false := by
    rw [NameMap.contains, Payload.named, NameMap.find?_insert]
    rfl
  have herase : (Payload.named name).erase callbackField = Payload.named name := by
    refine NameMap.ext_find? fun other => ?_
    rw [NameMap.find?_erase]
    split
    next h =>
      subst h
      rw [Payload.named, NameMap.find?_insert]
      rfl
    next => rfl
  rw [invocation, hcontains, herase]
  rfl

/-- The built-in action does not look at who calls it. -/
theorem Builtins.invoke_helpShow (registry : Option Registry) (context : CallContext)
    (payload : Payload) :
    helpShow.invoke registry context payload = outcome (help registry payload) := rfl

/-- The documentation is what is shown, and if there is none nothing is found. -/
theorem Builtins.help_named (registry : Registry) (name : String) :
    (∃ text, registry.documentation? name = some text ∧
        help (some registry) (.named name) = .ok (.str text)) ∨
      registry.documentation? name = none ∧
        ∃ cause, help (some registry) (.named name) = .error (.notFound (some cause)) := by
  have hname : (Payload.named name).str? "name" = some name := by
    rw [Payload.str?, Payload.named, NameMap.find?_insert]
    rfl
  -- there may be no action of the name, or one without documentation
  rcases hfind : registry.find? name with _ | action
  · refine .inr ⟨?_, "Action function not found", by simp only [help, hname, hfind]⟩
    rw [Registry.documentation?, hfind]
    rfl
  · rcases htext : action.help with _ | text
    · refine .inr ⟨?_, "Action has no documentation", by simp only [help, hname, hfind, htext]⟩
      rw [Registry.documentation?, hfind, Option.bind_some, htext]
    · refine .inl ⟨text, ?_, by simp only [help, hname, hfind, htext]⟩
      rw [Registry.documentation?, hfind, Option.bind_some, htext]

section

variable {g : Gateway} {version : ApiVersion} {headers : Headers}
  (hbase : PlainPath g.config.basePath)
  (hbuiltin : g.service.registry.find? "help_show" = some Builtins.helpShow)
  (hleast : 3 ≤ version.number) (hgreatest : version.number ≤ g.config.maxVersion.number)
  (hkind : headers.first? "content-type" = none)
  (hlength : headers.first? "content-length" = none)

include hbase hbuiltin hleast hgreatest hkind hlength

/-- **The request for a link is answered by `help_show`**, in an envelope of its own. The link leads
through the target, the table and the query to the invocation that is shown here. -/
theorem Gateway.respond_helpLink (name : String) :
    let request := Request.get (.parse (g.config.helpLink version name)) headers
    let invocation : Invocation :=
      ⟨Builtins.helpShow, .new (g.tokens.resolve headers) version, .named name⟩
    g.respond request = (g.service.perform invocation).map fun outcome =>
      let answer := Service.answer (g.config.helpUrl version "help_show") invocation outcome
      g.dressed request (Framing.plain.envelope answer.status answer.envelope) := by
  intro request invocation
  -- the target of the request is the link as it is read
  have htarget : request.target =
      ⟨Route.actionPath g.config.basePath version "help_show",
        some (UrlEncoded.encode "name" ++ "=" ++ UrlEncoded.encode name)⟩ :=
    SiteConfig.parse_helpLink hbase version name
  -- it leads to the built-in action, at the version of the link
  have hreaches : g.Reaches request .action g.network.maxBodyBytes version "help_show" :=
    reaches_actionPath hbase hleast hgreatest (by decide) (by decide) (by decide)
      (congrArg Target.path htarget) rfl (bodyLimit?_get hlength)
  -- and brings the name, decoded
  have hread : Call.read (some g.network.maxBodyBytes) request =
      .ok { Call.new .get with query := [("name", name)] } := by
    rw [Call.read_get hkind, ← queryParams_helpLink]
    exact congrArg
      (fun target => Except.ok { Call.new .get with query := queryParams target.query }) htarget
  have hframing : Framing.ofQuery request.method request.target.query = .plain := by
    rw [htarget, Framing.ofQuery, queryParams_helpLink]
    rfl
  have hanswer : g.service.answerRequest (some g.network.maxBodyBytes) "help_show" version
      (g.tokens.resolve headers) request =
        (g.service.perform invocation).map
          (Service.answer (g.config.helpUrl version "help_show") invocation) := by
    rw [Service.answerRequest_of_read hread,
      Service.call_of_payload hbuiltin (Call.payload_named name), Service.invocation_named]
    rfl
  have hserve : g.serveEndpoint (some g.network.maxBodyBytes) version "help_show" request .action =
      (g.service.answerRequest (some g.network.maxBodyBytes) "help_show" version
        (g.tokens.resolve headers) request).map fun answer =>
          Framing.plain.envelope answer.status answer.envelope := by
    rw [← hframing]
    rfl
  rw [respond_of_reaches hreaches, hserve, hanswer]
  rfl

/-- **A request for a link shows the help of the action that the link was made for.** -/
theorem Gateway.showsHelp_helpLink (name : String) :
    g.ShowsHelp version name (.get (.parse (g.config.helpLink version name)) headers) := by
  have hrespond := respond_helpLink hbase hbuiltin hleast hgreatest hkind hlength name
  have hget : (Request.get (.parse (g.config.helpLink version name)) headers).method ≠ .head :=
    show Method.get ≠ .head by decide
  have hvalue {result : Except ActionError Json}
      (hresult : Builtins.help (some g.service.registry) (.named name) = result) :
      (g.respond (.get (.parse (g.config.helpLink version name)) headers)).value =
        let answer := Service.answer (g.config.helpUrl version "help_show")
          ⟨Builtins.helpShow, .new (g.tokens.resolve headers) version, .named name⟩
          (Builtins.outcome result)
        g.dressed (.get (.parse (g.config.helpLink version name)) headers)
          (Framing.plain.envelope answer.status answer.envelope) := by
    subst hresult
    rw [hrespond, Traced.value_map, Service.value_perform, Builtins.invoke_helpShow]
  constructor
  case runs =>
    rw [hrespond]
    rfl
  case documented =>
    intro text htext
    rcases Builtins.help_named g.service.registry name with ⟨shown, hshown, hhelp⟩ | ⟨hnone, -⟩
    · obtain rfl : shown = text := Option.some.inj (hshown.symm.trans htext)
      rw [hvalue hhelp, status_dressed, body_dressed hget]
      exact ⟨rfl, rfl⟩
    · rw [hnone] at htext
      cases htext
  case undocumented =>
    intro hnone
    rcases Builtins.help_named g.service.registry name with ⟨shown, hshown, -⟩ | ⟨-, cause, hhelp⟩
    · rw [hnone] at hshown
      cases hshown
    · rw [hvalue hhelp, status_dressed, body_dressed hget]
      exact ⟨rfl, _, rfl⟩

end

/-- **Every link to documentation works**: what follows the address of the site shows the help of
the action that the link was made for, and no other link of the site is the same. -/
theorem Gateway.help_links_work {g : Gateway} (hbase : PlainPath g.config.basePath)
    (hbuiltin : g.service.registry.find? "help_show" = some Builtins.helpShow)
    {version : ApiVersion} (hleast : 3 ≤ version.number)
    (hgreatest : version.number ≤ g.config.maxVersion.number) (name : String) {headers : Headers}
    (hkind : headers.first? "content-type" = none)
    (hlength : headers.first? "content-length" = none) :
    ∃ link,
      g.config.helpUrl version name = SiteConfig.withoutTrailingSlashes g.config.siteUrl ++ link ∧
        g.ShowsHelp version name (.get (.parse link) headers) ∧
        ∀ other otherName, g.config.helpUrl other otherName = g.config.helpUrl version name →
          other = version ∧ otherName = name :=
  ⟨g.config.helpLink version name, g.config.helpUrl_eq version name,
    showsHelp_helpLink hbase hbuiltin hleast hgreatest hkind hlength name,
    fun _ _ => SiteConfig.helpUrl_injective⟩

/-- A site with slashes to spare, and a name that needs all kinds of escapes. -/
theorem Gateway.help_links_work_escaped :
    let config : SiteConfig :=
      { SiteConfig.default with siteUrl := "http://localhost:5000//", apiPrefix := "/my/api/" }
    let g : Gateway := .offering ⟨Registry.registerBuiltins .empty config, config⟩ .empty
    let name := "r&d = 100 % ü"
    ∃ link,
      g.config.helpUrl .v3 name = SiteConfig.withoutTrailingSlashes g.config.siteUrl ++ link ∧
        g.ShowsHelp .v3 name (.get (.parse link) []) ∧
        ∀ other otherName, g.config.helpUrl other otherName = g.config.helpUrl .v3 name →
          other = .v3 ∧ otherName = name := by
  intro config g name
  have hbase : PlainPath g.config.basePath := by
    refine ⟨["my", "api"], ?_, by decide +kernel⟩
    simp [PlainSegment]
  have hbuiltin : g.service.registry.find? "help_show" = some Builtins.helpShow :=
    Registry.find?_registerBuiltins .empty config
  exact help_links_work hbase hbuiltin (by decide) (by decide) name rfl rfl

end ActionGateway
