import ActionGateway.Action

/-!
# Actions of the gateway

`help_show` shows the documentation of an action, and `status_show` shows what site this is. Both
answer from the registry in which they stand, and fail when it is gone.
-/

namespace ActionGateway

namespace Builtins

/-! ## What they answer

Both take the registry as it is when they run. That it may be gone is part of how they are made: an
action does not keep the registry alive that it stands in. -/

/-- An outcome without changes. -/
def outcome (result : Except ActionError Json) : Outcome :=
  ⟨[], result⟩

/-- The failure when the registry is gone. -/
def registryGone : ActionError :=
  .internal "action registry dropped"

/-- The documentation of the action that the payload names. -/
def help (registry : Option Registry) (payload : Payload) : Except ActionError Json :=
  match payload.str? "name" with
  | none => .error (.validation (.ofList [("name", .strs ["Missing value"])]))
  | some name =>
    match registry with
    | none => .error registryGone
    | some registry =>
      match registry.find? name with
      | none => .error (.notFound (some "Action function not found"))
      | some action =>
        match action.help with
        | none => .error (.notFound (some "Action has no documentation"))
        | some text => .ok (.str text)

/-- The version of the gateway. -/
def gatewayVersion : String :=
  "0.1.0"

/-- What site this is, at the version of the call. -/
def status (registry : Option Registry) (config : SiteConfig) (context : CallContext) :
    Except ActionError Json :=
  match registry with
  | none => .error registryGone
  | some registry =>
    .ok <| .object
      [("site_url", .str config.siteUrl), ("site_title", .str config.siteTitle),
       ("gateway_version", .str gatewayVersion), ("api_version", .ofNat context.apiVersion.number),
       ("action_count", .ofNat registry.size)]

/-! ## How they are registered -/

/-- The action that shows documentation. The help of an envelope is an address that leads to it. -/
def helpShow : Action where
  name := "help_show"
  readOnly := true
  help := some <|
    "Return the help string for a particular API action.\n\n" ++
      ":param name: action name (e.g. \x60package_create\x60)"
  behaviour := .showHelp

/-- The action that shows what site this is. -/
def statusShow (config : SiteConfig) : Action where
  name := "status_show"
  readOnly := true
  help := some <|
    "Return basic information about the site: " ++
      "URL, title, gateway version and API version."
  behaviour := .showStatus config

end Builtins

/-- The registry with the actions of the gateway. -/
def Registry.registerBuiltins (registry : Registry) (config : SiteConfig) : Registry :=
  (registry.register Builtins.helpShow).register (Builtins.statusShow config)

/-- What comes of running an action. `registry` is the one in which the action stands, if it still
exists. -/
def Action.invoke (action : Action) (registry : Option Registry) (context : CallContext)
    (payload : Payload) : Outcome :=
  match action.behaviour with
  | .run run => run context payload
  | .showHelp => Builtins.outcome (Builtins.help registry payload)
  | .showStatus config => Builtins.outcome (Builtins.status registry config context)

end ActionGateway
