import ActionGateway.Autocomplete
import ActionGateway.Http.Message
import ActionGateway.Network.PathPattern

/-!
# Routes

A path leads to one of three looks at the health of the server, or below the path of the API to an
**endpoint**: the root, an action, the translations of a locale, or a route for completions. In
front of the endpoint a segment may name a version. Which route a path leads to is a matter of
**patterns**; the parameters of a pattern are kept as they are in the path until the request is
handled.

The path of the API may have parameters of its own. They count as parameters of every route below
it, and no route has a use for them: a route that needs values is not served if the path gives more
of them than it needs.
-/

namespace ActionGateway

/-! ## Endpoints -/

/-- What lies below the path of the API. -/
inductive Endpoint
  | root
  | action
  | translations
  | autocomplete (route : Autocomplete)
  deriving DecidableEq, Repr

/-- What a path can lead to. -/
inductive Route
  | health
  /-- whether the process answers at all -/
  | alive
  /-- whether the server takes calls -/
  | readiness
  | api (versioned : Bool) (endpoint : Endpoint)
  deriving DecidableEq, Repr

namespace Endpoint

/-- The endpoints that have a path of their own. -/
def belowRoot : List Endpoint :=
  [action, translations] ++ Autocomplete.routes.map autocomplete

/-- The parameter that says which action or which locale is asked for. -/
def parameter? : Endpoint → Option String
  | action => some "name"
  | translations => some "lang"
  | _ => none

/-- The pattern of the endpoint below the API or below a version. -/
def pattern : Endpoint → PathPattern
  | root => []
  | action => PathPattern.text "/action/" ++ [.parameter "name"]
  | translations => PathPattern.text "/i18n/" ++ [.parameter "lang"]
  | autocomplete route => .text ("/util/" ++ route.pathText)

/-- The least version that the endpoint has. -/
def leastVersion : Endpoint → Nat
  | action => 3
  | _ => 1

/-- The greatest version that the endpoint has. -/
def greatestVersion (config : SiteConfig) : Endpoint → Nat
  | root => config.maxVersion.number
  | action => config.maxVersion.number
  | translations => Autocomplete.maxVersion
  | autocomplete _ => Autocomplete.maxVersion

/-- The version of the endpoint where the path names none. -/
def ownVersion (config : SiteConfig) : Endpoint → ApiVersion
  | action => config.defaultVersion
  | _ => .v1

/-- The version that a path asks for, if the endpoint has it. -/
def version? (config : SiteConfig) (endpoint : Endpoint) : Option String → Option ApiVersion
  | none => some (endpoint.ownVersion config)
  | some segment =>
    ApiVersion.parseWithin segment endpoint.leastVersion (endpoint.greatestVersion config)

end Endpoint

namespace Route

/-! ## The table

The table is searched from its beginning for the first pattern that fits. The path of the API is
configured as text, and is read as a pattern like those below it. -/

/-- The routes of the API with their patterns; `base` is the pattern of its path. The root answers
at that path, unless it is empty, and at the same with a slash after it. -/
def apiTable (base : PathPattern) : List (PathPattern × Route) :=
  (if base.isEmpty then [] else [(base, api false .root)]) ++
    (base ++ PathPattern.text "/", api false .root) ::
    (Endpoint.belowRoot.map fun endpoint => (base ++ endpoint.pattern, api false endpoint)) ++
    (Endpoint.root :: Endpoint.belowRoot).map fun endpoint =>
      (base ++ PathPattern.text "/" ++ .parameter "ver" :: endpoint.pattern, api true endpoint)

/-- All routes with their patterns. A path that is health's own is never one of the API, even where
a pattern of the API fits it; no two patterns of the API fit one path. -/
def table (base : PathPattern) : List (PathPattern × Route) :=
  [(PathPattern.text "/health", health), (PathPattern.text "/health/live", alive),
    (PathPattern.text "/health/ready", readiness)] ++ apiTable base

/-- The route of a path, and what the parameters of its pattern take of the path; `base` is the
written form of the pattern of the path of the API. -/
def find? (base path : String) : Option (Route × List (String × String)) :=
  (table (PathPattern.read base)).findSome? fun (pattern, route) =>
    (pattern.match? path.toList).map fun found => (route, found)

/-- The methods that the route serves, as the header lists them. -/
def allow : Route → String
  | api _ .action => "GET,HEAD,POST"
  | _ => "GET,HEAD"

/-- Whether the route serves a method. -/
def serves (route : Route) : Method → Bool
  | .get => true
  | .head => true
  | .post =>
    match route with
    | api _ .action => true
    | _ => false
  | _ => false

/-! ## Values

What the patterns found is decoded only when the request is handled, so a parameter that is no text
is a fault of the request and not a path that leads nowhere. -/

/-- The parameters that the route has a use for. -/
def parameters : Route → List String
  | api versioned endpoint =>
    (if versioned then ["ver"] else []) ++ endpoint.parameter?.toList
  | _ => []

/-- What a path gives to the parameters of its route. -/
structure Values where
  version : Option String
  /-- the name of the action, or the locale; of no account where the endpoint has neither -/
  subject : String
  deriving DecidableEq, Repr

/-- Why a path has no values for its route. -/
inductive ValuesFault
  /-- what the parameter takes of the path is no text -/
  | notText (parameter : String)
  | wrongCount (expected found : Nat)
  deriving DecidableEq, Repr

/-- The text of a fault, with which the request is answered. -/
def ValuesFault.message : ValuesFault → String
  | notText parameter => "Invalid URL: Invalid UTF-8 in \x60" ++ parameter ++ "\x60"
  | wrongCount expected found =>
    "Wrong number of path arguments for \x60Path\x60. Expected " ++ toString expected ++
      " but got " ++ toString found ++
      (if expected = 1 then
        ". Note that multiple parameters must be extracted with a tuple \x60Path<(_, _)>\x60" ++
          " or a struct \x60Path<YourParams>\x60"
      else "")

/-- The status of the answer: a text that cannot be read is the fault of the caller, a wrong count
that of the configuration. -/
def ValuesFault.status : ValuesFault → Nat
  | notText _ => 400
  | wrongCount _ _ => 500

/-- The texts that parts of a path stand for, in order. -/
def decodeAll : List (String × String) → Except ValuesFault (List String)
  | [] => .ok []
  | (name, part) :: rest =>
    match Utf8.decode? (UrlEncoded.percentDecode (Utf8.encode part)) with
    | none => .error (.notText name)
    | some text => (decodeAll rest).map (text :: ·)

/-- The values of the parameters of a route, by what its pattern found in the path. A route that
needs no values does not look at them. -/
def values (route : Route) (found : List (String × String)) : Except ValuesFault Values :=
  if route.parameters.isEmpty then .ok ⟨none, ""⟩
  else
    match decodeAll found with
    | .error fault => .error fault
    | .ok texts =>
      if texts.length = route.parameters.length then
        -- The version comes first in a path and what the endpoint asks for last.
        .ok ⟨if route.parameters.contains "ver" then texts.head? else none, texts.getLastD ""⟩
      else .error (.wrongCount route.parameters.length texts.length)

end Route

end ActionGateway
