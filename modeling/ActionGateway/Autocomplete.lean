import ActionGateway.Service
import ActionGateway.Text.Quoted

/-!
# Autocompletion

Widgets that complete what a user types ask for candidates by route: each route reads a few
parameters of the query, runs one action on them, and hands its result on in the shape that the
widget expects. As long as nothing has been typed there are no candidates, and no action runs.
-/

namespace ActionGateway

/-! ## Shapes and parameters -/

/-- The shape in which candidates are handed on. -/
inductive CandidateShape
  /-- in a result set -/
  | resultSet
  /-- in a result set, each one as the only member of an object -/
  | resultSetOf (field : String)
  /-- as the action gives them -/
  | plain
  deriving DecidableEq, Repr

/-- A parameter that is handed to the action if it is there. -/
inductive ExtraParam
  /-- left out when it is empty -/
  | ifPresent (name : String)
  /-- false when it is missing -/
  | flag (name : String)
  deriving DecidableEq, Repr

/-- A route for completions. -/
structure Autocomplete where
  /-- the segments of the path below that of all such routes -/
  path : List String
  action : String
  /-- the parameter with what has been typed -/
  typed : String
  /-- how many candidates are asked for where the query does not say -/
  defaultLimit : Nat
  extras : List ExtraParam
  shape : CandidateShape
  deriving DecidableEq, Repr

namespace CandidateShape

def describe : CandidateShape → String
  | resultSet => "ResultSet"
  | resultSetOf field => "ResultSetOf(" ++ Text.quoted field ++ ")"
  | plain => "Plain"

/-- A list of candidates as a result set. -/
def wrap (items : Json) : Json :=
  .obj [("ResultSet", .obj [("Result", items)])]

/-- Candidates, each as the only member of an object; what is no list counts as one candidate. -/
def keyed (field : String) : Json → Json
  | .arr items => .arr (items.map fun item => .obj [(field, item)])
  | item => .arr [.obj [(field, item)]]

/-- Candidates in the shape. -/
def apply (items : Json) : CandidateShape → Json
  | plain => items
  | resultSet => wrap items
  | resultSetOf field => wrap (keyed field items)

end CandidateShape

namespace ExtraParam

def describe : ExtraParam → String
  | ifPresent name => "IfPresent(" ++ Text.quoted name ++ ")"
  | flag name => "Flag(" ++ Text.quoted name ++ ")"

/-- The payload with the parameter, as the query gives it. -/
def addTo (query : Params) (payload : Payload) : ExtraParam → Payload
  | ifPresent name =>
    match query.first? name with
    | none => payload
    | some value => if value.isEmpty then payload else payload.insert name (.text value)
  | flag name =>
    match query.first? name with
    | none => payload.insert name (.json (.bool false))
    | some value => payload.insert name (.text value)

end ExtraParam

namespace Autocomplete

/-! ## Routes -/

/-- The routes there are. `package_autocomplete` answers for datasets, and every other action has
the name of its route. -/
def routes : List Autocomplete :=
  [⟨["dataset", "autocomplete"], "package_autocomplete", "incomplete", 10, [], .resultSet⟩,
   ⟨["user", "autocomplete"], "user_autocomplete", "q", 20, [.flag "ignore_self"], .plain⟩,
   ⟨["tag", "autocomplete"], "tag_autocomplete", "incomplete", 10, [.ifPresent "vocabulary_id"],
     .resultSetOf "Name"⟩,
   ⟨["group", "autocomplete"], "group_autocomplete", "q", 20, [], .plain⟩,
   ⟨["organization", "autocomplete"], "organization_autocomplete", "q", 20, [], .plain⟩,
   ⟨["resource", "format_autocomplete"], "format_autocomplete", "incomplete", 5, [],
     .resultSetOf "Format"⟩]

/-- The greatest version that the routes have. -/
def maxVersion : Nat := 2

/-- The path below that of all such routes. -/
def pathText (route : Autocomplete) : String :=
  "/".intercalate route.path

/-- The parameters of a route as they are shown in a listing of the routes. -/
def describeExtras (route : Autocomplete) : String :=
  "[" ++ ", ".intercalate (route.extras.map ExtraParam.describe) ++ "]"

/-- What has been typed, if anything. -/
def typed? (route : Autocomplete) (query : Params) : Option String :=
  match query.first? route.typed with
  | none => none
  | some text => if text.isEmpty then none else some text

/-- How many candidates are asked for. -/
def limit (route : Autocomplete) (query : Params) : FieldValue :=
  match query.first? "limit" with
  | none => .json (.ofNat route.defaultLimit)
  | some limit => .text limit

/-- The payload for the action, if anything has been typed. -/
def payload? (route : Autocomplete) (query : Params) : Option Payload :=
  (route.typed? query).map fun text =>
    let payload := (NameMap.empty.insert "q" (.text text)).insert "limit" (route.limit query)
    route.extras.foldl (ExtraParam.addTo query) payload

/-- Candidates in the shape of the route. -/
def shaped (route : Autocomplete) (items : Json) : Json :=
  route.shape.apply items

/-- The response that the result of the action gives. -/
def frameResult (route : Autocomplete) (framing : Framing) (payload : Payload) :
    Option (Except ActionError Json) → Response
  | none => framing.badRequest (some ("Action name not known: " ++ route.action))
  | some (.ok items) => framing.ok (.json (route.shaped items)) .json
  | some (.error error) =>
    let (status, record) := Taxonomy.classify error payload
    framing.envelope status (.failure none record)

/-- The response to a request for completions. The framing is that of any other request, so
candidates too can be handed to a callback. -/
def respond (route : Autocomplete) (service : Service) (version : ApiVersion) (caller : Identity)
    (request : Request) : Traced Response :=
  let framing := Framing.ofQuery request.method request.target.query
  match route.payload? (queryParams request.target.query) with
  | none => .pure (framing.ok (.json (route.shaped (.arr []))) .json)
  | some payload =>
    (service.invokeDirectly route.action version caller payload).map
      (route.frameResult framing payload)

end Autocomplete

end ActionGateway
