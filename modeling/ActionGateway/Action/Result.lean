import ActionGateway.ActionError
import ActionGateway.Identity
import ActionGateway.Payload

/-!
# Results of actions

What an action computed, before it becomes JSON. Most values have a JSON form; an integer that no
JSON number holds has none, nor has a map whose keys are neither texts nor scalars.
-/

namespace ActionGateway

/-- A key of a map. -/
inductive ResultKey
  | int (n : Int)
  | bool (b : Bool)
  | list (items : List String)
  deriving DecidableEq, Repr

/-- The name that a key becomes; a list becomes none. -/
def ResultKey.name? : ResultKey → Option String
  | int n => some (toString n)
  | bool true => some "true"
  | bool false => some "false"
  | list _ => none

/-- What an action computed. -/
inductive ResultValue
  | json (value : Json)
  | double (x : Binary64)
  | int (n : Int)
  | bytes (data : Bytes)
  /-- pairs of a key and a value; the last pair of a key counts -/
  | map (entries : List (ResultKey × Json))
  | payload (payload : Payload)
  | principal (principal : Principal)

namespace ResultValue

/-- The members of a map, if all its keys become names. -/
def members? : List (ResultKey × Json) → Option (List (String × Json))
  | [] => some []
  | (key, value) :: rest =>
    match key.name?, members? rest with
    | some name, some members => some ((name, value) :: members)
    | _, _ => none

/-- The JSON value of what an action computed. -/
def toJson : ResultValue → Except ActionError Json
  | json value => .ok value
  | double x => .ok (.ofBinary64 x)
  | int n =>
    match Json.int? n with
    | some value => .ok value
    | none => .error (.internal "number out of range")
  | bytes data => .ok (.arr (data.map fun b => .ofNat b.toNat))
  | map entries =>
    match members? entries with
    | some members => .ok (.object members)
    | none => .error (.internal "key must be a string")
  | payload p => .ok p.toJson
  | principal p => .ok p.toJson

end ResultValue

end ActionGateway
