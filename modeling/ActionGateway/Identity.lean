import ActionGateway.Json.Printer

/-!
# Callers

Who makes a call: nobody in particular, or a principal. The identity is handed to every call and
there is no other way to find out who is calling.
-/

namespace ActionGateway

/-- An authenticated caller. -/
structure Principal where
  /-- the account name -/
  name : String
  roles : List String
  deriving DecidableEq, Repr

namespace Principal

/-- The principal with a name and no roles. -/
def named (name : String) : Principal :=
  ⟨name, []⟩

/-- The principal as JSON. -/
def toJson (p : Principal) : Json :=
  .obj [("name", .str p.name), ("roles", .strs p.roles)]

/-- The text that the principal is written out as. -/
def text (p : Principal) : String :=
  p.toJson.text

end Principal

/-- Who makes a call. What cannot be proved to be somebody is `anonymous`. -/
inductive Identity
  | anonymous
  | authenticated (principal : Principal)
  deriving DecidableEq, Repr

namespace Identity

/-- Whether nobody in particular is calling. -/
def isAnonymous : Identity → Bool
  | anonymous => true
  | authenticated _ => false

/-- The principal who is calling, if there is one. -/
def principal? : Identity → Option Principal
  | anonymous => none
  | authenticated p => some p

/-- The account name, which is empty for anonymous callers. -/
def userName : Identity → String
  | anonymous => ""
  | authenticated p => p.name

end Identity

end ActionGateway
