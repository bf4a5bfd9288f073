import ActionGateway.Json.Basic

/-!
# Errors of actions

An action that fails says why in one of nine ways. The kind alone decides how the failure is
answered; the rest is detail.
-/

namespace ActionGateway

/-- The category of a failure. -/
inductive ErrorKind
  /-- the payload is no well-formed object of the domain -/
  | integrity
  | notAuthorized
  | notFound
  /-- some fields are not valid -/
  | validation
  /-- the search backend refused the query -/
  | searchQuery
  | search
  /-- the search index could not be written -/
  | searchIndex
  /-- the search backend could not be reached -/
  | searchConnection
  | internal
  deriving DecidableEq, Repr

/-- Why an action failed. Only the errors of fields and the texts that a kind gives to its caller
are shown outside; the text of `internal` is for logs alone. -/
inductive ActionError
  | integrity (message : String)
  | notAuthorized (cause : Option String)
  | notFound (cause : Option String)
  | validation (errors : NameMap Json)
  | searchQuery (detail : String)
  | search (detail : String)
  | searchIndex (detail : String)
  | searchConnection
  | internal (message : String)

namespace ActionError

/-- The category of an error. -/
def kind : ActionError → ErrorKind
  | integrity _ => .integrity
  | notAuthorized _ => .notAuthorized
  | notFound _ => .notFound
  | validation _ => .validation
  | searchQuery _ => .searchQuery
  | search _ => .search
  | searchIndex _ => .searchIndex
  | searchConnection => .searchConnection
  | internal _ => .internal

/-- A cause after a colon, if there is one. -/
def causeSuffix : Option String → String
  | none => ""
  | some cause => ": " ++ cause

/-- The message for logs. What callers see is composed from the error by the taxonomy. -/
def message : ActionError → String
  | integrity m => "integrity error: " ++ m
  | notAuthorized cause => "not authorized" ++ causeSuffix cause
  | notFound cause => "not found" ++ causeSuffix cause
  | validation errors => "validation failed on " ++ toString errors.size ++ " field(s)"
  | searchQuery d => "search query is invalid: " ++ d
  | search d => "search error: " ++ d
  | searchIndex d => "search index error: " ++ d
  | searchConnection => "unable to connect to the search server"
  | internal m => "internal error: " ++ m

end ActionError

end ActionGateway
