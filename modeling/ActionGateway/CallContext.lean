import ActionGateway.ApiVersion
import ActionGateway.Identity
import ActionGateway.NameMap

/-!
# Contexts of calls

What an action is given beside its payload: who calls, at which version, and a place where it
reports the entities that it changed. The report holds, for each type of entity, the set of the
identifiers recorded for it, so neither the order nor the repetition of the records shows.
-/

namespace ActionGateway

/-- The entities that an action created, changed or removed: for each type a set of identifiers. -/
abbrev ChangedEntities := NameMap (NameMap Unit)

namespace ChangedEntities

/-- The report with one more entity. -/
def add (changed : ChangedEntities) (entityType id : String) : ChangedEntities :=
  changed.insert entityType (((changed.find? entityType).getD .empty).insert id ())

/-- The report with one more entity for each pair of a type and an identifier. -/
def addAll (changed : ChangedEntities) (changes : List (String × String)) : ChangedEntities :=
  changes.foldl (fun changed change => changed.add change.1 change.2) changed

/-- For each type the ascending list of its identifiers. -/
def toLists (changed : ChangedEntities) : NameMap (List String) :=
  changed.map NameMap.names

end ChangedEntities

/-- The context of one call. -/
structure CallContext where
  identity : Identity
  apiVersion : ApiVersion
  /-- what the action has reported so far -/
  changedEntities : ChangedEntities
  deriving DecidableEq

namespace CallContext

/-- The context in which nothing has been reported yet. -/
def new (identity : Identity) (apiVersion : ApiVersion) : CallContext :=
  ⟨identity, apiVersion, .empty⟩

/-- The context without the caller's identity. -/
def anonymized (context : CallContext) : CallContext :=
  { context with identity := .anonymous }

/-- The context after a change is reported. -/
def report (context : CallContext) (entityType id : String) : CallContext :=
  { context with changedEntities := context.changedEntities.add entityType id }

/-- The context after changes are reported, one after the other. -/
def reportAll (context : CallContext) (changes : List (String × String)) : CallContext :=
  { context with changedEntities := context.changedEntities.addAll changes }

end CallContext

end ActionGateway
