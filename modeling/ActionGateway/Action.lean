import ActionGateway.ActionError
import ActionGateway.CallContext
import ActionGateway.Payload
import ActionGateway.SiteConfig

/-!
# Actions and their registry

An action is a named piece of the site's work. What it does is a function of the context and the
payload that it is given, and its **outcome** is the changes that it reported and its result. Two
kinds of action belong to the gateway itself and answer from the registry in which they stand; what
they do is said where they are defined.

A registry holds actions by name. Registering an action under a name that is taken replaces the
action that had it.
-/

namespace ActionGateway

/-- What came of running an action. -/
structure Outcome where
  /-- the changes that were reported, a type and an identifier each, in order -/
  changes : List (String × String)
  result : Except ActionError Json

/-- What an action does: a function, for the actions of the site, or one of the two that belong to
the gateway. -/
inductive Behaviour
  | run (run : CallContext → Payload → Outcome)
  /-- shows the documentation of an action of the registry -/
  | showHelp
  /-- shows what site this is -/
  | showStatus (config : SiteConfig)

/-- An action, with what has to be known of it before it runs. -/
structure Action where
  name : String
  /-- the action has no side effects, and may take its input from a query -/
  readOnly : Bool
  /-- the documentation -/
  help : Option String
  behaviour : Behaviour

/-- Actions by name. -/
abbrev Registry := NameMap Action

namespace Registry

/-- The registry with one more action, under its own name. -/
def register (registry : Registry) (action : Action) : Registry :=
  registry.insert action.name action

end Registry

end ActionGateway
