import Std.Data.HashMap
import ActionGateway.Payload

/-!
# Form parameters

Pairs of a name and a value in the order in which they came, from a query string or a form. A name
may come several times. Folding the pairs into a payload makes a text of a name that came once and
the list of its values, in their order, of one that came more often.

The pairs are **grouped** by name in one pass over them, which keeps for each name the slot of its
group. A name that is new gets the next slot, so the groups stand in the order in which their names
first came.
-/

namespace ActionGateway

/-- Pairs of a name and a value, in order. -/
abbrev Params := List (String × String)

/-! ## Grouping

Slots spare a pair the search for the group of its name. What a grouping holds is settled by its
groups; the slots only say where they are. -/

/-- Pairs grouped by name. -/
structure Grouping where
  /-- the slot of the group of each name -/
  slots : Std.HashMap String Nat
  /-- the names with their values, the latest value first -/
  groups : Array (String × List String)

namespace Grouping

/-- The grouping of no pairs. -/
def empty : Grouping :=
  ⟨∅, #[]⟩

/-- The slot of a name, and the grouping in which it has one: a name that is new gets the next. -/
def slotFor (grouping : Grouping) (name : String) : Nat × Grouping :=
  match grouping.slots[name]? with
  | some slot => (slot, grouping)
  | none =>
    let next := grouping.groups.size
    (next, ⟨grouping.slots.insert name next, grouping.groups.push (name, [])⟩)

/-- The grouping with one more pair. -/
def add (grouping : Grouping) (pair : String × String) : Grouping :=
  let (slot, ⟨slots, groups⟩) := grouping.slotFor pair.1
  ⟨slots, groups.modify slot fun group => (group.1, pair.2 :: group.2)⟩

end Grouping

namespace Params

/-! ## Parameters -/

/-- The first value of a name. -/
def first? (params : Params) (name : String) : Option String :=
  Entries.find? name params

/-- The pairs grouped by name, in one pass. -/
def grouping (params : Params) : Grouping :=
  params.foldl Grouping.add .empty

/-- The values of each name, in their order; the names in the order in which they first came. -/
def groups (params : Params) : List (String × List String) :=
  params.grouping.groups.toList.map fun group => (group.1, group.2.reverse)

/-- The different names, in the order in which they first came. -/
def names (params : Params) : List String :=
  params.groups.map Prod.fst

/-- The name of all the pairs, if they share one. -/
def onlyName? : Params → Option String
  | [] => none
  | (name, _) :: rest => if rest.all fun pair => pair.1 = name then some name else none

/-- The payload value of a name's values. -/
def ofValues : List String → FieldValue
  | [value] => .text value
  | values => .list values

/-- The payload of the pairs. -/
def toPayload (params : Params) : Payload :=
  .ofList (params.groups.map fun group => (group.1, ofValues group.2))

end Params

end ActionGateway
