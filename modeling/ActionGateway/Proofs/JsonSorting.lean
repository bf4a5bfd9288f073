import ActionGateway.Json.Basic
import ActionGateway.Proofs.NameMap

/-!
# Values in order

A text may list the members of an object in any order and may give a name more than once, and then
the last member of the name counts. `Json.sorted` puts a value that is written so in order, at every
depth: it is the orderly value that the text of it denotes. On orderly values it changes nothing
(`Json.sorted_of_orderly`), and nothing else comes of it (`Json.orderly_sorted`).

Arrays keep their order; only the members of objects are moved, and only those are dropped that a
later member of the same name overrules. So two values that are sorted to the same one are told
apart by nothing that a reader of their texts goes by.
-/

namespace ActionGateway

namespace Json

mutual

/-- The value with the members of all objects in order; of members of one name the last counts. -/
def sorted : Json → Json
  | null => null
  | bool b => bool b
  | num n => num n
  | str s => str s
  | arr items => arr (sortedItems items)
  | obj members => object (sortedMembers members)

/-- The items of an array, each in order. -/
def sortedItems : List Json → List Json
  | [] => []
  | item :: rest => sorted item :: sortedItems rest

/-- The members of an object where they stand, each with its value in order. -/
def sortedMembers : List (String × Json) → List (String × Json)
  | [] => []
  | (name, value) :: rest => (name, sorted value) :: sortedMembers rest

end

/-! ## Item by item

The three functions recurse over each other. Outside their own inductions it is more useful to have
them, and what they preserve, as statements about all items or members of a list. -/

section

variable {items : List Json} {members : List (String × Json)}

/-- A list of items is orderly if every item is. -/
theorem orderlyItems_iff : OrderlyItems items ↔ ∀ item ∈ items, Orderly item := by
  induction items with
  | nil => simp [OrderlyItems]
  | cons item rest ih => rw [OrderlyItems, ih, List.forall_mem_cons]

/-- So are members, whatever their names and the order of them. -/
theorem orderlyMembers_iff : OrderlyMembers members ↔ ∀ member ∈ members, Orderly member.2 := by
  induction members with
  | nil => simp [OrderlyMembers]
  | cons member rest ih => rw [OrderlyMembers, ih, List.forall_mem_cons]

/-- Each member keeps its name and its place. -/
theorem sortedMembers_eq_map (members : List (String × Json)) :
    sortedMembers members = members.map fun member => (member.1, sorted member.2) := by
  induction members with
  | nil => rfl
  | cons member rest ih => rw [sortedMembers, ih, List.map_cons]

/-- Objects are put in order from the inside out. -/
theorem sorted_obj (members : List (String × Json)) :
    sorted (obj members) = object (members.map fun member => (member.1, sorted member.2)) := by
  rw [sorted, sortedMembers_eq_map]

/-- The members of an object may have been put in order before: to sort by name, and to put the
values in order, can be done in either order. -/
theorem sorted_object (members : List (String × Json)) :
    sorted (object members) = sorted (obj members) := by
  rw [object, sorted_obj, sorted_obj, object, object, Entries.sort_map,
    Entries.sort_of_ascending (Entries.ascending_sort members), ← Entries.sort_map]

end

/-! ## Order

Both results follow the recursion of the definition, with one statement for values, one for items
and one for members. -/

mutual

/-- **A value that is in order stays as it is.** So to put in order is to choose one value among
those with the same members. -/
theorem sorted_of_orderly {value : Json} (h : Orderly value) : sorted value = value := by
  cases value with
  | null => rfl
  | bool b => rfl
  | num n => rfl
  | str s => rfl
  | arr items =>
    rw [Orderly] at h
    rw [sorted, sortedItems_of_orderly h]
  | obj members =>
    rw [Orderly] at h
    rw [sorted, sortedMembers_of_orderly h.2, object, Entries.sort_of_ascending h.1]

theorem sortedItems_of_orderly {items : List Json} (h : OrderlyItems items) :
    sortedItems items = items := by
  cases items with
  | nil => rfl
  | cons item rest =>
    rw [OrderlyItems] at h
    rw [sortedItems, sorted_of_orderly h.1, sortedItems_of_orderly h.2]

theorem sortedMembers_of_orderly {members : List (String × Json)} (h : OrderlyMembers members) :
    sortedMembers members = members := by
  cases members with
  | nil => rfl
  | cons member rest =>
    obtain ⟨name, value⟩ := member
    rw [OrderlyMembers] at h
    rw [sortedMembers, sorted_of_orderly h.1, sortedMembers_of_orderly h.2]

end

mutual

/-- **What has been put in order is orderly**, at every depth. -/
theorem orderly_sorted (value : Json) : Orderly (sorted value) := by
  cases value with
  | null => trivial
  | bool b => trivial
  | num n => trivial
  | str s => trivial
  | arr items => exact orderlyItems_sorted items
  | obj members =>
    -- sorting keeps some of the members, and all of them have values in order
    refine ⟨Entries.ascending_sort _, orderlyMembers_iff.mpr fun member hmem => ?_⟩
    exact orderlyMembers_iff.mp (orderlyMembers_sorted members) member
      (Entries.mem_of_mem_sort hmem)

theorem orderlyItems_sorted (items : List Json) : OrderlyItems (sortedItems items) := by
  cases items with
  | nil => trivial
  | cons item rest => exact ⟨orderly_sorted item, orderlyItems_sorted rest⟩

theorem orderlyMembers_sorted (members : List (String × Json)) :
    OrderlyMembers (sortedMembers members) := by
  cases members with
  | nil => trivial
  | cons member rest => exact ⟨orderly_sorted member.2, orderlyMembers_sorted rest⟩

end

end Json

end ActionGateway
