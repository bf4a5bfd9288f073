import ActionGateway.Decimal.Binary64
import ActionGateway.NameMap

/-!
# JSON values

Documents that callers send and results that actions give. A number is either an integer that fits
into 64 bits, signed or unsigned, or a binary floating-point number; the two are never confused.

An object is the list of its members **as written**: repeated names and any order are possible, as
they are in a text. A value is *orderly* when every object in it, at any depth, lists its members
in strictly ascending order of their names, and so holds each name once. `Json.object` builds an
orderly object from pairs in any order, the last pair of a name counting.
-/

namespace ActionGateway

/-! ## Numbers -/

/-- The integers that a JSON number holds exactly: those of 64 bits, with a sign or without one. -/
def JsonInt (n : Int) : Prop :=
  -9223372036854775808 ≤ n ∧ n < 18446744073709551616

instance (n : Int) : Decidable (JsonInt n) :=
  inferInstanceAs (Decidable (_ ∧ _))

/-- A JSON number. -/
inductive JsonNumber
  | int (value : Int) (fits : JsonInt value)
  | double (value : Binary64)
  deriving DecidableEq

/-! ## Values -/

/-- A JSON value, as it is read and as it is written. -/
inductive Json
  | null
  | bool (value : Bool)
  | num (value : JsonNumber)
  | str (value : String)
  | arr (items : List Json)
  | obj (members : List (String × Json))

namespace Json

instance : Inhabited Json := ⟨null⟩

/-- The object with the given pairs as members. -/
def object (pairs : List (String × Json)) : Json :=
  obj (Entries.sort pairs)

/-- The object with the entries of a map as members. -/
def ofNameMap (m : NameMap Json) : Json :=
  obj m.entries

/-- The array of texts. -/
def strs (items : List String) : Json :=
  arr (items.map str)

/-- The text, or `null` where there is none. -/
def strOrNull : Option String → Json
  | none => null
  | some s => str s

/-- An integer, if a JSON number holds it. -/
def int? (n : Int) : Option Json :=
  if h : JsonInt n then some (num (.int n h)) else none

/-- A natural number, as an integer if it fits and as the nearest floating-point number if not. -/
def ofNat (n : Nat) : Json :=
  if h : JsonInt n then num (.int n h) else num (.double (.ofNat n))

/-- A floating-point number; what is not finite has no JSON form but `null`. -/
def ofBinary64 (x : Binary64) : Json :=
  if x.isFinite then num (.double x) else null

/-- The text of a value that is one. -/
def str? : Json → Option String
  | str s => some s
  | _ => none

mutual

/-- Every object at any depth lists its members in strictly ascending order of their names. -/
def Orderly : Json → Prop
  | null => True
  | bool _ => True
  | num _ => True
  | str _ => True
  | arr items => OrderlyItems items
  | obj members => Ascending members ∧ OrderlyMembers members

/-- Every object in the items is orderly. -/
def OrderlyItems : List Json → Prop
  | [] => True
  | item :: rest => Orderly item ∧ OrderlyItems rest

/-- Every object in the values of the members is orderly. -/
def OrderlyMembers : List (String × Json) → Prop
  | [] => True
  | (_, value) :: rest => Orderly value ∧ OrderlyMembers rest

end

mutual

/-- How deeply arrays and objects are nested in each other: 0 for a scalar. -/
def depth : Json → Nat
  | null => 0
  | bool _ => 0
  | num _ => 0
  | str _ => 0
  | arr items => depthItems items + 1
  | obj members => depthMembers members + 1

/-- The greatest depth of an item. -/
def depthItems : List Json → Nat
  | [] => 0
  | item :: rest => max (depth item) (depthItems rest)

/-- The greatest depth of a value of a member. -/
def depthMembers : List (String × Json) → Nat
  | [] => 0
  | (_, value) :: rest => max (depth value) (depthMembers rest)

end

end Json

end ActionGateway
