import ActionGateway.Decimal.Numeral

/-!
# API versions

A version is a number from 1 to 255. Routes carry it as a decimal numeral and accept a range of
versions.
-/

namespace ActionGateway

/-- The version of the API that a caller asks for. -/
structure ApiVersion where
  number : Nat
  one_le : 1 ≤ number
  le_255 : number ≤ 255
  deriving DecidableEq

namespace ApiVersion

/-- The first version. -/
def v1 : ApiVersion := ⟨1, by decide, by decide⟩

/-- The second version, the last that the routes for pages have. -/
def v2 : ApiVersion := ⟨2, by decide, by decide⟩

/-- The third version, the first that actions have. -/
def v3 : ApiVersion := ⟨3, by decide, by decide⟩

/-- The version of a number, which must be from 1 to 255. -/
def ofNat? (n : Nat) : Option ApiVersion :=
  if h : 1 ≤ n ∧ n ≤ 255 then some ⟨n, h.1, h.2⟩ else none

/-- The version that a path segment names, if it lies between `least` and `greatest`. -/
def parseWithin (segment : String) (least greatest : Nat) : Option ApiVersion :=
  match Decimal.numeral? 255 segment with
  | none => none
  -- The numeral has been held against 255 already, so none wraps into the range.
  | some n => if least ≤ n ∧ n ≤ greatest then ofNat? n else none

/-- The numeral of the version. -/
def text (v : ApiVersion) : String :=
  Decimal.ofNat v.number

end ApiVersion

end ActionGateway
