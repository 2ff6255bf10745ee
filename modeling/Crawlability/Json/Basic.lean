import Crawlability.Decimal

/-!
JSON values. A number is kept as the decimal that it spells. The members of an object form a map: of
several members with one name the last counts.
-/
namespace Crawlability

/-- A number and whether it is spelt without a fraction and without an exponent. -/
structure Json.Number extends Decimal where
  isWhole : Bool
deriving Repr, DecidableEq

inductive Json where
  | null
  | bool (value : Bool)
  | number (value : Json.Number)
  | string (value : String)
  | array (items : List Json)
  | object (members : List (String × Json))
deriving Repr, Inhabited

namespace Json

def ofNat (n : Nat) : Json := .number ⟨⟨false, n, 0⟩, true⟩

/-- The last member of the name. -/
def lookup? (members : List (String × Json)) (name : String) : Option Json :=
  (members.reverse.find? (·.1 == name)).map (·.2)

def string? : Json → Option String
  | string value => some value
  | _ => none

def bool? : Json → Option Bool
  | bool value => some value
  | _ => none

def isNull : Json → Bool
  | null => true
  | _ => false

end Json

namespace Json.Number

/-- The number as a natural one, if it is spelt as one. -/
def natural? (n : Number) : Option Nat :=
  if n.isWhole && !n.negative then some n.mantissa else none

end Json.Number

end Crawlability
