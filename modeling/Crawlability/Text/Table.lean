/-!
Forms in which properties of characters are tabulated: closed intervals of code points, and runs of
code points that all move by the same distance.
-/
namespace Crawlability.Text

/-- The code points from `first` to `last`, both included. -/
structure Range where
  first : Nat
  last : Nat
deriving Repr, DecidableEq

namespace Range

def contains (r : Range) (n : Nat) : Bool := r.first ≤ n && n ≤ r.last

/-- Some interval of the table holds the character. -/
def anyContains (table : List Range) (c : Char) : Bool := table.any (·.contains c.toNat)

end Range

/-- Every `step`-th code point from `first` to `last` goes to the one `shift` behind it. -/
structure Run where
  first : Nat
  last : Nat
  step : Nat
  shift : Int
deriving Repr, DecidableEq

namespace Run

def covers (r : Run) (n : Nat) : Bool :=
  r.first ≤ n && n ≤ r.last && (n - r.first) % r.step == 0

def image (r : Run) (n : Nat) : Nat := ((n : Int) + r.shift).toNat

/-- Where the table sends a code point, if it does. -/
def image? (table : List Run) (n : Nat) : Option Nat :=
  (table.find? (·.covers n)).map (·.image n)

end Run

end Crawlability.Text
