/-!
Decimal numbers of any size, and whether a double can hold their magnitude.
-/
namespace Crawlability

/-- `mantissa` times ten to the power of `exponent`, below zero if `negative`. -/
structure Decimal where
  negative : Bool
  mantissa : Nat
  exponent : Int
deriving Repr, DecidableEq

namespace Decimal

/-- Magnitudes from here on are nearer to the power of two above than to the largest double. -/
def overflow : Nat := Nat.pow 2 1024 - Nat.pow 2 970

/-- The magnitude rounds to a finite double. Powers are computed only where the answer hangs on
them. -/
def isFinite (d : Decimal) : Bool :=
  d.mantissa == 0 ||
    if 0 ≤ d.exponent then d.exponent ≤ 400 && d.mantissa * Nat.pow 10 d.exponent.toNat < overflow
    else d.mantissa.log2 < d.exponent.natAbs || d.mantissa < overflow * Nat.pow 10 d.exponent.natAbs

end Decimal

end Crawlability
