/-!
Spans of time in whole nanoseconds. There is a longest one, and arithmetic that would go beyond it
stays there.
-/
namespace Crawlability

namespace Duration

def nanosPerSecond : Nat := 1000000000

/-- The longest span: seconds of 64 bits and one nanosecond less than another second. -/
def maxNanos : Nat := Nat.pow 2 64 * nanosPerSecond - 1

end Duration

structure Duration where
  nanos : Nat
  nanos_le_max : nanos ≤ Duration.maxNanos
deriving DecidableEq

namespace Duration

@[ext] theorem eq_of_nanos_eq {d e : Duration} (h : d.nanos = e.nanos) : d = e := by
  cases d
  cases e
  cases h
  rfl

/-- The span of so many nanoseconds, or the longest one. -/
def ofNanos (n : Nat) : Duration := ⟨min n maxNanos, Nat.min_le_right ..⟩

def ofMillis (n : Nat) : Duration := ofNanos (n * 1000000)

def ofSeconds (n : Nat) : Duration := ofNanos (n * nanosPerSecond)

def zero : Duration := ofNanos 0

/-- The whole seconds. -/
def seconds (d : Duration) : Nat := d.nanos / nanosPerSecond

/-- What is left beyond the whole seconds. -/
def subsecond (d : Duration) : Nat := d.nanos % nanosPerSecond

def scale (d : Duration) (factor : Nat) : Duration := ofNanos (d.nanos * factor)

def add (d e : Duration) : Duration := ofNanos (d.nanos + e.nanos)

def sum (ds : List Duration) : Duration := ds.foldl add zero

@[simp] theorem nanos_ofNanos (n : Nat) : (ofNanos n).nanos = min n maxNanos := rfl

@[simp] theorem nanos_zero : zero.nanos = 0 := rfl

@[simp] theorem nanos_add (d e : Duration) :
    (d.add e).nanos = min (d.nanos + e.nanos) maxNanos := rfl

@[simp] theorem nanos_scale (d : Duration) (factor : Nat) :
    (d.scale factor).nanos = min (d.nanos * factor) maxNanos := rfl

theorem seconds_add_subsecond (d : Duration) :
    nanosPerSecond * d.seconds + d.subsecond = d.nanos := Nat.div_add_mod ..

/-- Decimal digits of the fraction `n / 10 ^ places`, without the zeros at its end. -/
def fractionDigits (n places : Nat) : List Char :=
  let digits := Nat.toDigits 10 n
  let digits := List.replicate (places - digits.length) '0' ++ digits
  (digits.reverse.dropWhile (· == '0')).reverse

/-- A number of units with its fraction; a fraction of zero is left out. -/
def unitText (whole fraction places : Nat) (unit : String) : String :=
  let fraction := if fraction = 0 then "" else "." ++ .ofList (fractionDigits fraction places)
  toString whole ++ fraction ++ unit

/-- The span in the largest unit of which it holds at least one: seconds, then thousandths and so
on. -/
def text (d : Duration) : String :=
  if 0 < d.seconds then unitText d.seconds d.subsecond 9 "s"
  else if 1000000 ≤ d.nanos then unitText (d.nanos / 1000000) (d.nanos % 1000000) 6 "ms"
  else if 1000 ≤ d.nanos then unitText (d.nanos / 1000) (d.nanos % 1000) 3 "µs"
  else unitText d.nanos 0 0 "ns"

instance : Repr Duration := ⟨fun d _ => d.text⟩

end Duration

end Crawlability
