/-!
Events that the program reports while it works, and the levels at which they are reported.
-/
namespace Crawlability.Log

/-- From the most to the least severe. -/
inductive Level where
  | error
  | warn
  | info
  | debug
  | trace
deriving Repr, DecidableEq

namespace Level

def name : Level → String
  | error => "ERROR"
  | warn => "WARN"
  | info => "INFO"
  | debug => "DEBUG"
  | trace => "TRACE"

/-- How much a log that keeps this level lets through. -/
def verbosity : Level → Nat
  | error => 0
  | warn => 1
  | info => 2
  | debug => 3
  | trace => 4

/-- A log that keeps `limit` keeps this level too. -/
def within (level limit : Level) : Bool := level.verbosity ≤ limit.verbosity

end Level

/-- A message with the place in the program that it comes from. -/
structure Event where
  target : String
  level : Level
  message : String
deriving Repr, DecidableEq

end Crawlability.Log
