/-!
Paths as the operating system walks them: from the root or from the working directory, name by name.
-/
namespace Crawlability.Files

structure Path where
  isAbsolute : Bool
  /-- The steps of the walk. One dot stays where it is, and two dots go up. -/
  steps : List String
  endsInSlash : Bool
deriving Repr, DecidableEq

/-- A place in a tree: the names on the way to it from the root. -/
abbrev Place := List String

namespace Path

def ofText (text : String) : Path where
  isAbsolute := text.toList.head? == some '/'
  steps := ((text.toList.splitOnP (· == '/')).filter (!·.isEmpty)).map .ofList
  endsInSlash := text.toList.getLast? == some '/'

/-- Where the walk begins. -/
def start (p : Path) (here : Place) : Place := if p.isAbsolute then [] else here

/-- The steps to the directory that the path is in; a single dot is no step of its own here. -/
def parentSteps (p : Path) : List String := (p.steps.filter (· != ".")).dropLast

end Path

/-- The longest name in octets. -/
def maxNameSize : Nat := 255

def isTooLong (name : String) : Bool := maxNameSize < name.utf8ByteSize

def holdsNul (name : String) : Bool := name.toList.contains '\x00'

end Crawlability.Files
