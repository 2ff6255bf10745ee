/-!
TOML values. Of floats and of dates only the spelling is kept. The keys of a table are distinct and
stand in the order in which they were set.
-/
namespace Crawlability

inductive Toml where
  | string (value : String)
  | integer (value : Int)
  | float (spelling : String)
  | boolean (value : Bool)
  | date (spelling : String)
  | array (items : List Toml)
  | table (entries : List (String × Toml))
deriving Repr

namespace Toml

/-- The value of a key. -/
def lookup? (entries : List (String × Toml)) (key : String) : Option Toml :=
  (entries.find? (·.1 == key)).map (·.2)

end Toml

end Crawlability
