/-!
The beginning of a text, for messages that quote what a server said.
-/
namespace Crawlability.Text

/-- At most the first `size` characters. -/
def excerpt (size : Nat) (s : String) : String := .ofList (s.toList.take size)

end Crawlability.Text
