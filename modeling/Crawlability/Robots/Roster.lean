import Crawlability.Robots.Access

/-!
The crawlers that a report speaks of, in its order, and what a robots file tells each of them about
the root of the site.
-/
namespace Crawlability.Robots

def roster : List String := ["ClaudeBot", "GPTBot", "PerplexityBot", "Bingbot"]

/-- What a site lets one crawler do. -/
structure AgentAccess where
  agent : String
  access : Access
deriving Repr, DecidableEq

namespace Document

def summary (d : Document) : List AgentAccess :=
  roster.map fun agent => ⟨agent, d.evaluate agent "/"⟩

end Document

/-- The summary of a site whose robots file is out of reach. -/
def unknownSummary : List AgentAccess := roster.map (⟨·, .unknown⟩)

/-- Where the site of an authority keeps its robots file. -/
def fileUrl (scheme authority : String) : String :=
  scheme ++ "://" ++ authority ++ "/robots.txt"

end Crawlability.Robots
