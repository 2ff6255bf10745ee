import Crawlability.Http.Client
import Crawlability.Robots.Roster
import Crawlability.Text.Excerpt

/-!
Fetching the robots file of a site. A file that cannot be had leaves the access of every crawler
unknown.
-/
namespace Crawlability.Robots

/-- The text of a robots file; statuses from 400 on are errors, redirections are not. -/
def fetchText (client : Http.Client) (target : String) : Session (Except Error String) := do
  match ← client.fetch target with
  | .error e => return .error e
  | .ok page =>
    if 400 ≤ page.status then return .error (.http page.status (Text.excerpt 500 page.body))
    else
      Session.say ⟨"crawl_signal::robots", .debug,
        "Fetched robots.txt " ++ target ++ " with status " ++ toString page.status⟩
      return .ok page.body

/-- What the robots file at an address lets each crawler of the roster do. -/
def lookUp (client : Http.Client) (target : String) : Session (List AgentAccess) := do
  match ← fetchText client target with
  | .ok text => return (Document.parse text).summary
  | .error e =>
    Session.say ⟨"crawl_signal::robots", .error,
      "Robots fetch failed for " ++ target ++ ": " ++ e.message⟩
    return unknownSummary

end Crawlability.Robots
