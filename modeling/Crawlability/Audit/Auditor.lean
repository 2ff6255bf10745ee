import Crawlability.Audit.Review
import Crawlability.Robots.Lookup
import Crawlability.Text.Blank

/-!
One audit: the page is fetched and reviewed, and then, if wanted, the robots file of its site. Each
of the two parts adds to the report what it found, or that it failed; the audit as a whole never
fails.
-/
namespace Crawlability.Audit

structure Auditor where
  client : Http.Client
  /-- The scheme of the addresses of robots files. -/
  robotsScheme : String := "https"
deriving Repr, DecidableEq

namespace Report

/-- What is found when the address is none. -/
def invalidUrl (raw : String) : Report :=
  (Report.addCritical {} ("Invalid URL: " ++ raw)).addAction "Provide a valid URL to audit."

def reviewFailure (r : Report) (e : Error) : Report :=
  (r.addCritical ("Failed to fetch page: " ++ e.message)).addAction
    "Verify the URL is reachable and not blocking requests."

end Report

namespace Auditor

/-- The page part of an audit. -/
def auditPage (a : Auditor) (url : Url) : Session Report := do
  match ← a.client.fetch url.text with
  | .ok page => return Report.reviewPage {} page
  | .error e =>
    Session.say ⟨"crawl_signal::audit", .error,
      "Audit fetch failed for " ++ url.text ++ ": " ++ e.message⟩
    return Report.reviewFailure {} e

/-- The robots part of an audit, added to the report. Addresses without a host have none. -/
def auditRobots (a : Auditor) (url : Url) (r : Report) : Session Report :=
  match url.site? with
  | none => return r
  | some site => do
    return r.reviewRobots (← Robots.lookUp a.client (Robots.fileUrl a.robotsScheme site))

/-- Audits the page at an address; blanks around it do not count. -/
def audit (a : Auditor) (raw : String) (checkRobots : Bool) : Session Report := do
  match Url.parse (Text.trim raw) with
  | .error e =>
    Session.say ⟨"crawl_signal::audit", .warn,
      "Rejected audit of invalid URL " ++ raw ++ ": " ++ e.message⟩
    return (Report.invalidUrl raw).finalize
  | .ok url =>
    Session.say ⟨"crawl_signal::audit", .info,
      "Auditing " ++ url.text ++ " (robots check: " ++ toString checkRobots ++ ")"⟩
    let report ← a.auditPage url
    if checkRobots then return (← a.auditRobots url report).finalize
    else return report.finalize

end Auditor

end Crawlability.Audit
