import Crawlability.Audit.Report
import Crawlability.Http.Page
import Crawlability.Page.Signals
import Crawlability.Robots.Roster

/-!
From observations to findings: what a page, its headers and the robots file of its site add to a
report.
-/
namespace Crawlability.Audit

open Page (Directives)

namespace Report

/-- Findings on the directives of one source. -/
def reviewDirectives (r : Report) (source : String) (directives : Directives) : Report :=
  let r := if directives.contains "noindex" then r.addCritical (source ++ " includes noindex.")
    else r
  let warnings := [("nofollow", "; crawlers may ignore links"),
    ("nosnippet", "; snippets may be suppressed"), ("noarchive", "")]
  warnings.foldl (fun r (directive, consequence) =>
    if directives.contains directive then
      r.addWarning (source ++ " includes " ++ directive ++ consequence ++ ".")
    else r) r

def reviewStatus (r : Report) (page : Http.Page) : Report :=
  if page.isSuccess then r
  else r.addCritical ("HTTP status " ++ toString page.status ++ " returned for the page.")

def reviewContentType (r : Report) (page : Http.Page) : Report :=
  match page.contentType? with
  | none => r
  | some contentType =>
    if Page.occursIn "html".toList (Text.lowercaseChars contentType.toList) then r
    else r.addWarning ("Content-Type is " ++ contentType ++ ", not HTML.")

def reviewHeaderDirectives (r : Report) (page : Http.Page) : Report :=
  match page.headers.get? "x-robots-tag" with
  | none => r
  | some value => r.reviewDirectives "X-Robots-Tag header" (.parse value)

def reviewCanonical (r : Report) : Option String → Report
  | some address => r.addGood ("Canonical tag present: " ++ address)
  | none =>
    (r.addWarning "No canonical link tag detected.").addAction
      "Add a rel=\"canonical\" tag to declare the preferred URL."

def reviewJsonLd (r : Report) (count : Nat) : Report :=
  if 0 < count then r.addGood ("Found " ++ toString count ++ " JSON-LD structured data block(s).")
  else
    (r.addWarning "No JSON-LD structured data detected.").addAction
      "Add JSON-LD structured data to improve entity understanding."

def reviewContent (r : Report) (content : Page.Content) : Report :=
  let r := if content.hasMain then
      r.addGood "<main> element detected for primary content."
    else r
  let r := if content.hasArticle then r.addGood "<article> element detected." else r
  let r := if content.hasH1 then r.addGood "<h1> heading found."
    else r.addWarning "No <h1> heading found; crawlers may lack a clear title."
  if content.isScriptHeavy then
    (r.addWarning ("Page appears script-heavy with limited text; " ++
      "AI crawlers may struggle to extract content.")).addAction
      "Reduce reliance on client-side rendering or provide server-rendered fallbacks."
  else r

/-- Everything that a page gives rise to. -/
def reviewPage (r : Report) (page : Http.Page) : Report :=
  let signals := Page.Signals.ofHtml page.body
  let r := (r.reviewStatus page).reviewContentType page
  let r := (r.reviewDirectives "Meta robots" signals.directives).reviewHeaderDirectives page
  let r := (r.reviewCanonical signals.canonical?).reviewJsonLd signals.jsonLdCount
  r.reviewContent signals.content

def reviewAgent (r : Report) (status : Robots.AgentAccess) : Report :=
  match status.access with
  | .blocked =>
    (r.addWarning ("robots.txt blocks " ++ status.agent ++ " from the site.")).addAction
      ("Update robots.txt to allow " ++ status.agent ++ " if desired.")
  | .allowed => r.addGood ("robots.txt allows " ++ status.agent ++ ".")
  | .unknown =>
    r.addWarning ("robots.txt access for " ++ status.agent ++ " is unknown (no matching group).")

/-- What the robots file means for each crawler. -/
def reviewRobots (r : Report) (statuses : List Robots.AgentAccess) : Report :=
  statuses.foldl reviewAgent r

end Report

end Crawlability.Audit
