import Crawlability.Tool.Spec

/-!
The tools that there are.
-/
namespace Crawlability

inductive Tool where
  | submitUrls
  | checkPerplexity
  | auditPage
deriving Repr, DecidableEq

namespace Tool

/-- What it takes to submit addresses to IndexNow. -/
def Spec.submitUrls : Spec where
  name := "submit_url_indexnow"
  description := "Submit one or more URLs to IndexNow to encourage indexing."
  params := [
    ⟨"urls", .texts, true, "Array of URLs to submit"⟩,
    ⟨"host", .text, false, "Host for IndexNow payload; derived from first URL if omitted"⟩,
    ⟨"apiKey", .text, false, "IndexNow API key (falls back to INDEXNOW_KEY env var)"⟩,
    ⟨"keyLocation", .text, false,
      "Location of IndexNow key file; defaults to https://\x7bhost\x7d/\x7bapiKey\x7d.txt"⟩]

/-- What it takes to ask Perplexity about a page. -/
def Spec.checkPerplexity : Spec where
  name := "check_perplexity_status"
  description := "Verify Perplexity visibility by requesting a URL summary."
  params := [
    ⟨"url", .text, true, "URL to check"⟩,
    ⟨"apiKey", .text, false, "Perplexity API key (falls back to PERPLEXITY_API_KEY env var)"⟩,
    ⟨"model", .text, false, "Perplexity model to use (default sonar-pro)"⟩]

/-- What it takes to audit a page. -/
def Spec.auditPage : Spec where
  name := "audit_page_for_geo"
  description := "Audit a page for GEO / AI crawler visibility signals."
  params := [
    ⟨"url", .text, true, "URL to audit"⟩,
    ⟨"checkRobotsTxt", .boolean, false, "Whether to fetch and inspect robots.txt (default true)"⟩]

def spec : Tool → Spec
  | submitUrls => .submitUrls
  | checkPerplexity => .checkPerplexity
  | auditPage => .auditPage

def name (t : Tool) : String := t.spec.name

/-- The tools in the order in which they are listed. -/
def all : List Tool := [submitUrls, checkPerplexity, auditPage]

def find? (name : String) : Option Tool := all.find? (·.name == name)

/-- The definitions of all tools. -/
def listing : Json := .array (all.map (·.spec.definition))

end Tool

end Crawlability
