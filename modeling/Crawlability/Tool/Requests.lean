import Crawlability.IndexNow.Payload
import Crawlability.Json.Record
import Crawlability.Perplexity.Client

/-!
The arguments of each tool as a record.
-/
namespace Crawlability

/-- One text, or a list of texts. -/
def Json.textOrTexts? : Json → Option (List String)
  | string value => some [value]
  | array items => items.mapM string?
  | _ => none

def IndexNow.Submission.ofJson? (args : Json) : Option Submission := do
  let field ← args.fields? ["urls", "host", "apiKey", "keyLocation"]
  return {
    urls := ← Json.required? Json.textOrTexts? (field "urls")
    host? := ← Json.optional? Json.string? (field "host")
    apiKey? := ← Json.optional? Json.string? (field "apiKey")
    keyLocation? := ← Json.optional? Json.string? (field "keyLocation") }

def Perplexity.Check.ofJson? (args : Json) : Option Check := do
  let field ← args.fields? ["url", "apiKey", "model"]
  return {
    url := ← Json.required? Json.string? (field "url")
    apiKey? := ← Json.optional? Json.string? (field "apiKey")
    model? := ← Json.optional? Json.string? (field "model") }

/-- The page that a caller wants to be audited. -/
structure Audit.Inquiry where
  url : String
  checkRobotsTxt? : Option Bool := none
deriving Repr, DecidableEq

namespace Audit.Inquiry

/-- The robots file is checked unless the caller declines. -/
def checkRobots (i : Inquiry) : Bool := i.checkRobotsTxt?.getD true

def ofJson? (args : Json) : Option Inquiry := do
  let field ← args.fields? ["url", "checkRobotsTxt"]
  return {
    url := ← Json.required? Json.string? (field "url")
    checkRobotsTxt? := ← Json.optional? Json.bool? (field "checkRobotsTxt") }

end Audit.Inquiry

end Crawlability
