import Crawlability.Audit.Auditor
import Crawlability.IndexNow.Client
import Crawlability.Tool.Catalogue
import Crawlability.Tool.Requests

/-!
Calling tools by name. A call never fails: an unknown name, arguments that are refused and
operations that fail all have a text as their result, which is marked as an error.
-/
namespace Crawlability.Tool

structure Result where
  text : String
  isError : Bool
deriving Repr, DecidableEq

/-- The services behind the tools. -/
structure Registry where
  auditor : Audit.Auditor
  indexNow : IndexNow.Client
  perplexity : Perplexity.Client
deriving Repr, DecidableEq

def event (level : Log.Level) (message : String) : Log.Event :=
  ⟨"crawl_signal::tools", level, message⟩

/-- The arguments as a record; after validation this does not fail on an object. -/
def decode {α : Type} (read? : Json → Option α) (args : Json) : Except Error α :=
  match read? args with
  | some request => .ok request
  | none => .error (.invalidInput "the arguments are of another form")

namespace Registry

/-- All services around one client. -/
def ofConfig (c : Config) : Except Error Registry :=
  match Http.Client.build c.transport with
  | .error e => .error e
  | .ok client => .ok ⟨⟨client, "https"⟩, .ofConfig client c.indexNow, ⟨client, c.perplexity⟩⟩

/-- The operation behind a tool, on arguments that passed the check. -/
def perform (r : Registry) (tool : Tool) (args : Json) : Session (Except Error String) :=
  match tool with
  | .submitUrls =>
    match decode IndexNow.Submission.ofJson? args with
    | .error e => return .error e
    | .ok submission => r.indexNow.submit submission
  | .checkPerplexity =>
    match decode Perplexity.Check.ofJson? args with
    | .error e => return .error e
    | .ok check => r.perplexity.check check
  | .auditPage =>
    match decode Audit.Inquiry.ofJson? args with
    | .error e => return .error e
    | .ok inquiry => return .ok (← r.auditor.audit inquiry.url inquiry.checkRobots).toMarkdown

/-- Calls a tool; no arguments at all are an empty object. -/
def call (r : Registry) (name : String) (args? : Option Json) : Session Result := do
  match find? name with
  | none =>
    Session.say (event .warn ("Unknown tool requested: " ++ name))
    return ⟨"Unknown tool: " ++ name, true⟩
  | some tool =>
    let args := args?.getD (.object [])
    match tool.spec.validate args with
    | .error fault =>
      Session.say (event .warn ("Rejected " ++ name ++ " call: " ++ fault))
      return ⟨fault, true⟩
    | .ok () =>
      match ← r.perform tool args with
      | .ok text => return ⟨text, false⟩
      | .error e =>
        Session.say (event .error (name ++ " tool error: " ++ e.message))
        return ⟨e.message, true⟩

end Registry

end Crawlability.Tool
