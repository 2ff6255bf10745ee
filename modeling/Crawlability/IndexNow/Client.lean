import Crawlability.Http.Client
import Crawlability.IndexNow.Payload
import Crawlability.IndexNow.Retry
import Crawlability.Text.Excerpt

/-!
Submitting addresses. While the server asks for patience, with the status 429, and the policy allows
it, the submission is sent again after a pause. Every other outcome is final.
-/
namespace Crawlability.IndexNow

structure Client where
  http : Http.Client
  config : Config.IndexNow
  retry : RetryPolicy
deriving Repr, DecidableEq

/-- The status that asks for patience. -/
def tooManyRequests : Nat := 429

def event (level : Log.Level) (message : String) : Log.Event :=
  ⟨"crawl_signal::indexnow", level, message⟩

namespace Client

def ofConfig (http : Http.Client) (c : Config.IndexNow) : Client := ⟨http, c, .ofConfig c⟩

/-- The text of a body; one that cannot be read is reported and counts as empty. -/
def readBody (c : Client) (r : Http.Response) : Session String :=
  match r.body with
  | .ok octets => return r.text octets
  | .error failure => do
    Session.say (event .warn ("Failed to read IndexNow response body from " ++ c.config.endpoint ++
      ": " ++ failure.text))
    return ""

/-- The result of a response that is not waited for any longer. -/
def conclude (p : Payload) (status : Nat) (body : String) : Session (Except Error String) := do
  if Http.isSuccessStatus status then
    Session.say (event .info ("IndexNow submission succeeded with status " ++ toString status))
    return .ok ("Submitted " ++ toString p.urls.length ++ " URLs to IndexNow (status " ++
      toString status ++ ").")
  else
    Session.say (event .error ("IndexNow submission failed: status " ++ toString status ++
      " body: " ++ Text.excerpt 200 body))
    return .error (.http status (Text.excerpt 500 body))

def request (c : Client) (p : Payload) : Http.Request :=
  c.http.postRequest c.config.endpoint p.wire none

/-- Sends the payload, having sent it `attempt` times, with so many retries left. -/
def sendFrom (c : Client) (p : Payload) (attempt : Nat) : Nat → Session (Except Error String)
  | 0 => do
    match ← Session.ask (c.request p) with
    | .error failure => return .error (← Http.reportFailure c.config.endpoint failure)
    | .ok response => conclude p response.status (← c.readBody response)
  | left + 1 => do
    match ← Session.ask (c.request p) with
    | .error failure => return .error (← Http.reportFailure c.config.endpoint failure)
    | .ok response =>
      let body ← c.readBody response
      if response.status = tooManyRequests then
        let delay := c.retry.delayFor attempt
        Session.say (event .warn ("IndexNow rate limited (attempt " ++ toString (attempt + 1) ++
          "). Backing off for " ++ delay.text))
        Session.wait delay
        c.sendFrom p (attempt + 1) left
      else conclude p response.status body

/-- Sends a payload as often as the policy allows. -/
def send (c : Client) (p : Payload) : Session (Except Error String) :=
  c.sendFrom p 0 c.retry.maxRetries

/-- Resolves a submission and sends it. -/
def submit (c : Client) (s : Submission) : Session (Except Error String) := do
  let dropped := Payload.droppedCount s.urls
  if 0 < dropped && dropped < s.urls.length then
    Session.say ⟨"crawl_signal::indexnow::payload", .debug,
      "Dropped " ++ toString dropped ++ " unparseable URL(s)"⟩
  match Payload.resolve s c.config with
  | .error e => return .error e
  | .ok payload => c.send payload

end Client

end Crawlability.IndexNow
