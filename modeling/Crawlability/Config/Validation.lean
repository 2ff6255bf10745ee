import Crawlability.Config.Basic
import Crawlability.Config.Error
import Crawlability.Text.Blank
import Crawlability.Url.Parser

/-!
The bounds that a configuration has to keep. The sections are checked in their order, and the first
fault counts.
-/
namespace Crawlability.Config

def Transport.check (t : Transport) : Except Error Unit :=
  if t.timeoutSecs < 1 || 300 < t.timeoutSecs then
    .error (.validation ("timeout-secs must be between 1 and 300, got " ++ toString t.timeoutSecs))
  else if Text.isAllBlank t.userAgent then .error (.validation "user-agent cannot be empty")
  else .ok ()

/-- An endpoint is an absolute address of the scheme http or https. -/
def checkEndpoint (field endpoint : String) : Except Error Unit :=
  match Url.parse endpoint with
  | .error e => .error (.invalidUrl ("Invalid " ++ field ++ ": " ++ e.message))
  | .ok url =>
    if url.scheme = "http" ∨ url.scheme = "https" then .ok ()
    else .error (.invalidUrl (field ++ " must use http or https, got '" ++ endpoint ++ "'"))

def IndexNow.check (s : IndexNow) : Except Error Unit :=
  match checkEndpoint "indexnow.endpoint" s.endpoint with
  | .error e => .error e
  | .ok () =>
    if 10 < s.maxRetries then
      .error (.validation ("indexnow.max-retries must be <= 10, got " ++ toString s.maxRetries))
    else .ok ()

def Perplexity.check (s : Perplexity) : Except Error Unit :=
  checkEndpoint "perplexity.endpoint" s.endpoint

/-- The first fault, if there is one. -/
def check (c : Config) : Except Error Unit :=
  match c.transport.check with
  | .error e => .error e
  | .ok () =>
    match c.indexNow.check with
    | .error e => .error e
    | .ok () => c.perplexity.check

end Crawlability.Config
