import Crawlability.Config.Basic
import Crawlability.Error
import Crawlability.Session

/-!
The client that all services share. It fetches pages of any status; only a transfer that fails is an
error, and a timeout or an unreachable server is reported on top of that.
-/
namespace Crawlability.Http

/-- What the requests of one client have in common. -/
structure Client where
  userAgent : String
  timeoutSecs : Nat
deriving Repr, DecidableEq

namespace Client

/-- The client of a configuration; its name has to fit into a header field. -/
def build (c : Config.Transport) : Except Error Client :=
  if isFieldText c.userAgent then .ok ⟨c.userAgent, c.timeoutSecs⟩
  else .error (.unexpected
    "Failed to build HTTP client: the user agent is not the text of a header field")

def getRequest (c : Client) (target : String) : Request where
  method := .get
  target := target
  userAgent := c.userAgent
  timeoutSecs := c.timeoutSecs

/-- A request that carries a JSON value, and maybe a bearer token. -/
def postRequest (c : Client) (target body : String) (token? : Option String) : Request where
  method := .post
  target := target
  userAgent := c.userAgent
  timeoutSecs := c.timeoutSecs
  authorization? := token?.map ("Bearer " ++ ·)
  body? := some body

end Client

namespace Failure

/-- The report on a failure, unless it is of no special kind. -/
def event? (target : String) (failure : Failure) : Option Log.Event :=
  match failure.kind with
  | .timeout => some ⟨"crawl_signal::fetch", .warn, "Request timeout for " ++ target⟩
  | .connection => some ⟨"crawl_signal::fetch", .warn, "Connection failed for " ++ target⟩
  | _ => none

end Failure

/-- Reports a failed transfer and returns it as an error. -/
def reportFailure (target : String) (failure : Failure) : Session Error :=
  match failure.event? target with
  | some event => .report event (.done (.network target failure))
  | none => .done (.network target failure)

namespace Client

/-- Fetches a page. -/
def fetch (c : Client) (target : String) : Session (Except Error Page) := do
  match ← Session.ask (c.getRequest target) with
  | .error failure => return .error (← reportFailure target failure)
  | .ok response =>
    match response.body with
    | .error failure => return .error (← reportFailure target failure)
    | .ok octets =>
      Session.say ⟨"crawl_signal::fetch", .debug, "Fetched " ++ target ++ " with status " ++
        toString response.status ++ " (" ++ toString octets.length ++ " bytes)"⟩
      return .ok ⟨response.status, response.headers, Text.Utf8.decodeLossy octets⟩

end Client

end Crawlability.Http
