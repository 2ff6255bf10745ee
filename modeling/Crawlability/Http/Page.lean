import Crawlability.Http.Headers

/-!
A page as it came from its server, whatever the status.
-/
namespace Crawlability.Http

structure Page where
  status : Nat
  headers : Headers
  body : String
deriving Repr, DecidableEq

/-- The statuses that stand for success. -/
def isSuccessStatus (status : Nat) : Bool := 200 ≤ status && status ≤ 299

namespace Page

def isSuccess (p : Page) : Bool := isSuccessStatus p.status

def contentType? (p : Page) : Option String := p.headers.get? "content-type"

end Page

end Crawlability.Http
