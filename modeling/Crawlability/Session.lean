import Crawlability.Duration
import Crawlability.Http.Message
import Crawlability.Log.Event

/-!
What the program does with the world around it. A session ends with a result, and on its way there
it sends requests, reports events and pauses. Only the outcomes of the requests decide how it goes
on.

A network says what comes of a request, given those that were sent before. One request is the whole
exchange that the library makes of it, redirections included. Running a session on a network gives
its result and all that it did, in order.
-/
namespace Crawlability

inductive Session (α : Type) where
  | done (result : α)
  | send (request : Http.Request) (next : Http.Outcome → Session α)
  | report (event : Log.Event) (next : Session α)
  | pause (length : Duration) (next : Session α)

namespace Session

def bind {α β : Type} (s : Session α) (f : α → Session β) : Session β :=
  match s with
  | done result => f result
  | send request next => send request fun outcome => (next outcome).bind f
  | report event next => report event (next.bind f)
  | pause length next => pause length (next.bind f)

instance : Monad Session where
  pure := done
  bind := bind

/-- Sends a request and returns what comes of it. -/
def ask (request : Http.Request) : Session Http.Outcome := send request done

def say (event : Log.Event) : Session Unit := report event (done ())

def wait (length : Duration) : Session Unit := pause length (done ())

/-- One thing that was done. A request that cannot be sent counts as well. -/
inductive Act where
  | sent (request : Http.Request)
  | reported (event : Log.Event)
  | paused (length : Duration)
deriving Repr, DecidableEq

namespace Act

def request? : Act → Option Http.Request
  | sent request => some request
  | _ => none

def event? : Act → Option Log.Event
  | reported event => some event
  | _ => none

def pause? : Act → Option Duration
  | paused length => some length
  | _ => none

end Act

def requests (acts : List Act) : List Http.Request := acts.filterMap Act.request?

def events (acts : List Act) : List Log.Event := acts.filterMap Act.event?

def pauses (acts : List Act) : List Duration := acts.filterMap Act.pause?

end Session

structure Network where
  /-- What comes of a request after earlier ones. -/
  respond : List Http.Request → Http.Request → Http.Outcome
  /-- The words for a request that cannot be sent. -/
  refusal : Http.Request → String

namespace Network

/-- The network in which no server is reached. -/
def unreachable : Network where
  respond _ _ := .error ⟨.connection, "no server is reached"⟩
  refusal _ := "the request cannot be sent"

/-- A request that cannot be sent does not reach the network. -/
def answer (n : Network) (earlier : List Http.Request) (request : Http.Request) : Http.Outcome :=
  if request.isSendable then n.respond earlier request
  else .error ⟨.unsendable, n.refusal request⟩

end Network

namespace Session

/-- The result on a network, after earlier requests, and what was done. -/
def run {α : Type} (n : Network) (earlier : List Http.Request) : Session α → α × List Act
  | done result => (result, [])
  | send request next =>
    let (result, acts) := (next (n.answer earlier request)).run n (earlier ++ [request])
    (result, .sent request :: acts)
  | report event next =>
    let (result, acts) := next.run n earlier
    (result, .reported event :: acts)
  | pause length next =>
    let (result, acts) := next.run n earlier
    (result, .paused length :: acts)

variable {α β : Type}

@[simp] theorem requests_nil : requests [] = [] := rfl

@[simp] theorem requests_sent (request : Http.Request) (acts : List Act) :
    requests (.sent request :: acts) = request :: requests acts := rfl

@[simp] theorem requests_reported (event : Log.Event) (acts : List Act) :
    requests (.reported event :: acts) = requests acts := rfl

@[simp] theorem requests_paused (length : Duration) (acts : List Act) :
    requests (.paused length :: acts) = requests acts := rfl

@[simp] theorem requests_append (acts acts' : List Act) :
    requests (acts ++ acts') = requests acts ++ requests acts' := by
  simp [requests]

/-- A session goes on where the one before it ended, on a network that has seen its requests. -/
theorem run_bind (n : Network) (earlier : List Http.Request) (s : Session α) (f : α → Session β) :
    (s.bind f).run n earlier =
      let (a, acts) := s.run n earlier
      let (b, acts') := (f a).run n (earlier ++ requests acts)
      (b, acts ++ acts') := by
  induction s generalizing earlier with
  | done result => simp [bind, run]
  | send request next ih => simp [bind, run, ih]
  | report event next ih => simp [bind, run, ih]
  | pause length next ih => simp [bind, run, ih]

end Session

end Crawlability
