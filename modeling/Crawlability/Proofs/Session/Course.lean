import Crawlability.Http.Client
import Crawlability.Proofs.Text.Utf8

/-!
The course of a session: its result, and what it did apart from reporting events, in order. What a
session reports decides nothing, so a step that only reports leaves the course of the rest as it is,
and the course of a whole is put together from the courses of its parts.
-/
namespace Crawlability

namespace Session

/-- The act is no report. -/
def Act.isDeed : Act → Bool
  | reported _ => false
  | _ => true

/-- What was done, without the reports. -/
def deeds (acts : List Act) : List Act := acts.filter Act.isDeed

@[simp] theorem deeds_nil : deeds [] = [] := rfl

@[simp] theorem deeds_sent (request : Http.Request) (acts : List Act) :
    deeds (.sent request :: acts) = .sent request :: deeds acts := rfl

@[simp] theorem deeds_reported (event : Log.Event) (acts : List Act) :
    deeds (.reported event :: acts) = deeds acts := rfl

@[simp] theorem deeds_paused (length : Duration) (acts : List Act) :
    deeds (.paused length :: acts) = .paused length :: deeds acts := rfl

@[simp] theorem deeds_append (acts acts' : List Act) :
    deeds (acts ++ acts') = deeds acts ++ deeds acts' :=
  List.filter_append ..

@[simp] theorem requests_deeds (acts : List Act) : requests (deeds acts) = requests acts := by
  induction acts with
  | nil => rfl
  | cons act acts ih => cases act <;> simp [ih]

@[simp] theorem requests_map_sent (list : List Http.Request) :
    requests (list.map .sent) = list := by
  induction list with
  | nil => rfl
  | cons request list ih => rw [List.map_cons, requests_sent, ih]

@[simp] theorem pauses_nil : pauses [] = [] := rfl

@[simp] theorem pauses_sent (request : Http.Request) (acts : List Act) :
    pauses (.sent request :: acts) = pauses acts := rfl

@[simp] theorem pauses_reported (event : Log.Event) (acts : List Act) :
    pauses (.reported event :: acts) = pauses acts := rfl

@[simp] theorem pauses_paused (length : Duration) (acts : List Act) :
    pauses (.paused length :: acts) = length :: pauses acts := rfl

@[simp] theorem pauses_deeds (acts : List Act) : pauses (deeds acts) = pauses acts := by
  induction acts with
  | nil => rfl
  | cons act acts ih => cases act <;> simp [ih]

variable {α β : Type}

/-- The result of a run and what was done in it, without the reports. -/
def course (n : Network) (earlier : List Http.Request) (s : Session α) : α × List Act :=
  ((s.run n earlier).1, deeds (s.run n earlier).2)

theorem fst_course (n : Network) (earlier : List Http.Request) (s : Session α) :
    (s.course n earlier).1 = (s.run n earlier).1 := rfl

theorem requests_snd_course (n : Network) (earlier : List Http.Request) (s : Session α) :
    requests (s.course n earlier).2 = requests (s.run n earlier).2 := requests_deeds _

@[simp] theorem course_pure (n : Network) (earlier : List Http.Request) (a : α) :
    (pure a : Session α).course n earlier = (a, []) := rfl

/-- What follows goes on with the result of the first part, on a network that has seen the requests
of that part. -/
theorem course_bind (n : Network) (earlier : List Http.Request) (s : Session α)
    (f : α → Session β) :
    (s >>= f).course n earlier =
      let (a, acts) := s.course n earlier
      let (b, acts') := (f a).course n (earlier ++ requests acts)
      (b, acts ++ acts') := by
  change ((s.bind f).run n earlier |>.1, deeds ((s.bind f).run n earlier).2) = _
  rw [run_bind]
  simp only [course, deeds_append, requests_deeds]

theorem course_bind_of_no_requests (n : Network) (earlier : List Http.Request) (s : Session α)
    (f : α → Session β) (a : α) (h : s.course n earlier = (a, [])) :
    (s >>= f).course n earlier = (f a).course n earlier := by
  rw [course_bind, h]
  simp

@[simp] theorem course_ask_bind (n : Network) (earlier : List Http.Request)
    (request : Http.Request) (f : Http.Outcome → Session β) :
    (ask request >>= f).course n earlier =
      let (b, acts) := (f (n.answer earlier request)).course n (earlier ++ [request])
      (b, .sent request :: acts) := rfl

@[simp] theorem course_say_bind (n : Network) (earlier : List Http.Request) (event : Log.Event)
    (f : Unit → Session β) :
    (say event >>= f).course n earlier = (f ()).course n earlier := rfl

/-- A report that is made in some cases only. -/
theorem course_ite_say_bind (n : Network) (earlier : List Http.Request) (P : Prop) [Decidable P]
    (event : Log.Event) (f : Unit → Session β) :
    (if P then say event >>= f else f ()).course n earlier = (f ()).course n earlier := by
  split
  · rfl
  · rfl

@[simp] theorem course_wait_bind (n : Network) (earlier : List Http.Request) (length : Duration)
    (f : Unit → Session β) :
    (wait length >>= f).course n earlier =
      let (b, acts) := (f ()).course n earlier
      (b, .paused length :: acts) := rfl

end Session

namespace Network

/-- The network in which the outcomes of the requests that can be sent are given in advance. -/
def playing (o : Nat → Http.Outcome) : Network where
  respond earlier _ := o earlier.length
  refusal _ := "the request cannot be sent"

theorem answer_playing (o : Nat → Http.Outcome) (earlier : List Http.Request)
    (request : Http.Request) (h : request.isSendable = true) :
    (playing o).answer earlier request = o earlier.length := by
  rw [answer, if_pos h, playing]

end Network

namespace Http

/-- The decoder that takes all octets for those of UTF-8. -/
def Decoder.utf8 : Decoder where
  text _ octets := Text.Utf8.decodeLossy octets
  complaint _ := "the octets spell no value of the expected form"
  text_encode _ s _ _ := Text.Utf8.decodeLossy_encode s

/-- Reporting a failure sends nothing and does not wait. -/
@[simp] theorem course_reportFailure (n : Network) (earlier : List Request) (target : String)
    (failure : Failure) :
    (reportFailure target failure).course n earlier = (.network target failure, []) := by
  unfold reportFailure
  split <;> rfl

/-- A transfer that failed ends an operation with the failure. -/
theorem course_returnFailure {α : Type} (n : Network) (earlier : List Request) (target : String)
    (failure : Failure) :
    (do return .error (← reportFailure target failure) : Session (Except Error α)).course n earlier
      = (.error (.network target failure), []) :=
  Session.course_bind_of_no_requests _ _ _ _ _ (course_reportFailure ..)

/-- What a fetch makes of the outcome of its request: a page of any status, or the failure of the
transfer, before the response or in its body. -/
def received (target : String) : Outcome → Except Error Page
  | .error failure => .error (.network target failure)
  | .ok response =>
    match response.body with
    | .error failure => .error (.network target failure)
    | .ok octets => .ok ⟨response.status, response.headers, Text.Utf8.decodeLossy octets⟩

/-- A fetch sends one request and does not wait. -/
theorem course_fetch (c : Client) (n : Network) (earlier : List Request) (target : String) :
    (c.fetch target).course n earlier =
      (received target (n.answer earlier (c.getRequest target)), [.sent (c.getRequest target)]) := by
  rw [Client.fetch, Session.course_ask_bind]
  cases n.answer earlier (c.getRequest target) with
  | error failure => simp only [received, course_returnFailure]
  | ok response =>
    obtain ⟨status, fields, body, decoder⟩ := response
    cases body with
    | error failure => simp only [received, course_returnFailure]
    | ok octets => rfl

end Http

end Crawlability
