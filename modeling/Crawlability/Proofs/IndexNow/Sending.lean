import Crawlability.IndexNow.Client
import Crawlability.Proofs.IndexNow.Backoff
import Crawlability.Proofs.Session.Course
import Mathlib.Order.Bounds.Defs

/-!
How a submission goes, told by what comes of each attempt. The last attempt is the first one whose
outcome does not ask for patience, or the one after all retries. Up to it the same request is sent
again and again, with one pause between two attempts; what comes of it is what comes of the
submission. No attempt before it has a say, and neither has a body that cannot be read.
-/
namespace Crawlability

namespace IndexNow

/-- The server answered that it wants to be asked later. -/
def AsksForPatience : Http.Outcome → Prop
  | .ok response => response.status = tooManyRequests
  | .error _ => False

/-- The text of the body of a response, as its decoder reads it; a body that cannot be read counts
as empty. -/
def bodyText (response : Http.Response) : String :=
  match response.body with
  | .ok octets => response.decoder.text response.fields octets
  | .error _ => ""

/-- The body is this text in UTF-8, and no Content-Type says otherwise. -/
structure CarriesText (response : Http.Response) (s : String) : Prop where
  body_eq : response.body = .ok (Text.Utf8.encode s)
  noContentType : ∀ field ∈ response.fields,
    Text.equalsIgnoringAsciiCase field.1 "content-type" = false
  noMark : s.toList.head? ≠ some '\uFEFF'

theorem bodyText_of_carriesText (response : Http.Response) (s : String)
    (h : CarriesText response s) : bodyText response = s := by
  rw [bodyText, h.body_eq]
  exact response.decoder.text_encode response.fields s h.noContentType h.noMark

namespace Client

/-- What a submission comes to when this is the outcome of its last attempt. -/
def verdict (c : Client) (p : Payload) : Http.Outcome → Except Error String
  | .error failure => .error (.network c.config.endpoint failure)
  | .ok response =>
    if 200 ≤ response.status ∧ response.status ≤ 299 then
      .ok ("Submitted " ++ toString p.urls.length ++ " URLs to IndexNow (status " ++
        toString response.status ++ ").")
    else .error (.http response.status (.ofList ((bodyText response).toList.take 500)))

theorem verdict_of_success (c : Client) (p : Payload) (response : Http.Response)
    (h : 200 ≤ response.status ∧ response.status ≤ 299) :
    c.verdict p (.ok response) = .ok ("Submitted " ++ toString p.urls.length ++
      " URLs to IndexNow (status " ++ toString response.status ++ ").") :=
  if_pos h

theorem verdict_of_refusal (c : Client) (p : Payload) (response : Http.Response)
    (h : ¬ (200 ≤ response.status ∧ response.status ≤ 299)) : c.verdict p (.ok response) =
      .error (.http response.status (.ofList ((bodyText response).toList.take 500))) :=
  if_neg h

/-- What comes of sending a payload once more, having sent it so many times. -/
def outcome (c : Client) (p : Payload) (n : Network) (earlier : List Http.Request) (sent : Nat) :
    Http.Outcome :=
  n.answer (earlier ++ List.replicate sent (c.request p)) (c.request p)

theorem outcome_zero (c : Client) (p : Payload) (n : Network) (earlier : List Http.Request) :
    c.outcome p n earlier 0 = n.answer earlier (c.request p) := by
  simp [outcome]

theorem outcome_append (c : Client) (p : Payload) (n : Network) (earlier : List Http.Request)
    (sent : Nat) : c.outcome p n (earlier ++ [c.request p]) sent =
      c.outcome p n earlier (sent + 1) := by
  rw [outcome, outcome, List.append_assoc, List.replicate_succ, List.singleton_append]

/-- The request once, and then again behind each pause, for so many retries from the given one on. -/
def trail (c : Client) (p : Payload) (attempt retries : Nat) : List Session.Act :=
  .sent (c.request p) :: (List.range' attempt retries).flatMap fun i =>
    [.paused (c.retry.delayFor i), .sent (c.request p)]

theorem trail_succ (c : Client) (p : Payload) (attempt retries : Nat) :
    c.trail p attempt (retries + 1) = .sent (c.request p) ::
      .paused (c.retry.delayFor attempt) :: c.trail p (attempt + 1) retries := rfl

theorem requests_trail (c : Client) (p : Payload) (attempt retries : Nat) :
    Session.requests (c.trail p attempt retries) = List.replicate (retries + 1) (c.request p) := by
  induction retries generalizing attempt with
  | zero => rfl
  | succ retries ih =>
    rw [trail_succ, Session.requests_sent, Session.requests_paused, ih, ← List.replicate_succ]

theorem pauses_trail (c : Client) (p : Payload) (attempt retries : Nat) :
    Session.pauses (c.trail p attempt retries) =
      (List.range' attempt retries).map c.retry.delayFor := by
  induction retries generalizing attempt with
  | zero => rfl
  | succ retries ih =>
    rw [trail_succ, Session.pauses_sent, Session.pauses_paused, ih, List.range'_succ, List.map_cons]

section Course

variable (c : Client) (p : Payload) (n : Network) (earlier : List Http.Request)

@[simp] theorem course_readBody (response : Http.Response) :
    (c.readBody response).course n earlier = (bodyText response, []) := by
  obtain ⟨status, fields, body, decoder⟩ := response
  cases body <;> rfl

@[simp] theorem course_conclude (response : Http.Response) :
    (conclude p response.status (bodyText response)).course n earlier =
      (c.verdict p (.ok response), []) := by
  unfold conclude
  by_cases h : 200 ≤ response.status ∧ response.status ≤ 299
  · simp [Http.isSuccessStatus, h, verdict_of_success]
  · simp [Http.isSuccessStatus, h, verdict_of_refusal, Text.excerpt]

/-- A response that is waited for no longer is the end of the submission. -/
theorem course_answered (response : Http.Response) :
    (do conclude p response.status (← c.readBody response)).course n earlier =
      (c.verdict p (.ok response), []) := by
  rw [Session.course_bind_of_no_requests _ _ _ _ _ (course_readBody ..), course_conclude]

theorem course_sendFrom_zero (attempt : Nat) :
    (c.sendFrom p attempt 0).course n earlier =
      (c.verdict p (n.answer earlier (c.request p)), [.sent (c.request p)]) := by
  rw [sendFrom, Session.course_ask_bind]
  cases n.answer earlier (c.request p) with
  | error failure => simp only [Http.course_returnFailure, verdict]
  | ok response => simp only [course_answered]

/-- An outcome that does not ask for patience is the end, whatever retries are left. -/
theorem course_sendFrom_succ_of_final (attempt left : Nat)
    (h : ¬ AsksForPatience (n.answer earlier (c.request p))) :
    (c.sendFrom p attempt (left + 1)).course n earlier =
      (c.verdict p (n.answer earlier (c.request p)), [.sent (c.request p)]) := by
  rw [sendFrom, Session.course_ask_bind]
  cases houtcome : n.answer earlier (c.request p) with
  | error failure => simp only [Http.course_returnFailure, verdict]
  | ok response =>
    rw [houtcome] at h
    have hstatus : ¬ response.status = tooManyRequests := h
    simp only [if_neg hstatus, course_answered]

theorem course_sendFrom_succ_of_asksForPatience (attempt left : Nat)
    (h : AsksForPatience (n.answer earlier (c.request p))) :
    (c.sendFrom p attempt (left + 1)).course n earlier =
      let (result, acts) := (c.sendFrom p (attempt + 1) left).course n (earlier ++ [c.request p])
      (result, .sent (c.request p) :: .paused (c.retry.delayFor attempt) :: acts) := by
  rw [sendFrom, Session.course_ask_bind]
  cases houtcome : n.answer earlier (c.request p) with
  | error failure =>
    rw [houtcome] at h
    cases h
  | ok response =>
    rw [houtcome] at h
    have hstatus : response.status = tooManyRequests := h
    simp only [Session.course_bind_of_no_requests _ _ _ _ _ (course_readBody ..), if_pos hstatus,
      Session.course_say_bind, Session.course_wait_bind]

/-- Sent with `left` retries left, a submission makes `k` of them: those that the outcomes of the
attempts before call for, so far as the retries reach. -/
theorem exists_course_sendFrom (attempt left : Nat) :
    ∃ k ≤ left, (k = left ∨ ¬ AsksForPatience (c.outcome p n earlier k)) ∧
      (∀ i < k, AsksForPatience (c.outcome p n earlier i)) ∧
      (c.sendFrom p attempt left).course n earlier =
        (c.verdict p (c.outcome p n earlier k), c.trail p attempt k) := by
  induction left generalizing attempt earlier with
  | zero =>
    refine ⟨0, Nat.le_refl 0, Or.inl rfl, by simp, ?_⟩
    rw [course_sendFrom_zero, outcome_zero]
    rfl
  | succ left ih =>
    by_cases h : AsksForPatience (n.answer earlier (c.request p))
    · obtain ⟨k, hk, hlast, hbefore, hcourse⟩ := ih (earlier ++ [c.request p]) (attempt + 1)
      simp only [outcome_append] at hlast hbefore hcourse
      refine ⟨k + 1, by omega, ?_, ?_, ?_⟩
      · exact hlast.imp_left (congrArg (· + 1))
      · intro i hi
        cases i with
        | zero => rwa [outcome_zero]
        | succ i => exact hbefore i (by omega)
      · rw [course_sendFrom_succ_of_asksForPatience _ _ _ _ _ _ h, hcourse, trail_succ]
    · refine ⟨0, Nat.zero_le _, Or.inr (by rwa [outcome_zero]), by simp, ?_⟩
      rw [course_sendFrom_succ_of_final _ _ _ _ _ _ h, outcome_zero]
      rfl

end Course

/-- The attempt that ends a submission, given what would come of each. -/
def IsLastAttempt (c : Client) (o : Nat → Http.Outcome) (k : Nat) : Prop :=
  IsLeast {i | ¬ AsksForPatience (o i) ∨ i = c.retry.maxRetries} k

theorem exists_course_send (c : Client) (p : Payload) (n : Network) (earlier : List Http.Request) :
    ∃ k, c.IsLastAttempt (c.outcome p n earlier) k ∧ (c.send p).course n earlier =
      (c.verdict p (c.outcome p n earlier k), c.trail p 0 k) := by
  obtain ⟨k, hk, hlast, hbefore, hcourse⟩ :=
    c.exists_course_sendFrom p n earlier 0 c.retry.maxRetries
  refine ⟨k, ⟨hlast.symm, ?_⟩, hcourse⟩
  rintro i (hi | rfl)
  · by_contra hlt
    exact hi (hbefore i (by omega))
  · exact hk

/-- A result with the status that asks for patience comes of such an answer only. -/
theorem asksForPatience_of_verdict (c : Client) (p : Payload) (outcome : Http.Outcome)
    (body : String) (h : c.verdict p outcome = .error (.http tooManyRequests body)) :
    AsksForPatience outcome := by
  cases outcome with
  | error failure => simp [verdict] at h
  | ok response =>
    by_cases hsuccess : 200 ≤ response.status ∧ response.status ≤ 299
    · rw [verdict_of_success c p response hsuccess] at h
      cases h
    · rw [verdict_of_refusal c p response hsuccess] at h
      obtain ⟨hstatus, -⟩ := Error.http.inj (Except.error.inj h)
      exact hstatus

/-- The pauses of a submission are the first ones of its policy. -/
theorem pauses_trail_le (c : Client) (p : Payload) (k : Nat) (h : k ≤ c.retry.maxRetries) :
    (Duration.sum (Session.pauses (c.trail p 0 k))).nanos ≤ c.retry.totalBackoff.nanos ∧
      (((Session.pauses (c.trail p 0 k)).map Duration.nanos).sum ≤ c.retry.totalBackoff.nanos ∨
        c.retry.totalBackoff.nanos = Duration.maxNanos) := by
  have hsum := c.retry.sum_nanos_delays_le k h
  rw [pauses_trail, ← List.range_eq_range', RetryPolicy.totalBackoff, Duration.nanos_sum,
    Duration.nanos_sum]
  omega

/-- A submission sends its payload to its endpoint once and then once behind each pause, up to the
last attempt, and the outcome of that attempt alone is its result. A refusal keeps the first 500
characters of the text that came with it. -/
theorem run_send (c : Client) (p : Payload) (n : Network) (earlier : List Http.Request)
    (o : Nat → Http.Outcome)
    (ho : ∀ i, n.answer (earlier ++ List.replicate i (c.request p)) (c.request p) = o i) :
    let sending := (c.send p).run n earlier
    ∃ k, c.IsLastAttempt o k ∧
      Session.requests sending.2 = List.replicate (k + 1) {
        method := .post, target := c.config.endpoint, userAgent := c.http.userAgent,
        timeoutSecs := c.http.timeoutSecs, body? := some p.wire } ∧
      Session.pauses sending.2 = (List.range k).map c.retry.delayFor ∧
      Session.deeds sending.2 = c.trail p 0 k ∧
      (Duration.sum (Session.pauses sending.2)).nanos ≤ c.retry.totalBackoff.nanos ∧
      (((Session.pauses sending.2).map Duration.nanos).sum ≤ c.retry.totalBackoff.nanos ∨
        c.retry.totalBackoff.nanos = Duration.maxNanos) ∧
      sending.1 = c.verdict p (o k) ∧
      (∀ body, sending.1 = .error (.http tooManyRequests body) → k = c.retry.maxRetries) ∧
      ∀ response s, o k = .ok response → CarriesText response s →
        ¬ (200 ≤ response.status ∧ response.status ≤ 299) →
        sending.1 = .error (.http response.status (.ofList (s.toList.take 500))) := by
  intro sending
  obtain ⟨k, hk, hcourse⟩ := c.exists_course_send p n earlier
  have ho' : c.outcome p n earlier = o := funext ho
  rw [ho'] at hk hcourse
  have hresult : sending.1 = c.verdict p (o k) := congrArg Prod.fst hcourse
  have hdeeds : Session.deeds sending.2 = c.trail p 0 k := congrArg Prod.snd hcourse
  have hpauses : Session.pauses sending.2 = Session.pauses (c.trail p 0 k) := by
    rw [← hdeeds, Session.pauses_deeds]
  obtain ⟨hsum, htotal⟩ := c.pauses_trail_le p k (hk.2 (Or.inr rfl))
  refine ⟨k, hk, ?_, ?_, hdeeds, ?_, ?_, hresult, ?_, ?_⟩
  · rw [← Session.requests_deeds, hdeeds, requests_trail]
    rfl
  · rw [hpauses, pauses_trail, List.range_eq_range']
  · rwa [hpauses]
  · rwa [hpauses]
  · intro body hbody
    rw [hresult] at hbody
    have hpatience := c.asksForPatience_of_verdict p (o k) body hbody
    exact hk.1.resolve_left (not_not_intro hpatience)
  · intro response s hresponse hcarries hrefusal
    rw [hresult, hresponse, c.verdict_of_refusal p response hrefusal,
      bodyText_of_carriesText response s hcarries]

/-- Two answers that ask for patience, one of them without a body that can be read, and then a
refusal with a text. -/
theorem run_send_after_patience :
    let c : Client := ⟨⟨defaultUserAgent, 30⟩, {}, {}⟩
    let p : Payload := ⟨"example.com", "k", "https://example.com/k.txt", ["https://example.com/"]⟩
    let o : Nat → Http.Outcome := fun i =>
      if i = 0 then .ok ⟨429, [], .ok [0x73], .utf8⟩
      else if i = 1 then .ok ⟨429, [], .error ⟨.broken, "cut off"⟩, .utf8⟩
      else .ok ⟨503, [], .ok [0x62, 0x75, 0x73, 0x79], .utf8⟩
    (∀ i, (Network.playing o).answer ([] ++ List.replicate i (c.request p)) (c.request p) = o i) ∧
      Session.deeds ((c.send p).run (.playing o) []).2 = [.sent (c.request p),
        .paused (.ofSeconds 1), .sent (c.request p), .paused (.ofSeconds 2),
        .sent (c.request p)] ∧
      ((c.send p).run (.playing o) []).1 = .error (.http 503 "busy") := by
  intro c p o
  have hsendable : (c.request p).isSendable = true := by decide +kernel
  have ho : ∀ i, (Network.playing o).answer ([] ++ List.replicate i (c.request p)) (c.request p) =
      o i := by
    intro i
    rw [Network.answer_playing _ _ _ hsendable, List.nil_append, List.length_replicate]
  obtain ⟨k, hk, -, -, hdeeds, -, -, -, -, hrefused⟩ := run_send c p (.playing o) [] o ho
  have hlast : k = 2 := by
    have hfirst : AsksForPatience (o 0) := rfl
    have hsecond : AsksForPatience (o 1) := rfl
    have hle : k ≤ 2 := hk.2 (Or.inl (by simp [o, AsksForPatience, tooManyRequests]))
    have hretries : c.retry.maxRetries = 4 := rfl
    rcases hk.1 with hfinal | hmax
    · have hzero : k ≠ 0 := by
        rintro rfl
        exact hfinal hfirst
      have hone : k ≠ 1 := by
        rintro rfl
        exact hfinal hsecond
      omega
    · omega
  have hdelays : c.retry.delayFor 0 = .ofSeconds 1 ∧ c.retry.delayFor 1 = .ofSeconds 2 := by
    decide +kernel
  have hoctets : [0x62, 0x75, 0x73, 0x79] = Text.Utf8.encode "busy" := by
    rw [Text.Utf8.encode_eq]
    decide
  have hcarries : CarriesText ⟨503, [], .ok [0x62, 0x75, 0x73, 0x79], .utf8⟩ "busy" :=
    ⟨congrArg Except.ok hoctets, by simp, by decide⟩
  rw [hlast] at hdeeds hrefused
  refine ⟨ho, ?_, ?_⟩
  · rw [hdeeds, ← hdelays.1, ← hdelays.2]
    rfl
  · exact hrefused _ "busy" rfl hcarries (by simp)

end Client

end IndexNow

end Crawlability
