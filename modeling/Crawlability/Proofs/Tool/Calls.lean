import Crawlability.Proofs.Audit.Parts
import Crawlability.Proofs.IndexNow.Sending
import Crawlability.Proofs.Perplexity.Asking
import Crawlability.Proofs.Tool.Arguments

/-!
What a call sends. Nothing leaves before the name, the arguments and all that the operation needs
beforehand are in order: an address that can be read, a payload, a key. From there on each tool has
its own law, which says what goes out, to whom, and when the call ends well.
-/
namespace Crawlability

namespace Tool

/-! The laws. Each relates a record to the result of a call and to the requests that it sends. -/

/-- An audit always ends in the Markdown of its report. It asks for the page and then for the robots
file of the site, whatever has come of the page. -/
def AuditConduct (a : Audit.Auditor) (n : Network) (earlier : List Http.Request) (i : Audit.Inquiry)
    (result : Result) (requests : List Http.Request) : Prop :=
  result = ⟨((a.audit i.url i.checkRobots).run n earlier).1.toMarkdown, false⟩ ∧
    (∀ e, Url.parse (Text.trim i.url) = .error e → requests = []) ∧
    (∀ url, Url.parse (Text.trim i.url) = .ok url →
      i.checkRobotsTxt? = some false ∨ url.host? = none →
      requests = [a.client.getRequest url.text]) ∧
    ∀ url host, Url.parse (Text.trim i.url) = .ok url → i.checkRobotsTxt? ≠ some false →
      url.host? = some host →
      requests = [a.client.getRequest url.text, a.client.getRequest (a.robotsScheme ++ "://" ++
        (host.text ++ url.port?.elim "" fun port => ":" ++ toString port) ++ "/robots.txt")]

/-- A submission sends nothing unless there is a payload. It sends that to the endpoint, again after
each answer that asks for patience, and ends well if the last answer is a success. -/
def SubmissionConduct (c : IndexNow.Client) (n : Network) (earlier : List Http.Request)
    (s : IndexNow.Submission) (result : Result) (requests : List Http.Request) : Prop :=
  (∀ e, IndexNow.Payload.resolve s c.config = .error e →
      result = ⟨e.message, true⟩ ∧ requests = []) ∧
    ∀ p, IndexNow.Payload.resolve s c.config = .ok p →
      ∃ k ≤ c.retry.maxRetries, requests = List.replicate (k + 1) {
          method := .post, target := c.config.endpoint, userAgent := c.http.userAgent,
          timeoutSecs := c.http.timeoutSecs, body? := some p.wire } ∧
        (result.isError = false ↔ ∃ response, c.outcome p n earlier k = .ok response ∧
          200 ≤ response.status ∧ response.status ≤ 299)

/-- A key that can be used: from the caller or from the configuration, and not blank. -/
def IsUsableKey (c : Perplexity.Client) (k : Perplexity.Check) (key : String) : Prop :=
  (k.apiKey? = some key ∨ c.config.apiKey? = some key) ∧ Text.isAllBlank key = false

/-- A check sends nothing unless there are an address and a key, and else one question with the key,
which is the one of the caller if that can be used. -/
def CheckConduct (c : Perplexity.Client) (k : Perplexity.Check) (result : Result)
    (requests : List Http.Request) : Prop :=
  (∀ e, Url.parse (Text.trim k.url) = .error e → result.isError = true ∧ requests = []) ∧
    ((∀ key, ¬ IsUsableKey c k key) → result.isError = true ∧ requests = []) ∧
    ∀ url, Url.parse (Text.trim k.url) = .ok url → (∃ key, IsUsableKey c k key) →
      ∃ key, IsUsableKey c k key ∧
        (∀ own, k.apiKey? = some own → Text.isAllBlank own = false → key = own) ∧
        requests = [{
          method := .post, target := c.config.endpoint, userAgent := c.http.userAgent,
          timeoutSecs := c.http.timeoutSecs, authorization? := some ("Bearer " ++ key),
          body? := some (Perplexity.ChatRequest.wire
            ⟨(Perplexity.firstPresent? k.model? c.config.model?).getD Perplexity.defaultModel,
              [.ofUser (Perplexity.prompt url)]⟩) }]

/-- The law of each tool. -/
def Registry.Conducts (r : Registry) (n : Network) (earlier : List Http.Request) (result : Result)
    (requests : List Http.Request) : (t : Tool) → t.Request → Prop
  | submitUrls, (s : IndexNow.Submission) =>
    SubmissionConduct r.indexNow n earlier s result requests
  | checkPerplexity, (k : Perplexity.Check) => CheckConduct r.perplexity k result requests
  | auditPage, (i : Audit.Inquiry) => AuditConduct r.auditor n earlier i result requests

/-- The result of a call whose operation ended so. -/
def Result.ofEnd : Except Error String → Result
  | .ok text => ⟨text, false⟩
  | .error e => ⟨e.message, true⟩

variable (r : Registry) (n : Network) (earlier : List Http.Request)

/-! Each operation keeps its law. -/

theorem conduct_audit (a : Audit.Auditor) (i : Audit.Inquiry) :
    AuditConduct a n earlier i ⟨((a.audit i.url i.checkRobots).run n earlier).1.toMarkdown, false⟩
      (Session.requests ((a.audit i.url i.checkRobots).course n earlier).2) := by
  refine ⟨rfl, ?_, ?_, ?_⟩
  · intro e he
    rw [a.course_audit_of_error n earlier _ e he, Session.requests_nil]
  · intro url hurl hnone
    rw [a.requests_course_audit n earlier _ url hurl]
    rcases hnone with hcheck | hhost
    · simp [Audit.Auditor.robotsRequests, Audit.Inquiry.checkRobots, hcheck]
    · have hsite := (Audit.Auditor.site?_eq_none_iff url).mpr hhost
      simp [Audit.Auditor.robotsRequests, hsite]
  · intro url host hurl hcheck hhost
    have hrobots : i.checkRobots = true := by
      obtain ⟨_, check?⟩ := i
      rcases check? with _ | _ | _ <;> simp_all [Audit.Inquiry.checkRobots]
    rw [a.requests_course_audit n earlier _ url hurl, hrobots]
    have hsite : url.site? =
        some (host.text ++ url.port?.elim "" fun port => ":" ++ toString port) := by
      rw [Url.site?, hhost]
      cases url.port? <;> simp [String.append_assoc]
    simp [Audit.Auditor.robotsRequests, hsite, Audit.Auditor.robotsRequest, Robots.fileUrl]

theorem course_submit (c : IndexNow.Client) (s : IndexNow.Submission) :
    (c.submit s).course n earlier =
      match IndexNow.Payload.resolve s c.config with
      | .error e => (.error e, [])
      | .ok p => (c.send p).course n earlier := by
  unfold IndexNow.Client.submit
  simp only [Session.course_ite_say_bind]
  cases IndexNow.Payload.resolve s c.config with
  | error e => rfl
  | ok p => rfl

/-- A submission ends well when its last answer is a success. -/
theorem isError_ofEnd_verdict (c : IndexNow.Client) (p : IndexNow.Payload)
    (outcome : Http.Outcome) : (Result.ofEnd (c.verdict p outcome)).isError = false ↔
      ∃ response, outcome = .ok response ∧ 200 ≤ response.status ∧ response.status ≤ 299 := by
  cases outcome with
  | error failure => simp [IndexNow.Client.verdict, Result.ofEnd]
  | ok response =>
    simp only [Except.ok.injEq, exists_eq_left']
    by_cases h : 200 ≤ response.status ∧ response.status ≤ 299
    · simp [c.verdict_of_success p response h, Result.ofEnd, h]
    · simp [c.verdict_of_refusal p response h, Result.ofEnd, h]

theorem conduct_submit (c : IndexNow.Client) (s : IndexNow.Submission) :
    SubmissionConduct c n earlier s (Result.ofEnd ((c.submit s).course n earlier).1)
      (Session.requests ((c.submit s).course n earlier).2) := by
  rw [course_submit]
  refine ⟨?_, ?_⟩
  · intro e he
    rw [he]
    exact ⟨rfl, rfl⟩
  · intro p hp
    rw [hp]
    obtain ⟨k, hk, hcourse⟩ := c.exists_course_send p n earlier
    have hle : k ≤ c.retry.maxRetries := hk.2 (Or.inr rfl)
    simp only [hcourse]
    exact ⟨k, hle, c.requests_trail p 0 k, isError_ofEnd_verdict c p _⟩

theorem conduct_check (c : Perplexity.Client) (k : Perplexity.Check) :
    CheckConduct c k (Result.ofEnd ((c.check k).course n earlier).1)
      (Session.requests ((c.check k).course n earlier).2) := by
  refine ⟨?_, ?_, ?_⟩
  · intro e he
    rw [c.check_of_error k e he]
    exact ⟨rfl, rfl⟩
  · intro hunusable
    have hkey : Perplexity.firstPresent? k.apiKey? c.config.apiKey? = none := by
      rw [Perplexity.firstPresent?_eq_none_iff]
      intro key hkey
      exact Bool.of_not_eq_false fun hblank => hunusable key ⟨hkey, hblank⟩
    cases hurl : Url.parse (Text.trim k.url) with
    | error e =>
      rw [c.check_of_error k e hurl]
      exact ⟨rfl, rfl⟩
    | ok url =>
      rw [c.check_of_no_key k url hurl hkey]
      exact ⟨rfl, rfl⟩
  · rintro url hurl ⟨usable, husable, hblank⟩
    cases hkey : Perplexity.firstPresent? k.apiKey? c.config.apiKey? with
    | none =>
      have hall := (Perplexity.firstPresent?_eq_none_iff _ _).mp hkey usable husable
      simp [hblank] at hall
    | some key =>
      obtain ⟨hpresent, hsource⟩ := (Perplexity.firstPresent?_eq_some_iff _ _ key).mp hkey
      rw [c.check_of_key k url hurl key hkey]
      refine ⟨key, ⟨hsource.imp_right And.right, hpresent⟩, ?_,
        c.requests_course_ask n earlier url key _⟩
      intro own hown howned
      rcases hsource with hkeyown | ⟨hothers, -⟩
      · exact Option.some.inj (hkeyown.symm.trans hown)
      · simp [hothers own hown] at howned

theorem Registry.course_operate_auditPage (i : Audit.Inquiry) :
    (r.operate auditPage i).course n earlier =
      (.ok ((r.auditor.audit i.url i.checkRobots).run n earlier).1.toMarkdown,
        ((r.auditor.audit i.url i.checkRobots).course n earlier).2) := by
  change (r.auditor.audit i.url i.checkRobots >>= fun report =>
    (pure (.ok report.toMarkdown) : Session (Except Error String))).course n earlier = _
  rw [Session.course_bind, ← Session.fst_course]
  simp only [Session.course_pure, List.append_nil]

/-- An operation keeps the law of its tool. -/
theorem Registry.conduct_operate (t : Tool) (request : t.Request) :
    r.Conducts n earlier (Result.ofEnd ((r.operate t request).course n earlier).1)
      (Session.requests ((r.operate t request).course n earlier).2) t request := by
  cases t with
  | submitUrls => exact conduct_submit n earlier r.indexNow request
  | checkPerplexity => exact conduct_check n earlier r.perplexity request
  | auditPage =>
    rw [r.course_operate_auditPage n earlier request]
    have haudit := conduct_audit n earlier r.auditor request
    simpa only [Result.ofEnd, Registry.Conducts] using haudit

theorem find?_eq_some_iff (name : String) (t : Tool) : find? name = some t ↔ t.name = name := by
  constructor
  · intro h
    have hbeq := List.find?_some h
    exact eq_of_beq hbeq
  · rintro rfl
    cases t <;> decide

theorem find?_eq_none_iff (name : String) : find? name = none ↔ ∀ t : Tool, t.name ≠ name := by
  simp only [Option.eq_none_iff_forall_ne_some, ne_eq, find?_eq_some_iff]

theorem Registry.course_call_of_unknown (name : String) (args? : Option Json) (h : find? name = none) :
    (r.call name args?).course n earlier = (⟨"Unknown tool: " ++ name, true⟩, []) := by
  unfold Registry.call
  rw [h]
  rfl

theorem Registry.course_call_of_fault (name : String) (args? : Option Json) (t : Tool)
    (h : find? name = some t) (fault : String)
    (hfault : t.spec.validate (args?.getD (.object [])) = .error fault) :
    (r.call name args?).course n earlier = (⟨fault, true⟩, []) := by
  unfold Registry.call
  rw [h]
  simp only [hfault]
  rfl

theorem Registry.course_call (name : String) (args? : Option Json) (t : Tool)
    (h : find? name = some t) (hvalid : t.spec.validate (args?.getD (.object [])) = .ok ())
    (request : t.Request) (hrequest : t.request? (args?.getD (.object [])) = some request) :
    (r.call name args?).course n earlier =
      (Result.ofEnd ((r.operate t request).course n earlier).1,
        ((r.operate t request).course n earlier).2) := by
  unfold Registry.call
  rw [h]
  simp only [hvalid]
  rw [perform_of_request? r t _ request hrequest, Session.course_bind]
  obtain ⟨ended, acts⟩ := (r.operate t request).course n earlier
  cases ended with
  | ok text => simp [Result.ofEnd]
  | error e => simp [Result.ofEnd]

end Tool

end Crawlability
