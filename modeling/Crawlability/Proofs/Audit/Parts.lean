import Crawlability.Proofs.Audit.Findings
import Crawlability.Proofs.Session.Course
import Crawlability.Proofs.Url.Reading

/-!
An audit in two parts. What is found on the page comes of the outcome of its own request and of
nothing else, and so does what the robots file says. The report is the one part and then the other,
bucket by bucket; neither part is lost when the request of the other fails.
-/
namespace Crawlability

namespace Robots

/-- The text of a robots file, if the outcome of its request brings one. A status from 400 on does
not, whatever the body. -/
def textFrom? : Http.Outcome → Option String
  | .error _ => none
  | .ok response =>
    match response.body with
    | .error _ => none
    | .ok octets =>
      if 400 ≤ response.status then none else some (Text.Utf8.decodeLossy octets)

/-- What the outcome of the request for a robots file means for each crawler. -/
def accessFrom (outcome : Http.Outcome) : List AgentAccess :=
  match textFrom? outcome with
  | some text => roster.map fun agent => ⟨agent, (Document.parse text).evaluate agent "/"⟩
  | none => roster.map fun agent => ⟨agent, .unknown⟩

/-- Looking up a robots file sends one request and does not wait. -/
theorem course_lookUp (client : Http.Client) (n : Network) (earlier : List Http.Request)
    (target : String) : (lookUp client target).course n earlier =
      (accessFrom (n.answer earlier (client.getRequest target)),
        [.sent (client.getRequest target)]) := by
  rw [lookUp, fetchText, Session.course_bind, Session.course_bind, Http.course_fetch]
  generalize n.answer earlier (client.getRequest target) = outcome
  cases outcome with
  | error failure => rfl
  | ok response =>
    obtain ⟨status, fields, body, decoder⟩ := response
    cases body with
    | error failure => rfl
    | ok octets =>
      by_cases h : 400 ≤ status
      · simp [Http.received, accessFrom, textFrom?, h, unknownSummary]
      · simp [Http.received, accessFrom, textFrom?, h, Document.summary]

end Robots

namespace Audit

/-- What the outcome of the request for a page gives rise to. -/
def pageFindings (target : String) (outcome : Http.Outcome) : Report :=
  match Http.received target outcome with
  | .ok page => Report.reviewPage {} page
  | .error e => {
      critical := ["Failed to fetch page: " ++ e.message]
      actions := ["Verify the URL is reachable and not blocking requests."] }

/-- What the outcome of the request for the robots file gives rise to. Without a host, or when the
file is not asked for, there is nothing to say. -/
def robotsFindings (url : Url) (checkRobots : Bool) (outcome : Http.Outcome) : Report :=
  if checkRobots = true ∧ url.host? ≠ none then
    Report.reviewRobots {} (Robots.accessFrom outcome)
  else {}

theorem isPlain_pageFindings (target : String) (outcome : Http.Outcome) :
    (pageFindings target outcome).IsPlain := by
  unfold pageFindings
  split
  · exact Report.isPlain_reviewPage _ _ Report.isPlain_empty
  · exact Report.isPlain_reviewFailure _ _ Report.isPlain_empty

theorem isPlain_robotsFindings (url : Url) (checkRobots : Bool) (outcome : Http.Outcome) :
    (robotsFindings url checkRobots outcome).IsPlain := by
  unfold robotsFindings
  split
  · exact Report.isPlain_reviewRobots _ _ Report.isPlain_empty
  · exact Report.isPlain_empty

namespace Auditor

variable (a : Auditor) (n : Network) (earlier : List Http.Request)

/-- The request for the robots file of a site. -/
def robotsRequest (site : String) : Http.Request :=
  a.client.getRequest (Robots.fileUrl a.robotsScheme site)

theorem course_auditPage (url : Url) : (a.auditPage url).course n earlier =
    (pageFindings url.text (n.answer earlier (a.client.getRequest url.text)),
      [.sent (a.client.getRequest url.text)]) := by
  rw [auditPage, Session.course_bind, Http.course_fetch]
  unfold pageFindings
  cases Http.received url.text (n.answer earlier (a.client.getRequest url.text)) <;> rfl

theorem site?_eq_none_iff (url : Url) : url.site? = none ↔ url.host? = none := by
  rw [Url.site?, Option.map_eq_none_iff]

/-- The request for the robots file of an address, if it is made. -/
def robotsRequests (url : Url) (checkRobots : Bool) : List Http.Request :=
  if checkRobots then (url.site?.map a.robotsRequest).toList else []

theorem course_auditRobots (url : Url) (r : Report) (robots : Http.Outcome)
    (hrobots : ∀ site, url.site? = some site → n.answer earlier (a.robotsRequest site) = robots) :
    (a.auditRobots url r).course n earlier =
      (r ++ robotsFindings url true robots, (a.robotsRequests url true).map .sent) := by
  unfold auditRobots robotsFindings robotsRequests
  cases hsite : url.site? with
  | none =>
    have hhost : url.host? = none := (site?_eq_none_iff url).mp hsite
    simp [hhost, Report.append_empty]
  | some site =>
    have hhost : url.host? ≠ none := by simp [← site?_eq_none_iff, hsite]
    simp only [hhost, ne_eq, not_false_eq_true, and_self, if_true, ← Report.append_reviewRobots,
      Report.append_empty]
    rw [Session.course_bind, Robots.course_lookUp, ← hrobots site hsite]
    rfl

theorem course_audit (raw : String) (url : Url) (hurl : Url.parse (Text.trim raw) = .ok url)
    (checkRobots : Bool) (page robots : Http.Outcome)
    (hpage : n.answer earlier (a.client.getRequest url.text) = page)
    (hrobots : ∀ site, url.site? = some site →
      n.answer (earlier ++ [a.client.getRequest url.text]) (a.robotsRequest site) = robots) :
    (a.audit raw checkRobots).course n earlier =
      ((pageFindings url.text page ++ robotsFindings url checkRobots robots).finalize,
        .sent (a.client.getRequest url.text) :: (a.robotsRequests url checkRobots).map .sent) := by
  rw [audit, hurl]
  simp only [Session.course_say_bind]
  rw [Session.course_bind, course_auditPage, hpage]
  cases checkRobots with
  | true =>
    simp only [if_true, Session.requests_sent, Session.requests_nil]
    rw [Session.course_bind, a.course_auditRobots n _ url _ robots hrobots]
    simp
  | false => simp [robotsFindings, robotsRequests, Report.append_empty]

theorem fst_run_audit (raw : String) (url : Url) (hurl : Url.parse (Text.trim raw) = .ok url)
    (checkRobots : Bool) (page robots : Http.Outcome)
    (hpage : n.answer earlier (a.client.getRequest url.text) = page)
    (hrobots : ∀ site, url.site? = some site →
      n.answer (earlier ++ [a.client.getRequest url.text]) (a.robotsRequest site) = robots) :
    ((a.audit raw checkRobots).run n earlier).1 =
      (pageFindings url.text page ++ robotsFindings url checkRobots robots).finalize := by
  rw [← Session.fst_course, a.course_audit n earlier raw url hurl checkRobots page robots hpage
    hrobots]

/-- Something comes of the request for the robots file, if it is made. -/
theorem exists_robots_outcome (url : Url) : ∃ robots, ∀ site, url.site? = some site →
    n.answer earlier (a.robotsRequest site) = robots := by
  refine ⟨n.answer earlier (a.robotsRequest (url.site?.getD "")), ?_⟩
  intro site hsite
  rw [hsite, Option.getD_some]

/-- What an audit asks for does not depend on the network. -/
theorem requests_course_audit (raw : String) (url : Url)
    (hurl : Url.parse (Text.trim raw) = .ok url) (checkRobots : Bool) :
    Session.requests ((a.audit raw checkRobots).course n earlier).2 =
      a.client.getRequest url.text :: a.robotsRequests url checkRobots := by
  obtain ⟨robots, hrobots⟩ :=
    a.exists_robots_outcome n (earlier ++ [a.client.getRequest url.text]) url
  rw [a.course_audit n earlier raw url hurl checkRobots _ robots rfl hrobots, Session.requests_sent,
    Session.requests_map_sent]

/-- An address that cannot be read ends the audit before any request. -/
theorem course_audit_of_error (raw : String) (e : Url.ParseError)
    (hurl : Url.parse (Text.trim raw) = .error e) (checkRobots : Bool) :
    (a.audit raw checkRobots).course n earlier = ((Report.invalidUrl raw).finalize, []) := by
  rw [audit, hurl]
  rfl

/-- The report of an audit is what the page gives rise to and then what the robots file does, with
the sentence of a bucket exactly where neither found anything. Each part comes of its own outcome:
another audit with the same outcome for one part has the same findings there, whatever becomes of
the other part. -/
theorem run_audit (raw : String) (url : Url) (hurl : Url.parse (Text.trim raw) = .ok url)
    (checkRobots : Bool) (page robots : Http.Outcome)
    (hpage : n.answer earlier (a.client.getRequest url.text) = page)
    (hrobots : ∀ site, url.site? = some site →
      n.answer (earlier ++ [a.client.getRequest url.text]) (a.robotsRequest site) = robots) :
    let report := ((a.audit raw checkRobots).run n earlier).1
    let ofPage := pageFindings url.text page
    let ofRobots := robotsFindings url checkRobots robots
    (∀ b, report.bucket b =
      if ofPage.bucket b = [] ∧ ofRobots.bucket b = [] then [b.sentence]
      else ofPage.bucket b ++ ofRobots.bucket b) ∧
    (∀ b, b.sentence ∈ report.bucket b ↔ ofPage.bucket b = [] ∧ ofRobots.bucket b = []) ∧
    (∀ p, Http.received url.text page = .ok p → ofPage = Report.reviewPage {} p) ∧
    (∀ e, Http.received url.text page = .error e → ofPage = {
      critical := ["Failed to fetch page: " ++ e.message]
      actions := ["Verify the URL is reachable and not blocking requests."] }) ∧
    (checkRobots = false ∨ url.host? = none → ofRobots = {}) ∧
    (checkRobots = true → url.host? ≠ none → Robots.textFrom? robots = none →
      ofRobots = Report.reviewRobots {} (Robots.roster.map fun agent => ⟨agent, .unknown⟩)) ∧
    (∀ (checkRobots' : Bool) (n' : Network) (earlier' : List Http.Request),
      n'.answer earlier' (a.client.getRequest url.text) = page →
      ∃ robots', ((a.audit raw checkRobots').run n' earlier').1 =
        (ofPage ++ robotsFindings url checkRobots' robots').finalize) ∧
    (∀ (n' : Network) (earlier' : List Http.Request),
      (∀ site, url.site? = some site → n'.answer (earlier' ++ [a.client.getRequest url.text])
        (a.robotsRequest site) = robots) →
      ∃ page', ((a.audit raw checkRobots).run n' earlier').1 =
        (pageFindings url.text page' ++ ofRobots).finalize) ∧
    (∀ (r : Report) p, r.reviewPage p = r ++ Report.reviewPage {} p) ∧
    ∀ (r : Report) statuses, r.reviewRobots statuses = r ++ Report.reviewRobots {} statuses := by
  intro report ofPage ofRobots
  have hreport : report = (ofPage ++ ofRobots).finalize :=
    a.fst_run_audit n earlier raw url hurl checkRobots page robots hpage hrobots
  have hplain : (ofPage ++ ofRobots).IsPlain :=
    Report.isPlain_append _ _ (isPlain_pageFindings _ _) (isPlain_robotsFindings _ _ _)
  refine ⟨?_, ?_, ?_, ?_, ?_, ?_, ?_, ?_, ?_, ?_⟩
  · intro b
    simp only [hreport, Report.bucket_finalize, Report.bucket_append, List.append_eq_nil_iff]
  · intro b
    rw [hreport, Report.sentence_mem_finalize_iff _ hplain, Report.bucket_append,
      List.append_eq_nil_iff]
  · intro p hp
    simp only [ofPage, pageFindings, hp]
  · intro e he
    simp only [ofPage, pageFindings, he]
  · rintro (hcheck | hhost)
    · simp [ofRobots, robotsFindings, hcheck]
    · simp [ofRobots, robotsFindings, hhost]
  · intro hcheck hhost htext
    simp only [ofRobots, robotsFindings, Robots.accessFrom, htext, hcheck, hhost, ne_eq,
      not_false_eq_true, and_self, if_true]
  · intro checkRobots' n' earlier' hpage'
    obtain ⟨robots', hrobots'⟩ :=
      a.exists_robots_outcome n' (earlier' ++ [a.client.getRequest url.text]) url
    exact ⟨robots', a.fst_run_audit n' earlier' raw url hurl checkRobots' page robots' hpage'
      hrobots'⟩
  · intro n' earlier' hrobots'
    exact ⟨_, a.fst_run_audit n' earlier' raw url hurl checkRobots _ robots rfl hrobots'⟩
  · intro r p
    rw [← Report.append_reviewPage, Report.append_empty]
  · intro r statuses
    rw [← Report.append_reviewRobots, Report.append_empty]

/-- No server has the page, and the robots file of its site shuts everybody out. -/
theorem run_audit_of_unreachable_page :
    let a : Auditor := { client := ⟨defaultUserAgent, 30⟩, robotsScheme := "http" }
    let file : Http.Outcome := .ok ⟨200, [],
      .ok ("User-agent: *\nDisallow: /".toList.map fun c => c.toNat.toUInt8), .utf8⟩
    let failure : Http.Failure := ⟨.connection, "error trying to connect"⟩
    let n : Network := .playing fun i => if i = 0 then .error failure else file
    let report := ((a.audit " https://example.com " true).run n []).1
    report.critical = ["Failed to fetch page: Request to https://example.com/ failed: " ++
        "error trying to connect"] ∧
      report.warnings = Robots.roster.map fun agent =>
        "robots.txt blocks " ++ agent ++ " from the site." := by
  intro a file failure n report
  obtain ⟨url, hurl, hread⟩ := Url.exists_of_map_toOption (Text.trim " https://example.com ")
    (fun url => (url.text, url.site?)) ("https://example.com/", some "example.com")
    (by decide +kernel)
  obtain ⟨htext, hsite⟩ := Prod.mk.inj hread
  have hpage : n.answer [] (a.client.getRequest url.text) = .error failure := by
    rw [htext]
    exact Network.answer_playing _ _ _ (by decide +kernel)
  have hrobots : ∀ site, url.site? = some site →
      n.answer ([] ++ [a.client.getRequest url.text]) (a.robotsRequest site) = file := by
    rw [hsite]
    rintro site ⟨⟩
    exact Network.answer_playing _ _ _ (by decide +kernel)
  have hhost : url.host? ≠ none := by
    simp [← site?_eq_none_iff, hsite]
  obtain ⟨hbuckets, -⟩ := a.run_audit n [] _ url hurl true _ file hpage hrobots
  have hcritical := hbuckets .critical
  have hwarnings := hbuckets .warnings
  simp only [htext, robotsFindings, hhost, ne_eq, not_false_eq_true, and_self, if_true]
    at hcritical hwarnings
  refine ⟨hcritical.trans ?_, hwarnings.trans ?_⟩
  · decide +kernel
  · decide +kernel

end Auditor

end Audit

end Crawlability
