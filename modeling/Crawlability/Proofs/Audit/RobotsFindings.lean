import Crawlability.Proofs.Audit.Parts
import Crawlability.Proofs.Robots.Root

/-!
From the outcome of a request for a robots file to the findings of a report. Without a text nothing
is known of any crawler, and with one the rules for the root decide. Each crawler then gives rise to
one finding in its place, with an action beside it when it is shut out.
-/
namespace Crawlability

namespace Robots

theorem textFrom?_eq_some_iff (outcome : Http.Outcome) (text : String) :
    textFrom? outcome = some text ↔ ∃ response octets, outcome = .ok response ∧
      response.body = .ok octets ∧ response.status < 400 ∧ text = Text.Utf8.decodeLossy octets := by
  unfold textFrom?
  split
  · simp
  · rename_i response
    split
    · rename_i failure hbody
      simp [hbody]
    · rename_i octets hbody
      by_cases hstatus : 400 ≤ response.status
      · simp [hbody, hstatus, Nat.not_lt.mpr hstatus]
      · simp [hbody, hstatus, Nat.not_le.mp hstatus, eq_comm]

theorem textFrom?_eq_none_iff (outcome : Http.Outcome) : textFrom? outcome = none ↔
    (∃ failure, outcome = .error failure) ∨ ∃ response, outcome = .ok response ∧
      (400 ≤ response.status ∨ ∃ failure, response.body = .error failure) := by
  unfold textFrom?
  split
  · simp
  · rename_i response
    split
    · rename_i failure hbody
      simp [hbody]
    · rename_i octets hbody
      simp [hbody]

theorem map_agent_accessFrom (outcome : Http.Outcome) :
    (accessFrom outcome).map (·.agent) = roster := by
  unfold accessFrom
  split
  · rw [List.map_map]
    exact List.map_id roster
  · rw [List.map_map]
    exact List.map_id roster

theorem access_of_textFrom?_eq_none (outcome : Http.Outcome) (h : textFrom? outcome = none)
    (status : AgentAccess) (hstatus : status ∈ accessFrom outcome) : status.access = .unknown := by
  rw [accessFrom, h] at hstatus
  obtain ⟨agent, -, rfl⟩ := List.mem_map.mp hstatus
  rfl

theorem access_of_textFrom?_eq_some (outcome : Http.Outcome) (text : String)
    (h : textFrom? outcome = some text) (status : AgentAccess)
    (hstatus : status ∈ accessFrom outcome) :
    status.access = (Document.parse text).evaluate status.agent "/" := by
  rw [accessFrom, h] at hstatus
  obtain ⟨agent, -, rfl⟩ := List.mem_map.mp hstatus
  rfl

end Robots

namespace Audit.Report

/-- What a warning says of a crawler that is shut out or not provided for. -/
def robotsWarning? (status : Robots.AgentAccess) : Option String :=
  match status.access with
  | .blocked => some ("robots.txt blocks " ++ status.agent ++ " from the site.")
  | .unknown =>
    some ("robots.txt access for " ++ status.agent ++ " is unknown (no matching group).")
  | .allowed => none

def robotsGood? (status : Robots.AgentAccess) : Option String :=
  match status.access with
  | .allowed => some ("robots.txt allows " ++ status.agent ++ ".")
  | _ => none

def robotsAction? (status : Robots.AgentAccess) : Option String :=
  match status.access with
  | .blocked => some ("Update robots.txt to allow " ++ status.agent ++ " if desired.")
  | _ => none

/-- One crawler adds its findings at the ends of their buckets. -/
theorem reviewAgent_eq (r : Report) (status : Robots.AgentAccess) : r.reviewAgent status = {
    critical := r.critical
    warnings := r.warnings ++ (robotsWarning? status).toList
    good := r.good ++ (robotsGood? status).toList
    actions := r.actions ++ (robotsAction? status).toList } := by
  unfold reviewAgent robotsWarning? robotsGood? robotsAction?
  cases status.access with
  | blocked => simp [addWarning, addAction]
  | allowed => simp [addGood]
  | unknown => simp [addWarning]

theorem reviewRobots_eq (r : Report) (statuses : List Robots.AgentAccess) :
    r.reviewRobots statuses = {
      critical := r.critical
      warnings := r.warnings ++ statuses.filterMap robotsWarning?
      good := r.good ++ statuses.filterMap robotsGood?
      actions := r.actions ++ statuses.filterMap robotsAction? } := by
  induction statuses generalizing r with
  | nil => simp [reviewRobots]
  | cons status statuses ih =>
    have hcons : ∀ f : Robots.AgentAccess → Option String, (status :: statuses).filterMap f =
        (f status).toList ++ statuses.filterMap f := by
      intro f
      rw [List.filterMap_cons]
      cases f status <;> rfl
    have hstep : r.reviewRobots (status :: statuses) =
        (r.reviewAgent status).reviewRobots statuses := rfl
    simp only [hstep, ih, reviewAgent_eq, hcons, List.append_assoc]

end Audit.Report

namespace Robots

/-- A summary tells of the four crawlers in their order. It knows nothing where no text is had, and
else a crawler is unknown if no group is for it or for all, and shut out if the first rule of the
root in its group forbids the root; rules of other paths play no part. A report gets the findings of
the crawlers in the same order, a warning and an action for one that is shut out, a good signal for
one that is let in and a warning for one that is unknown. -/
theorem run_lookUp (client : Http.Client) (n : Network) (earlier : List Http.Request)
    (target : String) :
    let outcome := n.answer earlier (client.getRequest target)
    let summary := ((lookUp client target).run n earlier).1
    summary.map (·.agent) = ["ClaudeBot", "GPTBot", "PerplexityBot", "Bingbot"] ∧
    ((∃ failure, outcome = .error failure) ∨ (∃ response, outcome = .ok response ∧
        (400 ≤ response.status ∨ ∃ failure, response.body = .error failure)) →
      ∀ status ∈ summary, status.access = .unknown) ∧
    (∀ response octets, outcome = .ok response → response.body = .ok octets →
      response.status < 400 →
      let d := Document.parse (Text.Utf8.decodeLossy octets)
      summary = d.summary ∧ ∀ status ∈ summary,
        (status.access = .unknown ↔ ∀ g ∈ d.groups, ∀ name ∈ g.agents,
          Text.lowercase name ≠ Text.lowercase status.agent ∧ name ≠ "*") ∧
        (status.access = .blocked ↔ ∃ g, d.Selects status.agent g ∧ g.BlocksRoot)) ∧
    (∀ d d' : Document, d.atRoot = d'.atRoot → d.summary = d'.summary) ∧
    ∀ (r : Audit.Report) (statuses : List AgentAccess), r.reviewRobots statuses = {
      critical := r.critical
      warnings := r.warnings ++ statuses.filterMap Audit.Report.robotsWarning?
      good := r.good ++ statuses.filterMap Audit.Report.robotsGood?
      actions := r.actions ++ statuses.filterMap Audit.Report.robotsAction? } := by
  intro outcome summary
  have hsummary : summary = accessFrom outcome := by
    unfold summary outcome
    rw [← Session.fst_course, course_lookUp]
  rw [hsummary]
  refine ⟨map_agent_accessFrom outcome, ?_, ?_, ?_, Audit.Report.reviewRobots_eq⟩
  · intro hfails
    exact access_of_textFrom?_eq_none outcome ((textFrom?_eq_none_iff outcome).mpr hfails)
  · intro response octets houtcome hbody hstatus d
    have htext : textFrom? outcome = some (Text.Utf8.decodeLossy octets) :=
      (textFrom?_eq_some_iff outcome _).mpr ⟨response, octets, houtcome, hbody, hstatus, rfl⟩
    refine ⟨?_, ?_⟩
    · rw [accessFrom, htext]
      rfl
    · intro status hmem
      rw [access_of_textFrom?_eq_some outcome _ htext status hmem]
      exact ⟨Document.evaluate_parse_eq_unknown_iff_names _ status.agent "/",
        d.evaluate_root_eq_blocked_iff status.agent⟩
  · intro d d' hroot
    rw [← d.summary_atRoot, hroot, d'.summary_atRoot]

/-- A site that cannot be reached at first, and then forbids its root before it allows it again. -/
theorem run_lookUp_of_shut_root :
    let client : Http.Client := ⟨defaultUserAgent, 30⟩
    let target := "https://example.com/robots.txt"
    let octets := "User-agent: *\nAllow: /a\nDisallow: /\nAllow: /".toList.map (·.toNat.toUInt8)
    let failure : Http.Failure := ⟨.connection, "error trying to connect"⟩
    let n : Network := .playing fun i =>
      if i = 0 then .error failure else .ok ⟨200, [], .ok octets, .utf8⟩
    (∀ status ∈ ((lookUp client target).run n []).1, status.access = .unknown) ∧
      ∀ status ∈ ((lookUp client target).run n [client.getRequest target]).1,
        status.access = .blocked := by
  intro client target octets failure n
  have hsendable : (client.getRequest target).isSendable = true := by decide +kernel
  have hfirst : n.answer [] (client.getRequest target) = .error failure :=
    Network.answer_playing _ [] _ hsendable
  have hsecond : n.answer [client.getRequest target] (client.getRequest target) =
      .ok ⟨200, [], .ok octets, .utf8⟩ :=
    Network.answer_playing _ [client.getRequest target] _ hsendable
  obtain ⟨-, hunknown, -⟩ := run_lookUp client n [] target
  obtain ⟨-, -, hdecided, -⟩ := run_lookUp client n [client.getRequest target] target
  obtain ⟨hsummary, hblocked⟩ := hdecided ⟨200, [], .ok octets, .utf8⟩ octets hsecond rfl (by decide)
  refine ⟨hunknown (Or.inl ⟨failure, hfirst⟩), ?_⟩
  intro status hstatus
  rw [(hblocked status hstatus).2, ← Document.evaluate_root_eq_blocked_iff]
  rw [hsummary] at hstatus
  obtain ⟨agent, hagent, rfl⟩ := List.mem_map.mp hstatus
  revert agent
  decide +kernel

end Robots

end Crawlability
