import Crawlability.Proofs.Audit.Layout
import Crawlability.Proofs.Audit.Parts
import Crawlability.Proofs.Url.Controls

/-!
Where a line feed can get into a report. The steps of a review put fixed texts, numbers, names of
crawlers and the text of an address into their findings; only the canonical address and the content
type are shown as the page gives them. So the Markdown of an audit keeps its layout unless one of
the two, the address that was refused, or the words of a failed transfer hold a line feed.
-/
namespace Crawlability

theorem Text.isOneLine_of_isClear (s : String) (h : Url.IsClear s) : Text.IsOneLine s := by
  intro hmem
  have hcontrol := h _ hmem
  revert hcontrol
  decide

theorem Text.isOneLine_repr (n : Nat) : Text.IsOneLine n.repr :=
  Text.isOneLine_of_isClear _ (Url.isClear_toString n)

theorem Http.exists_of_received_eq_error (target : String) (outcome : Outcome) (e : Error)
    (h : received target outcome = .error e) : ∃ failure, e = .network target failure := by
  unfold received at h
  split at h
  · rename_i failure
    cases h
    exact ⟨failure, rfl⟩
  · split at h
    · rename_i failure _
      cases h
      exact ⟨failure, rfl⟩
    · cases h

namespace Audit

open Text (IsOneLine isOneLine_ofList)

namespace Report

section Add

variable (r s : Report) (finding : String)

theorem isFlat_append : (r ++ s).IsFlat ↔ r.IsFlat ∧ s.IsFlat := by
  simp [IsFlat, or_imp, forall_and]

theorem isFlat_single (b : Bucket) : (single b finding).IsFlat ↔ IsOneLine finding := by
  constructor
  · intro h
    exact h b finding (by cases b <;> exact List.mem_singleton_self _)
  · intro h b' other hother
    cases b <;> cases b' <;> simp_all [single, bucket]

@[simp] theorem isFlat_addCritical :
    (r.addCritical finding).IsFlat ↔ r.IsFlat ∧ IsOneLine finding := by
  rw [addCritical_eq, isFlat_append, isFlat_single]

@[simp] theorem isFlat_addWarning :
    (r.addWarning finding).IsFlat ↔ r.IsFlat ∧ IsOneLine finding := by
  rw [addWarning_eq, isFlat_append, isFlat_single]

@[simp] theorem isFlat_addGood : (r.addGood finding).IsFlat ↔ r.IsFlat ∧ IsOneLine finding := by
  rw [addGood_eq, isFlat_append, isFlat_single]

@[simp] theorem isFlat_addAction :
    (r.addAction finding).IsFlat ↔ r.IsFlat ∧ IsOneLine finding := by
  rw [addAction_eq, isFlat_append, isFlat_single]

end Add

section Review

variable (r : Report)

theorem isFlat_foldl {α : Type} (step : Report → α → Report) (items : List α)
    (h : ∀ r, ∀ item ∈ items, (step r item).IsFlat ↔ r.IsFlat) :
    (items.foldl step r).IsFlat ↔ r.IsFlat :=
  items.foldlRecOn step Iff.rfl fun s hs item hitem => (h s item hitem).trans hs

theorem isFlat_reviewStatus (page : Http.Page) : (r.reviewStatus page).IsFlat ↔ r.IsFlat := by
  unfold reviewStatus
  split
  · rfl
  · have hbefore : IsOneLine "HTTP status " := isOneLine_ofList _ rfl
    have hbehind : IsOneLine " returned for the page." := isOneLine_ofList _ rfl
    simp [hbefore, hbehind, Text.isOneLine_repr]

/-- The content type is shown if it is not that of a page. -/
theorem isFlat_reviewContentType (page : Http.Page) : (r.reviewContentType page).IsFlat ↔
    r.IsFlat ∧ ∀ contentType, page.contentType? = some contentType →
      Page.occursIn "html".toList (Text.lowercaseChars contentType.toList) = false →
      IsOneLine contentType := by
  have hbefore : IsOneLine "Content-Type is " := isOneLine_ofList _ rfl
  have hbehind : IsOneLine ", not HTML." := isOneLine_ofList _ rfl
  unfold reviewContentType
  cases page.contentType? with
  | none => simp
  | some contentType =>
    simp only [Option.some.injEq, forall_eq']
    split
    · rename_i hhtml
      simp only [hhtml, Bool.true_eq_false, false_imp_iff, and_true]
    · rename_i hhtml
      rw [Bool.not_eq_true] at hhtml
      simp only [hhtml, true_imp_iff, isFlat_addWarning, Text.isOneLine_append, hbefore, hbehind,
        true_and, and_true]

theorem isFlat_reviewDirectives (source : String) (hsource : IsOneLine source)
    (directives : Page.Directives) :
    (r.reviewDirectives source directives).IsFlat ↔ r.IsFlat := by
  have hnoindex : IsOneLine " includes noindex." := isOneLine_ofList _ rfl
  have hincludes : IsOneLine " includes " := isOneLine_ofList _ rfl
  have hpoint : IsOneLine "." := isOneLine_ofList _ rfl
  unfold reviewDirectives
  rw [isFlat_foldl]
  · split
    · simp [hsource, hnoindex]
    · rfl
  · intro r warning hwarning
    have hwords : IsOneLine warning.1 ∧ IsOneLine warning.2 := by
      simp only [List.mem_cons, List.not_mem_nil, or_false] at hwarning
      rcases hwarning with rfl | rfl | rfl <;>
        exact ⟨isOneLine_ofList _ rfl, isOneLine_ofList _ rfl⟩
    dsimp only
    split
    · simp [hsource, hincludes, hwords, hpoint]
    · rfl

theorem isFlat_reviewHeaderDirectives (page : Http.Page) :
    (r.reviewHeaderDirectives page).IsFlat ↔ r.IsFlat := by
  unfold reviewHeaderDirectives
  split
  · rfl
  · exact isFlat_reviewDirectives r _ (isOneLine_ofList _ rfl) _

/-- The canonical address is shown as it stands in the page. -/
theorem isFlat_reviewCanonical (address? : Option String) :
    (r.reviewCanonical address?).IsFlat ↔
      r.IsFlat ∧ ∀ address, address? = some address → IsOneLine address := by
  cases address? with
  | none =>
    have hwarning : IsOneLine "No canonical link tag detected." := isOneLine_ofList _ rfl
    have haction : IsOneLine "Add a rel=\"canonical\" tag to declare the preferred URL." := isOneLine_ofList _ rfl
    simp [reviewCanonical, hwarning, haction]
  | some address =>
    have hbefore : IsOneLine "Canonical tag present: " := isOneLine_ofList _ rfl
    simp [reviewCanonical, hbefore]

theorem isFlat_reviewJsonLd (count : Nat) : (r.reviewJsonLd count).IsFlat ↔ r.IsFlat := by
  unfold reviewJsonLd
  split
  · have hbefore : IsOneLine "Found " := isOneLine_ofList _ rfl
    have hbehind : IsOneLine " JSON-LD structured data block(s)." := isOneLine_ofList _ rfl
    simp [hbefore, hbehind, Text.isOneLine_repr]
  · have hwarning : IsOneLine "No JSON-LD structured data detected." := isOneLine_ofList _ rfl
    have haction : IsOneLine "Add JSON-LD structured data to improve entity understanding." := isOneLine_ofList _ rfl
    simp [hwarning, haction]

theorem isFlat_ite (c : Prop) [Decidable c] (s t : Report) (hs : s.IsFlat ↔ r.IsFlat)
    (ht : t.IsFlat ↔ r.IsFlat) : (if c then s else t).IsFlat ↔ r.IsFlat := by
  split
  · exact hs
  · exact ht

theorem isFlat_reviewContent (content : Page.Content) :
    (r.reviewContent content).IsFlat ↔ r.IsFlat := by
  have hmain : IsOneLine "<main> element detected for primary content." := isOneLine_ofList _ rfl
  have harticle : IsOneLine "<article> element detected." := isOneLine_ofList _ rfl
  have hheading : IsOneLine "<h1> heading found." := isOneLine_ofList _ rfl
  have hnoHeading : IsOneLine "No <h1> heading found; crawlers may lack a clear title." :=
    isOneLine_ofList _ rfl
  have hscripts : IsOneLine "Page appears script-heavy with limited text; " ∧
      IsOneLine "AI crawlers may struggle to extract content." :=
    ⟨isOneLine_ofList _ rfl, isOneLine_ofList _ rfl⟩
  have haction : IsOneLine
      "Reduce reliance on client-side rendering or provide server-rendered fallbacks." :=
    isOneLine_ofList _ rfl
  unfold reviewContent
  extract_lets main article heading
  have hmain : main.IsFlat ↔ r.IsFlat := isFlat_ite r _ _ _ (by simp [hmain]) Iff.rfl
  have harticle : article.IsFlat ↔ r.IsFlat :=
    isFlat_ite r _ _ _ (by simp [harticle, hmain]) hmain
  have hheading : heading.IsFlat ↔ r.IsFlat :=
    isFlat_ite r _ _ _ (by simp [hheading, harticle]) (by simp [hnoHeading, harticle])
  apply isFlat_ite r _ _ _ _ hheading
  rw [isFlat_addAction, isFlat_addWarning, Text.isOneLine_append]
  simp only [hscripts, haction, hheading, and_true]

/-- Of all that a page gives rise to, its canonical address and its content type may bring line
feeds. -/
theorem isFlat_reviewPage (page : Http.Page) : (r.reviewPage page).IsFlat ↔ r.IsFlat ∧
    (∀ contentType, page.contentType? = some contentType →
      Page.occursIn "html".toList (Text.lowercaseChars contentType.toList) = false →
      IsOneLine contentType) ∧
    ∀ address, (Page.Signals.ofHtml page.body).canonical? = some address →
      IsOneLine address := by
  have hsource : IsOneLine "Meta robots" := isOneLine_ofList _ rfl
  simp only [reviewPage, isFlat_reviewContent, isFlat_reviewJsonLd, isFlat_reviewCanonical,
    isFlat_reviewHeaderDirectives, isFlat_reviewDirectives _ _ hsource, isFlat_reviewContentType,
    isFlat_reviewStatus, and_assoc]

theorem isFlat_reviewAgent (status : Robots.AgentAccess) (hagent : IsOneLine status.agent) :
    (r.reviewAgent status).IsFlat ↔ r.IsFlat := by
  have hblocks : IsOneLine "robots.txt blocks " ∧ IsOneLine " from the site." :=
    ⟨isOneLine_ofList _ rfl, isOneLine_ofList _ rfl⟩
  have hupdate : IsOneLine "Update robots.txt to allow " ∧ IsOneLine " if desired." :=
    ⟨isOneLine_ofList _ rfl, isOneLine_ofList _ rfl⟩
  have hallows : IsOneLine "robots.txt allows " ∧ IsOneLine "." :=
    ⟨isOneLine_ofList _ rfl, isOneLine_ofList _ rfl⟩
  have hunknown : IsOneLine "robots.txt access for " ∧
      IsOneLine " is unknown (no matching group)." :=
    ⟨isOneLine_ofList _ rfl, isOneLine_ofList _ rfl⟩
  unfold reviewAgent
  cases status.access with
  | blocked => simp [hblocks, hupdate, hagent]
  | allowed => simp [hallows, hagent]
  | unknown => simp [hunknown, hagent]

theorem isFlat_reviewRobots (statuses : List Robots.AgentAccess)
    (h : ∀ status ∈ statuses, IsOneLine status.agent) :
    (r.reviewRobots statuses).IsFlat ↔ r.IsFlat :=
  isFlat_foldl r reviewAgent statuses
    (fun r status hstatus => isFlat_reviewAgent r status (h status hstatus))

theorem isFlat_finalize : r.finalize.IsFlat ↔ r.IsFlat := by
  have hsentence : ∀ b : Bucket, IsOneLine b.sentence := by
    intro b
    cases b <;> exact isOneLine_ofList _ rfl
  have hbucket : ∀ b, (∀ finding ∈ r.finalize.bucket b, IsOneLine finding) ↔
      ∀ finding ∈ r.bucket b, IsOneLine finding := by
    intro b
    rw [bucket_finalize]
    split
    · rename_i hnone
      simp [hnone, hsentence]
    · rfl
  exact forall_congr' hbucket

theorem isFlat_empty : ({} : Report).IsFlat := by
  intro b finding hfinding
  cases b <;> cases hfinding

end Review

end Report

theorem isOneLine_of_mem_roster (agent : String) (h : agent ∈ Robots.roster) :
    IsOneLine agent := by
  simp only [Robots.roster, List.mem_cons, List.not_mem_nil, or_false] at h
  rcases h with rfl | rfl | rfl | rfl <;> exact isOneLine_ofList _ rfl

theorem agent_mem_roster_of_mem_accessFrom (outcome : Http.Outcome) (status : Robots.AgentAccess)
    (h : status ∈ Robots.accessFrom outcome) : status.agent ∈ Robots.roster := by
  unfold Robots.accessFrom at h
  split at h
  · obtain ⟨agent, hagent, rfl⟩ := List.mem_map.mp h
    exact hagent
  · obtain ⟨agent, hagent, rfl⟩ := List.mem_map.mp h
    exact hagent

theorem isFlat_robotsFindings (url : Url) (checkRobots : Bool) (outcome : Http.Outcome) :
    (robotsFindings url checkRobots outcome).IsFlat := by
  unfold robotsFindings
  split
  · rw [Report.isFlat_reviewRobots]
    · exact Report.isFlat_empty
    · intro status hstatus
      exact isOneLine_of_mem_roster _ (agent_mem_roster_of_mem_accessFrom outcome status hstatus)
  · exact Report.isFlat_empty

/-- A failure of a transfer names an address that could be read, and is told in its own words. -/
theorem isOneLine_message_network_iff (target : String) (htarget : IsOneLine target)
    (failure : Http.Failure) :
    IsOneLine (Error.network target failure).message ↔ IsOneLine failure.text := by
  have hbefore : IsOneLine "Request to " := isOneLine_ofList _ rfl
  have hfailed : IsOneLine " failed: " := isOneLine_ofList _ rfl
  have hmessage : (Error.network target failure).message =
      "Request to " ++ target ++ " failed: " ++ failure.text := rfl
  rw [hmessage, Text.isOneLine_append, Text.isOneLine_append, Text.isOneLine_append]
  simp only [hbefore, htarget, hfailed, true_and]

theorem isFlat_pageFindings (target : String) (htarget : IsOneLine target)
    (outcome : Http.Outcome) : (pageFindings target outcome).IsFlat ↔
    (∀ failure, Http.received target outcome = .error (.network target failure) →
      IsOneLine failure.text) ∧
    ∀ page, Http.received target outcome = .ok page →
      (∀ contentType, page.contentType? = some contentType →
        Page.occursIn "html".toList (Text.lowercaseChars contentType.toList) = false →
        IsOneLine contentType) ∧
      ∀ address, (Page.Signals.ofHtml page.body).canonical? = some address →
        IsOneLine address := by
  unfold pageFindings
  cases hreceived : Http.received target outcome with
  | ok page =>
    simp only [Report.isFlat_reviewPage, Report.isFlat_empty, true_and, Except.ok.injEq,
      forall_eq', reduceCtorEq, false_imp_iff, implies_true]
  | error e =>
    obtain ⟨failure, rfl⟩ := Http.exists_of_received_eq_error target outcome e hreceived
    have hbefore : IsOneLine "Failed to fetch page: " := isOneLine_ofList _ rfl
    have haction : IsOneLine "Verify the URL is reachable and not blocking requests." :=
      isOneLine_ofList _ rfl
    have hflat : (Report.reviewFailure {} (.network target failure)).IsFlat ↔
        IsOneLine failure.text := by
      rw [Report.reviewFailure, Report.isFlat_addAction, Report.isFlat_addCritical,
        Text.isOneLine_append, isOneLine_message_network_iff target htarget]
      simp only [Report.isFlat_empty, hbefore, haction, true_and, and_true]
    refine hflat.trans ⟨?_, ?_⟩
    · intro hfailure
      refine ⟨?_, ?_⟩
      · intro other hother
        cases hother
        exact hfailure
      · intro page hpage
        cases hpage
    · intro h
      exact h.1 failure rfl

namespace Auditor

variable (a : Auditor) (n : Network) (earlier : List Http.Request)

/-- The Markdown of an audit keeps its layout unless a line feed stands in the address, if it was
refused, or else in the words of the failure of the transfer, in the canonical address of the page
or in a content type that is not that of a page. Nothing else that was read can begin a line: no
address that could be read, no directive and nothing from the robots file. -/
theorem run_audit_keepsLayout_iff (raw : String) (checkRobots : Bool) :
    let report := ((a.audit raw checkRobots).run n earlier).1
    Report.KeepsLayout report.toMarkdown report.size ↔
      (∀ e, Url.parse (Text.trim raw) = .error e → IsOneLine raw) ∧
      (∀ url failure, Url.parse (Text.trim raw) = .ok url →
        Http.received url.text (n.answer earlier (a.client.getRequest url.text)) =
          .error (.network url.text failure) → IsOneLine failure.text) ∧
      ∀ url page, Url.parse (Text.trim raw) = .ok url →
        Http.received url.text (n.answer earlier (a.client.getRequest url.text)) = .ok page →
        (∀ contentType, page.contentType? = some contentType →
          Page.occursIn "html".toList (Text.lowercaseChars contentType.toList) = false →
          IsOneLine contentType) ∧
        ∀ address, (Page.Signals.ofHtml page.body).canonical? = some address →
          IsOneLine address := by
  intro report
  rw [Report.keepsLayout_toMarkdown_iff]
  cases hurl : Url.parse (Text.trim raw) with
  | error e =>
    have hreport : report = (Report.invalidUrl raw).finalize := by
      unfold report
      rw [← Session.fst_course, a.course_audit_of_error n earlier raw e hurl checkRobots]
    have hbefore : IsOneLine "Invalid URL: " := isOneLine_ofList _ rfl
    have haction : IsOneLine "Provide a valid URL to audit." := isOneLine_ofList _ rfl
    rw [hreport, Report.isFlat_finalize, Report.invalidUrl, Report.isFlat_addAction,
      Report.isFlat_addCritical, Text.isOneLine_append]
    simp [Report.isFlat_empty, hbefore, haction]
  | ok url =>
    have hclear : IsOneLine url.text :=
      Text.isOneLine_of_isClear _ (Url.isClear_text_of_parse _ url hurl)
    obtain ⟨robots, hrobots⟩ :=
      a.exists_robots_outcome n (earlier ++ [a.client.getRequest url.text]) url
    have hreport := a.fst_run_audit n earlier raw url hurl checkRobots _ robots rfl hrobots
    have hflat := isFlat_pageFindings url.text hclear
      (n.answer earlier (a.client.getRequest url.text))
    have hrobotsFlat := isFlat_robotsFindings url checkRobots robots
    change report = _ at hreport
    rw [hreport, Report.isFlat_finalize, Report.isFlat_append, hflat]
    constructor
    · rintro ⟨⟨hfailure, hpage⟩, -⟩
      refine ⟨?_, ?_, ?_⟩
      · intro e he
        cases he
      · intro found failure hfound
        cases hfound
        exact hfailure failure
      · intro found page hfound
        cases hfound
        exact hpage page
    · rintro ⟨-, hfailure, hpage⟩
      exact ⟨⟨fun failure => hfailure url failure rfl, fun page => hpage url page rfl⟩, hrobotsFlat⟩

/-- An address that is refused and a canonical address, both of three lines, of which the second
reads as a title and the third as an entry. -/
theorem run_audit_of_forged_lines :
    let a : Auditor := { client := ⟨defaultUserAgent, 30⟩ }
    let html := "<link rel=\"canonical\" href=\"/\n## Forged\n- entry\">"
    let page : Http.Outcome := .ok ⟨200, [], .ok (html.toList.map fun c => c.toNat.toUInt8), .utf8⟩
    let refused := ((a.audit "no\n## Forged\n- entry" false).run .unreachable []).1
    let report := ((a.audit "http://example.com" false).run (.playing fun _ => page) []).1
    ("## Forged".toList ∈ Text.lines refused.toMarkdown.toList ∧
      ¬ Report.KeepsLayout refused.toMarkdown refused.size) ∧
    "## Forged".toList ∈ Text.lines report.toMarkdown.toList ∧
      ¬ Report.KeepsLayout report.toMarkdown report.size := by
  intro a html page refused report
  have hcritical : "Invalid URL: no\n## Forged\n- entry" ∈ refused.bucket .critical := by
    decide +kernel
  have hgood : "Canonical tag present: /\n## Forged\n- entry" ∈ report.bucket .good := by
    decide +kernel
  have hrefused := refused.forged_title .critical _ hcritical "## Forged".toList
    (by decide +kernel) (by decide) (by decide +kernel)
  have hreport := report.forged_title .good _ hgood "## Forged".toList
    (by decide +kernel) (by decide) (by decide +kernel)
  exact ⟨⟨hrefused.1, hrefused.2 _⟩, hreport.1, hreport.2 _⟩

end Auditor

end Audit

end Crawlability
