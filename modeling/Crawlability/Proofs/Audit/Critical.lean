import Crawlability.Proofs.Audit.Parts
import Crawlability.Proofs.Http.HeaderLines
import Crawlability.Proofs.Page.TagSignals

/-!
The critical findings of an audit. Only the address, the fetch, the status and the directive
`noindex` can lead to one, so a report without critical findings says that the page was there and
that neither its meta tags nor its headers keep crawlers from listing it. The robots file has no
part in this.
-/
namespace Crawlability

namespace Http

/-- A line of the header with the name, in some case, lists the directive. -/
def Response.HasHeaderDirective (response : Response) (name directive : String) : Prop :=
  ∃ field ∈ response.fields, Text.equalsIgnoringAsciiCase field.1 name = true ∧
    Page.Lists (Text.Utf8.decodeLossy field.2) directive

/-- The joined value of a header lists what its lines list. -/
theorem Response.exists_get?_headers_iff (response : Response) (name directive : String)
    (hplain : ∀ c ∈ directive.toList, Text.IsPlain c)
    (hlower : directive.toList.map Char.toLower = directive.toList) :
    (∃ value, response.headers.get? name = some value ∧
      (Page.Directives.parse value).contains directive = true) ↔
    response.HasHeaderDirective name directive := by
  have hlists : ∀ value, directive ∈ (Page.Directives.parse value).toList ↔
      Page.Lists value directive := by
    intro value
    rw [← Page.Directives.contains_iff,
      Page.Directives.contains_parse_iff value directive hplain hlower]
  have hheaders : response.headers = .ofList
      (response.fields.map fun field => (field.1, Text.Utf8.decodeLossy field.2)) := rfl
  have hlines : (∃ value ∈ Headers.valuesOf name
        (response.fields.map fun field => (field.1, Text.Utf8.decodeLossy field.2)),
      Page.Lists value directive) ↔ response.HasHeaderDirective name directive := by
    simp [Headers.valuesOf, HasHeaderDirective, and_assoc]
  rw [← hlines, hheaders, Headers.get?_ofList]
  split
  · rename_i hnone
    simp [hnone]
  · simp only [Option.some.injEq, exists_eq_left', Page.Directives.contains_iff,
      Page.Directives.mem_toList_parse_intercalate]
    simp only [hlists]

end Http

namespace Page

theorem isPlain_of_mem_noindex : ∀ c ∈ "noindex".toList, Text.IsPlain c := by
  simp [Text.IsPlain]

theorem map_toLower_noindex : "noindex".toList.map Char.toLower = "noindex".toList := by
  simp [Char.toLower]

/-- The meta tags of a page keep it from being listed. -/
theorem contains_noindex_iff (html : List Char) :
    (Signals.directivesOf html).contains "noindex" = true ↔ HasMetaDirective html "noindex" :=
  Signals.contains_directivesOf_iff html _ isPlain_of_mem_noindex map_toLower_noindex

end Page

namespace Audit

/-- The header of a response for robots keeps the page from being listed. -/
theorem exists_noindex_iff (response : Http.Response) :
    (∃ value, response.headers.get? "x-robots-tag" = some value ∧
      (Page.Directives.parse value).contains "noindex" = true) ↔
    response.HasHeaderDirective "x-robots-tag" "noindex" :=
  response.exists_get?_headers_iff _ _ Page.isPlain_of_mem_noindex Page.map_toLower_noindex

namespace Report

section Frame

variable (r : Report)

theorem critical_foldl {α : Type} (step : Report → α → Report)
    (h : ∀ r item, (step r item).critical = r.critical) (items : List α) :
    (items.foldl step r).critical = r.critical :=
  List.foldlRecOn (motive := fun s : Report => s.critical = r.critical) items step rfl
    fun s hs item _ => (h s item).trans hs

/-- Of all directives only one is critical. -/
theorem critical_reviewDirectives_eq_nil_iff (source : String) (directives : Page.Directives) :
    (r.reviewDirectives source directives).critical = [] ↔
      r.critical = [] ∧ ¬ directives.contains "noindex" = true := by
  unfold reviewDirectives
  rw [critical_foldl]
  · split
    · rename_i hnoindex
      simp [addCritical, hnoindex]
    · rename_i hnoindex
      simp [hnoindex]
  · intro r warning
    dsimp only
    split <;> rfl

theorem critical_reviewStatus_eq_nil_iff (page : Http.Page) :
    (r.reviewStatus page).critical = [] ↔ r.critical = [] ∧ page.isSuccess = true := by
  unfold reviewStatus
  split
  · rename_i hsuccess
    simp [hsuccess]
  · rename_i hsuccess
    simp [addCritical, hsuccess]

theorem critical_reviewContentType (page : Http.Page) :
    (r.reviewContentType page).critical = r.critical := by
  unfold reviewContentType
  split
  · rfl
  · split <;> rfl

theorem critical_reviewHeaderDirectives_eq_nil_iff (page : Http.Page) :
    (r.reviewHeaderDirectives page).critical = [] ↔ r.critical = [] ∧
      ¬ ∃ value, page.headers.get? "x-robots-tag" = some value ∧
        (Page.Directives.parse value).contains "noindex" = true := by
  unfold reviewHeaderDirectives
  cases page.headers.get? "x-robots-tag" with
  | none => simp
  | some value => simp [critical_reviewDirectives_eq_nil_iff]

theorem critical_reviewCanonical (address? : Option String) :
    (r.reviewCanonical address?).critical = r.critical := by
  cases address? <;> rfl

theorem critical_reviewJsonLd (count : Nat) : (r.reviewJsonLd count).critical = r.critical := by
  unfold reviewJsonLd
  split <;> rfl

theorem critical_reviewContent (content : Page.Content) :
    (r.reviewContent content).critical = r.critical := by
  unfold reviewContent
  extract_lets main article heading
  have hmain : main.critical = r.critical := by
    unfold main
    split <;> rfl
  have harticle : article.critical = main.critical := by
    unfold article
    split <;> rfl
  have hheading : heading.critical = article.critical := by
    unfold heading
    split <;> rfl
  rw [← hmain, ← harticle, ← hheading]
  split <;> rfl

theorem critical_reviewAgent (status : Robots.AgentAccess) :
    (r.reviewAgent status).critical = r.critical := by
  unfold reviewAgent
  split <;> rfl

theorem critical_reviewRobots (statuses : List Robots.AgentAccess) :
    (r.reviewRobots statuses).critical = r.critical :=
  critical_foldl r reviewAgent critical_reviewAgent statuses

end Frame

/-- A page is free of critical findings if it came with success and is not kept from being
listed. -/
theorem critical_reviewPage_eq_nil_iff (page : Http.Page) :
    (reviewPage {} page).critical = [] ↔ page.isSuccess = true ∧
      ¬ (Page.Signals.ofHtml page.body).directives.contains "noindex" = true ∧
      ¬ ∃ value, page.headers.get? "x-robots-tag" = some value ∧
        (Page.Directives.parse value).contains "noindex" = true := by
  simp only [reviewPage, critical_reviewContent, critical_reviewJsonLd, critical_reviewCanonical,
    critical_reviewHeaderDirectives_eq_nil_iff, critical_reviewDirectives_eq_nil_iff,
    critical_reviewContentType, critical_reviewStatus_eq_nil_iff, true_and, and_assoc]

theorem critical_append (r s : Report) : (r ++ s).critical = r.critical ++ s.critical := rfl

theorem critical_finalize (r : Report) : r.finalize.critical =
    if r.critical = [] then ["None noted."] else r.critical :=
  bucket_finalize r .critical

/-- A finished report says that nothing critical was noted exactly if nothing was. -/
theorem critical_finalize_eq_iff (r : Report) (hr : r.IsPlain) :
    r.finalize.critical = ["None noted."] ↔ r.critical = [] := by
  have hplain : "None noted." ∉ r.critical := hr .critical
  rw [critical_finalize]
  split
  · rename_i hnone
    simp [hnone]
  · rename_i hsome
    constructor
    · intro h
      rw [h] at hplain
      exact absurd (List.mem_singleton_self _) hplain
    · intro h
      exact absurd h hsome

end Report

theorem critical_robotsFindings (url : Url) (checkRobots : Bool) (outcome : Http.Outcome) :
    (robotsFindings url checkRobots outcome).critical = [] := by
  unfold robotsFindings
  split
  · exact Report.critical_reviewRobots _ _
  · rfl

theorem critical_pageFindings_eq_nil_iff (target : String) (outcome : Http.Outcome) :
    (pageFindings target outcome).critical = [] ↔ ∃ response octets,
      outcome = .ok response ∧ response.body = .ok octets ∧
      200 ≤ response.status ∧ response.status ≤ 299 ∧
      ¬ Page.HasMetaDirective (Text.Utf8.decodeLossy octets).toList "noindex" ∧
      ¬ response.HasHeaderDirective "x-robots-tag" "noindex" := by
  unfold pageFindings
  cases outcome with
  | error failure => simp [Http.received]
  | ok response =>
    cases hbody : response.body with
    | error failure => simp [Http.received, hbody]
    | ok octets =>
      simp only [Http.received, hbody, Report.critical_reviewPage_eq_nil_iff, Except.ok.injEq,
        exists_and_left, exists_eq_left', Page.Signals.ofHtml,
        Page.contains_noindex_iff, exists_noindex_iff]
      simp [Http.Page.isSuccess, Http.isSuccessStatus, and_assoc]

namespace Auditor

variable (a : Auditor) (n : Network) (earlier : List Http.Request)

/-- The critical findings of an audit are those of its page. -/
theorem critical_run_audit (raw : String) (url : Url) (hurl : Url.parse (Text.trim raw) = .ok url)
    (checkRobots : Bool) : ((a.audit raw checkRobots).run n earlier).1.critical =
      (pageFindings url.text (n.answer earlier (a.client.getRequest url.text))).finalize.critical := by
  obtain ⟨robots, hrobots⟩ :=
    a.exists_robots_outcome n (earlier ++ [a.client.getRequest url.text]) url
  rw [a.fst_run_audit n earlier raw url hurl checkRobots _ robots rfl hrobots,
    Report.critical_finalize, Report.critical_append, critical_robotsFindings, List.append_nil,
    Report.critical_finalize]

theorem critical_run_audit_of_error (raw : String) (e : Url.ParseError)
    (hurl : Url.parse (Text.trim raw) = .error e) (checkRobots : Bool) :
    ((a.audit raw checkRobots).run n earlier).1.critical = ["Invalid URL: " ++ raw] := by
  rw [← Session.fst_course, a.course_audit_of_error n earlier raw e hurl checkRobots]
  rfl

/-- An audit notes nothing critical exactly if there is an address, the page comes from it with a
status of success, and neither a meta tag of the page that addresses crawlers nor a line of the
header for robots lists `noindex`. What becomes of the robots file, or whether it is asked for, does
not matter to the critical findings. -/
theorem run_audit_critical_eq_iff (raw : String) (checkRobots : Bool) :
    let report := ((a.audit raw checkRobots).run n earlier).1
    (report.critical = ["None noted."] ↔ ∃ url response octets,
      Url.parse (Text.trim raw) = .ok url ∧
      n.answer earlier (a.client.getRequest url.text) = .ok response ∧
      response.body = .ok octets ∧
      200 ≤ response.status ∧ response.status ≤ 299 ∧
      ¬ Page.HasMetaDirective (Text.Utf8.decodeLossy octets).toList "noindex" ∧
      ¬ response.HasHeaderDirective "x-robots-tag" "noindex") ∧
    (∀ (checkRobots' : Bool) (n' : Network) (earlier' : List Http.Request),
      (∀ url, Url.parse (Text.trim raw) = .ok url →
        n'.answer earlier' (a.client.getRequest url.text) =
          n.answer earlier (a.client.getRequest url.text)) →
      ((a.audit raw checkRobots').run n' earlier').1.critical = report.critical) ∧
    ∀ (r : Report) statuses, (r.reviewRobots statuses).critical = r.critical := by
  intro report
  refine ⟨?_, ?_, Report.critical_reviewRobots⟩
  · cases hurl : Url.parse (Text.trim raw) with
    | error e =>
      have hcritical : report.critical = ["Invalid URL: " ++ raw] :=
        a.critical_run_audit_of_error n earlier raw e hurl checkRobots
      have hne : "Invalid URL: " ++ raw ≠ "None noted." :=
        Report.isFinding_of_head? _ 'I' (by simp) (by decide) .critical
      simp [hcritical, hne]
    | ok url =>
      have hcritical := a.critical_run_audit n earlier raw url hurl checkRobots
      rw [hcritical, Report.critical_finalize_eq_iff _ (isPlain_pageFindings _ _),
        critical_pageFindings_eq_nil_iff]
      simp
  · intro checkRobots' n' earlier' hsame
    cases hurl : Url.parse (Text.trim raw) with
    | error e =>
      exact (a.critical_run_audit_of_error n' earlier' raw e hurl checkRobots').trans
        (a.critical_run_audit_of_error n earlier raw e hurl checkRobots).symm
    | ok url =>
      have hpage := a.critical_run_audit n' earlier' raw url hurl checkRobots'
      rw [hsame url hurl] at hpage
      exact hpage.trans (a.critical_run_audit n earlier raw url hurl checkRobots).symm

/-- Three pages that all come with success. A meta tag over two lines keeps the first from being
listed, the second of two lines of the header the next one, and nothing the last: its tag addresses
no crawler. -/
theorem run_audit_critical_of_three_pages :
    let a : Auditor := { client := ⟨defaultUserAgent, 30⟩ }
    let octets (s : String) := s.toList.map fun c => c.toNat.toUInt8
    let audited (response : Http.Response) :=
      ((a.audit "http://example.com" false).run (.playing fun _ => .ok response) []).1.critical
    let hidden := "<p><META content=\"all, NoIndex\"\n name = \" Robots \">"
    let shown := "<meta name=\"author\" content=\"noindex\">"
    let labelled : Http.Response := ⟨200, [("X-Robots-Tag", octets "nosnippet"),
      ("x-robots-tag", octets "all, NOINDEX")], .ok (octets shown), .utf8⟩
    (Page.HasMetaDirective hidden.toList "noindex" ∧
      audited ⟨200, [], .ok (octets hidden), .utf8⟩ ≠ ["None noted."]) ∧
    (labelled.HasHeaderDirective "x-robots-tag" "noindex" ∧
      audited labelled ≠ ["None noted."]) ∧
    ¬ Page.HasMetaDirective shown.toList "noindex" ∧
    audited ⟨200, [], .ok (octets shown), .utf8⟩ = ["None noted."] := by
  intro a octets audited hidden shown labelled
  have hmeta : Page.HasMetaDirective hidden.toList "noindex" :=
    (Page.contains_noindex_iff _).mp (by decide +kernel)
  have hother : ¬ Page.HasMetaDirective shown.toList "noindex" := by
    rw [← Page.contains_noindex_iff]
    decide +kernel
  have hlabel : labelled.HasHeaderDirective "x-robots-tag" "noindex" :=
    (exists_noindex_iff labelled).mp
      ⟨"nosnippet, all, NOINDEX", by decide +kernel, by decide +kernel⟩
  have hnone : ¬ Http.Response.HasHeaderDirective ⟨200, [], .ok (octets shown), .utf8⟩
      "x-robots-tag" "noindex" := by
    rintro ⟨field, hfield, -⟩
    cases hfield
  obtain ⟨url, hurl, htext⟩ := Url.exists_of_map_toOption (Text.trim "http://example.com")
    (·.text) "http://example.com/" (by decide +kernel)
  have hanswer : ∀ response, (Network.playing fun _ => .ok response).answer []
      (a.client.getRequest url.text) = .ok response := by
    intro response
    rw [htext]
    exact Network.answer_playing _ _ _ (by decide +kernel)
  have hclean : ∀ response page, response.body = .ok (octets page) → response.status = 200 →
      Text.Utf8.decodeLossy (octets page) = page →
      (audited response = ["None noted."] ↔ ¬ Page.HasMetaDirective page.toList "noindex" ∧
        ¬ response.HasHeaderDirective "x-robots-tag" "noindex") := by
    intro response page hbody hstatus hpage
    obtain ⟨hiff, -, -⟩ := a.run_audit_critical_eq_iff (.playing fun _ => .ok response) []
      "http://example.com" false
    refine hiff.trans ?_
    simp [hurl, hanswer, hbody, hstatus, hpage]
  refine ⟨⟨hmeta, ?_⟩, ⟨hlabel, ?_⟩, hother, ?_⟩
  · rw [ne_eq, hclean _ hidden rfl rfl (by decide +kernel)]
    exact fun h => h.1 hmeta
  · rw [ne_eq, hclean _ shown rfl rfl (by decide +kernel)]
    exact fun h => h.2 hlabel
  · rw [hclean _ shown rfl rfl (by decide +kernel)]
    exact ⟨hother, hnone⟩

end Auditor

end Audit

end Crawlability
