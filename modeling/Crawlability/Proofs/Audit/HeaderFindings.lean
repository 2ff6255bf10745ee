import Crawlability.Audit.Review
import Crawlability.Proofs.Http.HeaderLines
import Crawlability.Proofs.Page.DirectiveSets

/-!
Findings on the header of a page. The header for robots may come in any number of lines, which are
stored as one joined text and cut into directives again. What is found are the directives of all
lines together, so neither the order of the lines nor their number makes a difference.
-/
namespace Crawlability

namespace Http

/-- A line of the header for robots has the directive, in lower case, as a field between commas and
blanks. -/
def Headers.ListsForRobots (lines : List (String × String)) (token : String) : Prop :=
  ∃ line ∈ lines, Text.equalsIgnoringAsciiCase line.1 "x-robots-tag" = true ∧
    ∃ field, Text.IsFieldOf Page.Directives.isSeparator line.2.toList field ∧
      Text.lowercase (.ofList field) = token

/-- The directives that the header of a page gives to robots; none if there is no such header. -/
def Page.robotsDirectives (p : Page) : Page.Directives :=
  ((p.headers.get? "x-robots-tag").map .parse).getD {}

namespace Headers

theorem mem_toList_unionOf_valuesOf (lines : List (String × String)) (token : String) :
    token ∈ (Page.Directives.unionOf (valuesOf "x-robots-tag" lines)).toList ↔
      ListsForRobots lines token := by
  simp only [Page.Directives.mem_toList_unionOf, Page.Directives.mem_toList_parse,
    Text.mem_fields_iff, valuesOf, List.mem_map, List.mem_filter]
  constructor
  · rintro ⟨_, ⟨line, ⟨hline, hname⟩, rfl⟩, htoken⟩
    exact ⟨line, hline, hname, htoken⟩
  · rintro ⟨line, hline, hname, htoken⟩
    exact ⟨_, ⟨line, ⟨hline, hname⟩, rfl⟩, htoken⟩

theorem robotsDirectives_ofList (status : Nat) (lines : List (String × String)) (body : String) :
    Page.robotsDirectives ⟨status, ofList lines, body⟩ =
      .unionOf (valuesOf "x-robots-tag" lines) := by
  rw [Page.robotsDirectives, get?_ofList]
  split
  · rename_i hnone
    rw [hnone]
    rfl
  · exact Page.Directives.parse_intercalate _

theorem unionOf_valuesOf_congr (lines others : List (String × String))
    (h : ∀ token, ListsForRobots lines token ↔ ListsForRobots others token) :
    Page.Directives.unionOf (valuesOf "x-robots-tag" lines) =
      .unionOf (valuesOf "x-robots-tag" others) := by
  refine Page.Directives.IsAscending.ext _ _ (Page.Directives.isAscending_unionOf _)
    (Page.Directives.isAscending_unionOf _) ?_
  intro token
  rw [mem_toList_unionOf_valuesOf, mem_toList_unionOf_valuesOf, h]

theorem listsForRobots_perm (lines others : List (String × String)) (h : lines.Perm others)
    (token : String) : ListsForRobots lines token ↔ ListsForRobots others token := by
  simp only [ListsForRobots, h.mem_iff]

/-- One line that holds the values of all lines, in some order, lists what they list. -/
theorem listsForRobots_intercalate (lines : List (String × String)) (name : String)
    (hname : Text.equalsIgnoringAsciiCase name "x-robots-tag" = true) (values : List String)
    (h : values.Perm (valuesOf "x-robots-tag" lines)) (token : String) :
    ListsForRobots [(name, ", ".intercalate values)] token ↔ ListsForRobots lines token := by
  have hvalue : valuesOf "x-robots-tag" [(name, ", ".intercalate values)] =
      [", ".intercalate values] := by
    simp [valuesOf, hname]
  rw [← mem_toList_unionOf_valuesOf, ← mem_toList_unionOf_valuesOf lines, hvalue,
    Page.Directives.mem_toList_unionOf, Page.Directives.mem_toList_unionOf]
  simp [Page.Directives.mem_toList_parse_intercalate, h.mem_iff]

end Headers

end Http

namespace Audit.Report

theorem reviewHeaderDirectives_eq (r : Report) (page : Http.Page) : r.reviewHeaderDirectives page =
    r.reviewDirectives "X-Robots-Tag header" page.robotsDirectives := by
  unfold reviewHeaderDirectives Http.Page.robotsDirectives
  cases page.headers.get? "x-robots-tag" with
  | none => rfl
  | some value => rfl

theorem reviewPage_congr (r : Report) (page other : Http.Page) (hstatus : other.status = page.status)
    (hbody : other.body = page.body) (htype : other.contentType? = page.contentType?)
    (hrobots : other.robotsDirectives = page.robotsDirectives) :
    r.reviewPage other = r.reviewPage page := by
  have hreviewStatus : ∀ r : Report, r.reviewStatus other = r.reviewStatus page := by
    intro r
    rw [reviewStatus, reviewStatus, Http.Page.isSuccess, Http.Page.isSuccess, hstatus]
  have hreviewType : ∀ r : Report, r.reviewContentType other = r.reviewContentType page := by
    intro r
    rw [reviewContentType, reviewContentType, htype]
  simp only [reviewPage, hreviewStatus, hreviewType, reviewHeaderDirectives_eq, hbody, hrobots]

/-- The review of the header for robots is the review of the union of what its lines list, which is
what the stored text lists. Headers whose lines list the same directives have the same review,
whatever the order and the number of their lines. -/
theorem reviewHeaderDirectives_eq_union (status : Nat) (lines : List (String × String))
    (body : String) :
    let page : Http.Page := ⟨status, .ofList lines, body⟩
    let values := Http.Headers.valuesOf "x-robots-tag" lines
    (∀ stored, page.headers.get? "x-robots-tag" = some stored →
      Page.Directives.parse stored = .unionOf values) ∧
    (∀ token, token ∈ (Page.Directives.unionOf values).toList ↔
      Http.Headers.ListsForRobots lines token) ∧
    (∀ r : Report, r.reviewHeaderDirectives page =
      r.reviewDirectives "X-Robots-Tag header" (.unionOf values)) ∧
    (∀ others, (∀ token, Http.Headers.ListsForRobots others token ↔
        Http.Headers.ListsForRobots lines token) →
      let other : Http.Page := ⟨status, .ofList others, body⟩
      (∀ r : Report, r.reviewHeaderDirectives other = r.reviewHeaderDirectives page) ∧
      (other.contentType? = page.contentType? →
        ∀ r : Report, r.reviewPage other = r.reviewPage page)) ∧
    (∀ others, others.Perm lines → ∀ r : Report,
      r.reviewHeaderDirectives ⟨status, .ofList others, body⟩ = r.reviewHeaderDirectives page) ∧
    ∀ name ordered, Text.equalsIgnoringAsciiCase name "x-robots-tag" = true →
      ordered.Perm values → ∀ r : Report,
        r.reviewHeaderDirectives ⟨status, .ofList [(name, ", ".intercalate ordered)], body⟩ =
          r.reviewHeaderDirectives page := by
  intro page values
  have hpage : page.robotsDirectives = .unionOf values :=
    Http.Headers.robotsDirectives_ofList status lines body
  have hother : ∀ others, (∀ token, Http.Headers.ListsForRobots others token ↔
      Http.Headers.ListsForRobots lines token) →
      Http.Page.robotsDirectives ⟨status, .ofList others, body⟩ = page.robotsDirectives := by
    intro others hsame
    rw [hpage, Http.Headers.robotsDirectives_ofList]
    exact Http.Headers.unionOf_valuesOf_congr others lines hsame
  have hreview : ∀ others, (∀ token, Http.Headers.ListsForRobots others token ↔
      Http.Headers.ListsForRobots lines token) → ∀ r : Report,
      r.reviewHeaderDirectives ⟨status, .ofList others, body⟩ = r.reviewHeaderDirectives page := by
    intro others hsame r
    rw [reviewHeaderDirectives_eq, reviewHeaderDirectives_eq, hother others hsame]
  refine ⟨?_, Http.Headers.mem_toList_unionOf_valuesOf lines, ?_, ?_, ?_, ?_⟩
  · intro stored hstored
    rw [← hpage, Http.Page.robotsDirectives, hstored]
    rfl
  · intro r
    rw [reviewHeaderDirectives_eq, hpage]
  · intro others hsame other
    exact ⟨hreview others hsame, fun htype r =>
      reviewPage_congr r page other rfl rfl htype (hother others hsame)⟩
  · intro others hperm
    exact hreview others (Http.Headers.listsForRobots_perm others lines hperm)
  · intro name ordered hname hperm
    exact hreview _ (Http.Headers.listsForRobots_intercalate lines name hname ordered hperm)

end Audit.Report

end Crawlability
