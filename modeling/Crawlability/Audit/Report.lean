/-!
The findings of an audit, sorted into four buckets, and their Markdown form: four titled lists with
a blank line between them. Findings keep the order in which they were made.
-/
namespace Crawlability.Audit

structure Report where
  critical : List String := []
  warnings : List String := []
  good : List String := []
  actions : List String := []
deriving Repr, DecidableEq

namespace Report

def addCritical (r : Report) (finding : String) : Report :=
  { r with critical := r.critical ++ [finding] }

def addWarning (r : Report) (finding : String) : Report :=
  { r with warnings := r.warnings ++ [finding] }

def addGood (r : Report) (finding : String) : Report :=
  { r with good := r.good ++ [finding] }

def addAction (r : Report) (finding : String) : Report :=
  { r with actions := r.actions ++ [finding] }

/-- What a bucket without findings says. -/
def orElse (sentence : String) : List String → List String
  | [] => [sentence]
  | findings => findings

theorem orElse_eq (sentence : String) (findings : List String) :
    orElse sentence findings = if findings = [] then [sentence] else findings := by
  cases findings <;> simp [orElse]

/-- The report with a sentence in every bucket that has no finding. -/
def finalize (r : Report) : Report where
  critical := orElse "None noted." r.critical
  warnings := orElse "None noted." r.warnings
  good := orElse "No strong positive signals detected yet." r.good
  actions := orElse "No immediate actions identified." r.actions

/-- A title line and a line for each finding. -/
def sectionText (title : String) (findings : List String) : String :=
  "## " ++ title ++ String.join (findings.map ("\n- " ++ ·))

/-- The buckets under their titles, in the order of the document. -/
def sections (r : Report) : List (String × List String) :=
  [("Critical issues", r.critical), ("Warnings", r.warnings), ("Good signals", r.good),
    ("Next actions", r.actions)]

def toMarkdown (r : Report) : String :=
  String.intercalate "\n\n" (r.sections.map fun (title, findings) => sectionText title findings)

end Report

end Crawlability.Audit
