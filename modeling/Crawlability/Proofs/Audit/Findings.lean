import Crawlability.Audit.Auditor

/-!
Reports as four lists that grow at their ends. A review step put behind some findings leaves them in
front and adds what it would add to an empty report. The sentence that stands for an empty bucket is
no finding of any step, so a finished report says it exactly where nothing was found.
-/
namespace Crawlability.Audit

/-- The four lists of a report. -/
inductive Bucket where
  | critical
  | warnings
  | good
  | actions
deriving Repr, DecidableEq

/-- What a bucket says when nothing was found. -/
def Bucket.sentence : Bucket → String
  | critical => "None noted."
  | warnings => "None noted."
  | good => "No strong positive signals detected yet."
  | actions => "No immediate actions identified."

namespace Report

def bucket (r : Report) : Bucket → List String
  | .critical => r.critical
  | .warnings => r.warnings
  | .good => r.good
  | .actions => r.actions

/-- The findings of one report and then those of another, bucket by bucket. -/
def append (r s : Report) : Report where
  critical := r.critical ++ s.critical
  warnings := r.warnings ++ s.warnings
  good := r.good ++ s.good
  actions := r.actions ++ s.actions

instance : Append Report := ⟨append⟩

theorem append_def (r s : Report) : r ++ s = ⟨r.critical ++ s.critical,
    r.warnings ++ s.warnings, r.good ++ s.good, r.actions ++ s.actions⟩ := rfl

@[simp] theorem bucket_append (r s : Report) (b : Bucket) :
    (r ++ s).bucket b = r.bucket b ++ s.bucket b := by cases b <;> rfl

theorem append_assoc (r s t : Report) : r ++ s ++ t = r ++ (s ++ t) := by simp [append_def]

/-- The report with one finding. -/
def single (b : Bucket) (finding : String) : Report :=
  match b with
  | .critical => { critical := [finding] }
  | .warnings => { warnings := [finding] }
  | .good => { good := [finding] }
  | .actions => { actions := [finding] }

theorem append_empty (r : Report) : r ++ ({} : Report) = r := by simp [append_def]

/-- A finished report has what the buckets held, and the sentence where they held nothing. -/
theorem bucket_finalize (r : Report) (b : Bucket) :
    r.finalize.bucket b = if r.bucket b = [] then [b.sentence] else r.bucket b := by
  cases b <;> exact orElse_eq _ _

/-! Every addition is an appended report, so what stands in front stays in front. -/

theorem addCritical_eq (r : Report) (finding : String) :
    r.addCritical finding = r ++ single .critical finding := by
  simp [append_def, addCritical, single]

theorem addWarning_eq (r : Report) (finding : String) :
    r.addWarning finding = r ++ single .warnings finding := by
  simp [append_def, addWarning, single]

theorem addGood_eq (r : Report) (finding : String) :
    r.addGood finding = r ++ single .good finding := by
  simp [append_def, addGood, single]

theorem addAction_eq (r : Report) (finding : String) :
    r.addAction finding = r ++ single .actions finding := by
  simp [append_def, addAction, single]

theorem append_ite (c : Prop) [Decidable c] (r s t : Report) :
    (if c then r ++ s else r ++ t) = r ++ if c then s else t := by
  split <;> rfl

/-- A fold of such steps is such a step. -/
theorem append_foldl {α : Type} (step : Report → α → Report)
    (h : ∀ r s a, step (r ++ s) a = r ++ step s a) (items : List α) (r s : Report) :
    items.foldl step (r ++ s) = r ++ items.foldl step s := by
  induction items generalizing s with
  | nil => rfl
  | cons item items ih => rw [List.foldl_cons, List.foldl_cons, h, ih]

theorem append_reviewDirectives (r s : Report) (source : String) (directives : Page.Directives) :
    (r ++ s).reviewDirectives source directives = r ++ s.reviewDirectives source directives := by
  simp only [reviewDirectives, addCritical_eq, append_assoc, append_ite]
  rw [append_foldl]
  intro r s warning
  simp only [addWarning_eq, append_assoc, append_ite]

theorem append_reviewStatus (r s : Report) (page : Http.Page) :
    (r ++ s).reviewStatus page = r ++ s.reviewStatus page := by
  simp only [reviewStatus, addCritical_eq, append_assoc, append_ite]

theorem append_reviewContentType (r s : Report) (page : Http.Page) :
    (r ++ s).reviewContentType page = r ++ s.reviewContentType page := by
  unfold reviewContentType
  cases page.contentType? with
  | none => rfl
  | some contentType => simp only [addWarning_eq, append_assoc, append_ite]

theorem append_reviewHeaderDirectives (r s : Report) (page : Http.Page) :
    (r ++ s).reviewHeaderDirectives page = r ++ s.reviewHeaderDirectives page := by
  unfold reviewHeaderDirectives
  cases page.headers.get? "x-robots-tag" with
  | none => rfl
  | some value => exact append_reviewDirectives r s _ _

theorem append_reviewCanonical (r s : Report) (address? : Option String) :
    (r ++ s).reviewCanonical address? = r ++ s.reviewCanonical address? := by
  cases address? with
  | none => simp only [reviewCanonical, addWarning_eq, addAction_eq, append_assoc]
  | some address => simp only [reviewCanonical, addGood_eq, append_assoc]

theorem append_reviewJsonLd (r s : Report) (count : Nat) :
    (r ++ s).reviewJsonLd count = r ++ s.reviewJsonLd count := by
  simp only [reviewJsonLd, addGood_eq, addWarning_eq, addAction_eq, append_assoc, append_ite]

theorem append_reviewContent (r s : Report) (content : Page.Content) :
    (r ++ s).reviewContent content = r ++ s.reviewContent content := by
  simp only [reviewContent, addGood_eq, addWarning_eq, addAction_eq, append_assoc, append_ite]

theorem append_reviewPage (r s : Report) (page : Http.Page) :
    (r ++ s).reviewPage page = r ++ s.reviewPage page := by
  simp only [reviewPage, append_reviewStatus, append_reviewContentType, append_reviewDirectives,
    append_reviewHeaderDirectives, append_reviewCanonical, append_reviewJsonLd,
    append_reviewContent]

theorem append_reviewAgent (r s : Report) (status : Robots.AgentAccess) :
    (r ++ s).reviewAgent status = r ++ s.reviewAgent status := by
  unfold reviewAgent
  cases status.access with
  | blocked => simp only [addWarning_eq, addAction_eq, append_assoc]
  | allowed => simp only [addGood_eq, append_assoc]
  | unknown => simp only [addWarning_eq, append_assoc]

theorem append_reviewRobots (r s : Report) (statuses : List Robots.AgentAccess) :
    (r ++ s).reviewRobots statuses = r ++ s.reviewRobots statuses :=
  append_foldl reviewAgent append_reviewAgent statuses r s

/-! No finding is the sentence of an empty bucket. -/

/-- The text is not what an empty bucket says. -/
def IsFinding (text : String) : Prop := ∀ b : Bucket, text ≠ b.sentence

theorem head?_sentence (b : Bucket) : b.sentence.toList.head? = some 'N' := by
  cases b <;> simp [Bucket.sentence]

theorem isFinding_of_head? (text : String) (c : Char) (h : text.toList.head? = some c)
    (hc : c ≠ 'N') : IsFinding text := by
  rintro b rfl
  rw [head?_sentence] at h
  exact hc (Option.some.inj h).symm

/-- No bucket has the sentence that stands for an empty one. -/
def IsPlain (r : Report) : Prop := ∀ b : Bucket, b.sentence ∉ r.bucket b

theorem isPlain_empty : IsPlain {} := by
  intro b
  cases b <;> simp [bucket]

theorem isPlain_append (r s : Report) (hr : r.IsPlain) (hs : s.IsPlain) : (r ++ s).IsPlain := by
  intro b
  rw [bucket_append, List.mem_append]
  exact not_or_intro (hr b) (hs b)

theorem isPlain_single (b : Bucket) (finding : String) (h : IsFinding finding) :
    (single b finding).IsPlain := by
  intro b'
  have hne := (h b').symm
  cases b <;> cases b' <;> simp_all [bucket, single]

section Add

variable (r : Report) (finding : String) (hr : r.IsPlain) (h : IsFinding finding)

include hr h

theorem isPlain_addCritical : (r.addCritical finding).IsPlain := by
  rw [addCritical_eq]
  exact isPlain_append _ _ hr (isPlain_single _ _ h)

theorem isPlain_addWarning : (r.addWarning finding).IsPlain := by
  rw [addWarning_eq]
  exact isPlain_append _ _ hr (isPlain_single _ _ h)

theorem isPlain_addGood : (r.addGood finding).IsPlain := by
  rw [addGood_eq]
  exact isPlain_append _ _ hr (isPlain_single _ _ h)

theorem isPlain_addAction : (r.addAction finding).IsPlain := by
  rw [addAction_eq]
  exact isPlain_append _ _ hr (isPlain_single _ _ h)

end Add

section Review

variable (r : Report)

theorem isPlain_ite (c : Prop) [Decidable c] (s : Report) (hr : r.IsPlain) (hs : s.IsPlain) :
    (if c then r else s).IsPlain := by
  split
  · exact hr
  · exact hs

theorem isPlain_foldl {α : Type} (step : Report → α → Report) (items : List α)
    (h : ∀ r, ∀ item ∈ items, r.IsPlain → (step r item).IsPlain) (hr : r.IsPlain) :
    (items.foldl step r).IsPlain :=
  items.foldlRecOn step hr fun s hs item hitem => h s item hitem hs

theorem isPlain_reviewStatus (page : Http.Page) (hr : r.IsPlain) :
    (r.reviewStatus page).IsPlain := by
  unfold reviewStatus
  split
  · exact hr
  · exact isPlain_addCritical r _ hr (isFinding_of_head? _ 'H' (by simp) (by decide))

theorem isPlain_reviewContentType (page : Http.Page) (hr : r.IsPlain) :
    (r.reviewContentType page).IsPlain := by
  unfold reviewContentType
  split
  · exact hr
  · split
    · exact hr
    · exact isPlain_addWarning r _ hr (isFinding_of_head? _ 'C' (by simp) (by decide))

theorem isPlain_reviewDirectives (source : String) (directives : Page.Directives) (c : Char)
    (hsource : source.toList.head? = some c) (hc : c ≠ 'N') (hr : r.IsPlain) :
    (r.reviewDirectives source directives).IsPlain := by
  have hfinding : ∀ rest, IsFinding (source ++ rest) := by
    intro rest
    apply isFinding_of_head? _ c _ hc
    simp [hsource]
  apply isPlain_foldl
  · rintro r ⟨directive, consequence⟩ - hr
    apply isPlain_ite _ _ _ _ hr
    rw [String.append_assoc, String.append_assoc, String.append_assoc]
    exact isPlain_addWarning r _ hr (hfinding _)
  · exact isPlain_ite _ _ _ (isPlain_addCritical r _ hr (hfinding _)) hr

theorem isPlain_reviewHeaderDirectives (page : Http.Page) (hr : r.IsPlain) :
    (r.reviewHeaderDirectives page).IsPlain := by
  unfold reviewHeaderDirectives
  split
  · exact hr
  · exact isPlain_reviewDirectives r _ _ 'X' (by simp) (by decide) hr

theorem isPlain_reviewCanonical (address? : Option String) (hr : r.IsPlain) :
    (r.reviewCanonical address?).IsPlain := by
  cases address? with
  | none =>
    apply isPlain_addAction _ _ _ (isFinding_of_head? _ 'A' (by simp) (by decide))
    apply isPlain_addWarning r _ hr
    intro b
    cases b <;> decide
  | some address =>
    exact isPlain_addGood r _ hr (isFinding_of_head? _ 'C' (by simp) (by decide))

theorem isPlain_reviewJsonLd (count : Nat) (hr : r.IsPlain) : (r.reviewJsonLd count).IsPlain := by
  unfold reviewJsonLd
  split
  · exact isPlain_addGood r _ hr (isFinding_of_head? _ 'F' (by simp) (by decide))
  · apply isPlain_addAction _ _ _ (isFinding_of_head? _ 'A' (by simp) (by decide))
    apply isPlain_addWarning r _ hr
    intro b
    cases b <;> decide

theorem isPlain_reviewContent (content : Page.Content) (hr : r.IsPlain) :
    (r.reviewContent content).IsPlain := by
  unfold reviewContent
  extract_lets main article heading
  have hmain : main.IsPlain :=
    isPlain_ite _ _ _ (isPlain_addGood _ _ hr (isFinding_of_head? _ '<' (by simp) (by decide))) hr
  have harticle : article.IsPlain :=
    isPlain_ite _ _ _
      (isPlain_addGood _ _ hmain (isFinding_of_head? _ '<' (by simp) (by decide))) hmain
  have hheading : heading.IsPlain := by
    apply isPlain_ite
    · exact isPlain_addGood _ _ harticle (isFinding_of_head? _ '<' (by simp) (by decide))
    · apply isPlain_addWarning _ _ harticle
      intro b
      cases b <;> decide
  apply isPlain_ite _ _ _ _ hheading
  apply isPlain_addAction _ _ _ (isFinding_of_head? _ 'R' (by simp) (by decide))
  exact isPlain_addWarning _ _ hheading (isFinding_of_head? _ 'P' (by simp) (by decide))

theorem isPlain_reviewPage (page : Http.Page) (hr : r.IsPlain) : (r.reviewPage page).IsPlain := by
  apply isPlain_reviewContent
  apply isPlain_reviewJsonLd
  apply isPlain_reviewCanonical
  apply isPlain_reviewHeaderDirectives
  apply isPlain_reviewDirectives _ _ _ 'M' (by simp) (by decide)
  apply isPlain_reviewContentType
  exact isPlain_reviewStatus r page hr

theorem isPlain_reviewFailure (e : Error) (hr : r.IsPlain) : (r.reviewFailure e).IsPlain := by
  apply isPlain_addAction _ _ _ (isFinding_of_head? _ 'V' (by simp) (by decide))
  exact isPlain_addCritical _ _ hr (isFinding_of_head? _ 'F' (by simp) (by decide))

theorem isPlain_reviewAgent (status : Robots.AgentAccess) (hr : r.IsPlain) :
    (r.reviewAgent status).IsPlain := by
  unfold reviewAgent
  cases status.access with
  | blocked =>
    apply isPlain_addAction _ _ _ (isFinding_of_head? _ 'U' (by simp) (by decide))
    exact isPlain_addWarning _ _ hr (isFinding_of_head? _ 'r' (by simp) (by decide))
  | allowed => exact isPlain_addGood _ _ hr (isFinding_of_head? _ 'r' (by simp) (by decide))
  | unknown => exact isPlain_addWarning _ _ hr (isFinding_of_head? _ 'r' (by simp) (by decide))

theorem isPlain_reviewRobots (statuses : List Robots.AgentAccess) (hr : r.IsPlain) :
    (r.reviewRobots statuses).IsPlain :=
  isPlain_foldl r reviewAgent statuses (fun r status _ hr => isPlain_reviewAgent r status hr) hr

end Review

/-- A finished report says the sentence of a bucket exactly where nothing was found. -/
theorem sentence_mem_finalize_iff (r : Report) (hr : r.IsPlain) (b : Bucket) :
    b.sentence ∈ r.finalize.bucket b ↔ r.bucket b = [] := by
  rw [bucket_finalize]
  split
  · rename_i h
    simp [h]
  · rename_i h
    simp [h, hr b]

end Report

end Crawlability.Audit
