import Crawlability.Proofs.Audit.Findings
import Crawlability.Proofs.Text.Lines

/-!
The Markdown of a report, line by line. It is four titled lists with an empty line between two of
them, and each entry is one line of its list, exactly as long as no entry holds a line feed. An
entry that holds one has lines of its own, and they may read as titles and entries.
-/
namespace Crawlability.Audit

/-- The order of the document. -/
def Bucket.all : List Bucket := [.critical, .warnings, .good, .actions]

def Bucket.title : Bucket → String
  | critical => "## Critical issues"
  | warnings => "## Warnings"
  | good => "## Good signals"
  | actions => "## Next actions"

/-- How many entries there are in all. -/
def Bucket.total (entries : Bucket → List String) : Nat :=
  (Bucket.all.flatMap entries).length

namespace Report

/-- The lines of the document if each entry is one of them. -/
def layout (entries : Bucket → List String) : List String :=
  [""].intercalate (Bucket.all.map fun b => b.title :: (entries b).map ("- " ++ ·))

/-- The lines of the text are four titles, each with entries below it, and the empty lines between;
so many entries are there. -/
def KeepsLayout (text : String) (count : Nat) : Prop :=
  ∃ entries, Text.lines text.toList = (layout entries).map String.toList ∧
    Bucket.total entries = count

theorem layout_eq (entries : Bucket → List String) : layout entries =
    Bucket.critical.title :: (entries .critical).map ("- " ++ ·) ++
    "" :: Bucket.warnings.title :: (entries .warnings).map ("- " ++ ·) ++
    "" :: Bucket.good.title :: (entries .good).map ("- " ++ ·) ++
    "" :: Bucket.actions.title :: (entries .actions).map ("- " ++ ·) := by
  simp [layout, Bucket.all, List.intercalate_cons_cons]

theorem length_layout (entries : Bucket → List String) :
    (layout entries).length = Bucket.total entries + 7 := by
  simp [layout_eq, Bucket.total, Bucket.all]
  omega

/-- The line is a title. -/
def isTitle (line : List Char) : Bool := "## ".toList.isPrefixOf line

/-- The line is an entry of a list. -/
def isBullet (line : List Char) : Bool := "- ".toList.isPrefixOf line

/-- The lines of the entries of one list. -/
def entryLines (entries : List String) : List (List Char) :=
  entries.map fun entry => ("- " ++ entry).toList

theorem map_toList_layout (entries : Bucket → List String) :
    (layout entries).map String.toList =
      Bucket.critical.title.toList :: entryLines (entries .critical) ++
      [] :: Bucket.warnings.title.toList :: entryLines (entries .warnings) ++
      [] :: Bucket.good.title.toList :: entryLines (entries .good) ++
      [] :: Bucket.actions.title.toList :: entryLines (entries .actions) := by
  simp only [layout_eq, entryLines, List.map_append, List.map_cons, List.map_map, Function.comp_def,
    String.toList_empty]

theorem isTitle_title (b : Bucket) : isTitle b.title.toList = true := by
  cases b <;> decide +kernel

theorem isBullet_title (b : Bucket) : isBullet b.title.toList = false := by
  cases b <;> decide +kernel

theorem title_ne_empty (b : Bucket) : b.title ≠ "" := by
  cases b <;> decide

theorem isBullet_of_mem_entryLines (entries : List String) (line : List Char)
    (h : line ∈ entryLines entries) : isBullet line = true := by
  obtain ⟨entry, -, rfl⟩ := List.mem_map.mp h
  rw [isBullet, String.toList_append]
  rfl

theorem isTitle_eq_false_of_mem_entryLines (entries : List String) (line : List Char)
    (h : line ∈ entryLines entries) : isTitle line = false := by
  obtain ⟨entry, -, rfl⟩ := List.mem_map.mp h
  rw [isTitle, String.toList_append]
  rfl

theorem filter_isTitle_entryLines (entries : List String) :
    (entryLines entries).filter isTitle = [] := by
  rw [List.filter_eq_nil_iff]
  intro line hline
  simp [isTitle_eq_false_of_mem_entryLines entries line hline]

theorem countP_isBullet_entryLines (entries : List String) :
    (entryLines entries).countP isBullet = entries.length := by
  rw [List.countP_eq_length.mpr (isBullet_of_mem_entryLines entries), entryLines, List.length_map]

theorem count_nil_entryLines (entries : List String) : (entryLines entries).count [] = 0 := by
  rw [List.count_eq_zero]
  intro hmem
  cases isBullet_of_mem_entryLines entries [] hmem

/-- The lines of a layout are told apart by how they begin: the titles stand in their order, the
entries are as many as there should be, three lines are empty, and there are no others. -/
theorem KeepsLayout.spec (text : String) (count : Nat) (h : KeepsLayout text count) :
    (Text.lines text.toList).filter isTitle = Bucket.all.map (·.title.toList) ∧
    (Text.lines text.toList).countP isBullet = count ∧
    (Text.lines text.toList).count [] = 3 ∧
    ∀ line ∈ Text.lines text.toList, isTitle line = true ∨ isBullet line = true ∨ line = [] := by
  obtain ⟨entries, hlines, rfl⟩ := h
  have hempty : isTitle [] = false ∧ isBullet [] = false := by decide
  rw [hlines, map_toList_layout]
  refine ⟨?_, ?_, ?_, ?_⟩
  · simp only [List.filter_append, List.filter_cons, isTitle_title, filter_isTitle_entryLines,
      hempty, if_true]
    rfl
  · simp only [List.countP_append, List.countP_cons, isBullet_title, countP_isBullet_entryLines,
      hempty]
    simp [Bucket.total, Bucket.all]
    omega
  · simp [count_nil_entryLines, title_ne_empty]
  · have hentry : ∀ entries, ∀ line ∈ entryLines entries,
        isTitle line = true ∨ isBullet line = true ∨ line = [] :=
      fun entries line hline => .inr (.inl (isBullet_of_mem_entryLines entries line hline))
    simp only [List.forall_mem_append, List.forall_mem_cons, isTitle_title, true_or, or_true,
      true_and]
    exact ⟨⟨⟨hentry _, hentry _⟩, hentry _⟩, hentry _⟩

theorem intercalate_sections (sections : List (List String)) (hne : ∀ s ∈ sections, s ≠ []) :
    "\n".intercalate ([""].intercalate sections) =
      "\n\n".intercalate (sections.map ("\n".intercalate ·)) := by
  induction sections with
  | nil => rfl
  | cons first rest ih =>
    cases rest with
    | nil => simp
    | cons next rest =>
      have hfirst : first ≠ [] := hne first (List.mem_cons_self ..)
      have hnext : next ≠ [] := hne next (List.mem_cons_of_mem first (List.mem_cons_self ..))
      have hrest : [""].intercalate (next :: rest) ≠ [] := by
        cases next with
        | nil => exact absurd rfl hnext
        | cons line next =>
          rw [List.intercalate_cons_cons_left]
          exact List.cons_ne_nil _ _
      have ih := ih (fun s hs => hne s (List.mem_cons_of_mem first hs))
      rw [List.intercalate_cons_cons, String.intercalate_append_of_ne_nil (by simp) hrest,
        String.intercalate_append_of_ne_nil hfirst (List.cons_ne_nil _ _), ih]
      simp [String.append_assoc]

theorem append_join_eq_intercalate (head : String) (lines : List String) :
    head ++ String.join (lines.map ("\n" ++ ·)) = "\n".intercalate (head :: lines) := by
  induction lines generalizing head with
  | nil => simp
  | cons line lines ih =>
    rw [List.map_cons, String.join_cons, String.intercalate_cons_cons, ← ih line]
    simp only [String.append_assoc]

theorem sectionText_eq (title : String) (findings : List String) : sectionText title findings =
    "\n".intercalate (("## " ++ title) :: findings.map ("- " ++ ·)) := by
  have hentries : findings.map ("\n- " ++ ·) = (findings.map ("- " ++ ·)).map ("\n" ++ ·) := by
    rw [List.map_map]
    apply List.map_congr_left
    intro finding _
    rw [Function.comp_apply, ← String.append_assoc]
    rfl
  rw [sectionText, hentries, append_join_eq_intercalate]

/-- The document joins its lines. -/
theorem toMarkdown_eq (r : Report) : r.toMarkdown = "\n".intercalate (layout r.bucket) := by
  have htext : r.toMarkdown =
      "\n\n".intercalate (r.sections.map fun titled => sectionText titled.1 titled.2) := rfl
  have htitles : r.sections.map (fun titled => sectionText titled.1 titled.2) =
      (Bucket.all.map fun b => b.title :: (r.bucket b).map ("- " ++ ·)).map
        ("\n".intercalate ·) := by
    simp only [sections, Bucket.all, List.map_cons, List.map_nil, sectionText_eq, bucket,
      Bucket.title]
    rfl
  have hsections : ∀ s ∈ Bucket.all.map (fun b => b.title :: (r.bucket b).map ("- " ++ ·)),
      s ≠ [] := by
    intro s hs
    obtain ⟨b, -, rfl⟩ := List.mem_map.mp hs
    exact List.cons_ne_nil _ _
  rw [htext, htitles, layout, intercalate_sections _ hsections]

theorem lines_toMarkdown (r : Report) : Text.lines r.toMarkdown.toList =
    ((layout r.bucket).map String.toList).flatMap Text.lines := by
  have hne : (layout r.bucket).map String.toList ≠ [] := by simp [layout_eq]
  rw [toMarkdown_eq, String.toList_intercalate]
  exact Text.lines_intercalate _ hne

/-- Whatever line an entry has is one of the document. -/
theorem mem_lines_toMarkdown (r : Report) (b : Bucket) (finding : String)
    (hfinding : finding ∈ r.bucket b) (line : List Char)
    (hline : line ∈ Text.lines ("- " ++ finding).toList) :
    line ∈ Text.lines r.toMarkdown.toList := by
  rw [lines_toMarkdown, map_toList_layout, List.mem_flatMap]
  refine ⟨("- " ++ finding).toList, ?_, hline⟩
  have hentry : ("- " ++ finding).toList ∈ entryLines (r.bucket b) :=
    List.mem_map_of_mem hfinding
  cases b <;> simp only [List.mem_append, List.mem_cons, hentry, true_or, or_true]

/-- An entry with a line that reads as a title of its own breaks the layout. -/
theorem forged_title (r : Report) (b : Bucket) (finding : String)
    (hfinding : finding ∈ r.bucket b) (line : List Char)
    (hline : line ∈ Text.lines ("- " ++ finding).toList) (htitle : isTitle line = true)
    (hforged : line ∉ Bucket.all.map (·.title.toList)) :
    line ∈ Text.lines r.toMarkdown.toList ∧ ∀ count, ¬ KeepsLayout r.toMarkdown count := by
  have hmem := r.mem_lines_toMarkdown b finding hfinding line hline
  refine ⟨hmem, ?_⟩
  intro count hkeeps
  obtain ⟨htitles, -⟩ := KeepsLayout.spec _ count hkeeps
  rw [← htitles, List.mem_filter] at hforged
  exact hforged ⟨hmem, htitle⟩

/-- How many entries a report has. -/
def size (r : Report) : Nat := Bucket.total r.bucket

/-- Each entry of the report is one line. -/
def IsFlat (r : Report) : Prop := ∀ b, ∀ finding ∈ r.bucket b, Text.IsOneLine finding

theorem forall_mem_layout_iff (r : Report) :
    (∀ line ∈ (layout r.bucket).map String.toList, '\n' ∉ line) ↔ r.IsFlat := by
  have htitle : ∀ b : Bucket, '\n' ∉ b.title.toList := by
    intro b
    cases b <;> exact Text.isOneLine_ofList _ rfl
  have hentries : ∀ findings, (∀ line ∈ entryLines findings, '\n' ∉ line) ↔
      ∀ finding ∈ findings, Text.IsOneLine finding := by
    intro findings
    simp [entryLines, Text.IsOneLine]
  simp only [map_toList_layout, List.forall_mem_append, List.forall_mem_cons, htitle, hentries,
    List.not_mem_nil, not_false_eq_true, true_and]
  constructor
  · rintro ⟨⟨⟨hcritical, hwarnings⟩, hgood⟩, hactions⟩ b
    cases b with
    | critical => exact hcritical
    | warnings => exact hwarnings
    | good => exact hgood
    | actions => exact hactions
  · intro h
    exact ⟨⟨⟨h .critical, h .warnings⟩, h .good⟩, h .actions⟩

/-- The Markdown of a report keeps the layout exactly if no entry holds a line feed. -/
theorem keepsLayout_toMarkdown_iff (r : Report) : KeepsLayout r.toMarkdown r.size ↔ r.IsFlat := by
  rw [← forall_mem_layout_iff]
  constructor
  · intro h
    obtain ⟨entries, hlines, htotal⟩ := h
    have hlength := congrArg List.length hlines
    rw [lines_toMarkdown, List.length_map, length_layout, htotal, size, ← length_layout] at hlength
    rw [← Text.length_flatMap_lines_eq_iff, hlength, List.length_map]
  · intro h
    exact ⟨r.bucket, (lines_toMarkdown r).trans (Text.flatMap_lines_eq_self _ h), rfl⟩

end Report

end Crawlability.Audit
