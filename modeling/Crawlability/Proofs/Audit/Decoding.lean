import Crawlability.Proofs.Audit.Layout
import Crawlability.Proofs.Json.Records

/-!
Reading a report back from its Markdown. The lines of the document are cut into sections at the
empty ones, and a section is a title with a line for each entry below it. An entry without a line
feed is one line, and this line is neither empty nor a title, because it begins with the mark of an
entry; so the decoder finds the entries whatever they say, and the document of a report determines
it.
-/
namespace Crawlability.Audit.Report

/-- The entry that a line of a list holds. -/
def listed? : List Char → Option String
  | '-' :: ' ' :: entry => some (.ofList entry)
  | _ => none

/-- The lines of the section of a bucket. -/
def sectionLines (b : Bucket) (entries : List String) : List (List Char) :=
  b.title.toList :: entryLines entries

/-- The entries of lines that are the section of the bucket. -/
def entries? (b : Bucket) : List (List Char) → Option (List String)
  | [] => none
  | title :: lines => if title = b.title.toList then lines.mapM listed? else none

/-- The report with these sections. -/
def ofSections? : List (List (List Char)) → Option Report
  | [critical, warnings, good, actions] => do
    return {
      critical := ← entries? .critical critical
      warnings := ← entries? .warnings warnings
      good := ← entries? .good good
      actions := ← entries? .actions actions }
  | _ => none

/-- The report that a document shows. -/
def ofMarkdown? (text : String) : Option Report :=
  ofSections? ((Text.lines text.toList).splitOn [])

theorem listed?_eq_some_iff (line : List Char) (entry : String) :
    listed? line = some entry ↔ line = ("- " ++ entry).toList := by
  have hmark : ("- " ++ entry).toList = '-' :: ' ' :: entry.toList := by
    rw [String.toList_append]
    rfl
  rw [hmark]
  constructor
  · intro h
    unfold listed? at h
    split at h
    · rw [← Option.some.inj h, String.toList_ofList]
    · cases h
  · rintro rfl
    rw [listed?, String.ofList_toList]

theorem mapM_listed?_eq_some_iff (lines : List (List Char)) (entries : List String) :
    lines.mapM listed? = some entries ↔ lines = entryLines entries := by
  rw [Json.mapM_eq_some_iff, entryLines, ← List.forall₂_eq_eq_eq, List.forall₂_map_right_iff]
  simp only [listed?_eq_some_iff]

theorem entries?_eq_some_iff (b : Bucket) (lines : List (List Char)) (entries : List String) :
    entries? b lines = some entries ↔ lines = sectionLines b entries := by
  cases lines with
  | nil => simp [entries?, sectionLines]
  | cons title lines =>
    rw [entries?, sectionLines, Option.ite_none_right_eq_some, mapM_listed?_eq_some_iff,
      List.cons.injEq]

theorem ofSections?_eq_some_iff (sections : List (List (List Char))) (r : Report) :
    ofSections? sections = some r ↔
      sections = Bucket.all.map fun b => sectionLines b (r.bucket b) := by
  constructor
  · intro h
    unfold ofSections? at h
    split at h
    · simp only [Option.bind_eq_bind, Option.bind_eq_some_iff, Option.pure_def, Option.some.injEq,
        entries?_eq_some_iff] at h
      obtain ⟨critical, rfl, warnings, rfl, good, rfl, actions, rfl, rfl⟩ := h
      rfl
    · cases h
  · rintro rfl
    have hentries : ∀ b, entries? b (sectionLines b (r.bucket b)) = some (r.bucket b) :=
      fun b => (entries?_eq_some_iff b _ _).mpr rfl
    simp only [Bucket.all, List.map_cons, List.map_nil, ofSections?, hentries]
    rfl

theorem nil_not_mem_sectionLines (b : Bucket) (entries : List String) :
    [] ∉ sectionLines b entries := by
  rw [sectionLines, List.mem_cons, not_or, ← List.count_eq_zero]
  refine ⟨?_, count_nil_entryLines entries⟩
  intro h
  exact title_ne_empty b (String.toList_eq_nil_iff.mp h.symm)

/-- The layout joins its sections by empty lines. -/
theorem map_toList_layout_eq_intercalate (entries : Bucket → List String) :
    (layout entries).map String.toList =
      [[]].intercalate (Bucket.all.map fun b => sectionLines b (entries b)) := by
  rw [map_toList_layout]
  simp [Bucket.all, sectionLines, List.intercalate_cons_cons]

/-- Lines are cut into the sections of a report exactly if they are its layout. -/
theorem splitOn_nil_eq_iff (lines : List (List Char)) (entries : Bucket → List String) :
    lines.splitOn [] = Bucket.all.map (fun b => sectionLines b (entries b)) ↔
      lines = (layout entries).map String.toList := by
  rw [map_toList_layout_eq_intercalate]
  constructor
  · intro h
    rw [← h, List.intercalate_splitOn]
  · rintro rfl
    apply List.splitOn_intercalate
    · intro lines hlines
      obtain ⟨b, -, rfl⟩ := List.mem_map.mp hlines
      exact nil_not_mem_sectionLines b (entries b)
    · exact List.cons_ne_nil _ _

/-- A text has the lines of a layout exactly if it is the document of a report whose entries are one
line each. -/
theorem lines_eq_layout_iff (text : String) (r : Report) :
    Text.lines text.toList = (layout r.bucket).map String.toList ↔
      r.IsFlat ∧ r.toMarkdown = text := by
  constructor
  · intro h
    have htext : r.toMarkdown = text := by
      have hjoined : ['\n'].intercalate (Text.lines text.toList) = text.toList :=
        List.intercalate_splitOn '\n'
      rw [toMarkdown_eq, ← String.toList_inj, String.toList_intercalate, ← h]
      exact hjoined
    have hkeeps : KeepsLayout text r.size := ⟨r.bucket, h, rfl⟩
    rw [← htext] at hkeeps
    exact ⟨r.keepsLayout_toMarkdown_iff.mp hkeeps, htext⟩
  · rintro ⟨hflat, rfl⟩
    rw [lines_toMarkdown]
    exact Text.flatMap_lines_eq_self _ (r.forall_mem_layout_iff.mpr hflat)

/-- The decoder reads the documents of reports whose entries are one line each, and no others. -/
theorem ofMarkdown?_eq_some_iff (text : String) (r : Report) :
    ofMarkdown? text = some r ↔ r.IsFlat ∧ r.toMarkdown = text := by
  rw [ofMarkdown?, ofSections?_eq_some_iff, splitOn_nil_eq_iff, lines_eq_layout_iff]

theorem ofMarkdown?_toMarkdown (r : Report) (h : r.IsFlat) : ofMarkdown? r.toMarkdown = some r :=
  (ofMarkdown?_eq_some_iff r.toMarkdown r).mpr ⟨h, rfl⟩

instance : DecidablePred IsFlat := fun r => decidable_of_iff _ r.forall_mem_layout_iff

/-- Reports whose entries are one line each have the same document only if they have the same
entries in each bucket, in the same order. The entries may be empty or begin like a title or like an
entry, and buckets may be empty. -/
theorem toMarkdown_eq_iff (r s : Report) (hr : r.IsFlat) (hs : s.IsFlat) :
    r.toMarkdown = s.toMarkdown ↔ r = s := by
  constructor
  · intro h
    have hread := ofMarkdown?_toMarkdown r hr
    rw [h, ofMarkdown?_toMarkdown s hs] at hread
    exact (Option.some.inj hread).symm
  · rintro rfl
    rfl

/-- One report has a title among its entries where the other one has a bucket. -/
theorem toMarkdown_ne_of_title_as_entry :
    let r : Report := { critical := ["", "## Warnings", "- x"] }
    let s : Report := { critical := [""], warnings := ["- x"] }
    r.IsFlat ∧ s.IsFlat ∧ r.toMarkdown ≠ s.toMarkdown := by
  intro r s
  have hr : r.IsFlat := by decide +kernel
  have hs : s.IsFlat := by decide +kernel
  refine ⟨hr, hs, ?_⟩
  intro h
  exact absurd ((toMarkdown_eq_iff r s hr hs).mp h) (by decide)

/-- An entry of two lines may read as two entries. -/
example : ({ good := ["a\n- b"] } : Report).toMarkdown =
    ({ good := ["a", "b"] } : Report).toMarkdown := by decide

end Crawlability.Audit.Report
