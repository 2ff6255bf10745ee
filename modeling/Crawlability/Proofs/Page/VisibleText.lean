import Crawlability.Proofs.Page.Fragments
import Crawlability.Proofs.Text.LetterCase

/-!
The visible text of a page. A page is cut into texts without opening brackets and what stands in
brackets between them, which may be anything but a closing bracket: more opening brackets, quotes or
line feeds. Whatever stands in brackets is replaced by a blank, so how long the visible text is
depends on the texts alone. It makes no difference that the page is lowered before it is cut:
lowercasing makes no bracket and removes none, and each character is lowered by itself, but for the
form of small sigmas, which counts as one character anyhow.
-/
namespace Crawlability.Page

open Text (unifySigma lowerForm)

namespace Shape

variable {α : Type} (shape : Shape α) (fill : List Char)

theorem replaceFrom_eq_replaceAll_drop (skip : Nat) (s : List Char) :
    shape.replaceFrom fill skip s = shape.replaceAll fill (s.drop skip) := by
  induction skip generalizing s with
  | zero => rfl
  | succ skip ih =>
    cases s with
    | nil => rfl
    | cons c rest => exact ih rest

/-- A stretch in which no span begins is kept. -/
theorem replaceAll_append_of_none (s rest : List Char)
    (h : ∀ b, b <:+ s → b ≠ [] → shape (b ++ rest) = none) :
    shape.replaceAll fill (s ++ rest) = s ++ shape.replaceAll fill rest := by
  induction s with
  | nil => rfl
  | cons c s ih =>
    have hhead : shape (c :: (s ++ rest)) = none :=
      h (c :: s) (List.suffix_refl _) (List.cons_ne_nil c s)
    have hrest := ih fun b hb => h b (hb.trans (List.suffix_cons c s))
    rw [replaceAll] at hrest
    rw [List.cons_append, List.cons_append, replaceAll, replaceFrom, hhead, ← hrest]

/-- A span at the head of a text is replaced, and the search goes on behind it. -/
theorem replaceAll_append_of_some (s rest : List Char) (found : α) (hne : s ≠ [])
    (h : shape (s ++ rest) = some (found, s.length)) :
    shape.replaceAll fill (s ++ rest) = fill ++ shape.replaceAll fill rest := by
  obtain ⟨c, s, rfl⟩ := List.exists_cons_of_ne_nil hne
  have hdrop : shape.replaceFrom fill s.length (s ++ rest) = shape.replaceAll fill rest := by
    rw [replaceFrom_eq_replaceAll_drop, List.drop_left]
  rw [List.cons_append] at h ⊢
  rw [replaceAll, replaceFrom, h, ← hdrop]
  rfl

/-- A change of single characters that moves no span changes what is kept and nothing else. -/
theorem replaceAll_map (f : Char → Char) (hfill : fill.map f = fill)
    (h : ∀ s, shape (s.map f) = shape s) (s : List Char) :
    shape.replaceAll fill (s.map f) = (shape.replaceAll fill s).map f := by
  have hfrom : ∀ skip,
      shape.replaceFrom fill skip (s.map f) = (shape.replaceFrom fill skip s).map f := by
    induction s with
    | nil =>
      intro skip
      cases skip <;> rfl
    | cons c rest ih =>
      intro skip
      cases skip with
      | zero =>
        have hhead := h (c :: rest)
        rw [List.map_cons] at hhead ⊢
        rw [replaceFrom, replaceFrom, hhead]
        cases shape (c :: rest) with
        | none => exact congrArg (f c :: ·) (ih 0)
        | some found =>
          rw [List.map_append, hfill]
          exact congrArg (fill ++ ·) (ih (found.2 - 1))
      | succ skip => exact ih skip
  exact hfrom 0

end Shape

theorem anyTag_cons_of_ne (c : Char) (rest : List Char) (hc : c ≠ '<') :
    anyTag (c :: rest) = none := by
  unfold anyTag
  split
  · rename_i heq
    exact absurd (List.cons.inj heq).1 hc
  · rfl

/-- Two texts with their brackets in the same places have their tags in the same places. -/
theorem anyTag_map (f : Char → Char) (hopens : ∀ c, f c = '<' ↔ c = '<')
    (hcloses : ∀ c, f c = '>' ↔ c = '>') (s : List Char) : anyTag (s.map f) = anyTag s := by
  cases s with
  | nil => rfl
  | cons c rest =>
    rw [List.map_cons]
    by_cases hc : c = '<'
    · subst hc
      rw [(hopens '<').mpr rfl, anyTag, anyTag, upTo?_map f '>' hcloses]
      cases upTo? '>' rest with
      | none => rfl
      | some found =>
        obtain ⟨inside, behind⟩ := found
        cases inside with
        | nil => rfl
        | cons d inside => simp
    · rw [anyTag_cons_of_ne c rest hc, anyTag_cons_of_ne _ _ (mt (hopens c).mp hc)]

/-- A text in which nothing opens. -/
abbrev PlainText := { s : List Char // '<' ∉ s }

/-- What stands in brackets: at least one character, and none that closes. -/
structure Bracketed where
  inside : List Char
  ne_nil : inside ≠ []
  closed : '>' ∉ inside

/-- A page cut into texts and what stands in brackets between them. -/
inductive Cut where
  | text (t : PlainText)
  | tag (t : PlainText) (b : Bracketed) (rest : Cut)

def Bracketed.printed (b : Bracketed) : List Char := '<' :: (b.inside ++ ['>'])

namespace Cut

def printed : Cut → List Char
  | text t => t.val
  | tag t b rest => t.val ++ (b.printed ++ rest.printed)

def texts : Cut → List (List Char)
  | text t => [t.val]
  | tag t _ rest => t.val :: rest.texts

/-- The texts with a blank between every two of them. -/
def spaced (page : Cut) : List Char := [' '].intercalate page.texts

theorem spaced_tag (t : PlainText) (b : Bracketed) (rest : Cut) :
    (tag t b rest).spaced = t.val ++ ' ' :: rest.spaced := by
  have hcons : ∃ first others, rest.texts = first :: others := by
    cases rest with
    | text t => exact ⟨t.val, [], rfl⟩
    | tag t b rest => exact ⟨t.val, rest.texts, rfl⟩
  obtain ⟨first, others, htexts⟩ := hcons
  rw [spaced, spaced, texts, htexts, List.intercalate_cons_cons, List.append_assoc,
    List.singleton_append]

end Cut

theorem Bracketed.anyTag_append (b : Bracketed) (rest : List Char) :
    anyTag (b.printed ++ rest) = some ((), b.printed.length) := by
  have hupTo : upTo? '>' (b.inside ++ '>' :: rest) = some (b.inside, rest) :=
    (upTo?_eq_some_iff '>' _ b.inside rest).mpr ⟨rfl, b.closed⟩
  have htext : b.printed ++ rest = '<' :: (b.inside ++ '>' :: rest) := by simp [printed]
  obtain ⟨c, inside, hinside⟩ := List.exists_cons_of_ne_nil b.ne_nil
  rw [htext, anyTag, hupTo, printed, hinside]
  simp

theorem replaceAll_anyTag_text (t : PlainText) (rest : List Char) :
    anyTag.replaceAll [' '] (t.val ++ rest) = t.val ++ anyTag.replaceAll [' '] rest := by
  apply Shape.replaceAll_append_of_none
  apply Shape.eq_none_of_suffix
  intro c hc after
  exact anyTag_cons_of_ne c after (ne_of_mem_of_not_mem hc t.property)

/-- What stands in brackets becomes a blank, and the texts stay. -/
theorem Cut.replaceAll_printed (page : Cut) :
    anyTag.replaceAll [' '] page.printed = page.spaced := by
  induction page with
  | text t =>
    have htext := replaceAll_anyTag_text t []
    rw [List.append_nil] at htext
    rw [printed, htext, spaced, texts, List.intercalate_singleton]
    exact List.append_nil _
  | tag t b rest ih =>
    have hne : b.printed ≠ [] := List.cons_ne_nil _ _
    rw [printed, replaceAll_anyTag_text,
      Shape.replaceAll_append_of_some _ _ _ _ _ hne (b.anyTag_append rest.printed), ih, spaced_tag]
    rfl

/-! Pages in lowercase, but for the forms of small sigmas, are cut at the same brackets. -/

theorem mem_flatMap_lowerForm_iff (mark : Char) (hplain : Text.IsPlain mark)
    (hmark : mark.isAlpha = false) (s : List Char) : mark ∈ s.flatMap lowerForm ↔ mark ∈ s := by
  simp only [List.mem_flatMap, Text.mem_lowerForm_iff mark _ hplain hmark]
  simp

theorem flatMap_lowerForm_ne_nil (s : List Char) (h : s ≠ []) : s.flatMap lowerForm ≠ [] := by
  obtain ⟨c, rest, rfl⟩ := List.exists_cons_of_ne_nil h
  have hform : lowerForm c ≠ [] := by simp [lowerForm, Text.lowerAt_ne_nil]
  simp [hform]

def PlainText.lower (t : PlainText) : PlainText :=
  ⟨t.val.flatMap lowerForm,
    fun h => t.property ((mem_flatMap_lowerForm_iff '<' (by decide) (by decide) t.val).mp h)⟩

def Bracketed.lower (b : Bracketed) : Bracketed where
  inside := b.inside.flatMap lowerForm
  ne_nil := flatMap_lowerForm_ne_nil b.inside b.ne_nil
  closed h := b.closed ((mem_flatMap_lowerForm_iff '>' (by decide) (by decide) b.inside).mp h)

namespace Cut

def lower : Cut → Cut
  | text t => text (PlainText.lower t)
  | tag t b rest => tag (PlainText.lower t) b.lower rest.lower

theorem printed_lower (page : Cut) : page.lower.printed = page.printed.flatMap lowerForm := by
  induction page with
  | text t => rfl
  | tag t b rest ih =>
    have hbrackets : b.lower.printed = b.printed.flatMap lowerForm := by
      have hopen : lowerForm '<' = ['<'] := rfl
      have hclose : lowerForm '>' = ['>'] := rfl
      simp [Bracketed.printed, Bracketed.lower, hopen, hclose]
    rw [lower, printed, printed, ih, hbrackets, List.flatMap_append, List.flatMap_append]
    rfl

theorem spaced_lower (page : Cut) : page.lower.spaced = page.spaced.flatMap lowerForm := by
  induction page with
  | text t => simp [lower, spaced, texts, PlainText.lower]
  | tag t b rest ih =>
    have hblank : lowerForm ' ' = [' '] := rfl
    rw [lower, spaced_tag, spaced_tag, ih, List.flatMap_append, List.flatMap_cons, hblank]
    rfl

theorem map_unifySigma_replaceAll (page : Cut) :
    (anyTag.replaceAll [' '] (Text.lowercaseChars page.printed)).map unifySigma =
      (Text.lowercaseChars page.spaced).map unifySigma := by
  have hmap := anyTag_map unifySigma keepsMarkup_unifySigma.opens keepsMarkup_unifySigma.closes
  calc
    _ = anyTag.replaceAll [' '] ((Text.lowercaseChars page.printed).map unifySigma) :=
      (anyTag.replaceAll_map [' '] unifySigma rfl hmap _).symm
    _ = anyTag.replaceAll [' '] page.lower.printed := by
      rw [Text.lowercaseChars, Text.map_unifySigma_lowercaseFrom, printed_lower]
    _ = page.spaced.flatMap lowerForm := by rw [replaceAll_printed, spaced_lower]
    _ = _ := (Text.map_unifySigma_lowercaseFrom false page.spaced).symm

end Cut

theorem isBlank_unifySigma (c : Char) : Text.isBlank (unifySigma c) = Text.isBlank c := by
  unfold unifySigma
  split
  · rename_i hc
    rw [hc]
    decide
  · rfl

theorem length_trimChars_map_unifySigma (s : List Char) :
    (Text.trimChars (s.map unifySigma)).length = (Text.trimChars s).length := by
  rw [Text.trimChars_map unifySigma isBlank_unifySigma, List.length_map]

/-- The visible text of a page is as long as its texts are in lowercase, with blanks between them
and none at the ends. So pages with the same texts have visible texts of the same length, whatever
stands in brackets between the texts. -/
theorem Content.visibleLength_printed (page : Cut) :
    (ofHtml page.printed).visibleLength =
      (Text.trimChars (Text.lowercaseChars ([' '].intercalate page.texts))).length ∧
    ∀ other : Cut, other.texts = page.texts →
      (ofHtml other.printed).visibleLength = (ofHtml page.printed).visibleLength := by
  have hlength : ∀ cut : Cut, (ofHtml cut.printed).visibleLength =
      (Text.trimChars (Text.lowercaseChars cut.spaced)).length := by
    intro cut
    change (Text.trimChars (anyTag.replaceAll [' '] (Text.lowercaseChars cut.printed))).length = _
    rw [← length_trimChars_map_unifySigma, cut.map_unifySigma_replaceAll,
      length_trimChars_map_unifySigma]
  refine ⟨hlength page, ?_⟩
  intro other htexts
  rw [hlength other, hlength page, Cut.spaced, Cut.spaced, htexts]

/-- The texts hold a closing bracket and a capital that becomes two characters; the second tag holds
an opening bracket and a line feed. -/
theorem Content.visibleLength_printed_of_changed_tag :
    let before : PlainText := ⟨" ΣΑΣ>".toList, by decide⟩
    let behind : PlainText := ⟨"\u0130 ".toList, by decide⟩
    let page := Cut.tag before ⟨"b".toList, by decide, by decide⟩ (.text behind)
    let other := Cut.tag before ⟨"a title=\"<b\"\n".toList, by decide, by decide⟩ (.text behind)
    other.texts = page.texts ∧ other.printed ≠ page.printed ∧
      (ofHtml page.printed).visibleLength = 7 ∧ (ofHtml other.printed).visibleLength = 7 := by
  intro before behind page other
  obtain ⟨hpage, hothers⟩ := visibleLength_printed page
  have hseven :
      (Text.trimChars (Text.lowercaseChars ([' '].intercalate page.texts))).length = 7 := by
    decide +kernel
  rw [hseven] at hpage
  exact ⟨rfl, by decide, hpage, (hothers other rfl).trans hpage⟩

end Crawlability.Page
