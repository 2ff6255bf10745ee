import Crawlability.Text.Blank
import Mathlib.Data.List.DropRight

/-!
Trimming by position. A text is blank throughout, or it has a character that stays; around such a
character the two sides are cut separately. From this come the laws of trimming: cutting one end
first changes nothing, and a trimmed text is one whose first and last characters stay.
-/
namespace Crawlability.Text

theorem trimEnd_eq_rdropWhile (s : List Char) : trimEnd s = s.rdropWhile isBlank := rfl

/-- All of the text is blank, or some character of it stays. -/
theorem all_blank_or_split (s : List Char) :
    (∀ c ∈ s, isBlank c = true) ∨ ∃ a c b, s = a ++ c :: b ∧ isBlank c = false := by
  by_cases h : ∀ c ∈ s, isBlank c = true
  · exact Or.inl h
  · right
    simp only [not_forall, Bool.not_eq_true] at h
    obtain ⟨c, hc, hblank⟩ := h
    obtain ⟨a, b, hs⟩ := List.append_of_mem hc
    exact ⟨a, c, b, hs, hblank⟩

theorem trimStart_append_cons (a : List Char) (c : Char) (b : List Char)
    (hc : isBlank c = false) : trimStart (a ++ c :: b) = trimStart a ++ c :: b := by
  unfold trimStart
  rw [List.dropWhile_append]
  split
  · rename_i h
    rw [List.isEmpty_iff.mp h, List.dropWhile_cons_of_neg (by simp [hc]), List.nil_append]
  · rfl

theorem trimEnd_append_cons (a : List Char) (c : Char) (b : List Char)
    (hc : isBlank c = false) : trimEnd (a ++ c :: b) = a ++ c :: trimEnd b := by
  have hrev : (a ++ c :: b).reverse = b.reverse ++ c :: a.reverse := by simp
  have hcut := trimStart_append_cons b.reverse c a.reverse hc
  unfold trimStart at hcut
  simp [trimEnd, hrev, hcut]

/-- Around a character that stays, the two sides are cut separately. -/
theorem trimChars_append_cons (a : List Char) (c : Char) (b : List Char)
    (hc : isBlank c = false) : trimChars (a ++ c :: b) = trimStart a ++ c :: trimEnd b := by
  rw [trimChars, trimStart_append_cons a c b hc, trimEnd_append_cons (trimStart a) c b hc]

theorem trimChars_of_all_blank (s : List Char) (h : ∀ c ∈ s, isBlank c = true) :
    trimChars s = [] := by
  have hs : trimStart s = [] := List.dropWhile_eq_nil_iff.mpr h
  rw [trimChars, hs]
  rfl

theorem trimChars_trimStart (s : List Char) : trimChars (trimStart s) = trimChars s := by
  have h : trimStart (trimStart s) = trimStart s := List.dropWhile_idempotent isBlank s
  rw [trimChars, h, trimChars]

theorem trimChars_trimEnd (s : List Char) : trimChars (trimEnd s) = trimChars s := by
  rcases all_blank_or_split s with h | ⟨a, c, b, rfl, hc⟩
  · have hs : trimEnd s = [] := List.rdropWhile_eq_nil_iff.mpr h
    rw [hs, trimChars_of_all_blank s h]
    rfl
  · have hb : trimEnd (trimEnd b) = trimEnd b := List.rdropWhile_idempotent isBlank b
    rw [trimEnd_append_cons a c b hc, trimChars_append_cons a c (trimEnd b) hc,
      trimChars_append_cons a c b hc, hb]

theorem trimChars_trimChars (s : List Char) : trimChars (trimChars s) = trimChars s := by
  have h : trimChars (trimChars s) = trimChars (trimEnd (trimStart s)) := rfl
  rw [h, trimChars_trimEnd, trimChars_trimStart]

theorem mem_of_mem_trimChars (s : List Char) (c : Char) (h : c ∈ trimChars s) : c ∈ s := by
  have hend : c ∈ trimStart s := (List.rdropWhile_prefix isBlank (trimStart s)).subset h
  exact (List.dropWhile_suffix isBlank).subset hend

/-- Neither end of the text is blank. -/
def HasTrimmedEnds (s : List Char) : Prop :=
  (∀ c ∈ s.head?, isBlank c = false) ∧ ∀ c ∈ s.getLast?, isBlank c = false

theorem trimStart_eq_self_iff (s : List Char) :
    trimStart s = s ↔ ∀ c ∈ s.head?, isBlank c = false := by
  cases s with
  | nil => simp [trimStart]
  | cons c s => simp [trimStart]

theorem trimEnd_eq_self_iff (s : List Char) :
    trimEnd s = s ↔ ∀ c ∈ s.getLast?, isBlank c = false := by
  rw [trimEnd_eq_rdropWhile, List.rdropWhile_eq_self_iff]
  cases s using List.reverseRecOn with
  | nil => simp
  | append_singleton s c => simp

theorem hasTrimmedEnds_trimChars (s : List Char) : HasTrimmedEnds (trimChars s) := by
  rcases all_blank_or_split s with h | ⟨a, c, b, rfl, hc⟩
  · rw [trimChars_of_all_blank s h]
    simp [HasTrimmedEnds]
  · rw [trimChars_append_cons a c b hc]
    constructor
    · have ha : trimStart (trimStart a) = trimStart a := List.dropWhile_idempotent isBlank a
      rw [← trimStart_eq_self_iff, trimStart_append_cons _ c _ hc, ha]
    · have hb : trimEnd (trimEnd b) = trimEnd b := List.rdropWhile_idempotent isBlank b
      rw [← trimEnd_eq_self_iff, trimEnd_append_cons _ c _ hc, hb]

theorem trimChars_eq_self_iff (s : List Char) : trimChars s = s ↔ HasTrimmedEnds s := by
  constructor
  · intro h
    rw [← h]
    exact hasTrimmedEnds_trimChars s
  · rintro ⟨hstart, hend⟩
    rw [trimChars, (trimStart_eq_self_iff s).mpr hstart, (trimEnd_eq_self_iff s).mpr hend]

theorem toList_trim (s : String) : (trim s).toList = trimChars s.toList := String.toList_ofList

theorem trim_eq_self_iff (s : String) : trim s = s ↔ trimChars s.toList = s.toList := by
  rw [← String.toList_inj, toList_trim]

theorem trim_trim (s : String) : trim (trim s) = trim s := by
  rw [trim_eq_self_iff, toList_trim, trimChars_trimChars]

theorem isEmpty_trim (s : String) : (trim s).isEmpty = isAllBlank s := by
  rw [Bool.eq_iff_iff, String.isEmpty_iff, ← String.toList_eq_nil_iff, toList_trim, isAllBlank,
    List.all_eq_true]
  constructor
  · intro h c hc
    rcases all_blank_or_split s.toList with hblank | ⟨a, d, b, hs, hd⟩
    · exact hblank c hc
    · rw [hs, trimChars_append_cons a d b hd] at h
      simp at h
  · exact trimChars_of_all_blank s.toList

theorem trim_ne_empty (s : String) (h : isAllBlank s = false) : trim s ≠ "" := by
  intro hempty
  rw [← isEmpty_trim, hempty] at h
  cases h

end Crawlability.Text
