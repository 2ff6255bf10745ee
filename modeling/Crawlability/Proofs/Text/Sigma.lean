import Crawlability.Proofs.Text.Ascii
import Mathlib

/-!
Lowercasing of a text that is put together from two. The small sigma has two forms, and which of them
a capital takes hangs on its neighbours. But for these forms each character is lowered by itself, so
the lowercase of the whole is that of the first text and then that of the second.
-/
namespace Crawlability.Text

/-- The small sigma in one form. -/
def unifySigma (c : Char) : Char := if c = '\u03C2' then '\u03C3' else c

theorem unifySigma_eq_iff (mark : Char) (hfinal : mark ≠ '\u03C2') (hmedial : mark ≠ '\u03C3')
    (c : Char) : unifySigma c = mark ↔ c = mark := by
  unfold unifySigma
  split
  · rename_i hc
    rw [hc]
    exact iff_of_false hmedial.symm hfinal.symm
  · rfl

/-- What a character is lowered to, but for the form of a small sigma. -/
def lowerForm (c : Char) : List Char := (lowerAt false c []).map unifySigma

theorem map_unifySigma_lowercaseFrom (inWord : Bool) (s : List Char) :
    (lowercaseFrom inWord s).map unifySigma = s.flatMap lowerForm := by
  induction s generalizing inWord with
  | nil => rfl
  | cons c rest ih =>
    have hhead : (lowerAt inWord c rest).map unifySigma = lowerForm c := by
      unfold lowerForm lowerAt
      split
      · split <;> rfl
      · rfl
    rw [lowercaseFrom_cons, List.map_append, hhead, ih, List.flatMap_cons]

/-- But for the form of small sigmas, two texts are lowered one after the other. -/
theorem map_unifySigma_lowercaseChars_append (s t : List Char) :
    (lowercaseChars (s ++ t)).map unifySigma =
      (lowercaseChars s).map unifySigma ++ (lowercaseChars t).map unifySigma := by
  simp only [lowercaseChars, map_unifySigma_lowercaseFrom, List.flatMap_append]

theorem exists_lowerAt_eq_singleton (inWord : Bool) (c : Char) (rest : List Char)
    (hdotted : c ≠ '\u0130') : ∃ d, lowerAt inWord c rest = [d] := by
  unfold lowerAt lowerChar
  split
  · exact ⟨_, rfl⟩
  · split
    · exact ⟨_, rfl⟩
    · exact ⟨_, rfl⟩

/-- Lowercasing makes no mark of ASCII out of anything else. -/
theorem eq_of_mem_lowerAt_of_isPlain (inWord : Bool) (c : Char) (rest : List Char) (mark : Char)
    (hplain : IsPlain mark) (hmark : mark.isAlpha = false) (h : mark ∈ lowerAt inWord c rest) :
    mark = c := by
  by_cases hdotted : c = '\u0130'
  · subst hdotted
    have hforms : lowerAt inWord '\u0130' rest = ['i', '\u0307'] := rfl
    rw [hforms, List.mem_cons, List.mem_singleton] at h
    rcases h with rfl | rfl
    · exact absurd hmark (by decide)
    · exact absurd hplain.1 (by decide)
  · obtain ⟨d, hd⟩ := exists_lowerAt_eq_singleton inWord c rest hdotted
    rw [hd, List.mem_singleton] at h
    subst h
    have hlower := lowerAt_eq_of_isPlain inWord c rest (by simpa [hd] using hplain)
    obtain rfl : mark = c.toLower := by simpa [hd] using hlower
    rw [Char.isAlpha_toLower_eq_isAlpha, Char.isAlpha, Bool.or_eq_false_iff] at hmark
    exact Char.toLower_eq_of_not_isUpper (by simp [hmark.1])

/-- A mark that has no forms is among those of a character exactly if it is that character. -/
theorem mem_lowerForm_iff (mark c : Char) (hplain : IsPlain mark) (hmark : mark.isAlpha = false) :
    mark ∈ lowerForm c ↔ mark = c := by
  have hne : mark ≠ '\u03C2' ∧ mark ≠ '\u03C3' := by
    constructor
    · rintro rfl
      exact absurd hplain.1 (by decide)
    · rintro rfl
      exact absurd hplain.1 (by decide)
  constructor
  · intro h
    obtain ⟨d, hd, heq⟩ := List.mem_map.mp h
    rw [unifySigma_eq_iff mark hne.1 hne.2] at heq
    subst heq
    exact eq_of_mem_lowerAt_of_isPlain false c [] d hplain hmark hd
  · rintro rfl
    have hlower : mark.toLower = mark := by
      rw [Char.isAlpha, Bool.or_eq_false_iff] at hmark
      exact Char.toLower_eq_of_not_isUpper (by simp [hmark.1])
    rw [lowerForm, lowerAt_of_toLower_isPlain false mark [] (by rwa [hlower]), hlower,
      List.map_singleton, (unifySigma_eq_iff mark hne.1 hne.2 mark).mpr rfl]
    exact List.mem_singleton_self mark

end Crawlability.Text
