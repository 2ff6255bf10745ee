import Crawlability.Proofs.Text.Ascii
import Mathlib

/-!
Texts up to the case of ASCII letters. A property of characters that each capital of ASCII shares
with its small letter is a property of the text in ASCII lowercase; blanks, separators and words are
of this kind. Full lowercasing forgets this case altogether, since a letter of ASCII has the same
form, and says the same about the sigmas around it, whether it is small or not.
-/
namespace Crawlability.Text

/-- The capital letters of ASCII by their places in the alphabet. -/
def capitalAt (n : Nat) : Char := Char.ofNat (0x41 + n)

theorem exists_capitalAt (c : Char) (h : c.isUpper = true) : ∃ n < 26, capitalAt n = c := by
  obtain ⟨hfirst, hlast⟩ := (isUpper_iff_toNat c).mp h
  refine ⟨c.toNat - 0x41, by omega, ?_⟩
  rw [capitalAt, Nat.add_sub_cancel' hfirst, Char.ofNat_toNat]

/-- What the capitals share with their small letters is kept by all characters. -/
theorem apply_toLower {α : Type} (f : Char → α)
    (h : ∀ n < 26, f (capitalAt n).toLower = f (capitalAt n)) (c : Char) : f c.toLower = f c := by
  by_cases hupper : c.isUpper = true
  · obtain ⟨n, hn, rfl⟩ := exists_capitalAt c hupper
    exact h n hn
  · rw [Char.toLower_eq_of_not_isUpper hupper]

theorem isBlank_toLower (c : Char) : isBlank c.toLower = isBlank c :=
  apply_toLower isBlank (by decide) c

theorem isWordChar_toLower (c : Char) : isWordChar c.toLower = isWordChar c :=
  apply_toLower isWordChar (by decide) c

theorem isCased_toLower (c : Char) : isCased c.toLower = isCased c :=
  apply_toLower isCased (by decide) c

theorem isCaseIgnorable_toLower (c : Char) : isCaseIgnorable c.toLower = isCaseIgnorable c :=
  apply_toLower isCaseIgnorable (by decide +kernel) c

theorem lowerChar_toLower (c : Char) : lowerChar c.toLower = lowerChar c :=
  apply_toLower lowerChar (by decide) c

/-- A mark or a letter from elsewhere is the lowercase form of itself only. -/
theorem toLower_beq (mark : Char)
    (h : ∀ n < 26, ((capitalAt n).toLower == mark) = (capitalAt n == mark)) (c : Char) :
    (c.toLower == mark) = (c == mark) := apply_toLower (· == mark) h c

theorem startsCased_map_toLower (s : List Char) :
    startsCased (s.map Char.toLower) = startsCased s := by
  have hkept : isCaseIgnorable ∘ Char.toLower = isCaseIgnorable := funext isCaseIgnorable_toLower
  rw [startsCased, startsCased, List.dropWhile_map, hkept]
  cases s.dropWhile isCaseIgnorable with
  | nil => rfl
  | cons c rest => exact isCased_toLower c

theorem lowerAt_toLower (inWord : Bool) (c : Char) (rest : List Char) :
    lowerAt inWord c.toLower (rest.map Char.toLower) = lowerAt inWord c rest := by
  have hsigma : c.toLower = '\u03A3' ↔ c = '\u03A3' := by
    rw [← beq_iff_eq, ← beq_iff_eq (a := c), toLower_beq '\u03A3' (by decide)]
  rw [lowerAt, lowerAt, startsCased_map_toLower, lowerChar_toLower]
  simp only [hsigma]

theorem inWordAfter_toLower (inWord : Bool) (c : Char) :
    inWordAfter inWord c.toLower = inWordAfter inWord c := by
  rw [inWordAfter, inWordAfter, isCaseIgnorable_toLower, isCased_toLower]

theorem lowercaseFrom_map_toLower (inWord : Bool) (s : List Char) :
    lowercaseFrom inWord (s.map Char.toLower) = lowercaseFrom inWord s := by
  induction s generalizing inWord with
  | nil => rfl
  | cons c rest ih =>
    rw [List.map_cons, lowercaseFrom_cons, lowercaseFrom_cons, lowerAt_toLower,
      inWordAfter_toLower, ih]

theorem lowercaseChars_map_toLower (s : List Char) :
    lowercaseChars (s.map Char.toLower) = lowercaseChars s := lowercaseFrom_map_toLower false s

theorem toList_asciiLowercase (s : String) :
    (asciiLowercase s).toList = s.toList.map Char.toLower := String.toList_ofList

/-- Full lowercasing does not see the case of ASCII letters. -/
theorem lowercase_asciiLowercase (s : String) : lowercase (asciiLowercase s) = lowercase s := by
  rw [lowercase, lowercase, toList_asciiLowercase, lowercaseChars_map_toLower]

theorem asciiLowercase_eq_iff (s t : String) :
    asciiLowercase s = asciiLowercase t ↔ equalsIgnoringAsciiCase s t = true := by
  rw [asciiLowercase, asciiLowercase, String.ofList_inj, equalsIgnoringAsciiCase, beq_iff_eq]

theorem asciiLowercase_ne_iff (s t : String) :
    asciiLowercase s ≠ asciiLowercase t ↔ equalsIgnoringAsciiCase s t = false := by
  rw [Ne, asciiLowercase_eq_iff, Bool.not_eq_true]

theorem map_toLower_map_toLower (s : List Char) :
    (s.map Char.toLower).map Char.toLower = s.map Char.toLower := by
  rw [List.map_map]
  exact List.map_congr_left fun c _ => Char.toLower_toLower_eq_toLower c

theorem equalsIgnoringAsciiCase_asciiLowercase (s t : String) :
    equalsIgnoringAsciiCase (asciiLowercase s) t = equalsIgnoringAsciiCase s t := by
  rw [equalsIgnoringAsciiCase, equalsIgnoringAsciiCase, toList_asciiLowercase,
    map_toLower_map_toLower]

/-! What is cut by a test that a change of characters respects. -/

section Cutting

variable (f : Char → Char)

theorem trimChars_map (hf : ∀ c, isBlank (f c) = isBlank c) (s : List Char) :
    trimChars (s.map f) = (trimChars s).map f := by
  have hkept : isBlank ∘ f = isBlank := funext hf
  rw [trimChars, trimStart, List.dropWhile_map, hkept, trimEnd, ← List.map_reverse,
    List.dropWhile_map, hkept, ← List.map_reverse]
  rfl

variable (isSeparator : Char → Bool) (hf : ∀ c, isSeparator (f c) = isSeparator c)

include hf

theorem splitOnP_map (s : List Char) :
    (s.map f).splitOnP isSeparator = (s.splitOnP isSeparator).map (List.map f) := by
  induction s with
  | nil => simp
  | cons c rest ih =>
    rw [List.map_cons, List.splitOnP_cons_eq_if_modifyHead,
      List.splitOnP_cons_eq_if_modifyHead, hf, ih]
    split
    · rfl
    · cases rest.splitOnP isSeparator <;> rfl

theorem fields_map (s : List Char) :
    fields isSeparator (s.map f) = (fields isSeparator s).map (List.map f) := by
  rw [fields, fields, splitOnP_map f isSeparator hf, List.filter_map]
  congr 1
  apply List.filter_congr
  intro field _
  simp

end Cutting

theorem trim_asciiLowercase (s : String) : trim (asciiLowercase s) = asciiLowercase (trim s) := by
  rw [trim, toList_asciiLowercase, trimChars_map Char.toLower isBlank_toLower, asciiLowercase,
    toList_trim]

theorem isEmpty_asciiLowercase (s : String) : (asciiLowercase s).isEmpty = s.isEmpty := by
  rw [Bool.eq_iff_iff, String.isEmpty_iff, String.isEmpty_iff, ← String.toList_eq_nil_iff,
    ← String.toList_eq_nil_iff, toList_asciiLowercase, List.map_eq_nil_iff]

end Crawlability.Text
