import Crawlability.Proofs.Text.Lowercase
import Crawlability.Text.Word
import Mathlib

/-!
ASCII letters and digits among all characters. They make up words, and blanks do not. Lowercasing
sends nothing from outside ASCII to an ASCII character, except that the Kelvin sign becomes a k; so
a text is lowered to a word of ASCII without a k only if it is that word up to the case of ASCII
letters.
-/
namespace Crawlability.Text

open Lowercase

/-- What holds of each of the first 128 characters holds of every character of ASCII. -/
theorem forall_of_ascii (P : Char → Prop) (h : ∀ n < 0x80, P (Char.ofNat n)) (c : Char)
    (hc : c.toNat < 0x80) : P c := by
  have hchar := h c.toNat hc
  rwa [Char.ofNat_toNat] at hchar

theorem toNat_lt_of_isAlpha (c : Char) (h : c.isAlpha = true) : c.toNat < 0x80 := by
  simp only [Char.isAlpha, Char.isUpper, Char.isLower, Bool.or_eq_true, Bool.and_eq_true,
    decide_eq_true_eq, UInt32.le_iff_toNat_le, ge_iff_le] at h
  change (65 ≤ c.toNat ∧ c.toNat ≤ 90) ∨ (97 ≤ c.toNat ∧ c.toNat ≤ 122) at h
  omega

theorem toNat_lt_of_isAlphanum (c : Char) (h : c.isAlphanum = true) : c.toNat < 0x80 := by
  rw [Char.isAlphanum, Bool.or_eq_true] at h
  rcases h with halpha | hdigit
  · exact toNat_lt_of_isAlpha c halpha
  · have hrange := (Char.isDigit_iff_toNat.mp hdigit).2
    exact Nat.lt_of_le_of_lt hrange (by decide)

theorem isWordChar_of_isAlphanum (c : Char) (h : c.isAlphanum = true) : isWordChar c = true := by
  simp [isWordChar, toNat_lt_of_isAlphanum c h, h]

/-- Lowering a letter of ASCII does not leave ASCII, and only ASCII letters are lowered so. -/
theorem toNat_lt_of_toLower (c : Char) (h : c.toLower.toNat < 0x80) : c.toNat < 0x80 := by
  by_cases hupper : c.isUpper = true
  · have hrange := (isUpper_iff_toNat c).mp hupper
    omega
  · rwa [Char.toLower_eq_of_not_isUpper hupper] at h

theorem toLower_of_isLower (c : Char) (h : c.isLower = true) : c.toLower = c := by
  apply Char.toLower_eq_of_not_isUpper
  intro hupper
  have hcapital := (isUpper_iff_toNat c).mp hupper
  simp only [Char.isLower, Bool.and_eq_true, decide_eq_true_eq, ge_iff_le,
    UInt32.le_iff_toNat_le] at h
  change 97 ≤ c.toNat ∧ c.toNat ≤ 122 at h
  omega

/-- The character of a blank code point is none of a word. -/
theorem isWordChar_eq_false_of_isBlank (c : Char) (h : isBlank c = true) :
    isWordChar c = false := by
  have hcodes : c.toNat ∈ blankRuns.flatMap fun r => List.range' r.first (r.last - r.first + 1) := by
    obtain ⟨b, hb, hcovers⟩ := (isBlank_iff c).mp h
    obtain ⟨hfirst, hlast, -⟩ := (b.covers_iff _).mp hcovers
    rw [List.mem_flatMap]
    refine ⟨b, hb, ?_⟩
    rw [List.mem_range'_1]
    omega
  have hnone : ((blankRuns.flatMap fun r => List.range' r.first (r.last - r.first + 1)).all
      fun n => !isWordChar (Char.ofNat n)) = true := by decide +kernel
  have hchar := List.all_eq_true.mp hnone c.toNat hcodes
  rwa [Char.ofNat_toNat, Bool.not_eq_true'] at hchar

/-- The code points of ASCII but for the small k, as runs that send each to itself. -/
def asciiRuns : List Run := [⟨0x0, 0x6A, 1, 0⟩, ⟨0x6C, 0x7F, 1, 0⟩]

theorem later_runs_avoid_ascii : (runs.tail.all fun r => asciiRuns.all r.avoids) = true := by
  decide +kernel

/-- From outside ASCII, a run leads to the small k at most. -/
theorem image_of_not_ascii (r : Run) (n : Nat) (hr : r ∈ runs) (hcovers : r.covers n = true)
    (hn : 0x80 ≤ n) : 0x80 ≤ r.image n ∨ r.image n = 0x6B := by
  have hruns : runs = ⟨0x41, 0x5A, 1, 32⟩ :: runs.tail := rfl
  rw [hruns, List.mem_cons] at hr
  rcases hr with rfl | htail
  · have hlast : n ≤ 0x5A := ((Run.covers_iff _ _).mp hcovers).2.1
    omega
  · have hpos := shift_nonneg r (List.mem_of_mem_tail htail)
    have havoids := List.all_eq_true.mp later_runs_avoid_ascii r htail
    have hfree : ∀ s ∈ asciiRuns, s.covers (r.image n) = false := by
      intro s hs
      exact r.covers_image_eq_false s n hpos (List.all_eq_true.mp havoids s hs) hcovers
    have hlow := hfree ⟨0x0, 0x6A, 1, 0⟩ (by decide)
    have hhigh := hfree ⟨0x6C, 0x7F, 1, 0⟩ (by decide)
    simp only [← Bool.not_eq_true, Run.covers_iff, Nat.mod_one, and_true] at hlow hhigh
    omega

/-- The character is of ASCII and is not the small k, the one that the Kelvin sign becomes. -/
def IsPlain (c : Char) : Prop := c.toNat < 0x80 ∧ c ≠ 'k'

instance : DecidablePred IsPlain := fun c => inferInstanceAs (Decidable (c.toNat < 0x80 ∧ c ≠ 'k'))

/-- A character whose form holds plain characters only is of ASCII. -/
theorem lowerAt_eq_of_isPlain (inWord : Bool) (c : Char) (rest : List Char)
    (h : ∀ x ∈ lowerAt inWord c rest, IsPlain x) : lowerAt inWord c rest = [c.toLower] := by
  have hsigma : c ≠ '\u03A3' := by
    rintro rfl
    rw [lowerAt, if_pos rfl] at h
    have hplain := (h _ (List.mem_singleton_self _)).1
    split at hplain
    · exact absurd hplain (by decide)
    · exact absurd hplain (by decide)
  rw [lowerAt, if_neg hsigma] at h ⊢
  by_cases hascii : c.toNat < 0x80
  · rw [lowerChar, if_pos hascii]
  · rcases lowerChar_cases c with hsame | rfl | ⟨r, hr, hcovers, hmoved⟩
    · rw [hsame] at h
      exact absurd (h c (List.mem_singleton_self c)).1 hascii
    · have hdot : '\u0307' ∈ lowerChar '\u0130' := by decide
      exact absurd (h _ hdot).1 (by decide)
    · rw [hmoved] at h
      obtain ⟨hlow, hk⟩ := h _ (List.mem_singleton_self _)
      have hcode : (Char.ofNat (r.image c.toNat)).toNat = r.image c.toNat := by
        rw [Char.toNat_ofNat, if_pos (isValidChar_image r c.toNat hr hcovers)]
      rw [hcode] at hlow
      rcases image_of_not_ascii r c.toNat hr hcovers (Nat.not_lt.mp hascii) with hhigh | hcodeK
      · omega
      · rw [hcodeK] at hk
        exact absurd rfl hk

theorem lowerAt_of_ascii (inWord : Bool) (c : Char) (rest : List Char) (h : c.toNat < 0x80) :
    lowerAt inWord c rest = [c.toLower] := by
  have hsigma : c ≠ '\u03A3' := by
    rintro rfl
    exact absurd h (by decide)
  rw [lowerAt, if_neg hsigma, lowerChar, if_pos h]

theorem lowerAt_of_toLower_isPlain (inWord : Bool) (c : Char) (rest : List Char)
    (h : IsPlain c.toLower) : lowerAt inWord c rest = [c.toLower] :=
  lowerAt_of_ascii inWord c rest (toNat_lt_of_toLower c h.1)

theorem lowercaseFrom_eq_iff (inWord : Bool) (s t : List Char) (ht : ∀ c ∈ t, IsPlain c) :
    lowercaseFrom inWord s = t ↔ s.map Char.toLower = t := by
  induction s generalizing inWord t with
  | nil => rfl
  | cons c s ih =>
    rw [lowercaseFrom_cons, List.map_cons]
    constructor
    · rintro rfl
      have hhead := lowerAt_eq_of_isPlain inWord c s
        (fun x hx => ht x (List.mem_append_left _ hx))
      have htail := (ih (inWordAfter inWord c) _
        (fun x hx => ht x (List.mem_append_right _ hx))).mp rfl
      rw [hhead, htail, List.singleton_append]
    · rintro rfl
      have hhead := lowerAt_of_toLower_isPlain inWord c s (ht _ (List.mem_cons_self ..))
      have htail := (ih (inWordAfter inWord c) _
        (fun x hx => ht x (List.mem_cons_of_mem _ hx))).mpr rfl
      rw [hhead, htail, List.singleton_append]

/-- Lowered, a text is a given plain word exactly if it is that word up to ASCII case. -/
theorem lowercase_eq_iff (s word : String) (hword : ∀ c ∈ word.toList, IsPlain c)
    (hlower : word.toList.map Char.toLower = word.toList) :
    lowercase s = word ↔ equalsIgnoringAsciiCase s word = true := by
  rw [← String.toList_inj, toList_lowercase, lowercaseChars, lowercaseFrom_eq_iff _ _ _ hword,
    equalsIgnoringAsciiCase, hlower, beq_iff_eq]

end Crawlability.Text
