import Crawlability.Proofs.Text.Ascii
import Mathlib

/-!
Words in lowercase. Whatever has a lowercase form other than itself is a character of a word, so
lowercasing leaves the marks between words alone, and a word that ends before a text also ends
before the lowered one.
-/
namespace Crawlability.Text

open Lowercase

namespace Run

/-- The code points that the run moves. -/
def codes (r : Run) : List Nat := List.range' r.first ((r.last - r.first) / r.step + 1) r.step

/-- One interval of the table holds the whole run, or else every code point of it is in some
interval. Few runs need the second test, which takes longer. -/
def isWithin (table : List Range) (r : Run) : Bool :=
  (table.any fun s => Nat.ble s.first r.first && Nat.ble r.last s.last) ||
    r.codes.all fun n => table.any fun s => Nat.ble s.first n && Nat.ble n s.last

theorem mem_codes (r : Run) (n : Nat) (h : r.covers n = true) : n ∈ r.codes := by
  obtain ⟨hfirst, hlast, hmod⟩ := (r.covers_iff n).mp h
  have hsteps : (n - r.first) / r.step ≤ (r.last - r.first) / r.step :=
    Nat.div_le_div_right (by omega)
  have hn := Nat.mul_div_cancel' (Nat.dvd_of_mod_eq_zero hmod)
  rw [codes, List.mem_range']
  exact ⟨(n - r.first) / r.step, by omega, by omega⟩

/-- The test is sound: each code point that the run moves is in the table. -/
theorem exists_contains_of_isWithin (table : List Range) (r : Run) (n : Nat)
    (h : r.isWithin table = true) (hn : r.covers n = true) :
    ∃ s ∈ table, s.contains n = true := by
  rw [isWithin, Bool.or_eq_true] at h
  rcases h with hwhole | heach
  · obtain ⟨s, hs, hends⟩ := List.any_eq_true.mp hwhole
    obtain ⟨hfirst, hlast, -⟩ := (r.covers_iff n).mp hn
    simp only [Bool.and_eq_true, Nat.ble_eq] at hends
    refine ⟨s, hs, ?_⟩
    simp only [Range.contains, Bool.and_eq_true, decide_eq_true_eq]
    omega
  · obtain ⟨s, hs, hends⟩ := List.any_eq_true.mp (List.all_eq_true.mp heach n (r.mem_codes n hn))
    simp only [Bool.and_eq_true, Nat.ble_eq] at hends
    refine ⟨s, hs, ?_⟩
    simpa only [Range.contains, Bool.and_eq_true, decide_eq_true_eq] using hends

end Run

theorem runs_within_words : (runs.all (Run.isWithin Word.ranges)) = true := by decide +kernel

theorem isWordChar_of_covered (r : Run) (c : Char) (hr : r ∈ runs) (hc : r.covers c.toNat = true)
    (hascii : ¬ c.toNat < 0x80) : isWordChar c = true := by
  have hwithin := List.all_eq_true.mp runs_within_words r hr
  obtain ⟨s, hs, hcontains⟩ := r.exists_contains_of_isWithin Word.ranges c.toNat hwithin hc
  rw [isWordChar, if_neg hascii, Range.anyContains, List.any_eq_true]
  exact ⟨s, hs, hcontains⟩

/-- What is no character of a word stays as it is. -/
theorem lowerAt_of_not_isWordChar (inWord : Bool) (c : Char) (rest : List Char)
    (h : isWordChar c = false) : lowerAt inWord c rest = [c] := by
  by_cases hascii : c.toNat < 0x80
  · have hupper : ¬ c.isUpper = true := by
      intro hupper
      have hword := isWordChar_of_isAlphanum c (by simp [Char.isAlphanum, Char.isAlpha, hupper])
      rw [h] at hword
      cases hword
    rw [lowerAt_of_ascii inWord c rest hascii, Char.toLower_eq_of_not_isUpper hupper]
  · have hsigma : c ≠ '\u03A3' := by
      rintro rfl
      exact absurd h (by decide +kernel)
    rw [lowerAt, if_neg hsigma]
    rcases lowerChar_cases c with hsame | rfl | ⟨r, hr, hcovers, -⟩
    · exact hsame
    · exact absurd h (by decide +kernel)
    · rw [isWordChar_of_covered r c hr hcovers hascii] at h
      cases h

theorem endsWord_lowercaseFrom (inWord : Bool) (s : List Char) (h : endsWord s = true) :
    endsWord (lowercaseFrom inWord s) = true := by
  cases s with
  | nil => rfl
  | cons c rest =>
    rw [endsWord, Bool.not_eq_true'] at h
    rw [lowercaseFrom_cons, lowerAt_of_not_isWordChar inWord c rest h, List.singleton_append,
      endsWord, h, Bool.not_false]

end Crawlability.Text
