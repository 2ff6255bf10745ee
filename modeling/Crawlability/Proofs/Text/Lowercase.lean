import Crawlability.Proofs.Text.Runs
import Crawlability.Proofs.Text.Trimming
import Mathlib

/-!
Lowercasing settles a text. A character is settled when it is its own lowercase form and no capital
sigma; the result of lowercasing holds settled characters only, and a text of settled characters is
left as it is, so lowercasing twice is lowercasing once. Blanks are neither made nor moved, hence a
trimmed text stays trimmed.
-/
namespace Crawlability.Text

open Lowercase

/-- The character stays as it is wherever it stands. -/
def Settled (c : Char) : Prop := lowerChar c = [c] ∧ c ≠ '\u03A3'

theorem isUpper_iff_toNat (c : Char) : c.isUpper = true ↔ 0x41 ≤ c.toNat ∧ c.toNat ≤ 0x5A := by
  simp [Char.isUpper, UInt32.le_iff_toNat_le, ← Char.toNat_val]

theorem not_isUpper_of_not_covered (c : Char) (h : ∀ r ∈ runs, r.covers c.toNat = false) :
    ¬ c.isUpper := by
  intro hupper
  have hcapitals : (⟨0x41, 0x5A, 1, 32⟩ : Run) ∈ runs := List.mem_cons_self ..
  have hcovers : (⟨0x41, 0x5A, 1, 32⟩ : Run).covers c.toNat = true := by
    rw [Run.covers_iff]
    have hrange := (isUpper_iff_toNat c).mp hupper
    exact ⟨hrange.1, hrange.2, Nat.mod_one _⟩
  rw [h _ hcapitals] at hcovers
  cases hcovers

/-- A character that no run covers is left alone, the dotted capital I apart. -/
theorem lowerChar_of_not_covered (c : Char) (h : ∀ r ∈ runs, r.covers c.toNat = false)
    (hdotted : c ≠ '\u0130') : lowerChar c = [c] := by
  unfold lowerChar
  split
  · rw [Char.toLower_eq_of_not_isUpper (not_isUpper_of_not_covered c h)]
  · have hnone : Run.image? runs c.toNat = none := by
      simpa [Run.image?] using h
    rw [lowerCode, hnone, Option.getD_none, Char.ofNat_toNat]

theorem isValidChar_image (r : Run) (n : Nat) (hr : r ∈ runs) (hn : r.covers n = true) :
    (r.image n).isValidChar := by
  obtain ⟨hfirst, hlast, _⟩ := (r.covers_iff n).mp hn
  have hpos := shift_nonneg r hr
  have hlow := r.image_of_le n hpos hfirst
  have hhigh := r.image_of_le r.last hpos (by omega)
  have hstay := List.all_eq_true.mp runs_stay r hr
  simp only [Run.staysInPlanes, Bool.and_eq_true, Nat.blt_eq] at hstay
  have hsurrogate : ¬ (0xD800 ≤ r.image n ∧ r.image n ≤ 0xDFFF) := by
    rintro ⟨hge, hle⟩
    have hcovers : (⟨0xD800, 0xDFFF, 1, 0⟩ : Run).covers (r.image n) = true :=
      (Run.covers_iff _ _).mpr ⟨hge, hle, Nat.mod_one _⟩
    rw [image_not_covered reservedRuns runs_avoid_reserved r _ n hr (List.mem_cons_self ..) hn]
      at hcovers
    cases hcovers
  unfold Nat.isValidChar
  omega

/-- The form that a run gives to a code point is settled and is no blank. -/
theorem settled_image (r : Run) (n : Nat) (hr : r ∈ runs) (hn : r.covers n = true) :
    Settled (Char.ofNat (r.image n)) ∧ isBlank (Char.ofNat (r.image n)) = false := by
  have hcode : (Char.ofNat (r.image n)).toNat = r.image n := by
    rw [Char.toNat_ofNat, if_pos (isValidChar_image r n hr hn)]
  have hruns : ∀ s ∈ runs, s.covers (Char.ofNat (r.image n)).toNat = false := by
    intro s hs
    rw [hcode]
    exact image_not_covered runs runs_avoid_runs r s n hr hs hn
  have hreserved : ∀ s ∈ reservedRuns, s.covers (Char.ofNat (r.image n)).toNat = false := by
    intro s hs
    rw [hcode]
    exact image_not_covered reservedRuns runs_avoid_reserved r s n hr hs hn
  refine ⟨⟨lowerChar_of_not_covered _ hruns ?_, ?_⟩, ?_⟩
  · intro heq
    rw [heq] at hreserved
    revert hreserved
    decide
  · intro heq
    rw [heq] at hreserved
    revert hreserved
    decide
  · rw [← Bool.not_eq_true, isBlank_iff]
    rintro ⟨b, hb, hcovers⟩
    rw [hcode, image_not_covered blankRuns runs_avoid_blanks r b n hr hb hn] at hcovers
    cases hcovers

theorem lowerChar_of_isUpper (c : Char) (h : c.isUpper = true) :
    (⟨0x41, 0x5A, 1, 32⟩ : Run).covers c.toNat = true ∧
      lowerChar c = [Char.ofNat ((⟨0x41, 0x5A, 1, 32⟩ : Run).image c.toNat)] := by
  have hrange := (isUpper_iff_toNat c).mp h
  have hascii : c.toNat < 0x80 := by omega
  have himage : (⟨0x41, 0x5A, 1, 32⟩ : Run).image c.toNat = c.toNat + 32 := by
    simp only [Run.image]
    omega
  refine ⟨(Run.covers_iff _ _).mpr ⟨hrange.1, hrange.2, Nat.mod_one _⟩, ?_⟩
  rw [lowerChar, if_pos hascii, Char.toLower_eq_of_isUpper h, himage]

/-- A character stays, is the dotted capital I, or moves along a run. -/
theorem lowerChar_cases (c : Char) : lowerChar c = [c] ∨ c = '\u0130' ∨
    ∃ r ∈ runs, r.covers c.toNat = true ∧ lowerChar c = [Char.ofNat (r.image c.toNat)] := by
  by_cases hascii : c.toNat < 0x80
  · by_cases hupper : c.isUpper = true
    · exact Or.inr (Or.inr ⟨_, List.mem_cons_self .., lowerChar_of_isUpper c hupper⟩)
    · left
      rw [lowerChar, if_pos hascii, Char.toLower_eq_of_not_isUpper hupper]
  · by_cases hdotted : c = '\u0130'
    · exact Or.inr (Or.inl hdotted)
    · cases hfind : runs.find? (fun r => r.covers c.toNat) with
      | none =>
        left
        apply lowerChar_of_not_covered c _ hdotted
        intro r hr
        simpa using List.find?_eq_none.mp hfind r hr
      | some r =>
        right
        right
        have hcovers : r.covers c.toNat = true := by simpa using List.find?_some hfind
        refine ⟨r, List.mem_of_find?_eq_some hfind, hcovers, ?_⟩
        rw [lowerChar, if_neg hascii, if_neg hdotted, lowerCode, Run.image?, hfind]
        rfl

/-- The forms that are not in the table: those of the dotted capital I and of the capital sigma. -/
theorem settled_special (x : Char) (h : x ∈ ['i', '\u0307', '\u03C2', '\u03C3']) :
    Settled x ∧ isBlank x = false := by
  simp only [List.mem_cons, List.not_mem_nil, or_false] at h
  rcases h with rfl | rfl | rfl | rfl <;>
    exact ⟨⟨by decide +kernel, by decide⟩, by decide⟩

/-- A character stays, or all that it becomes is settled and not blank. -/
theorem lowerChar_stays_or_settled (c : Char) :
    lowerChar c = [c] ∨ ∀ x ∈ lowerChar c, Settled x ∧ isBlank x = false := by
  rcases lowerChar_cases c with hsame | rfl | ⟨r, hr, hcovers, hmoved⟩
  · exact Or.inl hsame
  · right
    intro x hx
    have hparts : x = 'i' ∨ x = '\u0307' := by simpa [lowerChar] using hx
    apply settled_special
    rcases hparts with rfl | rfl <;> simp
  · right
    intro x hx
    rw [hmoved, List.mem_singleton] at hx
    rw [hx]
    exact settled_image r c.toNat hr hcovers

/-- What a character becomes before the rest of its text. -/
def lowerAt (inWord : Bool) (c : Char) (rest : List Char) : List Char :=
  if c = '\u03A3' then [if inWord && !startsCased rest then '\u03C2' else '\u03C3']
  else lowerChar c

/-- Whether the text up to and with this character ends in a cased one. -/
def inWordAfter (inWord : Bool) (c : Char) : Bool :=
  if isCaseIgnorable c then inWord else isCased c

theorem lowercaseFrom_cons (inWord : Bool) (c : Char) (rest : List Char) :
    lowercaseFrom inWord (c :: rest) =
      lowerAt inWord c rest ++ lowercaseFrom (inWordAfter inWord c) rest := rfl

theorem lowerAt_stays_or_settled (inWord : Bool) (c : Char) (rest : List Char) :
    (lowerAt inWord c rest = [c] ∧ Settled c) ∨
      ∀ x ∈ lowerAt inWord c rest, Settled x ∧ isBlank x = false := by
  by_cases hc : c = '\u03A3'
  · right
    intro x hx
    rw [lowerAt, if_pos hc, List.mem_singleton] at hx
    apply settled_special
    rw [hx]
    split <;> simp
  · rw [lowerAt, if_neg hc]
    rcases lowerChar_stays_or_settled c with hsame | hmoved
    · exact Or.inl ⟨hsame, hsame, hc⟩
    · exact Or.inr hmoved

theorem settled_of_mem_lowerAt (inWord : Bool) (c : Char) (rest : List Char) (x : Char)
    (h : x ∈ lowerAt inWord c rest) : Settled x := by
  rcases lowerAt_stays_or_settled inWord c rest with ⟨hsame, hc⟩ | hmoved
  · rw [hsame, List.mem_singleton] at h
    rw [h]
    exact hc
  · exact (hmoved x h).1

/-- A blank among what a character becomes is that character. -/
theorem eq_of_mem_lowerAt_of_isBlank (inWord : Bool) (c : Char) (rest : List Char) (x : Char)
    (h : x ∈ lowerAt inWord c rest) (hx : isBlank x = true) : x = c := by
  rcases lowerAt_stays_or_settled inWord c rest with ⟨hsame, _⟩ | hmoved
  · rwa [hsame, List.mem_singleton] at h
  · rw [(hmoved x h).2] at hx
    cases hx

theorem isBlank_eq_false_of_mem_lowerAt (inWord : Bool) (c : Char) (rest : List Char) (x : Char)
    (h : x ∈ lowerAt inWord c rest) (hc : isBlank c = false) : isBlank x = false := by
  rw [← Bool.not_eq_true]
  intro hblank
  rw [eq_of_mem_lowerAt_of_isBlank inWord c rest x h hblank, hc] at hblank
  cases hblank

theorem lowerAt_ne_nil (inWord : Bool) (c : Char) (rest : List Char) :
    lowerAt inWord c rest ≠ [] := by
  unfold lowerAt lowerChar
  split
  · simp
  · split
    · simp
    · split <;> simp

theorem settled_of_mem_lowercaseFrom (inWord : Bool) (s : List Char) (x : Char)
    (h : x ∈ lowercaseFrom inWord s) : Settled x := by
  induction s generalizing inWord with
  | nil => cases h
  | cons c rest ih =>
    rw [lowercaseFrom_cons] at h
    rcases List.mem_append.mp h with h | h
    · exact settled_of_mem_lowerAt inWord c rest x h
    · exact ih (inWordAfter inWord c) h

theorem lowercaseFrom_of_settled (inWord : Bool) (s : List Char) (h : ∀ c ∈ s, Settled c) :
    lowercaseFrom inWord s = s := by
  induction s generalizing inWord with
  | nil => rfl
  | cons c rest ih =>
    obtain ⟨hlower, hsigma⟩ := h c (List.mem_cons_self ..)
    have hrest := ih (inWordAfter inWord c) (fun x hx => h x (List.mem_cons_of_mem c hx))
    rw [lowercaseFrom_cons, hrest, lowerAt, if_neg hsigma, hlower, List.singleton_append]

theorem lowercaseChars_lowercaseChars (s : List Char) :
    lowercaseChars (lowercaseChars s) = lowercaseChars s :=
  lowercaseFrom_of_settled false _ (settled_of_mem_lowercaseFrom false s)

/-- A character that no other one becomes is only where the text has it. -/
theorem mem_of_mem_lowercaseFrom (x : Char)
    (hx : ∀ inWord c rest, x ∈ lowerAt inWord c rest → x = c) (inWord : Bool) (s : List Char)
    (h : x ∈ lowercaseFrom inWord s) : x ∈ s := by
  induction s generalizing inWord with
  | nil => cases h
  | cons c rest ih =>
    rw [lowercaseFrom_cons] at h
    rcases List.mem_append.mp h with h | h
    · rw [hx inWord c rest h]
      exact List.mem_cons_self ..
    · exact List.mem_cons_of_mem c (ih (inWordAfter inWord c) h)

/-- Lowercasing makes no blank that the text does not have. -/
theorem mem_of_mem_lowercaseFrom_of_isBlank (inWord : Bool) (s : List Char) (x : Char)
    (h : x ∈ lowercaseFrom inWord s) (hx : isBlank x = true) : x ∈ s := by
  apply mem_of_mem_lowercaseFrom x _ inWord s h
  intro inWord c rest hmem
  exact eq_of_mem_lowerAt_of_isBlank inWord c rest x hmem hx

theorem lowercaseFrom_ne_nil (inWord : Bool) (s : List Char) (h : s ≠ []) :
    lowercaseFrom inWord s ≠ [] := by
  obtain ⟨c, rest, rfl⟩ := List.exists_cons_of_ne_nil h
  rw [lowercaseFrom_cons]
  exact List.append_ne_nil_of_left_ne_nil (lowerAt_ne_nil inWord c rest) _

/-- The last character becomes the end of the result. -/
theorem lowercaseFrom_concat (inWord : Bool) (s : List Char) (c : Char) :
    ∃ init inWord', lowercaseFrom inWord (s ++ [c]) = init ++ lowerAt inWord' c [] := by
  induction s generalizing inWord with
  | nil => exact ⟨[], inWord, by simp [lowercaseFrom_cons, lowercaseFrom]⟩
  | cons d rest ih =>
    obtain ⟨init, inWord', hinit⟩ := ih (inWordAfter inWord d)
    refine ⟨lowerAt inWord d (rest ++ [c]) ++ init, inWord', ?_⟩
    rw [List.cons_append, lowercaseFrom_cons, hinit, List.append_assoc]

theorem hasTrimmedEnds_lowercaseChars (s : List Char) (h : HasTrimmedEnds s) :
    HasTrimmedEnds (lowercaseChars s) := by
  constructor
  · intro x hx
    cases s with
    | nil => cases hx
    | cons c rest =>
      have hmem : x ∈ lowerAt false c rest := by
        rw [lowercaseChars, lowercaseFrom_cons,
          List.head?_append_of_ne_nil _ (lowerAt_ne_nil _ _ _)] at hx
        exact List.mem_of_mem_head? hx
      exact isBlank_eq_false_of_mem_lowerAt false c rest x hmem (h.1 c rfl)
  · intro x hx
    obtain rfl | ⟨init, c, rfl⟩ := List.eq_nil_or_concat' s
    · cases hx
    · obtain ⟨out, inWord, hout⟩ := lowercaseFrom_concat false init c
      have hmem : x ∈ lowerAt inWord c [] := by
        rw [lowercaseChars, hout, List.getLast?_append_of_ne_nil _ (lowerAt_ne_nil _ _ _)] at hx
        exact List.mem_of_mem_getLast? hx
      exact isBlank_eq_false_of_mem_lowerAt inWord c [] x hmem (h.2 c (by simp))

theorem toList_lowercase (s : String) : (lowercase s).toList = lowercaseChars s.toList :=
  String.toList_ofList

theorem lowercase_lowercase (s : String) : lowercase (lowercase s) = lowercase s := by
  rw [← String.toList_inj, toList_lowercase, toList_lowercase, lowercaseChars_lowercaseChars]

end Crawlability.Text
