import Crawlability.Text.Blank
import Crawlability.Text.Lowercase
import Mathlib.Data.Nat.ModEq
import Mathlib.Tactic.Common

/-!
What the table of lowercase forms leaves alone. A Boolean test on two runs says that the first sends
nothing into the second; it is sound, and it holds for all pairs of the table. So the form that a
code point is sent to is itself sent nowhere. The same test, against runs that only stand for their
code points, shows that no form is a blank, a surrogate or one of the two capitals that are lowered
by a rule of their own.
-/
namespace Crawlability.Text

namespace Run

/-- The images of `r` end before `s`, begin behind it, or fall between its steps. Numbers are
compared by the functions that the kernel computes on numerals. -/
def avoids (r s : Run) : Bool :=
  Nat.blt (r.image r.last) s.first || Nat.blt s.last (r.image r.first) ||
    ((Nat.beq r.first r.last || Nat.beq (r.step % s.step) 0) &&
      !Nat.beq (r.image r.first % s.step) (s.first % s.step))

/-- No code point of the run is sent below zero or beyond the last plane. -/
def staysInPlanes (r : Run) : Bool :=
  decide (0 ≤ (r.first : Int) + r.shift) && Nat.blt (r.image r.last) 0x110000

theorem covers_iff (r : Run) (n : Nat) :
    r.covers n = true ↔ r.first ≤ n ∧ n ≤ r.last ∧ (n - r.first) % r.step = 0 := by
  simp [covers, and_assoc]

theorem image_of_le (r : Run) (n : Nat) (hpos : 0 ≤ (r.first : Int) + r.shift) (hn : r.first ≤ n) :
    r.image n = r.image r.first + (n - r.first) := by
  unfold image
  omega

theorem image_mod (r : Run) (m n : Nat) (hpos : 0 ≤ (r.first : Int) + r.shift)
    (hn : r.covers n = true) (hstep : r.first = r.last ∨ r.step % m = 0) :
    r.image n % m = r.image r.first % m := by
  obtain ⟨hfirst, hlast, hmod⟩ := (r.covers_iff n).mp hn
  rw [r.image_of_le n hpos hfirst]
  rcases hstep with hsingle | hstep
  · have hzero : n - r.first = 0 := by omega
    rw [hzero, Nat.add_zero]
  · have hdvd : m ∣ n - r.first :=
      (Nat.dvd_of_mod_eq_zero hstep).trans (Nat.dvd_of_mod_eq_zero hmod)
    obtain ⟨k, hk⟩ := hdvd
    rw [hk, Nat.add_mul_mod_self_left]

/-- The test is sound: a run sends no code point into a run that it avoids. -/
theorem covers_image_eq_false (r s : Run) (n : Nat) (hpos : 0 ≤ (r.first : Int) + r.shift)
    (h : r.avoids s = true) (hn : r.covers n = true) : s.covers (r.image n) = false := by
  obtain ⟨hfirst, hlast, hmod⟩ := (r.covers_iff n).mp hn
  have hlow : r.image n = r.image r.first + (n - r.first) := r.image_of_le n hpos hfirst
  have hhigh : r.image r.last = r.image r.first + (r.last - r.first) :=
    r.image_of_le r.last hpos (by omega)
  rw [← Bool.not_eq_true, covers_iff]
  rintro ⟨hs, hs', hsmod⟩
  simp only [avoids, Bool.or_eq_true, Bool.and_eq_true, Nat.blt_eq, Nat.beq_eq,
    Bool.not_eq_true', ← Bool.not_eq_true] at h
  rcases h with (hbefore | hbehind) | ⟨hstep, hphase⟩
  · omega
  · omega
  · -- In step with `s`, the image would have the phase of `s`.
    apply hphase
    obtain ⟨k, hk⟩ := Nat.dvd_of_mod_eq_zero hsmod
    have heq : r.image n = s.first + s.step * k := by omega
    rw [← r.image_mod s.step n hpos hn hstep, heq, Nat.add_mul_mod_self_left]

end Run

namespace Lowercase

/-- The blanks, as runs that send each code point to itself. -/
def blankRuns : List Run := [
  ⟨0x9, 0xD, 1, 0⟩, ⟨0x20, 0x20, 1, 0⟩, ⟨0x85, 0x85, 1, 0⟩, ⟨0xA0, 0xA0, 1, 0⟩,
  ⟨0x1680, 0x1680, 1, 0⟩, ⟨0x2000, 0x200A, 1, 0⟩, ⟨0x2028, 0x2029, 1, 0⟩, ⟨0x202F, 0x202F, 1, 0⟩,
  ⟨0x205F, 0x205F, 1, 0⟩, ⟨0x3000, 0x3000, 1, 0⟩]

/-- Surrogates, the dotted capital I and the capital sigma, in the same form. -/
def reservedRuns : List Run := [
  ⟨0xD800, 0xDFFF, 1, 0⟩, ⟨0x130, 0x130, 1, 0⟩, ⟨0x3A3, 0x3A3, 1, 0⟩]

theorem isBlank_iff (c : Char) : isBlank c = true ↔ ∃ b ∈ blankRuns, b.covers c.toNat = true := by
  simp [isBlank, blankRuns, Run.covers_iff, Nat.mod_one]
  omega

theorem runs_stay : (runs.all Run.staysInPlanes) = true := by decide +kernel

theorem runs_avoid_runs : (runs.all fun r => runs.all r.avoids) = true := by decide +kernel

theorem runs_avoid_blanks : (runs.all fun r => blankRuns.all r.avoids) = true := by decide +kernel

theorem runs_avoid_reserved : (runs.all fun r => reservedRuns.all r.avoids) = true := by
  decide +kernel

theorem shift_nonneg (r : Run) (hr : r ∈ runs) : 0 ≤ (r.first : Int) + r.shift := by
  have h := List.all_eq_true.mp runs_stay r hr
  simp only [Run.staysInPlanes, Bool.and_eq_true, decide_eq_true_eq] at h
  exact h.1

theorem image_not_covered (table : List Run) (h : (runs.all fun r => table.all r.avoids) = true)
    (r s : Run) (n : Nat) (hr : r ∈ runs) (hs : s ∈ table) (hn : r.covers n = true) :
    s.covers (r.image n) = false := by
  have havoids := List.all_eq_true.mp (List.all_eq_true.mp h r hr) s hs
  exact r.covers_image_eq_false s n (shift_nonneg r hr) havoids hn

end Lowercase

end Crawlability.Text
