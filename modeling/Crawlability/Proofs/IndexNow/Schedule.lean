import Crawlability.Proofs.Config.Credentials
import Crawlability.Proofs.IndexNow.Backoff
import Mathlib.Algebra.BigOperators.Ring.List
import Mathlib.Algebra.Ring.Nat

/-!
The pauses of a policy in exact numbers. A span is multiplied and added in two fields, seconds and
the nanoseconds below one, with a carry between them and a limit on the first; in whole nanoseconds
that is the exact product or sum, cut at the longest span. So the limits of the factor, of the
products and of their sum come to one limit each time: a pause is the base times a power of two as
far as there is such a span, and all pauses together are the base times one less than the next
power. A policy that keeps to the bounds of a configuration never meets the limit.
-/
namespace Crawlability

namespace Duration

/-- The whole seconds and the nanoseconds beyond them. -/
def fields (d : Duration) : Nat × Nat := (d.seconds, d.subsecond)

/-- Whole seconds among the nanoseconds are carried over to the seconds, which have 64 bits. -/
def carry? (seconds nanos : Nat) : Option (Nat × Nat) :=
  let total := seconds + nanos / nanosPerSecond
  if total < 2 ^ 64 then some (total, nanos % nanosPerSecond) else none

/-- The fields of the longest span. -/
def maxFields : Nat × Nat := (2 ^ 64 - 1, nanosPerSecond - 1)

theorem nanosPerSecond_eq : nanosPerSecond = 1000000000 := rfl

theorem maxNanos_eq : maxNanos = 18446744073709551615999999999 := rfl

theorem fields_ofNanos (seconds nanos : Nat) :
    (ofNanos (nanosPerSecond * seconds + nanos)).fields =
      (carry? seconds nanos).getD maxFields := by
  unfold fields Duration.seconds subsecond carry? maxFields
  dsimp only
  rw [nanos_ofNanos, maxNanos_eq]
  split
  · rename_i hfits
    rw [nanosPerSecond_eq] at hfits ⊢
    have hbelow : 1000000000 * seconds + nanos ≤ 18446744073709551615999999999 := by omega
    rw [Nat.min_eq_left hbelow, Option.getD_some, Prod.mk.injEq]
    omega
  · rename_i hfits
    rw [nanosPerSecond_eq] at hfits ⊢
    have hbeyond : 18446744073709551615999999999 ≤ 1000000000 * seconds + nanos := by omega
    rw [Nat.min_eq_right hbeyond, Option.getD_none]
    rfl

/-- Spans are multiplied field by field. -/
theorem fields_scale (d : Duration) (factor : Nat) : (d.scale factor).fields =
    (carry? (d.seconds * factor) (d.subsecond * factor)).getD maxFields := by
  have hproduct : nanosPerSecond * (d.seconds * factor) + d.subsecond * factor =
      d.nanos * factor := by
    rw [← Nat.mul_assoc, ← Nat.add_mul, d.seconds_add_subsecond]
  rw [← fields_ofNanos, hproduct, scale]

/-- Spans are added field by field. -/
theorem fields_add (d e : Duration) : (d.add e).fields =
    (carry? (d.seconds + e.seconds) (d.subsecond + e.subsecond)).getD maxFields := by
  have hsum : nanosPerSecond * (d.seconds + e.seconds) + (d.subsecond + e.subsecond) =
      d.nanos + e.nanos := by
    have hd := d.seconds_add_subsecond
    have he := e.seconds_add_subsecond
    rw [Nat.mul_add]
    omega
  rw [← fields_ofNanos, hsum, add]

/-- Numbers that are cut before they are added up give the same once the sum is cut. -/
theorem min_sum_map_min (bound : Nat) (ns : List Nat) :
    min (ns.map (min bound ·)).sum bound = min ns.sum bound := by
  induction ns with
  | nil => rfl
  | cons n ns ih =>
    rw [List.map_cons, List.sum_cons, List.sum_cons]
    omega

end Duration

namespace Config

theorem maxRetries_le_of_check (c : Config) (h : c.check = .ok ()) :
    c.indexNow.maxRetries ≤ 10 := by
  unfold check at h
  split at h
  · cases h
  · split at h
    · cases h
    · rename_i hindexNow
      unfold IndexNow.check at hindexNow
      split at hindexNow
      · cases hindexNow
      · split at hindexNow
        · cases hindexNow
        · omega

end Config

namespace IndexNow.RetryPolicy

theorem factor_of_lt (attempt : Nat) (h : attempt < 32) : factor attempt = 2 ^ attempt := by
  rw [factor, if_pos h, Nat.pow_eq]

theorem factor_mono (i j : Nat) (h : i ≤ j) : factor i ≤ factor j := by
  have hpow : 2 ^ i ≤ 2 ^ j := Nat.pow_le_pow_right Nat.two_pos h
  rw [factor_eq_min, factor_eq_min, Nat.pow_eq, Nat.pow_eq, Nat.pow_eq]
  exact min_le_min_right _ hpow

theorem sum_map_pow_range (n : Nat) : ((List.range n).map (2 ^ ·)).sum = 2 ^ n - 1 := by
  induction n with
  | zero => rfl
  | succ n ih =>
    have hpos : 0 < 2 ^ n := Nat.two_pow_pos n
    rw [List.range_succ, List.map_append, List.sum_append, ih, List.map_singleton,
      List.sum_singleton, Nat.pow_succ]
    omega

section Policy

variable (p : RetryPolicy)

theorem nanos_delayFor (attempt : Nat) : (p.delayFor attempt).nanos =
    min Duration.maxNanos (p.baseDelay.nanos * min (2 ^ attempt) (2 ^ 32 - 1)) := by
  rw [delayFor, Duration.nanos_scale, factor_eq_min, Nat.pow_eq, Nat.pow_eq, Nat.min_comm]

theorem fields_delayFor (attempt : Nat) : (p.delayFor attempt).fields =
    (Duration.carry? (p.baseDelay.seconds * min (2 ^ attempt) (2 ^ 32 - 1))
      (p.baseDelay.subsecond * min (2 ^ attempt) (2 ^ 32 - 1))).getD Duration.maxFields := by
  rw [delayFor, factor_eq_min, Duration.fields_scale, Nat.pow_eq, Nat.pow_eq]

theorem nanos_delayFor_of_lt (attempt : Nat) (h : attempt < 32) : (p.delayFor attempt).nanos =
    min Duration.maxNanos (p.baseDelay.nanos * 2 ^ attempt) := by
  rw [delayFor, Duration.nanos_scale, factor_of_lt attempt h, Nat.min_comm]

theorem nanos_delayFor_mono (i j : Nat) (h : i ≤ j) :
    (p.delayFor i).nanos ≤ (p.delayFor j).nanos := by
  have hproduct := Nat.mul_le_mul_left p.baseDelay.nanos (factor_mono i j h)
  rw [delayFor, delayFor, Duration.nanos_scale, Duration.nanos_scale]
  omega

/-- As long as the factor is a power of two, the next pause is twice as long, or the longest. -/
theorem nanos_delayFor_succ (attempt : Nat) (h : attempt ≤ 30) :
    (p.delayFor (attempt + 1)).nanos =
      min Duration.maxNanos (2 * (p.delayFor attempt).nanos) := by
  have hdouble : p.baseDelay.nanos * 2 ^ (attempt + 1) =
      2 * (p.baseDelay.nanos * 2 ^ attempt) := by
    rw [Nat.pow_succ, ← Nat.mul_assoc, Nat.mul_comm]
  rw [p.nanos_delayFor_of_lt (attempt + 1) (by omega), p.nanos_delayFor_of_lt attempt (by omega),
    hdouble]
  omega

theorem nanos_totalBackoff : p.totalBackoff.nanos = min Duration.maxNanos
    ((List.range p.maxRetries).map fun attempt => (p.delayFor attempt).nanos).sum := by
  rw [totalBackoff, Duration.nanos_sum, delays, List.map_map, Nat.min_comm]
  rfl

/-- Up to 32 retries, all pauses together are one base less than the next pause would be. -/
theorem nanos_totalBackoff_of_le (h : p.maxRetries ≤ 32) : p.totalBackoff.nanos =
    min Duration.maxNanos (p.baseDelay.nanos * (2 ^ p.maxRetries - 1)) := by
  have hdelays : ((List.range p.maxRetries).map fun attempt => (p.delayFor attempt).nanos) =
      ((List.range p.maxRetries).map fun attempt => p.baseDelay.nanos * 2 ^ attempt).map
        (min Duration.maxNanos ·) := by
    rw [List.map_map]
    apply List.map_congr_left
    intro attempt hattempt
    have hlt := List.mem_range.mp hattempt
    exact p.nanos_delayFor_of_lt attempt (by omega)
  calc
    p.totalBackoff.nanos = min Duration.maxNanos
        ((List.range p.maxRetries).map fun attempt => p.baseDelay.nanos * 2 ^ attempt).sum := by
      rw [nanos_totalBackoff, hdelays, Nat.min_comm, Duration.min_sum_map_min, Nat.min_comm]
    _ = min Duration.maxNanos (p.baseDelay.nanos * (2 ^ p.maxRetries - 1)) := by
      rw [List.sum_map_mul_left, sum_map_pow_range]

end Policy

/-! Policies that a configuration gives. -/

/-- Ten retries are too few for a base of 64 bits of milliseconds to reach the longest span. -/
theorem nanos_delayFor_ofConfig (c : Config.IndexNow) (hretries : c.maxRetries ≤ 10)
    (hbase : c.baseDelayMs < 2 ^ 64) (attempt : Nat) (h : attempt < c.maxRetries) :
    ((ofConfig c).delayFor attempt).nanos = c.baseDelayMs * 1000000 * 2 ^ attempt := by
  have hfactor : 2 ^ attempt ≤ 2 ^ 9 := Nat.pow_le_pow_right Nat.two_pos (by omega)
  have hproduct : c.baseDelayMs * 1000000 * 2 ^ attempt ≤ c.baseDelayMs * 1000000 * 2 ^ 9 :=
    Nat.mul_le_mul_left _ hfactor
  have hmillis : (ofConfig c).baseDelay.nanos = c.baseDelayMs * 1000000 := by
    rw [ofConfig, Duration.ofMillis, Duration.nanos_ofNanos, Duration.maxNanos_eq]
    omega
  rw [nanos_delayFor_of_lt _ attempt (by omega), hmillis, Duration.maxNanos_eq]
  omega

/-- A pause is the base times a power of two, or times the largest number of 32 bits, and all pauses
together are their sum, as far as there is such a span. Multiplying and adding the fields of spans
with a carry comes to the same. Pauses do not get shorter, and each is twice the one before until a
limit is met; a configuration that keeps to its bounds meets none. -/
theorem delayFor_exact (p : RetryPolicy) :
    (∀ attempt, (p.delayFor attempt).nanos =
      min Duration.maxNanos (p.baseDelay.nanos * min (2 ^ attempt) (2 ^ 32 - 1))) ∧
    (∀ i j, i ≤ j → (p.delayFor i).nanos ≤ (p.delayFor j).nanos) ∧
    (∀ attempt ≤ 30, (p.delayFor (attempt + 1)).nanos =
      min Duration.maxNanos (2 * (p.delayFor attempt).nanos)) ∧
    p.totalBackoff.nanos = min Duration.maxNanos
      ((List.range p.maxRetries).map fun attempt => (p.delayFor attempt).nanos).sum ∧
    (p.maxRetries ≤ 32 → p.totalBackoff.nanos =
      min Duration.maxNanos (p.baseDelay.nanos * (2 ^ p.maxRetries - 1))) ∧
    (∀ attempt, (p.delayFor attempt).fields =
      (Duration.carry? (p.baseDelay.seconds * min (2 ^ attempt) (2 ^ 32 - 1))
        (p.baseDelay.subsecond * min (2 ^ attempt) (2 ^ 32 - 1))).getD Duration.maxFields) ∧
    (∀ d e : Duration, (d.add e).fields =
      (Duration.carry? (d.seconds + e.seconds) (d.subsecond + e.subsecond)).getD
        Duration.maxFields) ∧
    ∀ c : Config, c.check = .ok () → c.indexNow.baseDelayMs < 2 ^ 64 →
      ∀ attempt < c.indexNow.maxRetries, ((ofConfig c.indexNow).delayFor attempt).nanos =
        c.indexNow.baseDelayMs * 1000000 * 2 ^ attempt := by
  refine ⟨p.nanos_delayFor, p.nanos_delayFor_mono, p.nanos_delayFor_succ, p.nanos_totalBackoff,
    p.nanos_totalBackoff_of_le, p.fields_delayFor, Duration.fields_add, ?_⟩
  intro c hcheck hbase attempt hattempt
  have hretries := c.maxRetries_le_of_check hcheck
  exact nanos_delayFor_ofConfig c.indexNow hretries hbase attempt hattempt

/-- A base of a quarter of the longest span is doubled once, and then the limit is met. -/
theorem delayFor_exact_of_long_base :
    let p : RetryPolicy := ⟨4, .ofSeconds (2 ^ 62)⟩
    (p.delayFor 0).nanos ≤ (p.delayFor 1).nanos ∧
      (p.delayFor 1).nanos = 2 * (p.delayFor 0).nanos ∧
      (p.delayFor 2).nanos = Duration.maxNanos ∧ p.totalBackoff.nanos = Duration.maxNanos ∧
      ((ofConfig ({} : Config).indexNow).delayFor 3).nanos = 8000000000 := by
  intro p
  obtain ⟨hpause, hmono, hdouble, -, htotal, -, -, hconfig⟩ := p.delayFor_exact
  refine ⟨hmono 0 1 (by decide), ?_, ?_, ?_, ?_⟩
  · rw [hdouble 0 (by decide), hpause 0]
    decide
  · rw [hdouble 1 (by decide), hpause 1]
    decide
  · rw [htotal (by decide)]
    decide
  · rw [hconfig {} Config.check_default (by decide) 3 (by decide)]
    rfl

end IndexNow.RetryPolicy

end Crawlability
