import Crawlability.Config.Basic
import Crawlability.Duration

/-!
How often a submission is tried again, and after which pauses: the first pause is given, and each
later one doubles the one before, up to a factor of 32 bits.
-/
namespace Crawlability.IndexNow

structure RetryPolicy where
  /-- Attempts after the first one. -/
  maxRetries : Nat := 4
  baseDelay : Duration := .ofSeconds 1
deriving Repr, DecidableEq

namespace RetryPolicy

def ofConfig (c : Config.IndexNow) : RetryPolicy where
  maxRetries := c.maxRetries
  baseDelay := .ofMillis c.baseDelayMs

/-- Two to the power of the attempt, or the largest number of 32 bits. -/
def factor (attempt : Nat) : Nat := if attempt < 32 then Nat.pow 2 attempt else Nat.pow 2 32 - 1

theorem factor_eq_min (attempt : Nat) :
    factor attempt = min (Nat.pow 2 attempt) (Nat.pow 2 32 - 1) := by
  unfold factor
  simp only [Nat.pow_eq]
  split
  · have := Nat.pow_lt_pow_right Nat.one_lt_two ‹attempt < 32›
    omega
  · have := Nat.pow_le_pow_right Nat.two_pos (Nat.le_of_not_lt ‹¬attempt < 32›)
    omega

/-- The pause before a retry; retries are counted from zero. -/
def delayFor (p : RetryPolicy) (attempt : Nat) : Duration := p.baseDelay.scale (factor attempt)

def delays (p : RetryPolicy) : List Duration := (List.range p.maxRetries).map p.delayFor

/-- The sum of all pauses that the policy can impose. -/
def totalBackoff (p : RetryPolicy) : Duration := .sum p.delays

end RetryPolicy

end Crawlability.IndexNow
