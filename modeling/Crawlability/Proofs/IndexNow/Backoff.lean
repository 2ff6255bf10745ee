import Crawlability.IndexNow.Retry
import Mathlib.Algebra.Order.BigOperators.Group.List
import Mathlib.Algebra.Order.Group.Nat
import Mathlib.Algebra.GroupWithZero.Nat

/-!
The pauses of a policy, added up. A sum of spans is the sum of their nanoseconds, so far as there is
such a span, and it does not shrink when more spans are added.
-/
namespace Crawlability

namespace Duration

theorem nanos_foldl_add (ds : List Duration) (d : Duration) :
    (ds.foldl add d).nanos = min (d.nanos + (ds.map nanos).sum) maxNanos := by
  induction ds generalizing d with
  | nil => simp [d.nanos_le_max]
  | cons e ds ih =>
    rw [List.foldl_cons, ih, nanos_add, List.map_cons, List.sum_cons]
    omega

theorem nanos_sum (ds : List Duration) : (sum ds).nanos = min (ds.map nanos).sum maxNanos := by
  rw [sum, nanos_foldl_add, nanos_zero, Nat.zero_add]

end Duration

namespace IndexNow.RetryPolicy

theorem sum_nanos_delays_le (p : RetryPolicy) (k : Nat) (h : k ≤ p.maxRetries) :
    (((List.range k).map p.delayFor).map Duration.nanos).sum ≤
      (p.delays.map Duration.nanos).sum := by
  apply List.Sublist.sum_le_sum
  · exact ((List.range_sublist.mpr h).map _).map _
  · simp

end IndexNow.RetryPolicy

end Crawlability
