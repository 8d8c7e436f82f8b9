import SoaGateway.Foundation.Clock
import SoaGateway.Network.RateLimiterProperties

/-! Refills on a schedule. However often the timer fires, a bucket that nobody draws from ends
where one refill at the last instant would have left it. -/

set_option autoImplicit false

namespace SoaGateway.Network

open Foundation

namespace TokenBucket

variable {bucket : TokenBucket}

/-- The bucket with the tokens and the last refill of an account. -/
def credited (bucket : TokenBucket) (account : TokenBucket.Account) : TokenBucket :=
  { bucket with tokens := account.tokens, lastRefillMs := account.lastRefill }

/-- A refill credits the account of the bucket and touches nothing else. -/
theorem refillBucket_eq (held : 0 ≤ bucket.tokens) (nowMs : Nat) :
    refillBucket bucket nowMs = bucket.credited (policy.credit bucket.account nowMs) := by
  have account := refillBucket_account held nowMs
  have left := refillBucket_tokens held nowMs
  have tokens : (refillBucket bucket nowMs).tokens =
      ((policy.credit bucket.account nowMs).tokens : Int) := by
    rw [← account]
    exact (Int.toNat_of_nonneg left).symm
  have lastRefill : (refillBucket bucket nowMs).lastRefillMs =
      (policy.credit bucket.account nowMs).lastRefill := by
    rw [← account]
    rfl
  rw [credited, ← tokens, ← lastRefill]
  unfold refillBucket
  split
  · rfl
  · rfl

theorem refillBucket_refillBucket (held : 0 ≤ bucket.tokens) {earlierMs laterMs : Nat}
    (onward : earlierMs ≤ laterMs) :
    refillBucket (refillBucket bucket earlierMs) laterMs = refillBucket bucket laterMs := by
  have left := refillBucket_tokens held earlierMs
  calc refillBucket (refillBucket bucket earlierMs) laterMs
      = (refillBucket bucket earlierMs).credited
          (policy.credit (policy.credit bucket.account earlierMs) laterMs) := by
        rw [refillBucket_eq left, refillBucket_account held]
    _ = bucket.credited (policy.credit bucket.account laterMs) := by
        rw [TokenBucket.credit_credit onward, refillBucket_eq held]
        rfl
    _ = refillBucket bucket laterMs := (refillBucket_eq held laterMs).symm

/-- Refilled at every instant of a schedule, a bucket ends as if it had been refilled once, at
the last of them. -/
theorem refill_schedule_independent (bucket : TokenBucket) (held : 0 ≤ bucket.tokens)
    (schedule : List Nat) (lastMs : Nat)
    (ordered : (schedule ++ [lastMs]).Pairwise (· ≤ ·)) :
    (schedule ++ [lastMs]).foldl refillBucket bucket = refillBucket bucket lastMs :=
  foldl_eq_last (fun bucket => 0 ≤ bucket.tokens)
    (fun _ nowMs held => refillBucket_tokens held nowMs)
    (fun _ _ _ held onward => refillBucket_refillBucket held onward) held ordered

/-- An empty bucket, refilled before its last refill, twice at one instant and past the clamp. -/
theorem irregular_schedule :
    let empty := { RateLimiter.allocated 7 100 with tokens := 0 }
    [50, 101, 101, 1500, 5000].foldl refillBucket empty = refillBucket empty 5000 :=
  refill_schedule_independent _ (by decide) [50, 101, 101, 1500] 5000 (by decide)

end TokenBucket

end SoaGateway.Network
