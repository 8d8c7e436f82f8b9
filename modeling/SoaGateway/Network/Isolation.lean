import SoaGateway.Network.Conformance

/-! Isolation of the sources. Up to its first eviction a tracked source lives through
what its bucket would live through alone, so no flood of other sources changes a verdict. -/

set_option autoImplicit false

namespace SoaGateway.Network

open Foundation

/-- The calls that concern a source: its own admissions, refills and evictions. -/
def RateLimiterCall.concerns (sourceId : BitVec 32) : RateLimiterCall → Bool
  | .init _ => false
  | .admitSource caller _ _ => caller == sourceId
  | .refillAll _ => true
  | .evictIdle _ => true

/-- One call seen by a lone bucket; an eviction leaves none. -/
def TokenBucket.alone (bucket : TokenBucket) : RateLimiterCall → VoidResult × Option TokenBucket
  | .init _ => (.error .alreadyRegistered, some bucket)
  | .admitSource _ _ seenMs =>
      ((takeToken bucket seenMs).1, some (takeToken bucket seenMs).2)
  | .refillAll nowMs => (.ok (), some (refillBucket bucket nowMs))
  | .evictIdle nowMs =>
      (.ok (), if sourceEvictAfterMs < nowMs - bucket.lastSeenMs then none else some bucket)

/-- The results and buckets of a lone bucket up to its eviction. -/
def TokenBucket.life (bucket : TokenBucket) : List RateLimiterCall →
    List (VoidResult × TokenBucket)
  | [] => []
  | call :: rest =>
      match bucket.alone call with
      | (_, none) => []
      | (result, some after) => (result, after) :: after.life rest

namespace RateLimiter

variable {limiter : RateLimiter} {sourceId : BitVec 32} {bucket : TokenBucket}

/-- What a source sees of a run up to its eviction: for each call that concerns it, the
result and its bucket afterwards. -/
def experience (sourceId : BitVec 32) (limiter : RateLimiter) :
    List RateLimiterCall → List (VoidResult × TokenBucket)
  | [] => []
  | call :: rest =>
      let outcome := limiter.step call
      if call.concerns sourceId then
        match outcome.2.bucketOf sourceId with
        | none => []
        | some bucket => (outcome.1, bucket) :: experience sourceId outcome.2 rest
      else experience sourceId outcome.2 rest

/-- The call leaves the bucket of the source alone unless it concerns it. -/
def Undisturbed (sourceId : BitVec 32) (limiter : RateLimiter) (call : RateLimiterCall) : Prop :=
  call.concerns sourceId = false →
    (limiter.step call).2.bucketOf sourceId = limiter.bucketOf sourceId

theorem step_undisturbed (tracking : limiter.Tracking) (call : RateLimiterCall) :
    Undisturbed sourceId limiter call := by
  intro foreign
  cases call with
  | init nowMs => simp only [step, init_again tracking]
  | admitSource caller allocMs seenMs =>
      have differs : sourceId ≠ caller := by
        intro same
        simp [RateLimiterCall.concerns, same] at foreign
      cases slot : (limiter.findOrAllocate caller allocMs).1.isSome with
      | false => simp only [step, admitSource_full tracking slot]
      | true =>
          obtain ⟨index, writes, -⟩ := admitSource_spends tracking seenMs slot
          exact writes.bucketOf_other tracking differs
  | refillAll nowMs => cases foreign
  | evictIdle nowMs => cases foreign

/-- A call that concerns a tracked source does to it what it does to a lone bucket. -/
theorem step_alone (tracking : limiter.Tracking)
    (tracked : limiter.bucketOf sourceId = some bucket) {call : RateLimiterCall}
    (own : call.concerns sourceId = true) :
    ((limiter.step call).1, (limiter.step call).2.bucketOf sourceId) = bucket.alone call := by
  obtain ⟨index, found, rfl⟩ := bucketOf_some tracked
  have tracks := find_some found
  cases call with
  | init nowMs => cases own
  | admitSource caller allocMs seenMs =>
      obtain rfl : caller = sourceId := by simpa [RateLimiterCall.concerns] using own
      have after := step_tracking tracking (.admitSource caller allocMs seenMs)
      simp only [step, admitSource_served tracking allocMs seenMs tracks] at after ⊢
      have kept : ((limiter.store index (takeToken (limiter.buckets index) seenMs).2).buckets
          index).Tracks caller := by
        rw [store_same]
        exact TokenBucket.takeToken_tracks tracks seenMs
      rw [after.bucketOf_eq kept, store_same]
      rfl
  | refillAll nowMs =>
      simp only [step, refillAll_bucketOf tracking, tracked]
      rfl
  | evictIdle nowMs =>
      simp only [step, evictIdle_bucketOf tracking, tracked, Option.filter_some]
      by_cases idle : sourceEvictAfterMs < nowMs - (limiter.buckets index).lastSeenMs <;>
        simp [TokenBucket.alone, idle]

/-- In company a source experiences what its bucket would live through alone. -/
theorem experience_eq_life (tracking : limiter.Tracking)
    (tracked : limiter.bucketOf sourceId = some bucket) (calls : List RateLimiterCall) :
    experience sourceId limiter calls =
      bucket.life (calls.filter (RateLimiterCall.concerns sourceId)) := by
  induction calls generalizing limiter bucket with
  | nil => rfl
  | cons call rest ih =>
      have after := step_tracking tracking call
      cases own : call.concerns sourceId with
      | false =>
          have same := step_undisturbed tracking call own
          simp only [experience, own, Bool.false_eq_true, ↓reduceIte, List.filter_cons]
          exact ih after (same.trans tracked)
      | true =>
          have seen := step_alone tracking tracked own
          simp only [experience, own, ↓reduceIte, List.filter_cons, TokenBucket.life, ← seen]
          cases left : (limiter.step call).2.bucketOf sourceId with
          | none => rfl
          | some next => simp only [ih after left]

def Reachable (limiter : RateLimiter) : Prop :=
  ∃ calls, limiter = machine.run construct calls

theorem reached_tracking (calls : List RateLimiterCall) :
    machine.run construct calls = construct ∨ (machine.run construct calls).Tracking := by
  induction calls using List.reverseRecOn with
  | nil => exact .inl rfl
  | append_singleton calls call ih =>
      rw [machine.run_concat]
      cases ih with
      | inl fresh =>
          rw [fresh]
          cases call with
          | init nowMs => exact .inr (started_tracking nowMs)
          | admitSource caller allocMs seenMs => exact .inl rfl
          | refillAll nowMs => exact .inl rfl
          | evictIdle nowMs => exact .inl rfl
      | inr tracking => exact .inr (step_tracking tracking call)

theorem Reachable.tracking (reachable : limiter.Reachable)
    (tracked : limiter.bucketOf sourceId = some bucket) : limiter.Tracking := by
  obtain ⟨calls, rfl⟩ := reachable
  cases reached_tracking calls with
  | inl fresh =>
      rw [fresh] at tracked
      have untracked : construct.bucketOf sourceId = none :=
        bucketOf_none fun _ tracks => absurd tracks.1 Bool.false_ne_true
      cases untracked.symm.trans tracked
  | inr tracking => exact tracking

theorem run_tracking (tracking : limiter.Tracking) (calls : List RateLimiterCall) :
    (machine.run limiter calls).Tracking :=
  machine.run_preserves tracking (fun _ call before => step_tracking before call) calls

theorem run_undisturbed (tracking : limiter.Tracking) (calls : List RateLimiterCall) :
    machine.EveryStep (Undisturbed sourceId) limiter calls :=
  fun before call _ _ => step_undisturbed (run_tracking tracking before) call

/-- Two runs that agree on the calls of a tracked source agree on its verdicts and its
bucket up to its first eviction, whatever the other sources send. -/
theorem flooding_changes_no_verdict (sourceId : BitVec 32) (bucket : TokenBucket)
    (left right : RateLimiter) (leftReachable : left.Reachable)
    (rightReachable : right.Reachable) (leftTracks : left.bucketOf sourceId = some bucket)
    (rightTracks : right.bucketOf sourceId = some bucket) (first second : List RateLimiterCall)
    (sameCalls : first.filter (RateLimiterCall.concerns sourceId) =
      second.filter (RateLimiterCall.concerns sourceId)) :
    experience sourceId left first = experience sourceId right second ∧
      machine.EveryStep (Undisturbed sourceId) left first ∧
      machine.EveryStep (Undisturbed sourceId) right second := by
  have leftTracking := leftReachable.tracking leftTracks
  have rightTracking := rightReachable.tracking rightTracks
  refine ⟨?_, run_undisturbed leftTracking first, run_undisturbed rightTracking second⟩
  rw [experience_eq_life leftTracking leftTracks, experience_eq_life rightTracking rightTracks,
    sameCalls]

/-- Forty other sources. -/
def flood : List RateLimiterCall :=
  (List.range 40).map fun other => .admitSource (BitVec.ofNat 32 (100 + other)) 2 2

theorem flood_changes_no_verdict :
    experience 7 (machine.run construct [.init 0, .admitSource 7 1 1])
        [.admitSource 7 3 3, .refillAll 4] =
      experience 7 (machine.run construct [.init 0, .admitSource 9 1 1, .admitSource 7 1 1])
        (flood ++ [.admitSource 7 3 3, .refillAll 4]) :=
  (flooding_changes_no_verdict 7
    { sourceId := 7, tokens := 19, lastRefillMs := 1, lastSeenMs := 1, dropCount := 0,
      passCount := 1, active := true }
    _ _ ⟨_, rfl⟩ ⟨_, rfl⟩ (by decide +kernel) (by decide +kernel)
    [.admitSource 7 3 3, .refillAll 4] (flood ++ [.admitSource 7 3 3, .refillAll 4])
    (by rfl)).1

end RateLimiter

end SoaGateway.Network
