import SoaGateway.Network.RateLimiterProperties

/-! Every run of the limiter, seen from one source, is a run of its token bucket. The
bound on what the bucket grants is then a bound on what the limiter admits. -/

set_option autoImplicit false

namespace SoaGateway.Network

open Foundation
open Foundation.TokenBucket (Policy Account Event grantedWithin)

namespace RateLimiterCall

/-- The clock readings a call may make. One that it does not make constrains nothing: it
may be taken equal to the reading before it. -/
def readings : RateLimiterCall → List Nat
  | init nowMs => [nowMs]
  | admitSource _ allocMs seenMs => [allocMs, seenMs]
  | refillAll nowMs => [nowMs]
  | evictIdle nowMs => [nowMs]

def refill? : RateLimiterCall → Option Nat
  | refillAll nowMs => some nowMs
  | _ => none

def asks (sourceId : BitVec 32) (t1 t2 : Nat) : RateLimiterCall → Bool
  | admitSource caller _ seenMs => caller == sourceId && (t1 ≤ seenMs && seenMs ≤ t2)
  | _ => false

/-- The readings of the first `Init` and of the refills after it. -/
def refillTimes : List RateLimiterCall → List Nat
  | [] => []
  | init nowMs :: rest => nowMs :: rest.filterMap refill?
  | _ :: rest => refillTimes rest

end RateLimiterCall

def admitted (sourceId : BitVec 32) (t1 t2 : Nat)
    (trace : List (RateLimiterCall × VoidResult)) : Nat :=
  trace.countP fun entry => entry.1.asks sourceId t1 t2 && entry.2.isOk

theorem admitted_cons {sourceId : BitVec 32} {t1 t2 : Nat} (call : RateLimiterCall)
    (result : VoidResult) (trace : List (RateLimiterCall × VoidResult)) :
    admitted sourceId t1 t2 ((call, result) :: trace) =
      (if call.asks sourceId t1 t2 && result.isOk then 1 else 0) +
        admitted sourceId t1 t2 trace := by
  simp only [admitted, List.countP_cons]
  omega

namespace RateLimiter

variable {limiter : RateLimiter} {sourceId : BitVec 32} {t1 t2 : Nat}

def event (limiter : RateLimiter) (sourceId : BitVec 32) : RateLimiterCall → Event
  | .init _ => .elsewhere
  | .admitSource caller allocMs seenMs =>
      if caller = sourceId ∧ (limiter.findOrAllocate caller allocMs).1.isSome = true then
        .demand allocMs seenMs
      else .elsewhere
  | .refillAll nowMs => .refill nowMs
  | .evictIdle nowMs => .sweep nowMs

def events (sourceId : BitVec 32) (limiter : RateLimiter) : List RateLimiterCall → List Event
  | [] => []
  | call :: rest => limiter.event sourceId call :: events sourceId (limiter.step call).2 rest

theorem init_again (tracking : limiter.Tracking) (nowMs : Nat) :
    limiter.init nowMs = (.error .alreadyRegistered, limiter) := by
  simp [init, tracking.initialised]

theorem step_tracking (tracking : limiter.Tracking) (call : RateLimiterCall) :
    (limiter.step call).2.Tracking := by
  cases call with
  | init nowMs =>
      simp only [step, init_again tracking]
      exact tracking
  | admitSource caller allocMs seenMs =>
      cases slot : (limiter.findOrAllocate caller allocMs).1.isSome with
      | false =>
          simp only [step, admitSource_full tracking slot]
          exact tracking
      | true =>
          obtain ⟨index, writes, -⟩ := admitSource_spends tracking seenMs slot
          exact writes.tracking tracking
  | refillAll nowMs => exact refillAll_tracking tracking nowMs
  | evictIdle nowMs => exact evictIdle_tracking tracking nowMs

/-- The refinement, one call: the account of the source moves as its token bucket does,
and the bucket grants what the limiter admits. -/
theorem step_refines (tracking : limiter.Tracking) (sourceId : BitVec 32) (t1 t2 : Nat)
    (call : RateLimiterCall) :
    (limiter.step call).2.account sourceId =
        (policy.step (limiter.account sourceId) (limiter.event sourceId call)).2 ∧
      (call.asks sourceId t1 t2 && (limiter.step call).1.isOk) =
        ((policy.step (limiter.account sourceId) (limiter.event sourceId call)).1 &&
          (limiter.event sourceId call).within t1 t2) := by
  cases call with
  | init nowMs =>
      simp only [step, init_again tracking]
      exact ⟨rfl, rfl⟩
  | admitSource caller allocMs seenMs =>
      cases slot : (limiter.findOrAllocate caller allocMs).1.isSome with
      | false =>
          have untouched : limiter.event sourceId (.admitSource caller allocMs seenMs) = .elsewhere := by
            simp [event, slot]
          rw [untouched]
          simp only [step, admitSource_full tracking slot]
          exact ⟨rfl, Bool.and_false _⟩
      | true =>
          obtain ⟨index, writes, spent⟩ := admitSource_spends tracking seenMs slot
          by_cases same : caller = sourceId
          · subst same
            have demands : limiter.event caller (.admitSource caller allocMs seenMs) =
                .demand allocMs seenMs := by
              simp [event, slot]
            rw [demands]
            simp only [step, Policy.step, writes.account_eq tracking, ← spent]
            refine ⟨trivial, ?_⟩
            simp [RateLimiterCall.asks, Event.within, Bool.and_comm]
          · have elsewhere : limiter.event sourceId (.admitSource caller allocMs seenMs) =
                .elsewhere := by
              simp [event, same]
            rw [elsewhere]
            refine ⟨writes.account_other tracking (Ne.symm same), ?_⟩
            simp [RateLimiterCall.asks, Policy.step, same]
  | refillAll nowMs => exact ⟨refillAll_account tracking nowMs sourceId, rfl⟩
  | evictIdle nowMs => exact ⟨evictIdle_account tracking nowMs sourceId, rfl⟩

theorem event_readings (call : RateLimiterCall) :
    ((limiter.event sourceId call).readings).Sublist call.readings := by
  cases call with
  | init nowMs => exact List.nil_sublist _
  | admitSource caller allocMs seenMs =>
      simp only [event]
      split
      · exact List.Sublist.refl _
      · exact List.nil_sublist _
  | refillAll nowMs => exact List.Sublist.refl _
  | evictIdle nowMs => exact List.Sublist.refl _

theorem event_refill (call : RateLimiterCall) :
    (limiter.event sourceId call).refill? = call.refill? := by
  cases call with
  | admitSource caller allocMs seenMs =>
      simp only [event]
      split
      · rfl
      · rfl
  | _ => rfl

theorem events_readings (calls : List RateLimiterCall) :
    ((events sourceId limiter calls).flatMap Event.readings).Sublist
      (calls.flatMap RateLimiterCall.readings) := by
  induction calls generalizing limiter with
  | nil => exact List.Sublist.refl _
  | cons call rest ih => exact (event_readings call).append ih

theorem events_refills (calls : List RateLimiterCall) :
    (events sourceId limiter calls).filterMap Event.refill? =
      calls.filterMap RateLimiterCall.refill? := by
  induction calls generalizing limiter with
  | nil => rfl
  | cons call rest ih => simp only [events, List.filterMap_cons, event_refill, ih]

theorem run_refines (tracking : limiter.Tracking) (calls : List RateLimiterCall) :
    admitted sourceId t1 t2 (calls.zip (machine.outputs limiter calls)) =
      grantedWithin t1 t2 ((events sourceId limiter calls).zip
        (policy.machine.outputs (limiter.account sourceId) (events sourceId limiter calls))) := by
  induction calls generalizing limiter with
  | nil => rfl
  | cons call rest ih =>
      obtain ⟨moves, grants⟩ := step_refines tracking sourceId t1 t2 call
      have later := ih (step_tracking tracking call)
      rw [moves] at later
      calc admitted sourceId t1 t2 ((call :: rest).zip (machine.outputs limiter (call :: rest)))
          = (if call.asks sourceId t1 t2 && (limiter.step call).1.isOk then 1 else 0) +
              admitted sourceId t1 t2 (rest.zip (machine.outputs (limiter.step call).2 rest)) :=
            admitted_cons call _ _
        _ = _ := by
            rw [grants, later]
            exact (TokenBucket.grantedWithin_cons (limiter.event sourceId call) _ _).symm

theorem started_tracking (nowMs : Nat) : (construct.init nowMs).2.Tracking where
  initialised := rfl
  single _ _ _ inactive _ := absurd inactive.1 Bool.false_ne_true
  held _ := burstCapacity_held

theorem started_account (nowMs : Nat) (sourceId : BitVec 32) :
    (construct.init nowMs).2.account sourceId = none :=
  account_none fun _ tracks => absurd tracks.1 Bool.false_ne_true

/-- Before `Init` nothing changes, and no packet is admitted. -/
theorem construct_step (sourceId : BitVec 32) (t1 t2 : Nat) {call : RateLimiterCall}
    (early : ∀ nowMs, call ≠ .init nowMs) :
    (construct.step call).2 = construct ∧
      (call.asks sourceId t1 t2 && (construct.step call).1.isOk) = false ∧
      ∀ rest, RateLimiterCall.refillTimes (call :: rest) = RateLimiterCall.refillTimes rest := by
  cases call with
  | init nowMs => exact absurd rfl (early nowMs)
  | admitSource caller allocMs seenMs => exact ⟨rfl, Bool.and_false _, fun _ => rfl⟩
  | refillAll nowMs => exact ⟨rfl, rfl, fun _ => rfl⟩
  | evictIdle nowMs => exact ⟨rfl, rfl, fun _ => rfl⟩

theorem started_conforms {initMs period : Nat} {calls : List RateLimiterCall}
    (ordered : (initMs :: calls.flatMap RateLimiterCall.readings).Pairwise (· ≤ ·))
    (spaced : (initMs :: calls.filterMap RateLimiterCall.refill?).IsChain
      fun earlier later => later ≤ earlier + period) :
    admitted sourceId t1 t2 (calls.zip (machine.outputs (construct.init initMs).2 calls)) ≤
      policy.capacity + policy.rate * (t2 - t1 + period) := by
  rw [run_refines (started_tracking initMs), started_account]
  have seen : (initMs :: (events sourceId (construct.init initMs).2 calls).flatMap
      Event.readings).Pairwise (· ≤ ·) :=
    ordered.sublist ((events_readings calls).cons_cons initMs)
  refine TokenBucket.conformance seen ?_
  rw [events_refills]
  exact spaced

/-- Between two instants a source gets at most one burst and the refill for the time
between them and one refill interval, however often its slot is evicted in between. -/
theorem admitted_le_burst_add_refill (period : Nat) (calls : List RateLimiterCall)
    (ordered : (calls.flatMap RateLimiterCall.readings).Pairwise (· ≤ ·))
    (spaced : (RateLimiterCall.refillTimes calls).IsChain
      fun earlier later => later ≤ earlier + period)
    (sourceId : BitVec 32) (t1 t2 : Nat) (window : t1 ≤ t2) :
    (admitted sourceId t1 t2 (calls.zip (machine.outputs construct calls)) : Int) ≤
      burstCapacity + refillRatePerMs * ((t2 : Int) - t1 + period) := by
  have bounded : admitted sourceId t1 t2 (calls.zip (machine.outputs construct calls)) ≤
      policy.capacity + policy.rate * (t2 - t1 + period) := by
    induction calls with
    | nil => exact Nat.zero_le _
    | cons call rest ih =>
        rw [Machine.outputs_cons, List.zip_cons_cons, admitted_cons]
        by_cases starts : ∃ nowMs, call = .init nowMs
        · obtain ⟨nowMs, rfl⟩ := starts
          exact (Nat.zero_add _).trans_le (started_conforms ordered spaced)
        · obtain ⟨unchanged, denied, times⟩ := construct_step sourceId t1 t2 (not_exists.1 starts)
          have later := ih (List.pairwise_append.1 ordered).2.1 (times rest ▸ spaced)
          simp only [machine, denied, unchanged, Bool.false_eq_true, ↓reduceIte, Nat.zero_add]
          exact later
  simp only [policy, burstCapacity, refillRatePerMs, Int.reduceToNat] at bounded ⊢
  omega

def evictionRun : List RateLimiterCall :=
  [.init 0, .admitSource 7 1 1, .refillAll 5, .evictIdle 5007, .admitSource 7 5007 5008]

theorem evictionRun_admitted :
    admitted 7 1 5008 (evictionRun.zip (machine.outputs construct evictionRun)) = 2 ∧
      (admitted 7 1 5008 (evictionRun.zip (machine.outputs construct evictionRun)) : Int) ≤
        burstCapacity + refillRatePerMs * (((5008 : Nat) : Int) - (1 : Nat) + (5 : Nat)) :=
  ⟨by decide +kernel,
    admitted_le_burst_add_refill 5 evictionRun (by decide) (by decide) 7 1 5008 (by decide)⟩

end RateLimiter

end SoaGateway.Network
