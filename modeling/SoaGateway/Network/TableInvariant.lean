import Mathlib.Algebra.Ring.Int.Defs
import SoaGateway.Network.Isolation

/-! The table of tracked sources over whole runs: uniqueness, token bounds, and the
counters against the admissions each slot has seen since it was allocated. -/

set_option autoImplicit false

namespace SoaGateway.Network

open Foundation

def RateLimiterCall.admits (sourceId : BitVec 32) : RateLimiterCall → Bool
  | .admitSource caller _ _ => caller == sourceId
  | _ => false

/-- What one call can do to one slot. -/
inductive SlotStep (call : RateLimiterCall) (bucket : TokenBucket) : TokenBucket → Prop where
  | kept (unasked : bucket.active = true → call.admits bucket.sourceId = false) :
      SlotStep call bucket bucket
  | taken (seenMs : Nat) (active : bucket.active = true)
      (asked : call.admits bucket.sourceId = true) :
      SlotStep call bucket (takeToken bucket seenMs).2
  | opened (sourceId : BitVec 32) (allocMs seenMs : Nat) (unused : bucket.active = false)
      (asked : call.admits sourceId = true) :
      SlotStep call bucket (takeToken (RateLimiter.allocated sourceId allocMs) seenMs).2
  | refilled (nowMs : Nat) (refills : call = .refillAll nowMs) (active : bucket.active = true) :
      SlotStep call bucket (refillBucket bucket nowMs)
  | evicted (nowMs : Nat) (evicts : call = .evictIdle nowMs) (stale : bucket.Stale nowMs) :
      SlotStep call bucket bucket.released

namespace RateLimiter

variable {limiter : RateLimiter}

theorem admitSource_slot (tracking : limiter.Tracking) (sourceId : BitVec 32)
    (allocMs seenMs : Nat) (index : Fin maxTrackedSources) :
    SlotStep (.admitSource sourceId allocMs seenMs) (limiter.buckets index)
      ((limiter.admitSource sourceId allocMs seenMs).2.buckets index) := by
  have unasked : ∀ slot, ¬ (limiter.buckets slot).Tracks sourceId →
      (limiter.buckets slot).active = true →
      (RateLimiterCall.admitSource sourceId allocMs seenMs).admits
        (limiter.buckets slot).sourceId = false := by
    intro slot untracked active
    exact beq_false_of_ne fun same => untracked ⟨active, same.symm⟩
  rcases admitSource_cases tracking sourceId allocMs seenMs with
    ⟨found, -, tracks, admits⟩ | ⟨slot, -, unused, untracked, admits⟩ | ⟨-, -, untracked, admits⟩
  · rw [admits]
    by_cases here : index = found
    · subst here
      rw [store_same]
      exact .taken seenMs tracks.1 (beq_iff_eq.2 tracks.2.symm)
    · rw [store_other here]
      exact .kept (unasked index fun other =>
        here (tracking.single sourceId index found other tracks))
  · rw [admits]
    by_cases here : index = slot
    · subst here
      rw [store_same]
      exact .opened sourceId allocMs seenMs unused (beq_self_eq_true sourceId)
    · rw [store_other here]
      exact .kept (unasked index (untracked index))
  · rw [admits]
    exact .kept (unasked index (untracked index))

/-- The one lemma about what a call does to a slot. -/
theorem step_slot (tracking : limiter.Tracking) (call : RateLimiterCall)
    (index : Fin maxTrackedSources) :
    SlotStep call (limiter.buckets index) ((limiter.step call).2.buckets index) := by
  cases call with
  | init nowMs =>
      rw [show limiter.step (.init nowMs) = _ from init_again tracking nowMs]
      exact .kept fun _ => rfl
  | admitSource sourceId allocMs seenMs =>
      exact admitSource_slot tracking sourceId allocMs seenMs index
  | refillAll nowMs =>
      rw [show (limiter.step (.refillAll nowMs)).2.buckets index = _ from
        refillAll_buckets tracking nowMs index]
      split
      · next active => exact .refilled nowMs rfl active
      · exact .kept fun _ => rfl
  | evictIdle nowMs =>
      obtain ⟨stale, freed⟩ | ⟨-, same⟩ := evictIdle_slot tracking nowMs index
      · rw [show (limiter.step (.evictIdle nowMs)).2.buckets index = _ from freed]
        exact .evicted nowMs rfl stale
      · rw [show (limiter.step (.evictIdle nowMs)).2.buckets index = _ from same]
        exact .kept fun _ => rfl

end RateLimiter

/-- The 32-bit signed values `RefillBucket` computes at a clock reading. -/
def refillComputations (bucket : TokenBucket) (nowMs : Nat) : List Int :=
  if nowMs ≤ bucket.lastRefillMs then []
  else
    let elapsedMs := nowMs - bucket.lastRefillMs
    let clampedMs := if elapsedMs > 1000 then 1000 else elapsedMs
    let newTokens : Int := clampedMs * refillRatePerMs
    [(clampedMs : Int), newTokens, bucket.tokens + newTokens]

/-- The 32-bit signed values `Admit` computes on the bucket it finds. -/
def takeComputations (bucket : TokenBucket) : List Int :=
  if bucket.tokens ≤ 0 then [] else [bucket.tokens - 1]

def FitsInt32 (value : Int) : Prop := -2 ^ 31 ≤ value ∧ value < 2 ^ 31

namespace TokenBucket

variable {bucket after : TokenBucket} {call : RateLimiterCall}

def Bounded (bucket : TokenBucket) : Prop := 0 ≤ bucket.tokens ∧ bucket.tokens ≤ burstCapacity

theorem Bounded.refill_fits (bounded : bucket.Bounded) (nowMs : Nat) :
    ∀ value ∈ refillComputations bucket nowMs, FitsInt32 value := by
  obtain ⟨held, capped⟩ := bounded
  intro value member
  unfold refillComputations at member
  split at member
  · cases member
  · have clamp : (if nowMs - bucket.lastRefillMs > 1000 then 1000
        else nowMs - bucket.lastRefillMs) ≤ 1000 := by
      split <;> omega
    simp only [List.mem_cons, List.not_mem_nil, or_false, refillRatePerMs] at member
    unfold FitsInt32
    simp only [burstCapacity] at capped
    omega

theorem Bounded.take_fits (bounded : bucket.Bounded) :
    ∀ value ∈ takeComputations bucket, FitsInt32 value := by
  obtain ⟨held, capped⟩ := bounded
  intro value member
  unfold takeComputations at member
  split at member
  · cases member
  · rw [List.mem_singleton.1 member]
    simp only [burstCapacity] at capped
    unfold FitsInt32
    omega

theorem Bounded.take (bounded : bucket.Bounded) (seenMs : Nat) :
    (takeToken bucket seenMs).2.Bounded := by
  refine ⟨takeToken_tokens bounded.1 seenMs, ?_⟩
  unfold takeToken
  split
  · exact bounded.2
  · exact le_trans (Int.sub_le_self _ (by decide)) bounded.2

theorem Bounded.refill (bounded : bucket.Bounded) (nowMs : Nat) :
    (refillBucket bucket nowMs).Bounded := by
  refine ⟨refillBucket_tokens bounded.1 nowMs, ?_⟩
  unfold refillBucket
  split
  · exact bounded.2
  · simp only [burstCapacity, refillRatePerMs]
    split_ifs <;> omega

/-- The counters of an active slot add up to its admissions; a free slot has none. -/
def Balanced (bucket : TokenBucket) (asked : Nat) : Prop :=
  if bucket.active then bucket.passCount + bucket.dropCount = BitVec.ofNat 32 asked
  else asked = 0

theorem balanced_of_active {asked : Nat} (active : bucket.active = true) :
    bucket.Balanced asked ↔ bucket.passCount + bucket.dropCount = BitVec.ofNat 32 asked := by
  rw [Balanced, if_pos active]

theorem balanced_of_free {asked : Nat} (unused : bucket.active = false) :
    bucket.Balanced asked ↔ asked = 0 := by
  rw [Balanced, if_neg (Bool.not_eq_true _ ▸ unused)]

theorem takeToken_counts (seenMs : Nat) :
    (takeToken bucket seenMs).2.active = bucket.active ∧
      (takeToken bucket seenMs).2.sourceId = bucket.sourceId ∧
      (takeToken bucket seenMs).2.passCount + (takeToken bucket seenMs).2.dropCount =
        bucket.passCount + bucket.dropCount + 1 := by
  unfold takeToken
  split
  · exact ⟨rfl, rfl, (BitVec.add_assoc _ _ _).symm⟩
  · exact ⟨rfl, rfl, by ac_rfl⟩

theorem refillBucket_counts (nowMs : Nat) :
    (refillBucket bucket nowMs).active = bucket.active ∧
      (refillBucket bucket nowMs).passCount = bucket.passCount ∧
      (refillBucket bucket nowMs).dropCount = bucket.dropCount := by
  unfold refillBucket
  split <;> exact ⟨rfl, rfl, rfl⟩

end TokenBucket

/-- The admissions of a slot's source since the slot was last free, after one more call. -/
def askedAfter (call : RateLimiterCall) (after : TokenBucket) (asked : Nat) : Nat :=
  if after.active then asked + (if call.admits after.sourceId then 1 else 0) else 0

namespace SlotStep

variable {bucket after : TokenBucket} {call : RateLimiterCall}

theorem bounded (step : SlotStep call bucket after) (before : bucket.Bounded) : after.Bounded := by
  cases step with
  | kept unasked => exact before
  | taken seenMs active asked => exact before.take seenMs
  | opened sourceId allocMs seenMs unused asked =>
      have full : (RateLimiter.allocated sourceId allocMs).Bounded :=
        ⟨burstCapacity_held, le_refl _⟩
      exact full.take seenMs
  | refilled nowMs refills active => exact before.refill nowMs
  | evicted nowMs evicts stale => exact ⟨burstCapacity_held, le_refl _⟩

theorem askedAfter_of_active (active : after.active = true) (asked : Nat) :
    askedAfter call after asked = asked + if call.admits after.sourceId then 1 else 0 :=
  if_pos active

theorem askedAfter_of_free (unused : after.active = false) (asked : Nat) :
    askedAfter call after asked = 0 :=
  if_neg (Bool.not_eq_true _ ▸ unused)

theorem balanced (step : SlotStep call bucket after) {asked : Nat}
    (before : bucket.Balanced asked) : after.Balanced (askedAfter call after asked) := by
  cases step with
  | kept unasked =>
      cases active : bucket.active with
      | false =>
          rw [TokenBucket.balanced_of_free active, askedAfter_of_free active]
      | true =>
          rw [askedAfter_of_active active, unasked active]
          exact before
  | taken seenMs active admitted =>
      obtain ⟨sameActive, sameSource, counted⟩ := TokenBucket.takeToken_counts seenMs
      have stays := sameActive.trans active
      rw [TokenBucket.balanced_of_active active] at before
      rw [TokenBucket.balanced_of_active stays, askedAfter_of_active stays, counted, before,
        sameSource, if_pos admitted, BitVec.ofNat_add]
      rfl
  | opened sourceId allocMs seenMs unused admitted =>
      obtain ⟨sameActive, sameSource, counted⟩ := TokenBucket.takeToken_counts seenMs
      have opens : (takeToken (RateLimiter.allocated sourceId allocMs) seenMs).2.active = true :=
        sameActive
      rw [TokenBucket.balanced_of_free unused] at before
      rw [TokenBucket.balanced_of_active opens, askedAfter_of_active opens, counted, before,
        sameSource]
      exact congrArg (fun extra => BitVec.ofNat 32 (0 + extra)) (if_pos admitted).symm
  | refilled nowMs refills active =>
      obtain ⟨sameActive, samePass, sameDrop⟩ := TokenBucket.refillBucket_counts nowMs
      have stays := sameActive.trans active
      rw [TokenBucket.balanced_of_active active] at before
      rw [TokenBucket.balanced_of_active stays, askedAfter_of_active stays, samePass, sameDrop,
        before, refills]
      rfl
  | evicted nowMs evicts stale =>
      have freed : bucket.released.active = false := rfl
      rw [TokenBucket.balanced_of_free freed, askedAfter_of_free freed]

end SlotStep

namespace RateLimiter

variable {limiter : RateLimiter}

def countAsked (limiter : RateLimiter) (call : RateLimiterCall)
    (asked : Fin maxTrackedSources → Nat) : Fin maxTrackedSources → Nat :=
  fun index => askedAfter call ((limiter.step call).2.buckets index) (asked index)

/-- For each slot, the admissions of its source since the slot was allocated. -/
def askedSinceAllocation (start : RateLimiter) (calls : List RateLimiterCall) :
    Fin maxTrackedSources → Nat :=
  ((machine.withGhost countAsked).run (start, fun _ => 0) calls).2

/-- What the table guarantees in one state, given the admissions of each slot. -/
structure SoundTable (limiter : RateLimiter) (asked : Fin maxTrackedSources → Nat) : Prop where
  single : ∀ left right, (limiter.buckets left).active = true →
    (limiter.buckets right).active = true →
    (limiter.buckets left).sourceId = (limiter.buckets right).sourceId → left = right
  bounded : ∀ index, (limiter.buckets index).Bounded
  refill_fits : ∀ index nowMs, ∀ value ∈ refillComputations (limiter.buckets index) nowMs,
    FitsInt32 value
  take_fits : ∀ sourceId allocMs index,
    (limiter.findOrAllocate sourceId allocMs).1 = some index →
    ∀ value ∈ takeComputations ((limiter.findOrAllocate sourceId allocMs).2.buckets index),
      FitsInt32 value
  accounted : ∀ index, (limiter.buckets index).active = true →
    (limiter.buckets index).passCount + (limiter.buckets index).dropCount =
      BitVec.ofNat 32 (asked index)
  full : ∀ sourceId allocMs seenMs,
    (limiter.admitSource sourceId allocMs seenMs).1 = .error .registryFull →
    (limiter.admitSource sourceId allocMs seenMs).2 = limiter ∧
      ∀ index, (limiter.buckets index).active = true ∧
        (limiter.buckets index).sourceId ≠ sourceId
  evicts : ∀ nowMs index,
    ((limiter.buckets index).Stale nowMs →
      ((limiter.evictIdle nowMs).buckets index).active = false) ∧
    (¬ (limiter.buckets index).Stale nowMs →
      (limiter.evictIdle nowMs).buckets index = limiter.buckets index)

theorem takeToken_not_full (bucket : TokenBucket) (seenMs : Nat) :
    (takeToken bucket seenMs).1 ≠ .error .registryFull := by
  unfold takeToken
  split
  · exact fun same => nomatch same
  · exact fun same => nomatch same

/-- A full table refuses a source without writing anything, and only then. -/
theorem registryFull_only (tracking : limiter.Tracking) {sourceId : BitVec 32}
    {allocMs seenMs : Nat}
    (refused : (limiter.admitSource sourceId allocMs seenMs).1 = .error .registryFull) :
    (limiter.admitSource sourceId allocMs seenMs).2 = limiter ∧
      ∀ index, (limiter.buckets index).active = true ∧
        (limiter.buckets index).sourceId ≠ sourceId := by
  rcases admitSource_cases tracking sourceId allocMs seenMs with
    ⟨index, -, -, admits⟩ | ⟨index, -, -, -, admits⟩ | ⟨-, active, untracked, admits⟩
  · rw [admits] at refused
    exact absurd refused (takeToken_not_full _ _)
  · rw [admits] at refused
    exact absurd refused (takeToken_not_full _ _)
  · rw [admits]
    exact ⟨rfl, fun index => ⟨active index, fun same => untracked index ⟨active index, same⟩⟩⟩

/-- The inductive part of the guarantees. -/
structure TableKept (current : RateLimiter × (Fin maxTrackedSources → Nat)) : Prop where
  tracking : current.1.Tracking
  bounded : ∀ index, (current.1.buckets index).Bounded
  balanced : ∀ index, (current.1.buckets index).Balanced (current.2 index)

theorem TableKept.step {current : RateLimiter × (Fin maxTrackedSources → Nat)}
    (kept : TableKept current) (call : RateLimiterCall) :
    TableKept ((machine.withGhost countAsked).step current call).2 where
  tracking := step_tracking kept.tracking call
  bounded index := (step_slot kept.tracking call index).bounded (kept.bounded index)
  balanced index := (step_slot kept.tracking call index).balanced (kept.balanced index)

theorem run_tableKept (initMs : Nat) (calls : List RateLimiterCall) :
    TableKept ((machine.withGhost countAsked).run ((construct.init initMs).2, fun _ => 0) calls) :=
  (machine.withGhost countAsked).run_preserves
    ⟨started_tracking initMs, fun _ => ⟨burstCapacity_held, le_refl _⟩, fun _ => rfl⟩
    (fun _ call kept => kept.step call) calls

theorem TableKept.sound {current : RateLimiter × (Fin maxTrackedSources → Nat)}
    (kept : TableKept current) : current.1.SoundTable current.2 where
  single left right atLeft atRight same :=
    kept.tracking.single _ left right ⟨atLeft, same⟩ ⟨atRight, rfl⟩
  bounded := kept.bounded
  refill_fits index nowMs := (kept.bounded index).refill_fits nowMs
  take_fits sourceId allocMs index located := by
    have bounded : ((current.1.findOrAllocate sourceId allocMs).2.buckets index).Bounded := by
      unfold findOrAllocate at located ⊢
      cases search : current.1.find sourceId with
      | some found => exact kept.bounded index
      | none =>
          cases room : current.1.free with
          | none => exact kept.bounded index
          | some slot =>
              simp only [search, room, Option.some.injEq] at located
              subst located
              simp only [store_same]
              exact ⟨burstCapacity_held, le_refl _⟩
    exact bounded.take_fits
  accounted index active :=
    (TokenBucket.balanced_of_active active).1 (kept.balanced index)
  full sourceId allocMs seenMs refused := registryFull_only kept.tracking refused
  evicts nowMs index := by
    obtain ⟨stale, freed⟩ | ⟨recent, same⟩ := evictIdle_slot kept.tracking nowMs index
    · rw [freed]
      exact ⟨fun _ => rfl, fun other => absurd stale other⟩
    · exact ⟨fun stale => absurd stale recent, fun _ => same⟩

/-- After `Init` and any calls with any clock readings the table keeps its guarantees. -/
theorem table_sound (initMs : Nat) (calls : List RateLimiterCall) :
    (machine.run (construct.init initMs).2 calls).SoundTable
      (askedSinceAllocation (construct.init initMs).2 calls) := by
  have sound := (run_tableKept initMs calls).sound
  rw [machine.withGhost_run_fst] at sound
  exact sound

end RateLimiter

end SoaGateway.Network
