import SoaGateway.Foundation.TokenBucket
import SoaGateway.Network.RateLimiter

/-! The rate limiter against its policy: the slot of each source is one token bucket,
which neither the other sources nor a move to another slot can touch. -/

set_option autoImplicit false

namespace SoaGateway.Network

open Foundation
open Foundation.TokenBucket (Policy Account Event grantedWithin)

def policy : Policy where
  capacity := burstCapacity.toNat
  rate := refillRatePerMs.toNat
  clamp := 1000
  idle := sourceEvictAfterMs
  clamp_enough := by decide
  idle_enough := by decide

theorem burstCapacity_held : 0 ≤ burstCapacity := by decide

namespace TokenBucket

variable {bucket : TokenBucket}

def account (bucket : TokenBucket) : Account where
  tokens := bucket.tokens.toNat
  lastRefill := bucket.lastRefillMs
  lastSeen := bucket.lastSeenMs

def Tracks (bucket : TokenBucket) (sourceId : BitVec 32) : Prop :=
  bucket.active = true ∧ bucket.sourceId = sourceId

theorem refillBucket_tracks (nowMs : Nat) (sourceId : BitVec 32) :
    (refillBucket bucket nowMs).Tracks sourceId ↔ bucket.Tracks sourceId := by
  unfold refillBucket
  split
  · rfl
  · rfl

theorem refillBucket_tokens (held : 0 ≤ bucket.tokens) (nowMs : Nat) :
    0 ≤ (refillBucket bucket nowMs).tokens := by
  unfold refillBucket
  split
  · exact held
  · simp only [burstCapacity, refillRatePerMs]
    split_ifs <;> omega

theorem refillBucket_account (held : 0 ≤ bucket.tokens) (nowMs : Nat) :
    (refillBucket bucket nowMs).account = policy.credit bucket.account nowMs := by
  unfold refillBucket Policy.credit
  by_cases early : nowMs ≤ bucket.lastRefillMs
  · simp [account, early]
  · have clamped : (if nowMs - bucket.lastRefillMs > 1000 then 1000
        else nowMs - bucket.lastRefillMs) = min (nowMs - bucket.lastRefillMs) 1000 := by
      split <;> omega
    simp only [account, early, ↓reduceIte, clamped, policy, burstCapacity, refillRatePerMs,
      Int.reduceToNat, Account.mk.injEq, and_self, and_true]
    split <;> omega

theorem takeToken_tracks {sourceId : BitVec 32} (tracks : bucket.Tracks sourceId)
    (seenMs : Nat) : (takeToken bucket seenMs).2.Tracks sourceId := by
  unfold takeToken
  split
  · exact tracks
  · exact tracks

theorem takeToken_tokens (held : 0 ≤ bucket.tokens) (seenMs : Nat) :
    0 ≤ (takeToken bucket seenMs).2.tokens := by
  unfold takeToken
  split
  · exact held
  · dsimp only
    omega

theorem takeToken_account (seenMs : Nat) :
    ((takeToken bucket seenMs).1.isOk, (takeToken bucket seenMs).2.account) =
      bucket.account.spend seenMs := by
  unfold takeToken Account.spend
  split
  · next empty =>
      have spent : bucket.tokens.toNat = 0 := Int.toNat_of_nonpos empty
      simp [account, spent]
  · next left =>
      have positive : 0 < bucket.tokens.toNat := by omega
      have taken : (bucket.tokens - 1).toNat = bucket.tokens.toNat - 1 := by omega
      simp [account, positive, taken]

end TokenBucket

/-- A slot that an eviction has freed. -/
def TokenBucket.released (bucket : TokenBucket) : TokenBucket :=
  { bucket with
    sourceId := invalidSourceId
    tokens := burstCapacity
    dropCount := 0
    passCount := 0
    active := false }

/-- Last seen too long ago, behind the guard against a clock that went back. -/
def TokenBucket.Stale (bucket : TokenBucket) (nowMs : Nat) : Prop :=
  bucket.active = true ∧ bucket.lastSeenMs ≤ nowMs ∧
    sourceEvictAfterMs < nowMs - bucket.lastSeenMs

theorem firstSlot_some {condition : Fin maxTrackedSources → Bool}
    {index : Fin maxTrackedSources} (found : firstSlot condition = some index) :
    condition index = true :=
  List.find?_some found

theorem firstSlot_none {condition : Fin maxTrackedSources → Bool}
    (none : firstSlot condition = none) (index : Fin maxTrackedSources) :
    condition index = false :=
  Bool.eq_false_iff.2 (List.find?_eq_none.1 none index (List.mem_finRange index))

namespace RateLimiter

variable {limiter after : RateLimiter} {sourceId other : BitVec 32}
  {index : Fin maxTrackedSources}

def account (limiter : RateLimiter) (sourceId : BitVec 32) : Option Account :=
  (limiter.find sourceId).map fun index => (limiter.buckets index).account

/-- The bucket that tracks a source. -/
def bucketOf (limiter : RateLimiter) (sourceId : BitVec 32) : Option TokenBucket :=
  (limiter.find sourceId).map limiter.buckets

theorem account_eq_map :
    limiter.account sourceId = (limiter.bucketOf sourceId).map TokenBucket.account := by
  unfold account bucketOf
  rw [Option.map_map]
  rfl

/-- An initialised limiter tracks each source in one slot at most. -/
structure Tracking (limiter : RateLimiter) : Prop where
  initialised : limiter.initialised = true
  single : ∀ sourceId left right, (limiter.buckets left).Tracks sourceId →
    (limiter.buckets right).Tracks sourceId → left = right
  held : ∀ index, 0 ≤ (limiter.buckets index).tokens

theorem find_some (found : limiter.find sourceId = some index) :
    (limiter.buckets index).Tracks sourceId := by
  have met := firstSlot_some found
  simpa [TokenBucket.Tracks] using met

theorem find_none (none : limiter.find sourceId = none) (index : Fin maxTrackedSources) :
    ¬ (limiter.buckets index).Tracks sourceId := by
  have unmet := firstSlot_none none index
  simpa [TokenBucket.Tracks] using unmet

theorem free_some (found : limiter.free = some index) :
    (limiter.buckets index).active = false := by
  have met := firstSlot_some found
  simpa using met

namespace Tracking

theorem find_eq (tracking : limiter.Tracking) (tracks : (limiter.buckets index).Tracks sourceId) :
    limiter.find sourceId = some index := by
  cases search : limiter.find sourceId with
  | none => exact absurd tracks (find_none search index)
  | some found => rw [tracking.single sourceId found index (find_some search) tracks]

theorem bucketOf_eq (tracking : limiter.Tracking)
    (tracks : (limiter.buckets index).Tracks sourceId) :
    limiter.bucketOf sourceId = some (limiter.buckets index) := by
  unfold bucketOf
  rw [tracking.find_eq tracks]
  rfl

theorem account_eq (tracking : limiter.Tracking)
    (tracks : (limiter.buckets index).Tracks sourceId) :
    limiter.account sourceId = some (limiter.buckets index).account := by
  rw [account_eq_map, tracking.bucketOf_eq tracks]
  rfl

end Tracking

theorem bucketOf_none (untracked : ∀ index, ¬ (limiter.buckets index).Tracks sourceId) :
    limiter.bucketOf sourceId = none := by
  unfold bucketOf
  cases search : limiter.find sourceId with
  | none => rfl
  | some found => exact absurd (find_some search) (untracked found)

theorem bucketOf_some {bucket : TokenBucket} (tracked : limiter.bucketOf sourceId = some bucket) :
    ∃ index, limiter.find sourceId = some index ∧ limiter.buckets index = bucket :=
  Option.map_eq_some_iff.1 tracked

theorem account_none (untracked : ∀ index, ¬ (limiter.buckets index).Tracks sourceId) :
    limiter.account sourceId = none := by
  rw [account_eq_map, bucketOf_none untracked]
  rfl

/-- A call writes the slot of a source, which it may have found free. -/
structure Writes (limiter after : RateLimiter) (sourceId : BitVec 32)
    (index : Fin maxTrackedSources) : Prop where
  initialised : after.initialised = limiter.initialised
  others : ∀ other, other ≠ index → after.buckets other = limiter.buckets other
  tracks : (after.buckets index).Tracks sourceId
  held : 0 ≤ (after.buckets index).tokens
  slot : (limiter.buckets index).active = true → (limiter.buckets index).Tracks sourceId
  single : ∀ other, (limiter.buckets other).Tracks sourceId → other = index

namespace Writes

theorem tracks_iff (writes : limiter.Writes after sourceId index) (slot : Fin maxTrackedSources) :
    (after.buckets slot).Tracks sourceId ↔ slot = index := by
  constructor
  · intro tracks
    by_cases here : slot = index
    · exact here
    · rw [writes.others slot here] at tracks
      exact writes.single slot tracks
  · intro here
    rw [here]
    exact writes.tracks

theorem tracks_other_iff (writes : limiter.Writes after sourceId index)
    (differs : other ≠ sourceId) (slot : Fin maxTrackedSources) :
    (after.buckets slot).Tracks other ↔ (limiter.buckets slot).Tracks other := by
  by_cases here : slot = index
  · subst here
    constructor
    · intro tracks
      exact absurd (tracks.2.symm.trans writes.tracks.2) differs
    · intro tracks
      exact absurd (tracks.2.symm.trans (writes.slot tracks.1).2) differs
  · rw [writes.others slot here]

theorem tracking (writes : limiter.Writes after sourceId index) (before : limiter.Tracking) :
    after.Tracking where
  initialised := writes.initialised.trans before.initialised
  single := by
    intro tracked left right atLeft atRight
    by_cases same : tracked = sourceId
    · subst same
      exact ((writes.tracks_iff left).1 atLeft).trans ((writes.tracks_iff right).1 atRight).symm
    · exact before.single tracked left right ((writes.tracks_other_iff same left).1 atLeft)
        ((writes.tracks_other_iff same right).1 atRight)
  held := by
    intro slot
    by_cases here : slot = index
    · rw [here]
      exact writes.held
    · rw [writes.others slot here]
      exact before.held slot

theorem account_eq (writes : limiter.Writes after sourceId index) (before : limiter.Tracking) :
    after.account sourceId = some (after.buckets index).account :=
  (writes.tracking before).account_eq writes.tracks

theorem bucketOf_other (writes : limiter.Writes after sourceId index)
    (before : limiter.Tracking) (differs : other ≠ sourceId) :
    after.bucketOf other = limiter.bucketOf other := by
  cases search : limiter.find other with
  | none =>
      have untracked := find_none search
      rw [bucketOf_none untracked, bucketOf_none fun slot tracks =>
        untracked slot ((writes.tracks_other_iff differs slot).1 tracks)]
  | some slot =>
      have tracks := find_some search
      have elsewhere : slot ≠ index := by
        intro here
        subst here
        exact differs (tracks.2.symm.trans (writes.slot tracks.1).2)
      rw [before.bucketOf_eq tracks,
        (writes.tracking before).bucketOf_eq ((writes.tracks_other_iff differs slot).2 tracks),
        writes.others slot elsewhere]

theorem account_other (writes : limiter.Writes after sourceId index) (before : limiter.Tracking)
    (differs : other ≠ sourceId) : after.account other = limiter.account other := by
  rw [account_eq_map, account_eq_map, writes.bucketOf_other before differs]

end Writes

theorem store_same (index : Fin maxTrackedSources) (bucket : TokenBucket) :
    (limiter.store index bucket).buckets index = bucket :=
  Function.update_self _ _ _

theorem store_other {slot : Fin maxTrackedSources} (differs : slot ≠ index)
    (bucket : TokenBucket) : (limiter.store index bucket).buckets slot = limiter.buckets slot :=
  Function.update_of_ne differs _ _

theorem store_writes {bucket : TokenBucket} (tracks : bucket.Tracks sourceId)
    (held : 0 ≤ bucket.tokens)
    (slot : (limiter.buckets index).active = true → (limiter.buckets index).Tracks sourceId)
    (single : ∀ other, (limiter.buckets other).Tracks sourceId → other = index) :
    limiter.Writes (limiter.store index bucket) sourceId index where
  initialised := rfl
  others other differs := store_other differs bucket
  tracks := by rwa [store_same]
  held := by rwa [store_same]
  slot := slot
  single := single

/-- What an admission does: it serves the slot that tracks the source, opens a free slot for
it, or finds the table full. -/
theorem admitSource_cases (tracking : limiter.Tracking) (sourceId : BitVec 32)
    (allocMs seenMs : Nat) :
    (∃ index, (limiter.findOrAllocate sourceId allocMs).1 = some index ∧
        (limiter.buckets index).Tracks sourceId ∧
        limiter.admitSource sourceId allocMs seenMs =
          ((takeToken (limiter.buckets index) seenMs).1,
            limiter.store index (takeToken (limiter.buckets index) seenMs).2)) ∨
      (∃ index, (limiter.findOrAllocate sourceId allocMs).1 = some index ∧
        (limiter.buckets index).active = false ∧
        (∀ other, ¬ (limiter.buckets other).Tracks sourceId) ∧
        limiter.admitSource sourceId allocMs seenMs =
          ((takeToken (allocated sourceId allocMs) seenMs).1,
            limiter.store index (takeToken (allocated sourceId allocMs) seenMs).2)) ∨
      ((limiter.findOrAllocate sourceId allocMs).1 = none ∧
        (∀ index, (limiter.buckets index).active = true) ∧
        (∀ other, ¬ (limiter.buckets other).Tracks sourceId) ∧
        limiter.admitSource sourceId allocMs seenMs = (.error .registryFull, limiter)) := by
  cases search : limiter.find sourceId with
  | some index =>
      refine .inl ⟨index, by simp [findOrAllocate, search], find_some search, ?_⟩
      simp [admitSource, findOrAllocate, search, tracking.initialised]
  | none =>
      have untracked := find_none search
      cases room : limiter.free with
      | some index =>
          refine .inr (.inl ⟨index, ?_, free_some room, untracked, ?_⟩)
          · simp [findOrAllocate, search, room]
          · simp [admitSource, findOrAllocate, search, room, tracking.initialised, store]
      | none =>
          refine .inr (.inr ⟨by simp [findOrAllocate, search, room], ?_, untracked, ?_⟩)
          · intro index
            simpa using firstSlot_none room index
          · simp [admitSource, findOrAllocate, search, room, tracking.initialised]

theorem admitSource_served (tracking : limiter.Tracking) (allocMs seenMs : Nat)
    (tracks : (limiter.buckets index).Tracks sourceId) :
    limiter.admitSource sourceId allocMs seenMs =
      ((takeToken (limiter.buckets index) seenMs).1,
        limiter.store index (takeToken (limiter.buckets index) seenMs).2) := by
  rcases admitSource_cases tracking sourceId allocMs seenMs with
    ⟨found, -, tracked, admits⟩ | ⟨-, -, -, untracked, -⟩ | ⟨-, -, untracked, -⟩
  · rw [tracking.single sourceId index found tracks tracked]
    exact admits
  · exact absurd tracks (untracked index)
  · exact absurd tracks (untracked index)

/-- An admission that finds or allocates a slot spends from the account of the source,
opening it if need be. -/
theorem admitSource_spends (tracking : limiter.Tracking) {allocMs : Nat} (seenMs : Nat)
    (found : (limiter.findOrAllocate sourceId allocMs).1.isSome = true) :
    ∃ index, limiter.Writes (limiter.admitSource sourceId allocMs seenMs).2 sourceId index ∧
      ((limiter.admitSource sourceId allocMs seenMs).1.isOk,
          ((limiter.admitSource sourceId allocMs seenMs).2.buckets index).account) =
        ((limiter.account sourceId).getD (policy.opened allocMs)).spend seenMs := by
  rcases admitSource_cases tracking sourceId allocMs seenMs with
    ⟨index, -, tracks, admits⟩ | ⟨index, -, unused, untracked, admits⟩ | ⟨full, -⟩
  · refine ⟨index, ?_, ?_⟩
    · rw [admits]
      exact store_writes (TokenBucket.takeToken_tracks tracks seenMs)
        (TokenBucket.takeToken_tokens (tracking.held index) seenMs) (fun _ => tracks)
        (fun other tracked => tracking.single sourceId other index tracked tracks)
    · rw [admits, tracking.account_eq tracks, store_same, Option.getD_some]
      exact TokenBucket.takeToken_account seenMs
  · refine ⟨index, ?_, ?_⟩
    · rw [admits]
      exact store_writes (TokenBucket.takeToken_tracks ⟨rfl, rfl⟩ seenMs)
        (TokenBucket.takeToken_tokens burstCapacity_held seenMs)
        (fun active => absurd (unused.symm.trans active) Bool.false_ne_true)
        (fun other tracked => absurd tracked (untracked other))
    · rw [admits, account_none untracked, store_same, Option.getD_none]
      exact TokenBucket.takeToken_account seenMs
  · rw [full] at found
    cases found

theorem admitSource_full (tracking : limiter.Tracking) {allocMs seenMs : Nat}
    (full : (limiter.findOrAllocate sourceId allocMs).1.isSome = false) :
    limiter.admitSource sourceId allocMs seenMs = (.error .registryFull, limiter) := by
  rcases admitSource_cases tracking sourceId allocMs seenMs with
    ⟨index, located, -⟩ | ⟨index, located, -⟩ | ⟨-, -, -, refuses⟩
  · rw [located] at full
    cases full
  · rw [located] at full
    cases full
  · exact refuses

theorem refillAll_buckets (tracking : limiter.Tracking) (nowMs : Nat)
    (index : Fin maxTrackedSources) :
    (limiter.refillAll nowMs).buckets index =
      if (limiter.buckets index).active then refillBucket (limiter.buckets index) nowMs
      else limiter.buckets index := by
  simp [refillAll, tracking.initialised]

theorem refillAll_tracks_iff (tracking : limiter.Tracking) (nowMs : Nat)
    (index : Fin maxTrackedSources) :
    ((limiter.refillAll nowMs).buckets index).Tracks sourceId ↔
      (limiter.buckets index).Tracks sourceId := by
  rw [refillAll_buckets tracking]
  split
  · exact TokenBucket.refillBucket_tracks nowMs sourceId
  · rfl

theorem refillAll_tracking (tracking : limiter.Tracking) (nowMs : Nat) :
    (limiter.refillAll nowMs).Tracking where
  initialised := by simp [refillAll, tracking.initialised]
  single sourceId left right atLeft atRight :=
    tracking.single sourceId left right ((refillAll_tracks_iff tracking nowMs left).1 atLeft)
      ((refillAll_tracks_iff tracking nowMs right).1 atRight)
  held := by
    intro index
    rw [refillAll_buckets tracking]
    split
    · exact TokenBucket.refillBucket_tokens (tracking.held index) nowMs
    · exact tracking.held index

theorem refillAll_bucketOf (tracking : limiter.Tracking) (nowMs : Nat) (sourceId : BitVec 32) :
    (limiter.refillAll nowMs).bucketOf sourceId =
      (limiter.bucketOf sourceId).map fun bucket => refillBucket bucket nowMs := by
  cases search : limiter.find sourceId with
  | none =>
      have untracked := find_none search
      rw [bucketOf_none untracked, bucketOf_none fun index tracks =>
        untracked index ((refillAll_tracks_iff tracking nowMs index).1 tracks)]
      rfl
  | some index =>
      have tracks := find_some search
      rw [tracking.bucketOf_eq tracks, (refillAll_tracking tracking nowMs).bucketOf_eq
        ((refillAll_tracks_iff tracking nowMs index).2 tracks), refillAll_buckets tracking,
        if_pos tracks.1]
      rfl

theorem refillAll_account (tracking : limiter.Tracking) (nowMs : Nat) (sourceId : BitVec 32) :
    (limiter.refillAll nowMs).account sourceId =
      (limiter.account sourceId).map fun held => policy.credit held nowMs := by
  rw [account_eq_map, account_eq_map, refillAll_bucketOf tracking]
  cases tracked : limiter.bucketOf sourceId with
  | none => rfl
  | some bucket =>
      obtain ⟨index, -, rfl⟩ := bucketOf_some tracked
      exact congrArg some (TokenBucket.refillBucket_account (tracking.held index) nowMs)

/-- What an eviction does to a slot: it frees the stale ones and no other. -/
theorem evictIdle_slot (tracking : limiter.Tracking) (nowMs : Nat)
    (index : Fin maxTrackedSources) :
    ((limiter.buckets index).Stale nowMs ∧
        (limiter.evictIdle nowMs).buckets index = (limiter.buckets index).released) ∨
      (¬ (limiter.buckets index).Stale nowMs ∧
        (limiter.evictIdle nowMs).buckets index = limiter.buckets index) := by
  simp only [evictIdle, tracking.initialised, Bool.not_true, Bool.false_eq_true, ↓reduceIte,
    TokenBucket.Stale]
  cases activity : (limiter.buckets index).active with
  | false => simp
  | true =>
      simp only [Bool.not_true, Bool.false_eq_true, ↓reduceIte, true_and]
      split
      · next past => exact .inl ⟨past, rfl⟩
      · next recent => exact .inr ⟨recent, rfl⟩

def Idle (bucket : TokenBucket) (nowMs : Nat) : Prop :=
  sourceEvictAfterMs < nowMs - bucket.lastSeenMs

/-- An idle slot ends up free, whether it was in use or not, and any other is kept. -/
theorem evictIdle_cases (tracking : limiter.Tracking) (nowMs : Nat)
    (index : Fin maxTrackedSources) :
    (Idle (limiter.buckets index) nowMs ∧
        ((limiter.evictIdle nowMs).buckets index).active = false ∧
        0 ≤ ((limiter.evictIdle nowMs).buckets index).tokens) ∨
      (¬ Idle (limiter.buckets index) nowMs ∧
        (limiter.evictIdle nowMs).buckets index = limiter.buckets index) := by
  rcases evictIdle_slot tracking nowMs index with ⟨stale, freed⟩ | ⟨fresh, same⟩
  · rw [freed]
    exact .inl ⟨stale.2.2, rfl, burstCapacity_held⟩
  · rw [same]
    by_cases idle : Idle (limiter.buckets index) nowMs
    · have seen : (limiter.buckets index).lastSeenMs ≤ nowMs := by
        unfold Idle at idle
        omega
      have unused : (limiter.buckets index).active = false :=
        Bool.eq_false_iff.2 fun active => fresh ⟨active, seen, idle⟩
      exact .inl ⟨idle, unused, tracking.held index⟩
    · exact .inr ⟨idle, rfl⟩

theorem evictIdle_tracks_iff (tracking : limiter.Tracking) (nowMs : Nat)
    (index : Fin maxTrackedSources) :
    ((limiter.evictIdle nowMs).buckets index).Tracks sourceId ↔
      (limiter.buckets index).Tracks sourceId ∧ ¬ Idle (limiter.buckets index) nowMs := by
  obtain ⟨idle, evicted, -⟩ | ⟨recent, kept⟩ := evictIdle_cases tracking nowMs index
  · simp [TokenBucket.Tracks, evicted, idle]
  · rw [kept]
    simp [recent]

theorem evictIdle_tracking (tracking : limiter.Tracking) (nowMs : Nat) :
    (limiter.evictIdle nowMs).Tracking where
  initialised := by simp [evictIdle, tracking.initialised]
  single sourceId left right atLeft atRight :=
    tracking.single sourceId left right ((evictIdle_tracks_iff tracking nowMs left).1 atLeft).1
      ((evictIdle_tracks_iff tracking nowMs right).1 atRight).1
  held := by
    intro index
    obtain ⟨-, -, full⟩ | ⟨-, kept⟩ := evictIdle_cases tracking nowMs index
    · exact full
    · rw [kept]
      exact tracking.held index

theorem evictIdle_bucketOf (tracking : limiter.Tracking) (nowMs : Nat) (sourceId : BitVec 32) :
    (limiter.evictIdle nowMs).bucketOf sourceId =
      (limiter.bucketOf sourceId).filter fun bucket =>
        !decide (sourceEvictAfterMs < nowMs - bucket.lastSeenMs) := by
  have after := evictIdle_tracking tracking nowMs
  cases search : limiter.find sourceId with
  | none =>
      have untracked := find_none search
      rw [bucketOf_none untracked, bucketOf_none fun index tracks =>
        untracked index ((evictIdle_tracks_iff tracking nowMs index).1 tracks).1]
      rfl
  | some index =>
      have tracks := find_some search
      rw [tracking.bucketOf_eq tracks]
      obtain ⟨idle, -⟩ | ⟨recent, kept⟩ := evictIdle_cases tracking nowMs index
      · have gone : ∀ other, ¬ ((limiter.evictIdle nowMs).buckets other).Tracks sourceId := by
          intro other present
          have earlier := (evictIdle_tracks_iff tracking nowMs other).1 present
          rw [tracking.single sourceId other index earlier.1 tracks] at earlier
          exact earlier.2 idle
        rw [bucketOf_none gone]
        simp only [Idle] at idle
        simp [Option.filter_some, idle]
      · rw [after.bucketOf_eq ((evictIdle_tracks_iff tracking nowMs index).2 ⟨tracks, recent⟩),
          kept]
        simp only [Idle] at recent
        simp [Option.filter_some, recent]

theorem evictIdle_account (tracking : limiter.Tracking) (nowMs : Nat) (sourceId : BitVec 32) :
    (limiter.evictIdle nowMs).account sourceId =
      (limiter.account sourceId).filter fun held =>
        !decide (policy.idle < nowMs - held.lastSeen) := by
  rw [account_eq_map, account_eq_map, evictIdle_bucketOf tracking]
  cases tracked : limiter.bucketOf sourceId with
  | none => rfl
  | some bucket =>
      by_cases idle : sourceEvictAfterMs < nowMs - bucket.lastSeenMs <;>
        simp [Option.filter_some, TokenBucket.account, policy, idle]

end RateLimiter

end SoaGateway.Network
