import Mathlib.Data.Set.Card
import SoaGateway.Network.TableInvariant

/-! What the diagnostics of the limiter say about its history. A source is in session from the
first admission that finds a slot to the eviction that finds it idle; the table holds the
sources in session and no others. -/

set_option autoImplicit false

namespace SoaGateway.Network

open Foundation

structure RateLimiterStats where
  sourceId : BitVec 32
  tokens : Int
  dropCount : BitVec 32
  passCount : BitVec 32
  active : Bool
deriving DecidableEq, Repr

def RateLimiterStats.unset : RateLimiterStats where
  sourceId := invalidSourceId
  tokens := 0
  dropCount := 0
  passCount := 0
  active := false

namespace RateLimiter

def getStats (limiter : RateLimiter) (sourceId : BitVec 32) : Bool × RateLimiterStats :=
  match limiter.find sourceId with
  | some index =>
      let bucket := limiter.buckets index
      (true, {
        sourceId, tokens := bucket.tokens, dropCount := bucket.dropCount
        passCount := bucket.passCount, active := true })
  | none => (false, .unset)

def activeSourceCount (limiter : RateLimiter) : Byte :=
  (List.finRange maxTrackedSources).foldl
    (fun count index => if (limiter.buckets index).active then count + 1 else count) 0

end RateLimiter

abbrev LimiterTrace := List (RateLimiterCall × VoidResult)

/-- What a source has done since it was given a slot. -/
structure Session where
  lastSeenMs : Nat
  passed : Nat
  dropped : Nat
deriving DecidableEq, Repr

namespace Session

def opened : Session := { lastSeenMs := 0, passed := 0, dropped := 0 }

def served (session : Session) (seenMs : Nat) (result : VoidResult) : Session where
  lastSeenMs := seenMs
  passed := session.passed + if result.isOk then 1 else 0
  dropped := session.dropped + if result.isOk then 0 else 1

/-- What one answered call makes of the session of a source. -/
def next (sourceId : BitVec 32) (session : Option Session) (entry : RateLimiterCall × VoidResult) :
    Option Session :=
  match entry.1 with
  | .admitSource caller _ seenMs =>
      if caller = sourceId ∧ entry.2 ≠ .error .registryFull then
        some ((session.getD opened).served seenMs entry.2)
      else session
  | .evictIdle nowMs =>
      session.filter fun held => !decide (sourceEvictAfterMs < nowMs - held.lastSeenMs)
  | _ => session

end Session

/-- The session of a source after a trace, if it is in one. -/
def session (sourceId : BitVec 32) (trace : LimiterTrace) : Option Session :=
  trace.foldl (Session.next sourceId) none

def inSession (trace : LimiterTrace) : Set (BitVec 32) :=
  { sourceId | (session sourceId trace).isSome }

theorem session_concat (sourceId : BitVec 32) (trace : LimiterTrace)
    (entry : RateLimiterCall × VoidResult) :
    session sourceId (trace ++ [entry]) = Session.next sourceId (session sourceId trace) entry := by
  simp [session]

namespace TokenBucket

variable {bucket : TokenBucket}

/-- What a bucket and a session have in common. -/
def summary (bucket : TokenBucket) : Nat × BitVec 32 × BitVec 32 :=
  (bucket.lastSeenMs, bucket.passCount, bucket.dropCount)

theorem refillBucket_summary (nowMs : Nat) : (refillBucket bucket nowMs).summary = bucket.summary := by
  unfold refillBucket
  split
  · rfl
  · rfl

end TokenBucket

namespace Session

variable {session : Session}

def summary (session : Session) : Nat × BitVec 32 × BitVec 32 :=
  (session.lastSeenMs, BitVec.ofNat 32 session.passed, BitVec.ofNat 32 session.dropped)

/-- Serving a request counts the same in the bucket and in the session. -/
theorem served_summary {bucket : TokenBucket}
    (passed : bucket.passCount = BitVec.ofNat 32 session.passed)
    (dropped : bucket.dropCount = BitVec.ofNat 32 session.dropped) (seenMs : Nat) :
    (takeToken bucket seenMs).2.summary =
      (session.served seenMs (takeToken bucket seenMs).1).summary := by
  unfold takeToken
  split
  · simp [TokenBucket.summary, summary, served, passed, dropped, BitVec.ofNat_add]
  · simp [TokenBucket.summary, summary, served, passed, dropped, BitVec.ofNat_add]

end Session

namespace RateLimiter

variable {limiter : RateLimiter} {trace : LimiterTrace} {sourceId : BitVec 32}

/-- The buckets of the table summarise the sessions of the sources. -/
structure Recorded (limiter : RateLimiter) (trace : LimiterTrace) : Prop where
  tracking : limiter.Tracking
  summaries : ∀ sourceId,
    (limiter.bucketOf sourceId).map TokenBucket.summary =
      (session sourceId trace).map Session.summary

namespace Recorded

theorem isSome_iff (recorded : limiter.Recorded trace) (sourceId : BitVec 32) :
    (session sourceId trace).isSome = (limiter.bucketOf sourceId).isSome := by
  have same := congrArg Option.isSome (recorded.summaries sourceId)
  rwa [Option.isSome_map, Option.isSome_map, eq_comm] at same

/-- A refusal for want of a slot changes no session, and any other admission serves the caller. -/
theorem next_admission (sourceId caller : BitVec 32) (allocMs seenMs : Nat) (result : VoidResult)
    (held : Option Session) :
    Session.next sourceId held (.admitSource caller allocMs seenMs, result) =
      if caller = sourceId ∧ result ≠ .error .registryFull then
        some ((held.getD .opened).served seenMs result)
      else held := rfl

theorem admitted (recorded : limiter.Recorded trace) {caller : BitVec 32} {allocMs seenMs : Nat}
    {index : Fin maxTrackedSources} {bucket : TokenBucket}
    (admits : limiter.admitSource caller allocMs seenMs =
      ((takeToken bucket seenMs).1, limiter.store index (takeToken bucket seenMs).2))
    (writes : limiter.Writes (limiter.store index (takeToken bucket seenMs).2) caller index)
    (counted : bucket.summary.2 = (((session caller trace).getD .opened).summary).2) :
    (limiter.admitSource caller allocMs seenMs).2.Recorded
      (trace ++ [(.admitSource caller allocMs seenMs,
        (limiter.admitSource caller allocMs seenMs).1)]) := by
  rw [admits]
  refine ⟨writes.tracking recorded.tracking, fun sourceId => ?_⟩
  rw [session_concat, next_admission]
  by_cases same : caller = sourceId
  · subst same
    have own : (limiter.store index (takeToken bucket seenMs).2).bucketOf caller =
        some (takeToken bucket seenMs).2 := by
      rw [(writes.tracking recorded.tracking).bucketOf_eq writes.tracks, store_same]
    obtain ⟨passed, dropped⟩ := Prod.mk.inj counted
    rw [own, if_pos ⟨rfl, takeToken_not_full bucket seenMs⟩]
    exact congrArg some (Session.served_summary passed dropped seenMs)
  · rw [writes.bucketOf_other recorded.tracking (Ne.symm same), if_neg fun both => same both.1]
    exact recorded.summaries sourceId

theorem admitSource (recorded : limiter.Recorded trace) (caller : BitVec 32)
    (allocMs seenMs : Nat) :
    (limiter.admitSource caller allocMs seenMs).2.Recorded
      (trace ++ [(.admitSource caller allocMs seenMs,
        (limiter.admitSource caller allocMs seenMs).1)]) := by
  have tracking := recorded.tracking
  have known := recorded.summaries caller
  rcases admitSource_cases tracking caller allocMs seenMs with
    ⟨index, -, tracks, admits⟩ | ⟨index, -, unused, untracked, admits⟩ | ⟨-, -, -, admits⟩
  · refine recorded.admitted admits ?_ ?_
    · exact store_writes (TokenBucket.takeToken_tracks tracks seenMs)
        (TokenBucket.takeToken_tokens (tracking.held index) seenMs) (fun _ => tracks)
        (fun other tracked => tracking.single caller other index tracked tracks)
    · rw [tracking.bucketOf_eq tracks] at known
      obtain ⟨held, found, same⟩ := Option.map_eq_some_iff.1 known.symm
      rw [found, Option.getD_some, same]
  · refine recorded.admitted admits ?_ ?_
    · exact store_writes (TokenBucket.takeToken_tracks ⟨rfl, rfl⟩ seenMs)
        (TokenBucket.takeToken_tokens burstCapacity_held seenMs)
        (fun active => absurd (unused.symm.trans active) Bool.false_ne_true)
        (fun other tracked => absurd tracked (untracked other))
    · rw [bucketOf_none untracked] at known
      rw [Option.map_eq_none_iff.1 known.symm]
      rfl
  · rw [admits]
    refine ⟨tracking, fun sourceId => ?_⟩
    rw [session_concat, next_admission, if_neg fun both => both.2 rfl]
    exact recorded.summaries sourceId

theorem evictIdle (recorded : limiter.Recorded trace) (nowMs : Nat) :
    (limiter.evictIdle nowMs).Recorded (trace ++ [(.evictIdle nowMs, .ok ())]) := by
  refine ⟨evictIdle_tracking recorded.tracking nowMs, fun sourceId => ?_⟩
  have known := recorded.summaries sourceId
  rw [session_concat, evictIdle_bucketOf recorded.tracking]
  simp only [Session.next]
  cases held : session sourceId trace with
  | none =>
      rw [held] at known
      rw [Option.map_eq_none_iff.1 known]
      rfl
  | some past =>
      rw [held] at known
      obtain ⟨bucket, found, same⟩ := Option.map_eq_some_iff.1 known
      have seen : bucket.lastSeenMs = past.lastSeenMs := congrArg Prod.fst same
      rw [found, Option.filter_some, Option.filter_some, seen]
      split
      · exact congrArg some same
      · rfl

theorem step (recorded : limiter.Recorded trace) (call : RateLimiterCall) :
    (limiter.step call).2.Recorded (trace ++ [(call, (limiter.step call).1)]) := by
  cases call with
  | admitSource caller allocMs seenMs => exact recorded.admitSource caller allocMs seenMs
  | evictIdle nowMs => exact recorded.evictIdle nowMs
  | init nowMs =>
      simp only [RateLimiter.step, init_again recorded.tracking]
      refine ⟨recorded.tracking, fun sourceId => ?_⟩
      rw [session_concat]
      exact recorded.summaries sourceId
  | refillAll nowMs =>
      refine ⟨refillAll_tracking recorded.tracking nowMs, fun sourceId => ?_⟩
      have refilled := refillAll_bucketOf recorded.tracking nowMs sourceId
      have unseen : TokenBucket.summary ∘ (refillBucket · nowMs) = TokenBucket.summary :=
        funext fun bucket => bucket.refillBucket_summary nowMs
      rw [session_concat]
      simp only [RateLimiter.step, refilled, Option.map_map, unseen]
      exact recorded.summaries sourceId

end Recorded

theorem started_recorded (initMs : Nat) : (construct.init initMs).2.Recorded [] where
  tracking := started_tracking initMs
  summaries sourceId := by
    rw [bucketOf_none fun index tracks => absurd tracks.1 Bool.false_ne_true]
    rfl

theorem run_recorded (initMs : Nat) (calls : List RateLimiterCall) :
    (machine.run (construct.init initMs).2 calls).Recorded
      (machine.trace (construct.init initMs).2 calls) := by
  induction calls using List.reverseRecOn with
  | nil => exact started_recorded initMs
  | append_singleton calls last ih =>
      rw [machine.run_concat, machine.trace_concat]
      exact ih.step last

section Count

/-- The sources of the active slots. -/
def tracked (limiter : RateLimiter) : List (BitVec 32) :=
  ((List.finRange maxTrackedSources).filter fun index => (limiter.buckets index).active).map
    fun index => (limiter.buckets index).sourceId

theorem mem_tracked_iff : sourceId ∈ limiter.tracked ↔
    ∃ index, (limiter.buckets index).Tracks sourceId := by
  simp [tracked, TokenBucket.Tracks]

theorem Tracking.tracked_nodup (tracking : limiter.Tracking) : limiter.tracked.Nodup := by
  refine List.Nodup.map_on (fun left inLeft right inRight same => ?_)
    ((List.nodup_finRange _).filter _)
  have atLeft := (List.mem_filter.1 inLeft).2
  have atRight := (List.mem_filter.1 inRight).2
  exact tracking.single _ left right ⟨atLeft, same⟩ ⟨atRight, rfl⟩

theorem tracked_length_le (limiter : RateLimiter) :
    limiter.tracked.length ≤ maxTrackedSources := by
  have bounded := List.length_filter_le (fun index => (limiter.buckets index).active)
    (List.finRange maxTrackedSources)
  rwa [List.length_finRange, ← List.length_map fun index => (limiter.buckets index).sourceId]
    at bounded

theorem activeSourceCount_toNat (limiter : RateLimiter) :
    limiter.activeSourceCount.toNat = limiter.tracked.length := by
  have counted : ∀ (slots : List (Fin maxTrackedSources)) (count : Byte),
      slots.foldl (fun count index =>
          if (limiter.buckets index).active then count + 1 else count) count =
        count + BitVec.ofNat 8 (slots.filter fun index => (limiter.buckets index).active).length := by
    intro slots
    induction slots with
    | nil => intro count; simp
    | cons index rest ih =>
        intro count
        rw [List.foldl_cons, ih, List.filter_cons]
        split
        · rw [List.length_cons, BitVec.ofNat_add, BitVec.add_assoc, BitVec.add_comm 1]
          rfl
        · rfl
  have total : limiter.activeSourceCount = BitVec.ofNat 8 limiter.tracked.length := by
    rw [tracked, List.length_map]
    exact (counted (List.finRange maxTrackedSources) 0).trans (BitVec.zero_add _)
  rw [total, BitVec.toNat_ofNat]
  exact Nat.mod_eq_of_lt (limiter.tracked_length_le.trans_lt (by decide))

theorem tracked_length_eq_iff :
    limiter.tracked.length = maxTrackedSources ↔
      ∀ index, (limiter.buckets index).active = true := by
  have whole := List.length_filter_eq_length_iff (l := List.finRange maxTrackedSources)
    (p := fun index => (limiter.buckets index).active)
  rw [List.length_finRange] at whole
  rw [tracked, List.length_map, whole]
  exact ⟨fun every index => every index (List.mem_finRange index), fun every index _ => every index⟩

theorem Recorded.inSession_ncard (recorded : limiter.Recorded trace) :
    (inSession trace).ncard = limiter.tracked.length := by
  have listed : inSession trace = (limiter.tracked.toFinset : Set (BitVec 32)) := by
    ext sourceId
    rw [Finset.mem_coe, List.mem_toFinset, mem_tracked_iff]
    show (session sourceId trace).isSome = true ↔ _
    rw [recorded.isSome_iff]
    constructor
    · intro found
      obtain ⟨bucket, here⟩ := Option.isSome_iff_exists.1 found
      obtain ⟨index, search, -⟩ := bucketOf_some here
      exact ⟨index, find_some search⟩
    · rintro ⟨index, tracks⟩
      rw [recorded.tracking.bucketOf_eq tracks]
      rfl
  rw [listed, Set.ncard_coe_finset, List.toFinset_card_of_nodup recorded.tracking.tracked_nodup]

end Count

/-- What `GetStats` answers about a source with this session. -/
def Reports (sourceId : BitVec 32) (answer : Bool × RateLimiterStats) : Option Session → Prop
  | none => answer = (false, .unset)
  | some session =>
      answer.1 = true ∧ answer.2.sourceId = sourceId ∧ answer.2.active = true ∧
        answer.2.passCount = BitVec.ofNat 32 session.passed ∧
        answer.2.dropCount = BitVec.ofNat 32 session.dropped

theorem Recorded.reports (recorded : limiter.Recorded trace) (sourceId : BitVec 32) :
    Reports sourceId (limiter.getStats sourceId) (session sourceId trace) := by
  have known := recorded.summaries sourceId
  cases search : limiter.find sourceId with
  | none =>
      rw [bucketOf_none (find_none search)] at known
      rw [Option.map_eq_none_iff.1 known.symm, getStats, search]
      rfl
  | some index =>
      rw [recorded.tracking.bucketOf_eq (find_some search)] at known
      obtain ⟨held, found, same⟩ := Option.map_eq_some_iff.1 known.symm
      have passed := congrArg (fun counts => counts.2.1) same
      have dropped := congrArg (fun counts => counts.2.2) same
      rw [found, getStats, search]
      exact ⟨rfl, rfl, rfl, passed.symm, dropped.symm⟩

/-- After `Init` and any calls with any clock readings, the diagnostics tell the history: the
statistics of a source are the answers of its session, the number of active sources is the
number of sources in session, and the table refuses exactly the sources out of session while
`maxTrackedSources` are in one. -/
theorem diagnostics_tell_history (initMs : Nat) (calls : List RateLimiterCall) :
    let limiter := machine.run (construct.init initMs).2 calls
    let trace := machine.trace (construct.init initMs).2 calls
    (∀ sourceId, Reports sourceId (limiter.getStats sourceId) (session sourceId trace)) ∧
      limiter.activeSourceCount.toNat = (inSession trace).ncard ∧
      ∀ sourceId allocMs seenMs,
        (limiter.admitSource sourceId allocMs seenMs).1 = .error .registryFull ↔
          sourceId ∉ inSession trace ∧ (inSession trace).ncard = maxTrackedSources := by
  intro limiter trace
  have recorded : limiter.Recorded trace := run_recorded initMs calls
  refine ⟨recorded.reports, ?_, fun sourceId allocMs seenMs => ?_⟩
  · rw [recorded.inSession_ncard]
    exact limiter.activeSourceCount_toNat
  · rw [recorded.inSession_ncard, tracked_length_eq_iff]
    have member : sourceId ∈ inSession trace ↔ (limiter.bucketOf sourceId).isSome = true := by
      rw [← recorded.isSome_iff]
      rfl
    rw [member]
    constructor
    · intro refused
      obtain ⟨-, others⟩ := registryFull_only recorded.tracking refused
      refine ⟨fun found => ?_, fun index => (others index).1⟩
      obtain ⟨bucket, here⟩ := Option.isSome_iff_exists.1 found
      obtain ⟨index, search, -⟩ := bucketOf_some here
      exact (others index).2 (find_some search).2
    · rintro ⟨absent, full⟩
      rcases admitSource_cases recorded.tracking sourceId allocMs seenMs with
        ⟨index, -, tracks, -⟩ | ⟨index, -, unused, -⟩ | ⟨-, -, -, admits⟩
      · rw [recorded.tracking.bucketOf_eq tracks] at absent
        exact absurd rfl absent
      · exact absurd ((full index).symm.trans unused) (by decide)
      · rw [admits]

end RateLimiter

end SoaGateway.Network
