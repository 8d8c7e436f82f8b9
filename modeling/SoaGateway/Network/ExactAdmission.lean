import SoaGateway.Network.ConcurrentAdmission
import SoaGateway.Network.TableInvariant

/-! When a request is refused. A slot opens with a full bucket, and from then on a request is
refused only where one more would break the bound of a burst and the refill since, over some
stretch of the calls so far. -/

set_option autoImplicit false

namespace SoaGateway.Network

open Foundation

/-- What a stretch of calls may be granted: a burst, and the refill in force since it began. -/
def allowance (began reached : TokenBucket) : Int :=
  burstCapacity + (refillRatePerMs * reached.lastRefillMs - refillRatePerMs * began.lastRefillMs)

/-- A refill credits the time since the last one in full, or fills the bucket. -/
theorem refillBucket_cases (bucket : TokenBucket) (nowMs : Nat) :
    (refillBucket bucket nowMs).tokens = burstCapacity ∨
      (refillBucket bucket nowMs).tokens = bucket.tokens +
        (refillRatePerMs * (refillBucket bucket nowMs).lastRefillMs -
          refillRatePerMs * bucket.lastRefillMs) ∨
      bucket.tokens < 0 := by
  rcases Nat.lt_or_ge bucket.lastRefillMs nowMs with advanced | early
  · rw [refillBucket_newTokens advanced]
    simp only [newTokens, burstCapacity, refillRatePerMs]
    split <;> split <;> omega
  · rw [show refillBucket bucket nowMs = bucket from if_pos early]
    omega

namespace BucketCall

variable {Thread : Type}

/-- The bucket after some calls on a slot that has just been allocated. -/
def reached (sourceId : BitVec 32) (openedMs : Nat) (calls : List (BucketCall Thread)) :
    TokenBucket :=
  whole.run (RateLimiter.allocated sourceId openedMs) calls

/-- The answers given from there on. -/
def answered (bucket : TokenBucket) (calls : List (BucketCall Thread)) :
    List (BucketReply Thread) :=
  whole.outputs bucket calls

def isAdmission : BucketCall Thread → Bool
  | .admitSource _ _ => true
  | .refillBucket _ => false

theorem carriedOut_bounded {bucket : TokenBucket} (bounded : bucket.Bounded)
    (call : BucketCall Thread) : (call.carriedOut bucket).2.Bounded := by
  cases call with
  | admitSource thread seenMs => exact bounded.take seenMs
  | refillBucket nowMs => exact bounded.refill nowMs

theorem reached_bounded (sourceId : BitVec 32) (openedMs : Nat)
    (calls : List (BucketCall Thread)) : (reached sourceId openedMs calls).Bounded := by
  have opened : (RateLimiter.allocated sourceId openedMs).Bounded :=
    ⟨show (0 : Int) ≤ burstCapacity by decide, le_refl _⟩
  exact whole.run_preserves opened (fun _ call held => carriedOut_bounded held call) calls

/-- A refused request finds the bucket empty, and leaves it as it is. -/
theorem admit_cases (bucket : TokenBucket) (thread : Thread) (seenMs : Nat) :
    let outcome := (admitSource thread seenMs).carriedOut bucket
    outcome.2.lastRefillMs = bucket.lastRefillMs ∧
      (bucket.tokens ≤ 0 ∧ outcome.1.2 = .error .queueFull ∧ granted [outcome.1] = 0 ∧
          outcome.2.tokens = bucket.tokens ∨
        0 < bucket.tokens ∧ outcome.1.2 = .ok () ∧ granted [outcome.1] = 1 ∧
          outcome.2.tokens = bucket.tokens - 1) := by
  rcases lt_or_ge 0 bucket.tokens with left | empty
  · have some_left : ¬ bucket.tokens ≤ 0 := Int.not_le.2 left
    simp [carriedOut, takeToken, some_left, left, granted]
  · have none_left : bucket.tokens ≤ 0 := empty
    simp [carriedOut, takeToken, none_left, granted]

theorem granted_concat (bucket : TokenBucket) (calls : List (BucketCall Thread))
    (call : BucketCall Thread) :
    granted (answered bucket (calls ++ [call])) =
      granted (answered bucket calls) +
        granted [(call.carriedOut (whole.run bucket calls)).1] := by
  rw [answered, Machine.outputs_concat, granted, List.countP_append]
  rfl

/-- The tokens left are what some stretch up to now still allows: the one since the bucket was
last full. -/
theorem tokens_allowed (sourceId : BitVec 32) (openedMs : Nat)
    (calls : List (BucketCall Thread)) :
    ∃ before since, calls = before ++ since ∧
      (reached sourceId openedMs calls).tokens +
          granted (answered (reached sourceId openedMs before) since) =
        allowance (reached sourceId openedMs before) (reached sourceId openedMs calls) := by
  induction calls using List.reverseRecOn with
  | nil => exact ⟨[], [], rfl, by simp [reached, answered, granted, allowance,
      RateLimiter.allocated]⟩
  | append_singleton calls call ih =>
      obtain ⟨before, since, rfl, allowed⟩ := ih
      have bounded := reached_bounded sourceId openedMs (before ++ since)
      have moved : reached sourceId openedMs (before ++ since ++ [call]) =
          (call.carriedOut (reached sourceId openedMs (before ++ since))).2 :=
        whole.run_concat _ _ _
      have whole_run : whole.run (reached sourceId openedMs before) since =
          reached sourceId openedMs (before ++ since) := (whole.run_append _ _ _).symm
      have longer := granted_concat (reached sourceId openedMs before) since call
      rw [whole_run] at longer
      cases call with
      | admitSource thread seenMs =>
          refine ⟨before, since ++ [.admitSource thread seenMs], List.append_assoc _ _ _, ?_⟩
          obtain ⟨same, verdict⟩ := admit_cases
            (reached sourceId openedMs (before ++ since)) thread seenMs
          rw [longer, moved, allowance, same]
          rw [allowance] at allowed
          omega
      | refillBucket nowMs =>
          have ungranted : granted [((refillBucket nowMs : BucketCall Thread).carriedOut
              (reached sourceId openedMs (before ++ since))).1] = 0 := rfl
          rcases refillBucket_cases (reached sourceId openedMs (before ++ since)) nowMs with
            full | credited | overdrawn
          · refine ⟨before ++ since ++ [.refillBucket nowMs], [], (List.append_nil _).symm, ?_⟩
            have none_since : granted (answered (reached sourceId openedMs
                (before ++ since ++ [.refillBucket nowMs])) ([] : List (BucketCall Thread))) = 0 :=
              rfl
            rw [none_since, moved, allowance]
            simp only [carriedOut]
            omega
          · refine ⟨before, since ++ [.refillBucket nowMs], List.append_assoc _ _ _, ?_⟩
            rw [longer, ungranted, moved, allowance]
            rw [allowance] at allowed
            simp only [carriedOut]
            omega
          · exact absurd bounded.1 (Int.not_le.2 overdrawn)

/-- No stretch up to now is granted more than it is allowed, less the tokens left. -/
theorem granted_allowed (sourceId : BitVec 32) (openedMs : Nat)
    (before since : List (BucketCall Thread)) :
    (granted (answered (reached sourceId openedMs before) since) : Int) +
        (reached sourceId openedMs (before ++ since)).tokens ≤
      allowance (reached sourceId openedMs before)
        (reached sourceId openedMs (before ++ since)) := by
  have conserved := whole_conserves (reached sourceId openedMs before) since
  have capped := (reached_bounded sourceId openedMs before).2
  have whole_run : whole.run (reached sourceId openedMs before) since =
      reached sourceId openedMs (before ++ since) := (whole.run_append _ _ _).symm
  simp only [whole_run] at conserved
  rw [allowance, answered]
  omega

theorem granted_le_admissions (bucket : TokenBucket) (calls : List (BucketCall Thread)) :
    granted (answered bucket calls) ≤ calls.countP isAdmission := by
  induction calls using List.reverseRecOn with
  | nil => exact Nat.le_refl _
  | append_singleton calls call ih =>
      rw [granted_concat, List.countP_append]
      refine Nat.add_le_add ih ?_
      cases call with
      | admitSource thread seenMs => exact List.countP_le_length
      | refillBucket nowMs => exact Nat.le_refl _

/-- Where every request is granted, the requests are what is granted. -/
theorem admissions_granted (bucket : TokenBucket) {calls : List (BucketCall Thread)}
    (served : ∀ reply ∈ answered bucket calls, reply.2 = .ok ()) :
    calls.countP isAdmission = granted (answered bucket calls) := by
  induction calls generalizing bucket with
  | nil => rfl
  | cons call rest ih =>
      have first := served _ List.mem_cons_self
      have later := ih (call.carriedOut bucket).2 fun reply member =>
        served reply (List.mem_cons_of_mem _ member)
      have split : granted (answered bucket (call :: rest)) =
          granted [(call.carriedOut bucket).1] +
            granted (answered (call.carriedOut bucket).2 rest) := by
        rw [answered, Machine.outputs_cons, ← List.singleton_append, granted, List.countP_append]
        rfl
      rw [split, ← later, List.countP_cons]
      cases call with
      | admitSource thread seenMs =>
          have accepted : (takeToken bucket seenMs).1 = .ok () := first
          simp [isAdmission, granted, carriedOut, accepted, Nat.add_comm]
      | refillBucket nowMs => simp [isAdmission, granted, carriedOut]

/-- On a slot since its allocation, a request is refused exactly where one more would exceed what
some stretch of the calls up to now is allowed. -/
theorem refused_iff (sourceId : BitVec 32) (openedMs : Nat) (calls : List (BucketCall Thread))
    (thread : Thread) (seenMs : Nat) :
    ((admitSource thread seenMs).carriedOut (reached sourceId openedMs calls)).1.2 ≠ .ok () ↔
      ∃ before since, calls = before ++ since ∧
        allowance (reached sourceId openedMs before) (reached sourceId openedMs calls) <
          granted (answered (reached sourceId openedMs before) since) + 1 := by
  obtain ⟨-, verdict⟩ := admit_cases (reached sourceId openedMs calls) thread seenMs
  constructor
  · intro refused
    obtain ⟨empty, -⟩ | ⟨-, accepted, -⟩ := verdict
    · obtain ⟨before, since, shape, allowed⟩ := tokens_allowed sourceId openedMs calls
      exact ⟨before, since, shape, by omega⟩
    · exact absurd accepted refused
  · rintro ⟨before, since, rfl, exceeded⟩ accepted
    have kept := granted_allowed sourceId openedMs before since
    obtain ⟨-, refused, -⟩ | ⟨left, -⟩ := verdict
    · rw [refused] at accepted
      cases accepted
    · omega

/-- Every request on a slot since its allocation is granted exactly when every stretch of its
calls asks for no more than a burst and the refill since the stretch began. -/
theorem all_granted_iff (sourceId : BitVec 32) (openedMs : Nat)
    (calls : List (BucketCall Thread)) :
    (∀ reply ∈ answered (RateLimiter.allocated sourceId openedMs) calls, reply.2 = .ok ()) ↔
      ∀ before since after, calls = before ++ since ++ after →
        (since.countP isAdmission : Int) ≤
          allowance (reached sourceId openedMs before)
            (reached sourceId openedMs (before ++ since)) := by
  constructor
  · rintro served before since after rfl
    have part : answered (RateLimiter.allocated sourceId openedMs) (before ++ since ++ after) =
        answered (RateLimiter.allocated sourceId openedMs) before ++
          answered (reached sourceId openedMs before) since ++
          answered (reached sourceId openedMs (before ++ since)) after := by
      rw [answered, Machine.outputs_append, Machine.outputs_append]
      rfl
    have asked := admissions_granted (reached sourceId openedMs before)
      fun reply (member : reply ∈ answered _ since) => served reply (by
        rw [part]
        exact List.mem_append_left _ (List.mem_append_right _ member))
    have kept := granted_allowed sourceId openedMs before since
    have held := (reached_bounded sourceId openedMs (before ++ since)).1
    omega
  · intro conforms
    induction calls using List.reverseRecOn with
    | nil => exact fun reply member => absurd member List.not_mem_nil
    | append_singleton calls call ih =>
        have earlier := ih fun before since after shape =>
          conforms before since (after ++ [call]) (by simp [shape])
        intro reply member
        rw [answered, Machine.outputs_concat, List.mem_append] at member
        obtain before_now | now := member
        · exact earlier reply before_now
        · obtain rfl := List.mem_singleton.1 now
          cases call with
          | refillBucket nowMs => rfl
          | admitSource thread seenMs =>
              by_contra refused
              obtain ⟨before, since, rfl, exceeded⟩ :=
                (refused_iff sourceId openedMs calls thread seenMs).1 refused
              have asked := conforms before (since ++ [.admitSource thread seenMs]) []
                (by simp)
              have most := granted_le_admissions (reached sourceId openedMs before) since
              have same : (reached sourceId openedMs
                  (before ++ (since ++ [.admitSource thread seenMs]))).lastRefillMs =
                    (reached sourceId openedMs (before ++ since)).lastRefillMs := by
                have moved : reached sourceId openedMs
                    (before ++ since ++ [.admitSource thread seenMs]) = _ :=
                  whole.run_concat _ _ _
                rw [← List.append_assoc, moved]
                exact (admit_cases _ thread seenMs).1
              rw [allowance, same, List.countP_append] at asked
              rw [allowance] at exceeded
              simp only [List.countP_singleton, isAdmission, ↓reduceIte] at asked
              omega

/-- The limiter is as permissive as its bound allows: it refuses only what would break the bound,
and drops nothing of a source that keeps to it. -/
theorem admission_exact (sourceId : BitVec 32) (openedMs : Nat)
    (calls : List (BucketCall Thread)) :
    (∀ (thread : Thread) (seenMs : Nat),
        ((admitSource thread seenMs).carriedOut (reached sourceId openedMs calls)).1.2 ≠ .ok () ↔
          ∃ before since, calls = before ++ since ∧
            allowance (reached sourceId openedMs before) (reached sourceId openedMs calls) <
              granted (answered (reached sourceId openedMs before) since) + 1) ∧
      ((∀ reply ∈ answered (RateLimiter.allocated sourceId openedMs) calls, reply.2 = .ok ()) ↔
        ∀ before since after, calls = before ++ since ++ after →
          (since.countP isAdmission : Int) ≤
            allowance (reached sourceId openedMs before)
              (reached sourceId openedMs (before ++ since))) :=
  ⟨refused_iff sourceId openedMs calls, all_granted_iff sourceId openedMs calls⟩

end BucketCall

end SoaGateway.Network
