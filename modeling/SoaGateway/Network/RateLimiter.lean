import Mathlib.Data.List.FinRange
import Mathlib.Logic.Function.Basic
import SoaGateway.Common
import SoaGateway.Foundation.Machine

/-! The per-source rate limiter. A call takes effect as a whole, so that a loop around a
compare-exchange is one update. Every reading of the monotonic clock, in milliseconds, is
a parameter of the call that may make it. -/

set_option autoImplicit false

namespace SoaGateway.Network

open Foundation

def maxTrackedSources : Nat := 32
def burstCapacity : Int := 20
def refillRatePerMs : Int := 5
def invalidSourceId : BitVec 32 := 0xFFFFFFFF#32
def sourceEvictAfterMs : Nat := 5000

structure TokenBucket where
  sourceId : BitVec 32
  tokens : Int
  lastRefillMs : Nat
  lastSeenMs : Nat
  dropCount : BitVec 32
  passCount : BitVec 32
  active : Bool
deriving DecidableEq, Repr

structure RateLimiter where
  buckets : Fin maxTrackedSources → TokenBucket
  initialised : Bool

def firstSlot (condition : Fin maxTrackedSources → Bool) : Option (Fin maxTrackedSources) :=
  (List.finRange maxTrackedSources).find? condition

def refillBucket (bucket : TokenBucket) (nowMs : Nat) : TokenBucket :=
  if nowMs ≤ bucket.lastRefillMs then bucket
  else
    let elapsedMs := nowMs - bucket.lastRefillMs
    let clampedMs := if elapsedMs > 1000 then 1000 else elapsedMs
    let newTokens : Int := clampedMs * refillRatePerMs
    let updated :=
      if bucket.tokens + newTokens > burstCapacity then burstCapacity
      else bucket.tokens + newTokens
    { bucket with tokens := updated, lastRefillMs := nowMs }

/-- What `Admit` does to the bucket it finds. -/
def takeToken (bucket : TokenBucket) (seenMs : Nat) : VoidResult × TokenBucket :=
  if bucket.tokens ≤ 0 then
    (.error .queueFull,
      { bucket with lastSeenMs := seenMs, dropCount := bucket.dropCount + 1 })
  else
    (.ok (), {
      bucket with
      lastSeenMs := seenMs
      tokens := bucket.tokens - 1
      passCount := bucket.passCount + 1 })

namespace RateLimiter

def construct : RateLimiter where
  buckets _ := {
    sourceId := invalidSourceId, tokens := burstCapacity, lastRefillMs := 0, lastSeenMs := 0,
    dropCount := 0, passCount := 0, active := false }
  initialised := false

def init (limiter : RateLimiter) (nowMs : Nat) : VoidResult × RateLimiter :=
  if limiter.initialised then (.error .alreadyRegistered, limiter)
  else
    (.ok (), {
      buckets := fun _ => {
        sourceId := invalidSourceId, tokens := burstCapacity, lastRefillMs := nowMs,
        lastSeenMs := nowMs, dropCount := 0, passCount := 0, active := false }
      initialised := true })

def store (limiter : RateLimiter) (index : Fin maxTrackedSources) (bucket : TokenBucket) :
    RateLimiter :=
  { limiter with buckets := Function.update limiter.buckets index bucket }

def find (limiter : RateLimiter) (sourceId : BitVec 32) : Option (Fin maxTrackedSources) :=
  firstSlot fun index =>
    (limiter.buckets index).active && (limiter.buckets index).sourceId == sourceId

def free (limiter : RateLimiter) : Option (Fin maxTrackedSources) :=
  firstSlot fun index => !(limiter.buckets index).active

def allocated (sourceId : BitVec 32) (nowMs : Nat) : TokenBucket where
  sourceId := sourceId
  tokens := burstCapacity
  lastRefillMs := nowMs
  lastSeenMs := nowMs
  dropCount := 0
  passCount := 0
  active := true

/-- No slot is returned when the table is full. -/
def findOrAllocate (limiter : RateLimiter) (sourceId : BitVec 32) (nowMs : Nat) :
    Option (Fin maxTrackedSources) × RateLimiter :=
  match limiter.find sourceId with
  | some index => (some index, limiter)
  | none =>
      match limiter.free with
      | some index => (some index, limiter.store index (allocated sourceId nowMs))
      | none => (none, limiter)

/-- The clock is read when a slot is allocated, and again when the bucket is seen. -/
def admitSource (limiter : RateLimiter) (sourceId : BitVec 32) (allocMs seenMs : Nat) :
    VoidResult × RateLimiter :=
  if !limiter.initialised then (.error .notInitialized, limiter)
  else match limiter.findOrAllocate sourceId allocMs with
    | (none, limiter) => (.error .registryFull, limiter)
    | (some index, limiter) =>
        let (result, bucket) := takeToken (limiter.buckets index) seenMs
        (result, limiter.store index bucket)

def refillAll (limiter : RateLimiter) (nowMs : Nat) : RateLimiter :=
  if !limiter.initialised then limiter
  else
    { limiter with
      buckets := fun index =>
        let bucket := limiter.buckets index
        if bucket.active then refillBucket bucket nowMs else bucket }

def evictIdle (limiter : RateLimiter) (nowMs : Nat) : RateLimiter :=
  if !limiter.initialised then limiter
  else
    { limiter with
      buckets := fun index =>
        let bucket := limiter.buckets index
        if !bucket.active then bucket
        else if nowMs ≥ bucket.lastSeenMs ∧ nowMs - bucket.lastSeenMs > sourceEvictAfterMs then
          { bucket with
            sourceId := invalidSourceId
            tokens := burstCapacity
            dropCount := 0
            passCount := 0
            active := false }
        else bucket }

end RateLimiter

inductive RateLimiterCall where
  | init (nowMs : Nat)
  | admitSource (sourceId : BitVec 32) (allocMs seenMs : Nat)
  | refillAll (nowMs : Nat)
  | evictIdle (nowMs : Nat)

namespace RateLimiter

/-- The calls without a result are answered with `Ok`. -/
def step (limiter : RateLimiter) (call : RateLimiterCall) : VoidResult × RateLimiter :=
  match call with
  | .init nowMs => limiter.init nowMs
  | .admitSource sourceId allocMs seenMs => limiter.admitSource sourceId allocMs seenMs
  | .refillAll nowMs => (.ok (), limiter.refillAll nowMs)
  | .evictIdle nowMs => (.ok (), limiter.evictIdle nowMs)

def machine : Machine RateLimiter RateLimiterCall VoidResult := ⟨step⟩

end RateLimiter

end SoaGateway.Network
