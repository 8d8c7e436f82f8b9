import Mathlib.Algebra.Order.BigOperators.Group.Finset
import Mathlib.Data.BitVec
import Mathlib.Data.Fintype.BigOperators
import Mathlib.Tactic.LinearCombination
import Mathlib.Tactic.Ring
import SoaGateway.Foundation.Linearisation
import SoaGateway.Network.RateLimiterProperties

/-! One bucket, with any number of threads inside `Admit` and the refill task inside
`RefillBucket`, each stopped at any of its accesses. The loops around a compare-exchange take
effect as a whole, so that a call of the limiter may be taken for one update. -/

set_option autoImplicit false

namespace SoaGateway.Network

open Foundation

/-- Where a thread stands inside `Admit`: it has stored the time it was seen, it is about to
exchange a number of tokens it has read, or its verdict is fixed and not yet counted. -/
inductive AdmitControl where
  | idle
  | seen (seenMs : Nat)
  | read (seenMs : Nat) (current : Int)
  | counting (verdict : VoidResult)

/-- Where the refill task stands inside `RefillBucket`. -/
inductive RefillControl where
  | idle
  | elapsed (nowMs : Nat) (newTokens : Int)
  | read (nowMs : Nat) (newTokens current : Int)
  | credited (nowMs : Nat)

structure SharedBucket (Thread : Type) where
  bucket : TokenBucket
  admits : Thread → AdmitControl
  refill : RefillControl

inductive BucketStep (Thread : Type) where
  | admitSource (thread : Thread) (seenMs : Nat)
  | admitOn (thread : Thread) (spurious : Bool)
  | refillBucket (nowMs : Nat)
  | refillOn (spurious : Bool)

inductive BucketCall (Thread : Type) where
  | admitSource (thread : Thread) (seenMs : Nat)
  | refillBucket (nowMs : Nat)

/-- A verdict, with the thread it is for; the refill task has none. -/
abbrev BucketReply (Thread : Type) := Option Thread × VoidResult

/-- The tokens that the time since `lastMs` is worth. -/
def newTokens (lastMs nowMs : Nat) : Int :=
  let elapsedMs := nowMs - lastMs
  let clampedMs := if elapsedMs > 1000 then 1000 else elapsedMs
  clampedMs * refillRatePerMs

def TokenBucket.count (bucket : TokenBucket) (verdict : VoidResult) : TokenBucket :=
  if verdict.isOk then { bucket with passCount := bucket.passCount + 1 }
  else { bucket with dropCount := bucket.dropCount + 1 }

namespace SharedBucket

variable {Thread : Type} [DecidableEq Thread]

def quiet (bucket : TokenBucket) : SharedBucket Thread :=
  { bucket, admits := fun _ => .idle, refill := .idle }

/-- A thread at the top of its loop, with the tokens it has just read. -/
def admitLoop (state : SharedBucket Thread) (thread : Thread) (seenMs : Nat) (current : Int) :
    Option (BucketReply Thread) × SharedBucket Thread :=
  if current ≤ 0 then
    (some (some thread, .error .queueFull), { state with
      admits := Function.update state.admits thread (.counting (.error .queueFull)) })
  else
    (none, { state with admits := Function.update state.admits thread (.read seenMs current) })

def admitSource (state : SharedBucket Thread) (thread : Thread) (seenMs : Nat) :
    Option (BucketReply Thread) × SharedBucket Thread :=
  match state.admits thread with
  | .idle =>
      (none, { state with
        bucket := { state.bucket with lastSeenMs := seenMs }
        admits := Function.update state.admits thread (.seen seenMs) })
  | _ => (none, state)

/-- The next access of a thread inside `Admit`. -/
def admitOn (state : SharedBucket Thread) (thread : Thread) (spurious : Bool) :
    Option (BucketReply Thread) × SharedBucket Thread :=
  match state.admits thread with
  | .idle => (none, state)
  | .seen seenMs => state.admitLoop thread seenMs state.bucket.tokens
  | .read seenMs current =>
      match compareExchangeWeak state.bucket.tokens current (current - 1) spurious with
      | (true, _, tokens) =>
          (some (some thread, .ok ()), { state with
            bucket := { state.bucket with tokens }
            admits := Function.update state.admits thread (.counting (.ok ())) })
      | (false, found, _) => state.admitLoop thread seenMs found
  | .counting verdict =>
      (none, { state with
        bucket := state.bucket.count verdict
        admits := Function.update state.admits thread .idle })

def refillBucket (state : SharedBucket Thread) (nowMs : Nat) :
    Option (BucketReply Thread) × SharedBucket Thread :=
  match state.refill with
  | .idle =>
      if nowMs ≤ state.bucket.lastRefillMs then (some (none, .ok ()), state)
      else
        (none, { state with
          refill := .elapsed nowMs (newTokens state.bucket.lastRefillMs nowMs) })
  | _ => (none, state)

/-- The next access of the refill task inside `RefillBucket`. -/
def refillOn (state : SharedBucket Thread) (spurious : Bool) :
    Option (BucketReply Thread) × SharedBucket Thread :=
  match state.refill with
  | .idle => (none, state)
  | .elapsed nowMs newTokens =>
      (none, { state with refill := .read nowMs newTokens state.bucket.tokens })
  | .read nowMs newTokens current =>
      let updated :=
        if current + newTokens > burstCapacity then burstCapacity else current + newTokens
      match compareExchangeWeak state.bucket.tokens current updated spurious with
      | (true, _, tokens) =>
          (some (none, .ok ()), { state with
            bucket := { state.bucket with tokens }
            refill := .credited nowMs })
      | (false, found, _) => (none, { state with refill := .read nowMs newTokens found })
  | .credited nowMs =>
      (none, { state with
        bucket := { state.bucket with lastRefillMs := nowMs }
        refill := .idle })

/-- A step answers when it fixes a verdict. -/
def step (state : SharedBucket Thread) (input : BucketStep Thread) :
    Option (BucketReply Thread) × SharedBucket Thread :=
  match input with
  | .admitSource thread seenMs => state.admitSource thread seenMs
  | .admitOn thread spurious => state.admitOn thread spurious
  | .refillBucket nowMs => state.refillBucket nowMs
  | .refillOn spurious => state.refillOn spurious

def machine : Machine (SharedBucket Thread) (BucketStep Thread) (Option (BucketReply Thread)) :=
  ⟨step⟩

/-- The call whose verdict a step fixes. -/
def completes (state : SharedBucket Thread) (input : BucketStep Thread) :
    Option (BucketCall Thread) :=
  match input with
  | .admitSource _ _ => none
  | .admitOn thread spurious =>
      match state.admits thread with
      | .seen seenMs =>
          if state.bucket.tokens ≤ 0 then some (.admitSource thread seenMs) else none
      | .read seenMs current =>
          if state.bucket.tokens ≤ 0 ∨ state.bucket.tokens = current ∧ spurious = false then
            some (.admitSource thread seenMs)
          else none
      | _ => none
  | .refillBucket nowMs =>
      match state.refill with
      | .idle => if nowMs ≤ state.bucket.lastRefillMs then some (.refillBucket nowMs) else none
      | _ => none
  | .refillOn spurious =>
      match state.refill with
      | .read nowMs _ current =>
          if state.bucket.tokens = current ∧ spurious = false then some (.refillBucket nowMs)
          else none
      | _ => none

/-- The verdict a step hands back to the caller of `Admit`. -/
def returns (state : SharedBucket Thread) (input : BucketStep Thread) :
    List (BucketReply Thread) :=
  match input with
  | .admitOn thread _ =>
      match state.admits thread with
      | .counting verdict => [(some thread, verdict)]
      | _ => []
  | _ => []

end SharedBucket

namespace BucketCall

variable {Thread : Type}

def carriedOut (bucket : TokenBucket) (call : BucketCall Thread) :
    BucketReply Thread × TokenBucket :=
  match call with
  | .admitSource thread seenMs =>
      ((some thread, (takeToken bucket seenMs).1), (takeToken bucket seenMs).2)
  | .refillBucket nowMs => ((none, .ok ()), Network.refillBucket bucket nowMs)

/-- The bucket on which every call takes effect as a whole. -/
def whole : Machine TokenBucket (BucketCall Thread) (BucketReply Thread) := ⟨carriedOut⟩

end BucketCall

namespace AdmitControl

/-- What a verdict that is not counted yet will add to a counter. -/
def drops : AdmitControl → BitVec 32
  | .counting (.error _) => 1
  | _ => 0

def passes : AdmitControl → BitVec 32
  | .counting (.ok _) => 1
  | _ => 0

def verdict? : AdmitControl → Option VoidResult
  | .counting verdict => some verdict
  | _ => none

/-- A thread goes on to its exchange only with a token in sight. -/
def Sighted : AdmitControl → Prop
  | .read _ current => 0 < current
  | _ => True

theorem owes_nothing {control : AdmitControl} (undecided : control.verdict? = none) :
    control.drops = 0 ∧ control.passes = 0 := by
  cases control with
  | counting verdict => cases undecided
  | idle => exact ⟨rfl, rfl⟩
  | seen seenMs => exact ⟨rfl, rfl⟩
  | read seenMs current => exact ⟨rfl, rfl⟩

end AdmitControl

/-- The refill is in force from its exchange on, and its time is stored later. -/
def RefillControl.Agrees (control : RefillControl) (lastMs wholeMs : Nat) : Prop :=
  match control with
  | .idle => lastMs = wholeMs
  | .elapsed nowMs tokens | .read nowMs tokens _ =>
      lastMs = wholeMs ∧ wholeMs < nowMs ∧ tokens = newTokens wholeMs nowMs
  | .credited nowMs => wholeMs = nowMs

theorem refillBucket_newTokens {bucket : TokenBucket} {nowMs : Nat}
    (advanced : bucket.lastRefillMs < nowMs) :
    refillBucket bucket nowMs =
      { bucket with
        tokens :=
          if bucket.tokens + newTokens bucket.lastRefillMs nowMs > burstCapacity then burstCapacity
          else bucket.tokens + newTokens bucket.lastRefillMs nowMs
        lastRefillMs := nowMs } :=
  if_neg (Nat.not_le.2 advanced)

namespace SharedBucket

variable {Thread : Type} [DecidableEq Thread] [Fintype Thread]

/-- The shared bucket is the whole one, but for what is decided and not stored yet. Nothing is
said of the time last seen, which threads store in an order of their own. -/
structure Agrees (state : SharedBucket Thread) (whole : TokenBucket) : Prop where
  tokens : state.bucket.tokens = whole.tokens
  sighted : ∀ thread, (state.admits thread).Sighted
  refill : state.refill.Agrees state.bucket.lastRefillMs whole.lastRefillMs
  drops : state.bucket.dropCount + ∑ thread, (state.admits thread).drops = whole.dropCount
  passes : state.bucket.passCount + ∑ thread, (state.admits thread).passes = whole.passCount

theorem sum_moved {Owed : Type} [AddCommMonoid Owed] (owed : AdmitControl → Owed)
    (admits : Thread → AdmitControl) (thread : Thread) (next : AdmitControl) :
    ∑ other, owed (Function.update admits thread next other) + owed (admits thread) =
      ∑ other, owed (admits other) + owed next := by
  rw [← Finset.add_sum_erase _ _ (Finset.mem_univ thread),
    ← Finset.add_sum_erase _ (fun other => owed (admits other)) (Finset.mem_univ thread),
    Function.update_self]
  have elsewhere : ∑ other ∈ Finset.univ.erase thread,
        owed (Function.update admits thread next other) =
      ∑ other ∈ Finset.univ.erase thread, owed (admits other) := by
    refine Finset.sum_congr rfl fun other member => ?_
    rw [Function.update_of_ne (Finset.ne_of_mem_erase member)]
  rw [elsewhere, add_comm (owed next), add_assoc, add_comm (owed next), ← add_assoc,
    add_comm (owed (admits thread))]

variable {state : SharedBucket Thread} {whole after : TokenBucket}

/-- A step of one thread, with what it adds to the counters of the whole bucket. -/
theorem Agrees.move (agrees : Agrees state whole) {thread : Thread} {next : AdmitControl}
    {bucket : TokenBucket} (tokens : bucket.tokens = after.tokens) (sighted : next.Sighted)
    (lastMs : bucket.lastRefillMs = state.bucket.lastRefillMs)
    (wholeMs : after.lastRefillMs = whole.lastRefillMs)
    (drops : bucket.dropCount + next.drops + whole.dropCount =
      state.bucket.dropCount + (state.admits thread).drops + after.dropCount)
    (passes : bucket.passCount + next.passes + whole.passCount =
      state.bucket.passCount + (state.admits thread).passes + after.passCount) :
    Agrees { state with bucket, admits := Function.update state.admits thread next } after where
  tokens := tokens
  sighted :=
    (Function.forall_update_iff _ fun _ (control : AdmitControl) => control.Sighted).2
      ⟨sighted, fun other _ => agrees.sighted other⟩
  refill := by
    rw [lastMs, wholeMs]
    exact agrees.refill
  drops := by
    have moved := sum_moved AdmitControl.drops state.admits thread next
    have before := agrees.drops
    linear_combination moved + before + drops
  passes := by
    have moved := sum_moved AdmitControl.passes state.admits thread next
    have before := agrees.passes
    linear_combination moved + before + passes

/-- At the top of the loop the verdict is fixed when no token is left, as it is by the whole call
on the same number of tokens. -/
theorem Agrees.dropped (agrees : Agrees state whole) {thread : Thread} (seenMs : Nat)
    (undecided : (state.admits thread).verdict? = none) (empty : state.bucket.tokens ≤ 0) :
    let call : BucketCall Thread := .admitSource thread seenMs
    let moved := state.admitLoop thread seenMs state.bucket.tokens
    moved.1 = some (call.carriedOut whole).1 ∧ Agrees moved.2 (call.carriedOut whole).2 := by
  intro call moved
  obtain ⟨no_drop, no_pass⟩ := AdmitControl.owes_nothing undecided
  have taken : call.carriedOut whole = ((some thread, .error .queueFull),
      { whole with lastSeenMs := seenMs, dropCount := whole.dropCount + 1 }) := by
    have none_left : whole.tokens ≤ 0 := agrees.tokens ▸ empty
    simp only [call, BucketCall.carriedOut, takeToken, none_left, ↓reduceIte]
  have decided : moved = (some (some thread, .error .queueFull), { state with
      admits := Function.update state.admits thread (.counting (.error .queueFull)) }) :=
    if_pos empty
  rw [taken, decided]
  refine ⟨rfl, agrees.move agrees.tokens trivial rfl rfl ?_ ?_⟩
  · rw [no_drop, AdmitControl.drops]
    ring
  · rw [no_pass]
    rfl

theorem Agrees.retried (agrees : Agrees state whole) {thread : Thread} (seenMs : Nat)
    (undecided : (state.admits thread).verdict? = none) (some_left : ¬ state.bucket.tokens ≤ 0) :
    let moved := state.admitLoop thread seenMs state.bucket.tokens
    moved.1 = none ∧ Agrees moved.2 whole := by
  intro moved
  obtain ⟨no_drop, no_pass⟩ := AdmitControl.owes_nothing undecided
  have again : moved = (none, { state with
      admits := Function.update state.admits thread (.read seenMs state.bucket.tokens) }) :=
    if_neg some_left
  rw [again]
  refine ⟨rfl, agrees.move agrees.tokens (Int.not_le.1 some_left) rfl rfl ?_ ?_⟩
  · rw [no_drop]
    rfl
  · rw [no_pass]
    rfl

/-- An exchange that succeeds takes the token that the whole call takes. -/
theorem Agrees.passed (agrees : Agrees state whole) {thread : Thread} {seenMs : Nat}
    {current : Int} (control : state.admits thread = .read seenMs current)
    (found : state.bucket.tokens = current) :
    let call : BucketCall Thread := .admitSource thread seenMs
    (call.carriedOut whole).1 = (some thread, .ok ()) ∧
      Agrees { state with
        bucket := { state.bucket with tokens := current - 1 }
        admits := Function.update state.admits thread (.counting (.ok ())) }
        (call.carriedOut whole).2 := by
  intro call
  have sighted := agrees.sighted thread
  rw [control] at sighted
  have whole_tokens : whole.tokens = current := agrees.tokens.symm.trans found
  have taken : call.carriedOut whole = ((some thread, .ok ()), { whole with
      lastSeenMs := seenMs, tokens := whole.tokens - 1, passCount := whole.passCount + 1 }) := by
    have some_left : ¬ whole.tokens ≤ 0 := whole_tokens ▸ Int.not_le.2 sighted
    simp only [call, BucketCall.carriedOut, takeToken, some_left, ↓reduceIte]
  rw [taken]
  refine ⟨rfl, agrees.move (congrArg (· - 1) whole_tokens.symm) trivial rfl rfl ?_ ?_⟩
  · rw [control]
    rfl
  · simp only [control, AdmitControl.passes]
    ring

/-- Counting a verdict leaves the sum of what is counted and what is owed. -/
theorem Agrees.counted (agrees : Agrees state whole) {thread : Thread} {verdict : VoidResult}
    (control : state.admits thread = .counting verdict) :
    Agrees { state with
      bucket := state.bucket.count verdict
      admits := Function.update state.admits thread .idle } whole := by
  cases verdict with
  | ok success =>
      refine agrees.move agrees.tokens trivial rfl rfl ?_ ?_
      · rw [control]
        rfl
      · rw [control]
        simp [TokenBucket.count, AdmitControl.passes]
  | error code =>
      refine agrees.move agrees.tokens trivial rfl rfl ?_ ?_
      · rw [control]
        simp [TokenBucket.count, AdmitControl.drops]
      · rw [control]
        rfl

theorem Agrees.silent (agrees : Agrees state whole) {input : BucketStep Thread}
    (undecided : state.completes input = none) :
    (state.step input).1 = none ∧ Agrees (state.step input).2 whole := by
  cases input with
  | admitSource thread seenMs =>
      cases control : state.admits thread with
      | idle =>
          simp only [step, admitSource, control, true_and]
          refine agrees.move agrees.tokens trivial rfl rfl ?_ ?_
          · rw [control]
            rfl
          · rw [control]
            rfl
      | seen earlierMs => simpa [step, admitSource, control] using agrees
      | read earlierMs current => simpa [step, admitSource, control] using agrees
      | counting verdict => simpa [step, admitSource, control] using agrees
  | admitOn thread spurious =>
      cases control : state.admits thread with
      | idle => simpa [step, admitOn, control] using agrees
      | seen seenMs =>
          simp only [completes, control] at undecided
          simp only [step, admitOn, control]
          refine agrees.retried seenMs (by rw [control]; rfl) fun empty => ?_
          simp [empty] at undecided
      | read seenMs current =>
          simp only [completes, control] at undecided
          simp only [step, admitOn, control]
          obtain ⟨found, genuine, wrote⟩ | ⟨failed, wrote⟩ := compareExchangeWeak_cases
            state.bucket.tokens current (current - 1) spurious
          · simp [found, genuine] at undecided
          · rw [wrote]
            refine agrees.retried seenMs (by rw [control]; rfl) fun empty => ?_
            simp [empty] at undecided
      | counting verdict =>
          simp only [step, admitOn, control, true_and]
          exact agrees.counted control
  | refillBucket nowMs =>
      have refill := agrees.refill
      cases control : state.refill with
      | idle =>
          simp only [completes, control] at undecided
          by_cases early : nowMs ≤ state.bucket.lastRefillMs
          · simp [early] at undecided
          · rw [control] at refill
            have same : state.bucket.lastRefillMs = whole.lastRefillMs := refill
            simp only [step, refillBucket, control, early, ↓reduceIte, true_and]
            exact { agrees with refill := ⟨same, same ▸ Nat.not_le.1 early, by rw [same]⟩ }
      | elapsed earlierMs tokens => simpa [step, refillBucket, control] using agrees
      | read earlierMs tokens current => simpa [step, refillBucket, control] using agrees
      | credited earlierMs => simpa [step, refillBucket, control] using agrees
  | refillOn spurious =>
      have refill := agrees.refill
      cases control : state.refill with
      | idle => simpa [step, refillOn, control] using agrees
      | elapsed nowMs tokens =>
          rw [control] at refill
          simp only [step, refillOn, control, true_and]
          exact { agrees with refill := refill }
      | read nowMs tokens current =>
          rw [control] at refill
          simp only [completes, control] at undecided
          simp only [step, refillOn, control]
          obtain ⟨found, genuine, wrote⟩ | ⟨failed, wrote⟩ := compareExchangeWeak_cases
            state.bucket.tokens current
            (if current + tokens > burstCapacity then burstCapacity else current + tokens) spurious
          · simp [found, genuine] at undecided
          · rw [wrote]
            exact ⟨rfl, { agrees with refill := refill }⟩
      | credited nowMs =>
          rw [control] at refill
          simp only [step, refillOn, control, true_and]
          exact { agrees with refill := Eq.symm refill }

theorem Agrees.answers (agrees : Agrees state whole) {input : BucketStep Thread}
    {call : BucketCall Thread} (decided : state.completes input = some call) :
    (state.step input).1 = some (call.carriedOut whole).1 ∧
      Agrees (state.step input).2 (call.carriedOut whole).2 := by
  cases input with
  | admitSource thread seenMs => cases decided
  | admitOn thread spurious =>
      cases control : state.admits thread with
      | idle => simp [completes, control] at decided
      | seen seenMs =>
          by_cases empty : state.bucket.tokens ≤ 0
          · obtain rfl : BucketCall.admitSource thread seenMs = call := by
              simpa [completes, control, empty] using decided
            simp only [step, admitOn, control]
            exact agrees.dropped seenMs (by rw [control]; rfl) empty
          · simp [completes, control, empty] at decided
      | read seenMs current =>
          have sighted := agrees.sighted thread
          rw [control] at sighted
          simp only [completes, control] at decided
          simp only [step, admitOn, control]
          obtain ⟨found, genuine, wrote⟩ | ⟨failed, wrote⟩ := compareExchangeWeak_cases
            state.bucket.tokens current (current - 1) spurious
          · obtain rfl : BucketCall.admitSource thread seenMs = call := by
              simpa [found, genuine] using decided
            obtain ⟨granted, moved⟩ := agrees.passed control found
            rw [wrote]
            exact ⟨congrArg some granted.symm, moved⟩
          · by_cases empty : state.bucket.tokens ≤ 0
            · obtain rfl : BucketCall.admitSource thread seenMs = call := by
                simpa [empty] using decided
              rw [wrote]
              exact agrees.dropped seenMs (by rw [control]; rfl) empty
            · simp [empty, failed] at decided
      | counting verdict => simp [completes, control] at decided
  | refillBucket nowMs =>
      have refill := agrees.refill
      cases control : state.refill with
      | idle =>
          rw [control] at refill
          have same : state.bucket.lastRefillMs = whole.lastRefillMs := refill
          by_cases early : nowMs ≤ state.bucket.lastRefillMs
          · obtain rfl : BucketCall.refillBucket nowMs = call := by
              simpa [completes, control, early] using decided
            have unchanged : Network.refillBucket whole nowMs = whole := if_pos (same ▸ early)
            simp only [step, refillBucket, control, early, ↓reduceIte, BucketCall.carriedOut,
              unchanged, true_and]
            exact agrees
          · simp [completes, control, early] at decided
      | elapsed earlierMs tokens => simp [completes, control] at decided
      | read earlierMs tokens current => simp [completes, control] at decided
      | credited earlierMs => simp [completes, control] at decided
  | refillOn spurious =>
      have refill := agrees.refill
      cases control : state.refill with
      | idle => simp [completes, control] at decided
      | elapsed nowMs tokens => simp [completes, control] at decided
      | credited nowMs => simp [completes, control] at decided
      | read nowMs tokens current =>
          rw [control] at refill
          obtain ⟨same, advanced, worth⟩ := refill
          simp only [completes, control] at decided
          simp only [step, refillOn, control]
          obtain ⟨found, genuine, wrote⟩ | ⟨failed, wrote⟩ := compareExchangeWeak_cases
            state.bucket.tokens current
            (if current + tokens > burstCapacity then burstCapacity else current + tokens) spurious
          · obtain rfl : BucketCall.refillBucket nowMs = call := by
              simpa [found, genuine] using decided
            rw [wrote]
            simp only [BucketCall.carriedOut, refillBucket_newTokens advanced, true_and]
            refine { agrees with tokens := ?_, refill := rfl }
            rw [← worth, ← agrees.tokens, found]
          · simp [failed] at decided

/-- The loops around a compare-exchange take effect as a whole. -/
theorem linearises :
    Linearises (machine : Machine (SharedBucket Thread) _ _) BucketCall.whole completes
      (fun _ _ => True) Agrees where
  silent related undecided := related.silent undecided
  answers related _ decided := related.answers decided

omit [DecidableEq Thread] in
theorem agrees_quiet (bucket : TokenBucket) :
    Agrees (quiet bucket : SharedBucket Thread) bucket where
  tokens := rfl
  sighted _ := trivial
  refill := rfl
  drops := by simp [quiet, AdmitControl.drops]
  passes := by simp [quiet, AdmitControl.passes]

end SharedBucket

section Verdicts

variable {Thread : Type} [DecidableEq Thread]

def BucketReply.verdictFor? (thread : Thread) (reply : BucketReply Thread) : Option VoidResult :=
  if reply.1 = some thread then some reply.2 else none

namespace SharedBucket

theorem admitLoop_verdicts (state : SharedBucket Thread) {mover : Thread} (thread : Thread)
    (seenMs : Nat) (current : Int) (undecided : (state.admits mover).verdict? = none) :
    ((state.admitLoop mover seenMs current).2.admits thread).verdict?.toList =
      (state.admits thread).verdict?.toList ++
        (state.admitLoop mover seenMs current).1.toList.filterMap
          (BucketReply.verdictFor? thread) := by
  by_cases empty : current ≤ 0
  · by_cases same : thread = mover
    · subst same
      rw [undecided]
      simp [admitLoop, empty, AdmitControl.verdict?, BucketReply.verdictFor?]
    · have apart : ¬ mover = thread := Ne.symm same
      simp [admitLoop, empty, same, apart, BucketReply.verdictFor?]
  · by_cases same : thread = mover
    · subst same
      rw [undecided]
      simp [admitLoop, empty, AdmitControl.verdict?]
    · simp [admitLoop, empty, same]

/-- A thread is handed the verdicts that were fixed for it. -/
theorem step_verdicts (state : SharedBucket Thread) (input : BucketStep Thread)
    (thread : Thread) :
    (state.returns input).filterMap (BucketReply.verdictFor? thread) ++
        ((state.step input).2.admits thread).verdict?.toList =
      (state.admits thread).verdict?.toList ++
        (state.step input).1.toList.filterMap (BucketReply.verdictFor? thread) := by
  cases input with
  | admitSource mover seenMs =>
      cases control : state.admits mover with
      | idle =>
          by_cases same : thread = mover
          · subst same
            simp [returns, step, admitSource, control, AdmitControl.verdict?]
          · simp [returns, step, admitSource, control, Function.update_of_ne same]
      | seen earlierMs => simp [returns, step, admitSource, control]
      | read earlierMs current => simp [returns, step, admitSource, control]
      | counting verdict => simp [returns, step, admitSource, control]
  | admitOn mover spurious =>
      cases control : state.admits mover with
      | idle => simp [returns, step, admitOn, control]
      | seen seenMs =>
          simpa [returns, step, admitOn, control] using
            state.admitLoop_verdicts thread seenMs state.bucket.tokens (by rw [control]; rfl)
      | read seenMs current =>
          simp only [returns, step, admitOn, control]
          obtain ⟨found, genuine, wrote⟩ | ⟨failed, wrote⟩ := compareExchangeWeak_cases
            state.bucket.tokens current (current - 1) spurious
          · rw [wrote]
            by_cases same : thread = mover
            · subst same
              simp [control, AdmitControl.verdict?, BucketReply.verdictFor?]
            · have apart : ¬ mover = thread := Ne.symm same
              simp [same, apart, BucketReply.verdictFor?]
          · rw [wrote]
            exact state.admitLoop_verdicts thread seenMs state.bucket.tokens
              (by rw [control]; rfl)
      | counting verdict =>
          by_cases same : thread = mover
          · subst same
            simp [returns, step, admitOn, control, AdmitControl.verdict?,
              BucketReply.verdictFor?]
          · have apart : ¬ mover = thread := Ne.symm same
            simp [returns, step, admitOn, control, same, apart, BucketReply.verdictFor?]
  | refillBucket nowMs =>
      cases control : state.refill with
      | idle =>
          by_cases early : nowMs ≤ state.bucket.lastRefillMs
          · simp [returns, step, refillBucket, control, early, BucketReply.verdictFor?]
          · simp [returns, step, refillBucket, control, early]
      | elapsed earlierMs tokens => simp [returns, step, refillBucket, control]
      | read earlierMs tokens current => simp [returns, step, refillBucket, control]
      | credited earlierMs => simp [returns, step, refillBucket, control]
  | refillOn spurious =>
      cases control : state.refill with
      | idle => simp [returns, step, refillOn, control]
      | elapsed nowMs tokens => simp [returns, step, refillOn, control]
      | credited nowMs => simp [returns, step, refillOn, control]
      | read nowMs tokens current =>
          simp only [returns, step, refillOn, control]
          obtain ⟨found, genuine, wrote⟩ | ⟨failed, wrote⟩ := compareExchangeWeak_cases
            state.bucket.tokens current
            (if current + tokens > burstCapacity then burstCapacity else current + tokens) spurious
          · rw [wrote]
            simp [BucketReply.verdictFor?]
          · rw [wrote]
            simp

/-- Along a run: the verdicts handed to a thread, and the one it is about to be handed, are those
fixed for it. -/
theorem run_verdicts (state : SharedBucket Thread) (inputs : List (BucketStep Thread))
    (thread : Thread) :
    (machine.handedOn returns state inputs).filterMap (BucketReply.verdictFor? thread) ++
        ((machine.run state inputs).admits thread).verdict?.toList =
      (state.admits thread).verdict?.toList ++
        ((machine.outputs state inputs).filterMap id).filterMap
          (BucketReply.verdictFor? thread) := by
  have kept : ∀ (state : SharedBucket Thread) (input : BucketStep Thread), _ :=
    fun state input => step_verdicts state input thread
  simp only [List.filterMap_eq_flatMap_toList (BucketReply.verdictFor? thread)] at kept ⊢
  exact machine.handedOn_conserves (fun state => (state.admits thread).verdict?.toList) kept
    state inputs

end SharedBucket

end Verdicts

section Conservation

variable {Thread : Type}

def granted (replies : List (BucketReply Thread)) : Nat :=
  replies.countP fun reply => reply.1.isSome && reply.2.isOk

theorem newTokens_le (lastMs nowMs : Nat) (advanced : lastMs < nowMs) :
    newTokens lastMs nowMs ≤ refillRatePerMs * nowMs - refillRatePerMs * lastMs := by
  simp only [newTokens, refillRatePerMs]
  split <;> omega

/-- A token is granted once, and none that the time credited does not pay for. -/
theorem carriedOut_conserves (bucket : TokenBucket) (call : BucketCall Thread) :
    let after := (call.carriedOut bucket).2
    (granted [(call.carriedOut bucket).1] : Int) + after.tokens ≤
      bucket.tokens + (refillRatePerMs * after.lastRefillMs -
        refillRatePerMs * bucket.lastRefillMs) := by
  cases call with
  | admitSource thread seenMs =>
      by_cases empty : bucket.tokens ≤ 0
      · simp [BucketCall.carriedOut, takeToken, empty, granted]
      · simp [BucketCall.carriedOut, takeToken, empty, granted]
  | refillBucket nowMs =>
      by_cases early : nowMs ≤ bucket.lastRefillMs
      · simp [BucketCall.carriedOut, refillBucket, early, granted]
      · have advanced := Nat.not_le.1 early
        have worth := newTokens_le bucket.lastRefillMs nowMs advanced
        rw [BucketCall.carriedOut, refillBucket_newTokens advanced]
        simp only [granted, List.countP_singleton, Option.isSome_none, Bool.false_and,
          Bool.false_eq_true, ↓reduceIte, Int.natCast_zero, Int.zero_add]
        split <;> omega

theorem whole_conserves (bucket : TokenBucket) (calls : List (BucketCall Thread)) :
    let after := BucketCall.whole.run bucket calls
    (granted (BucketCall.whole.outputs bucket calls) : Int) + after.tokens ≤
      bucket.tokens + (refillRatePerMs * after.lastRefillMs -
        refillRatePerMs * bucket.lastRefillMs) := by
  induction calls generalizing bucket with
  | nil => simp [granted]
  | cons call rest ih =>
      have here := carriedOut_conserves bucket call
      have later := ih (call.carriedOut bucket).2
      have split : granted (BucketCall.whole.outputs bucket (call :: rest)) =
          granted [(call.carriedOut bucket).1] +
            granted (BucketCall.whole.outputs (call.carriedOut bucket).2 rest) := by
        rw [Machine.outputs_cons, ← List.singleton_append, granted, List.countP_append]
        rfl
      rw [split, Machine.run_cons]
      have moved : BucketCall.whole.step bucket call = call.carriedOut bucket := rfl
      rw [moved]
      push_cast
      dsimp only at here later
      omega

end Conservation

namespace SharedBucket

variable {Thread : Type} [DecidableEq Thread]

/-- Over every interleaving of any number of threads inside `Admit` with the refill task, on one
bucket: the verdicts are those of whole calls, taken in the order in which they are fixed; every
thread is handed its own; the counters are exact once the verdicts are counted; and no token is
granted that was not there or paid for by the time credited. -/
theorem concurrent_admission_linearises [Fintype Thread] (bucket : TokenBucket)
    (inputs : List (BucketStep Thread)) :
    let calls := machine.completed completes (quiet bucket) inputs
    let verdicts := (machine.outputs (quiet bucket) inputs).filterMap id
    let reached := machine.run (quiet bucket) inputs
    let whole := BucketCall.whole.run bucket calls
    verdicts = BucketCall.whole.outputs bucket calls ∧
      reached.bucket.tokens = whole.tokens ∧
      reached.refill.Agrees reached.bucket.lastRefillMs whole.lastRefillMs ∧
      reached.bucket.dropCount + ∑ thread, (reached.admits thread).drops = whole.dropCount ∧
      reached.bucket.passCount + ∑ thread, (reached.admits thread).passes = whole.passCount ∧
      (∀ thread,
        (machine.handedOn returns (quiet bucket) inputs).filterMap
              (BucketReply.verdictFor? thread) ++
            (reached.admits thread).verdict?.toList =
          verdicts.filterMap (BucketReply.verdictFor? thread)) ∧
      (granted verdicts : Int) + reached.bucket.tokens ≤
        bucket.tokens +
          (refillRatePerMs * whole.lastRefillMs - refillRatePerMs * bucket.lastRefillMs) := by
  intro calls verdicts reached whole
  have every : machine.EveryStep (fun _ _ => True) (quiet bucket) inputs :=
    machine.everyStep_of_mem fun _ _ _ => trivial
  obtain ⟨same, agrees⟩ := linearises.run (agrees_quiet bucket) every
  refine ⟨same, agrees.tokens, agrees.refill, agrees.drops, agrees.passes, fun thread => ?_, ?_⟩
  · exact run_verdicts (quiet bucket) inputs thread
  · have conserved := whole_conserves bucket calls
    rw [agrees.tokens, show verdicts = _ from same]
    exact conserved

/-- The exchanges that found another number of tokens and go round again. -/
def retries (state : SharedBucket Thread) (input : BucketStep Thread) : List (BucketStep Thread) :=
  match input with
  | .admitOn thread _ =>
      match state.admits thread with
      | .read _ current =>
          if state.bucket.tokens ≠ current ∧ ¬ state.bucket.tokens ≤ 0 then [input] else []
      | _ => []
  | .refillOn _ =>
      match state.refill with
      | .read _ _ current => if state.bucket.tokens ≠ current then [input] else []
      | _ => []
  | _ => []

end SharedBucket

section Progress

/-- One, when the tokens are no longer what was read. -/
def AdmitControl.stale (tokens : Int) : AdmitControl → Nat
  | .read _ current => if tokens = current then 0 else 1
  | _ => 0

def RefillControl.stale (tokens : Int) : RefillControl → Nat
  | .read _ _ current => if tokens = current then 0 else 1
  | _ => 0

theorem AdmitControl.stale_le (tokens : Int) (control : AdmitControl) :
    control.stale tokens ≤ 1 := by
  unfold stale
  split
  · split <;> omega
  · omega

theorem RefillControl.stale_le (tokens : Int) (control : RefillControl) :
    control.stale tokens ≤ 1 := by
  unfold stale
  split
  · split <;> omega
  · omega

namespace SharedBucket

variable {Thread : Type} [DecidableEq Thread] [Fintype Thread]

/-- How many loops have read what is no longer there. -/
def stale (state : SharedBucket Thread) : Nat :=
  ∑ thread, (state.admits thread).stale state.bucket.tokens +
    state.refill.stale state.bucket.tokens

omit [DecidableEq Thread] in
theorem stale_le (state : SharedBucket Thread) : state.stale ≤ Fintype.card Thread + 1 := by
  have threads : ∑ thread, (state.admits thread).stale state.bucket.tokens ≤
      Fintype.card Thread := by
    have each := Finset.sum_le_card_nsmul Finset.univ
      (fun thread => (state.admits thread).stale state.bucket.tokens) 1
      fun thread _ => (state.admits thread).stale_le _
    simpa using each
  exact Nat.add_le_add threads (state.refill.stale_le _)

variable {state : SharedBucket Thread}

/-- A thread that goes on with nothing read, or with what is there, makes up for one retry of a
stale exchange. -/
theorem stale_refreshed {thread : Thread} {next : AdmitControl} {bucket : TokenBucket}
    (tokens : bucket.tokens = state.bucket.tokens) (fresh : next.stale state.bucket.tokens = 0)
    {retried : Nat} (paid : retried ≤ (state.admits thread).stale state.bucket.tokens) :
    retried + stale { state with
      bucket, admits := Function.update state.admits thread next } ≤ state.stale := by
  have moved := sum_moved (AdmitControl.stale state.bucket.tokens) state.admits thread next
  simp only [stale, tokens]
  omega

/-- A step that fixes no verdict makes no loop stale, and a retry makes one fresh. -/
theorem silent_stale {input : BucketStep Thread} (undecided : state.completes input = none) :
    (state.retries input).length + (state.step input).2.stale ≤ state.stale := by
  cases input with
  | admitSource thread seenMs =>
      cases control : state.admits thread with
      | idle =>
          simp only [step, admitSource, control]
          exact stale_refreshed rfl rfl (Nat.zero_le _)
      | seen earlierMs => simp [retries, step, admitSource, control]
      | read earlierMs current => simp [retries, step, admitSource, control]
      | counting verdict => simp [retries, step, admitSource, control]
  | admitOn thread spurious =>
      cases control : state.admits thread with
      | idle => simp [retries, step, admitOn, control]
      | seen seenMs =>
          have some_left : ¬ state.bucket.tokens ≤ 0 := fun empty => by
            simp [completes, control, empty] at undecided
          have fresh : (AdmitControl.read seenMs state.bucket.tokens).stale
            state.bucket.tokens = 0 := if_pos rfl
          simp only [step, admitOn, control, admitLoop, some_left, ↓reduceIte]
          refine stale_refreshed rfl fresh ?_
          simp [retries, control]
      | counting verdict =>
          have kept : (state.bucket.count verdict).tokens = state.bucket.tokens := by
            rw [TokenBucket.count]
            split <;> rfl
          simp only [step, admitOn, control]
          refine stale_refreshed kept rfl ?_
          simp [retries, control]
      | read seenMs current =>
          have some_left : ¬ state.bucket.tokens ≤ 0 := fun empty => by
            simp [completes, control, empty] at undecided
          simp only [completes, control] at undecided
          obtain ⟨found, genuine, wrote⟩ | ⟨failed, wrote⟩ := compareExchangeWeak_cases
            state.bucket.tokens current (current - 1) spurious
          · simp [found, genuine] at undecided
          · have fresh : (AdmitControl.read seenMs state.bucket.tokens).stale
              state.bucket.tokens = 0 := if_pos rfl
            simp only [step, admitOn, control, wrote, admitLoop, some_left, ↓reduceIte]
            refine stale_refreshed rfl fresh ?_
            simp only [retries, control, AdmitControl.stale]
            by_cases same : state.bucket.tokens = current
            · simp [same]
            · simp [same, some_left]
  | refillBucket nowMs =>
      cases control : state.refill with
      | idle =>
          by_cases early : nowMs ≤ state.bucket.lastRefillMs
          · simp [retries, step, refillBucket, control, early]
          · simp [retries, step, refillBucket, control, early, stale, RefillControl.stale]
      | elapsed earlierMs tokens => simp [retries, step, refillBucket, control]
      | read earlierMs tokens current => simp [retries, step, refillBucket, control]
      | credited earlierMs => simp [retries, step, refillBucket, control]
  | refillOn spurious =>
      cases control : state.refill with
      | idle => simp [retries, step, refillOn, control]
      | elapsed nowMs tokens =>
          simp [retries, step, refillOn, control, stale, RefillControl.stale]
      | credited nowMs => simp [retries, step, refillOn, control, stale, RefillControl.stale]
      | read nowMs tokens current =>
          simp only [completes, control] at undecided
          obtain ⟨found, genuine, wrote⟩ | ⟨failed, wrote⟩ := compareExchangeWeak_cases
            state.bucket.tokens current
            (if current + tokens > burstCapacity then burstCapacity else current + tokens) spurious
          · simp [found, genuine] at undecided
          · simp only [step, refillOn, control, wrote, retries, stale, RefillControl.stale,
              ↓reduceIte]
            by_cases same : state.bucket.tokens = current
            · simp [same]
            · simp only [same, ne_eq, not_false_eq_true, ↓reduceIte, List.length_singleton]
              omega

omit [DecidableEq Thread] [Fintype Thread] in
/-- A step that fixes a verdict is no retry. -/
theorem decided_retries {input : BucketStep Thread} {call : BucketCall Thread}
    (decided : state.completes input = some call) : state.retries input = [] := by
  cases input with
  | admitSource thread seenMs => rfl
  | admitOn thread spurious =>
      cases control : state.admits thread with
      | idle => simp [retries, control]
      | seen seenMs => simp [retries, control]
      | counting verdict => simp [retries, control]
      | read seenMs current =>
          simp only [completes, control] at decided
          simp only [retries, control]
          refine if_neg fun retried => ?_
          obtain ⟨differs, some_left⟩ := retried
          simp [differs, some_left] at decided
  | refillBucket nowMs => rfl
  | refillOn spurious =>
      cases control : state.refill with
      | idle => simp [retries, control]
      | elapsed nowMs tokens => simp [retries, control]
      | credited nowMs => simp [retries, control]
      | read nowMs tokens current =>
          simp only [completes, control] at decided
          simp only [retries, control]
          refine if_neg fun retried => ?_
          simp [retried] at decided

theorem run_stale (state : SharedBucket Thread) (inputs : List (BucketStep Thread)) :
    (machine.handedOn retries state inputs).length + (machine.run state inputs).stale ≤
      state.stale +
        (Fintype.card Thread + 1) * (machine.completed completes state inputs).length := by
  induction inputs generalizing state with
  | nil => simp [Machine.handedOn]
  | cons input rest ih =>
      have later := ih (state.step input).2
      rw [Machine.completed] at later ⊢
      rw [Machine.handedOn, Machine.handedOn, Machine.run_cons, List.length_append,
        List.length_append, Nat.mul_add]
      have moved : machine.step state input = state.step input := rfl
      rw [moved]
      cases verdict : state.completes input with
      | none =>
          have here := silent_stale verdict
          simp only [Option.toList_none, List.length_nil]
          omega
      | some call =>
          have bound := (state.step input).2.stale_le
          rw [decided_retries verdict]
          simp only [Option.toList_some, List.length_singleton, List.length_nil]
          omega

/-- The loops are lock-free: over every interleaving, the exchanges that have to be repeated
because others got ahead are at most one for each loop and each call that takes effect. -/
theorem retries_bounded (bucket : TokenBucket) (inputs : List (BucketStep Thread)) :
    (machine.handedOn retries (quiet bucket) inputs).length ≤
      (Fintype.card Thread + 1) *
        (machine.completed completes (quiet bucket) inputs).length := by
  have account := run_stale (quiet bucket) inputs
  have fresh : (quiet bucket : SharedBucket Thread).stale = 0 := by
    simp [quiet, stale, AdmitControl.stale, RefillControl.stale]
  omega

end SharedBucket

end Progress

end SoaGateway.Network
