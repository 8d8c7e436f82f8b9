import SoaGateway.Dds.DeadlineMisses
import SoaGateway.Foundation.Linearisation
import SoaGateway.Foundation.Sweep

/-! `ValidateSample` on any number of threads beside the periodic `CheckDeadlines`. The check
loads one time stamp after the other while samples come in, and a sample's time is read before it
is stored. As long as no clock is set back behind a check, it still takes effect at once; none is
where each topic is sampled by one thread and the clock never goes back. -/

set_option autoImplicit false

namespace SoaGateway.Dds

open Foundation

/-- Where a thread stands that validates a sample: outside the call, with the sample accepted and
its deadline found, or with the clock read. -/
inductive Validator where
  | idle
  | accepted (topicId : BitVec 32) (sampleLen : BitVec 16) (index : Fin maxQosProfiles)
  | stamped (topicId : BitVec 32) (sampleLen : BitVec 16) (index : Fin maxQosProfiles)
      (nowMs : Nat)

/-- Where the check stands: before the profile at an index, or with a miss that it has yet to
count. -/
inductive Checker where
  | idle
  | checking (nowMs index : Nat)
  | missed (index : Fin maxQosProfiles)

structure SharedEnforcer (Thread : Type) where
  enforcer : DdsQosEnforcer
  validators : Thread → Validator
  checker : Checker

inductive QosStep (Thread : Type) where
  | validateSample (thread : Thread) (topicId : BitVec 32) (sampleLen : BitVec 16)
  | validateOn (thread : Thread) (nowMs : Nat)
  | checkDeadlines (nowMs : Nat)
  | checkOn

def answered (result : VoidResult) : QosReply := { result, outTopicId := none }

namespace DdsQosEnforcer

/-- The checks of `ValidateSample`, up to its reading of the clock. -/
def acceptSample (enforcer : DdsQosEnforcer) (topicId : BitVec 32) (sampleLen : BitVec 16) :
    Except VoidResult (Fin maxQosProfiles) :=
  if !enforcer.initialised then .error (.error .notInitialized)
  else match enforcer.findProfile topicId with
    | none => .error (.error .serviceNotFound)
    | some _ =>
        if sampleLen = 0 ∨ BitVec.ofNat 16 maxPayloadBytes < sampleLen then
          .error (.error .invalidArgument)
        else match enforcer.findDeadlineIndex topicId with
          | none => .error (.ok ())
          | some index => .ok index

def stamp (enforcer : DdsQosEnforcer) (index : Fin maxQosProfiles) (nowMs : Nat) :
    DdsQosEnforcer :=
  enforcer.store index { enforcer.deadlines index with lastSampleMs := nowMs }

theorem validateSample_eq (enforcer : DdsQosEnforcer) (topicId : BitVec 32)
    (sampleLen : BitVec 16) (nowMs : Nat) :
    enforcer.validateSample topicId sampleLen nowMs =
      match enforcer.acceptSample topicId sampleLen with
      | .error result => (result, enforcer)
      | .ok index => (.ok (), enforcer.stamp index nowMs) := by
  unfold validateSample acceptSample
  cases enforcer.initialised with
  | false => rfl
  | true =>
      cases enforcer.findProfile topicId with
      | none => rfl
      | some profile =>
          by_cases malformed : sampleLen = 0 ∨ BitVec.ofNat 16 maxPayloadBytes < sampleLen
          · simp only [malformed, Bool.not_true, Bool.false_eq_true, ↓reduceIte]
          · simp only [malformed, Bool.not_true, Bool.false_eq_true, ↓reduceIte]
            cases enforcer.findDeadlineIndex topicId with
            | none => rfl
            | some index => rfl

end DdsQosEnforcer

namespace SharedEnforcer

variable {Thread : Type} [DecidableEq Thread]

def quiet (enforcer : DdsQosEnforcer) : SharedEnforcer Thread where
  enforcer := enforcer
  validators _ := .idle
  checker := .idle

def setValidator (shared : SharedEnforcer Thread) (thread : Thread) (validator : Validator) :
    SharedEnforcer Thread :=
  { shared with validators := Function.update shared.validators thread validator }

def validateSample (shared : SharedEnforcer Thread) (thread : Thread) (topicId : BitVec 32)
    (sampleLen : BitVec 16) : Option QosReply × SharedEnforcer Thread :=
  match shared.validators thread with
  | .idle =>
      match shared.enforcer.acceptSample topicId sampleLen with
      | .error result => (some (answered result), shared)
      | .ok index => (none, shared.setValidator thread (.accepted topicId sampleLen index))
  | _ => (none, shared)

/-- The reading of the clock, and the store of the time stamp. -/
def validateOn (shared : SharedEnforcer Thread) (thread : Thread) (nowMs : Nat) :
    Option QosReply × SharedEnforcer Thread :=
  match shared.validators thread with
  | .idle => (none, shared)
  | .accepted topicId sampleLen index =>
      (none, shared.setValidator thread (.stamped topicId sampleLen index nowMs))
  | .stamped _ _ index readMs =>
      (some (answered (.ok ())),
        { shared.setValidator thread .idle with enforcer := shared.enforcer.stamp index readMs })

def foundTimeout (topicId : BitVec 32) : QosReply :=
  { result := .error .timeout, outTopicId := some topicId }

def foundNothing : QosReply := { result := .ok (), outTopicId := some invalidTopicId }

def checkDeadlines (shared : SharedEnforcer Thread) (nowMs : Nat) :
    Option QosReply × SharedEnforcer Thread :=
  match shared.checker with
  | .idle =>
      if !shared.enforcer.initialised then
        (some (answered (.error .notInitialized)), shared)
      else (none, { shared with checker := .checking nowMs 0 })
  | _ => (none, shared)

/-- The next look of the check, or the count of the miss it has found. -/
def checkOn (shared : SharedEnforcer Thread) : Option QosReply × SharedEnforcer Thread :=
  match shared.checker with
  | .idle => (none, shared)
  | .checking nowMs index =>
      if inside : index < maxQosProfiles ∧ index < shared.enforcer.profiles.length then
        match shared.enforcer.violation? nowMs ⟨index, inside.1⟩ with
        | some (index, profile) =>
            (some (foundTimeout profile.topicId), { shared with checker := .missed index })
        | none => (none, { shared with checker := .checking nowMs (index + 1) })
      else (some foundNothing, { shared with checker := .idle })
  | .missed index =>
      (none, { shared with enforcer := shared.enforcer.missed index, checker := .idle })

def step (shared : SharedEnforcer Thread) (input : QosStep Thread) :
    Option QosReply × SharedEnforcer Thread :=
  match input with
  | .validateSample thread topicId sampleLen => shared.validateSample thread topicId sampleLen
  | .validateOn thread nowMs => shared.validateOn thread nowMs
  | .checkDeadlines nowMs => shared.checkDeadlines nowMs
  | .checkOn => shared.checkOn

def machine : Machine (SharedEnforcer Thread) (QosStep Thread) (Option QosReply) := ⟨step⟩

/-- The call a step completes: a sample when it is refused or its time is stored, a check when it
finds a miss or has looked at every profile. A reading that a refusal does not make is any. -/
def completes (shared : SharedEnforcer Thread) (input : QosStep Thread) : Option QosCall :=
  match input with
  | .validateSample thread topicId sampleLen =>
      match shared.validators thread, shared.enforcer.acceptSample topicId sampleLen with
      | .idle, .error _ => some (.validateSample topicId sampleLen 0)
      | _, _ => none
  | .validateOn thread _ =>
      match shared.validators thread with
      | .stamped topicId sampleLen _ readMs => some (.validateSample topicId sampleLen readMs)
      | _ => none
  | .checkDeadlines nowMs =>
      match shared.checker with
      | .idle => if !shared.enforcer.initialised then some (.checkDeadlines nowMs) else none
      | _ => none
  | .checkOn =>
      match shared.checker with
      | .checking nowMs index =>
          if inside : index < maxQosProfiles ∧ index < shared.enforcer.profiles.length then
            match shared.enforcer.violation? nowMs ⟨index, inside.1⟩ with
            | some _ => some (.checkDeadlines nowMs)
            | none => none
          else some (.checkDeadlines nowMs)
      | _ => none

/-- The step sets back a clock that a check under way has looked at. -/
def rewinds (shared : SharedEnforcer Thread) (input : QosStep Thread) : Bool :=
  match input, shared.checker with
  | .validateOn thread _, .checking _ position =>
      match shared.validators thread with
      | .stamped _ _ index readMs =>
          decide (index.val < position ∧ readMs < (shared.enforcer.deadlines index).lastSampleMs)
      | _ => false
  | _, _ => false

/-- The enforcer once the miss that was found is counted. -/
def settled (shared : SharedEnforcer Thread) : DdsQosEnforcer :=
  match shared.checker with
  | .missed index => shared.enforcer.missed index
  | _ => shared.enforcer

end SharedEnforcer

namespace DdsQosEnforcer

variable {enforcer : DdsQosEnforcer} {index : Fin maxQosProfiles}

/-- What makes a sample acceptable is registered for good. -/
theorem store_acceptSample {deadline : DeadlineState}
    (active : deadline.active = (enforcer.deadlines index).active)
    (topic : deadline.topicId = (enforcer.deadlines index).topicId) (topicId : BitVec 32)
    (sampleLen : BitVec 16) :
    (enforcer.store index deadline).acceptSample topicId sampleLen =
      enforcer.acceptSample topicId sampleLen := by
  have located : (enforcer.store index deadline).findDeadlineIndex topicId =
      enforcer.findDeadlineIndex topicId := by
    unfold findDeadlineIndex
    congr 1
    funext other
    rw [store_field DeadlineState.active active, store_field DeadlineState.topicId topic]
  unfold acceptSample
  rw [located]
  rfl

theorem stamp_acceptSample (nowMs : Nat) (topicId : BitVec 32) (sampleLen : BitVec 16) :
    (enforcer.stamp index nowMs).acceptSample topicId sampleLen =
      enforcer.acceptSample topicId sampleLen := by
  unfold stamp
  exact store_acceptSample (by rfl) (by rfl) topicId sampleLen

theorem missed_acceptSample (topicId : BitVec 32) (sampleLen : BitVec 16) :
    (enforcer.missed index).acceptSample topicId sampleLen =
      enforcer.acceptSample topicId sampleLen := by
  unfold missed
  exact store_acceptSample (by rfl) (by rfl) topicId sampleLen

/-- A topic that is in time stays so when its clock moves forward. -/
theorem stamp_violation? {nowMs readMs : Nat} {other : Fin maxQosProfiles}
    (forward : other = index → (enforcer.deadlines index).lastSampleMs ≤ readMs)
    (inTime : enforcer.violation? nowMs other = none) :
    (enforcer.stamp index readMs).violation? nowMs other = none := by
  unfold stamp
  have later : (enforcer.deadlines other).lastSampleMs ≤
      ((enforcer.store index { enforcer.deadlines index with lastSampleMs := readMs }).deadlines
        other).lastSampleMs := by
    rcases eq_or_ne other index with rfl | apart
    · rw [store_same]
      exact forward rfl
    · rw [store_other apart]
  unfold violation? at inTime ⊢
  rw [store_field DeadlineState.active (by rfl)]
  simp only [store_profiles]
  cases entry : enforcer.profiles[other.val]? with
  | none => rfl
  | some profile =>
      simp only [entry] at inTime ⊢
      split
      · rfl
      · rename_i finite
        simp only [finite, ↓reduceIte] at inTime
        split
        · rfl
        · rename_i watched
          simp only [watched, ↓reduceIte, ite_eq_right_iff, reduceCtorEq, imp_false] at inTime
          refine if_neg fun overdue => inTime ⟨later.trans overdue.1, ?_⟩
          exact overdue.2.trans_le (Nat.sub_le_sub_left later nowMs)

/-- A count and a time stamp do not meet. -/
theorem stamp_missed (other : Fin maxQosProfiles) (nowMs : Nat) :
    (enforcer.stamp index nowMs).missed other = (enforcer.missed other).stamp index nowMs := by
  unfold stamp missed
  rcases eq_or_ne index other with rfl | apart
  · simp only [store, Function.update_self, Function.update_idem]
  · simp only [store, Function.update_of_ne apart, Function.update_of_ne apart.symm]
    rw [Function.update_comm apart]

/-- Where the check stops, a look at all profiles at once stops as well. -/
theorem checkDeadlines_found {nowMs position : Nat} (started : enforcer.initialised = true)
    (swept : Swept (fun cells => DdsQosEnforcer.violation? cells nowMs) enforcer position)
    (inside : position < maxQosProfiles) {other : Fin maxQosProfiles} {profile : DdsQosProfile}
    (finds : enforcer.violation? nowMs ⟨position, inside⟩ = some (other, profile)) :
    enforcer.checkDeadlines nowMs =
      (SharedEnforcer.foundTimeout profile.topicId, enforcer.missed other) := by
  have first := swept.findSome?_eq_some inside finds
  simp only [checkDeadlines, started, first, Bool.not_true, Bool.false_eq_true, ↓reduceIte]
  rfl

theorem checkDeadlines_passed {nowMs position : Nat} (started : enforcer.initialised = true)
    (swept : Swept (fun cells => DdsQosEnforcer.violation? cells nowMs) enforcer position)
    (last : ¬ (position < maxQosProfiles ∧ position < enforcer.profiles.length)) :
    enforcer.checkDeadlines nowMs = (SharedEnforcer.foundNothing, enforcer) := by
  have nothing := swept.findSome?_eq_none fun other late => by
    have unused : enforcer.profiles.length ≤ other.val :=
      Nat.not_lt.1 fun used => last ⟨late.trans_lt other.isLt, late.trans_lt used⟩
    simp only [violation?, List.getElem?_eq_none unused]
  simp only [checkDeadlines, started, nothing, Bool.not_true, Bool.false_eq_true, ↓reduceIte]
  rfl

end DdsQosEnforcer

/-- The sample a thread is at is acceptable, with the deadline it has found. -/
def Validator.Holding (validator : Validator) (enforcer : DdsQosEnforcer) : Prop :=
  match validator with
  | .idle => True
  | .accepted topicId sampleLen index | .stamped topicId sampleLen index _ =>
      enforcer.acceptSample topicId sampleLen = .ok index

/-- The profiles that the check has passed are in time. -/
def Checker.Holding (checker : Checker) (enforcer : DdsQosEnforcer) : Prop :=
  match checker with
  | .idle | .missed _ => True
  | .checking nowMs position =>
      enforcer.initialised = true ∧
        Swept (fun cells => DdsQosEnforcer.violation? cells nowMs) enforcer position

theorem Validator.Holding.moved {validator : Validator} {before after : DdsQosEnforcer}
    (holding : validator.Holding before)
    (accepts : ∀ topicId sampleLen,
      after.acceptSample topicId sampleLen = before.acceptSample topicId sampleLen) :
    validator.Holding after := by
  cases validator with
  | idle => trivial
  | accepted topicId sampleLen index => exact (accepts topicId sampleLen).trans holding
  | stamped topicId sampleLen index nowMs => exact (accepts topicId sampleLen).trans holding

/-- The check does not notice a clock that moves forward behind it, nor any ahead of it. -/
theorem Checker.Holding.stamp {checker : Checker} {enforcer : DdsQosEnforcer}
    (holding : checker.Holding enforcer) {index : Fin maxQosProfiles} {readMs : Nat}
    (forward : ∀ nowMs position, checker = .checking nowMs position → index.val < position →
      (enforcer.deadlines index).lastSampleMs ≤ readMs) :
    checker.Holding (enforcer.stamp index readMs) := by
  cases checker with
  | idle => trivial
  | missed found => trivial
  | checking nowMs position =>
      obtain ⟨started, swept⟩ := holding
      refine ⟨started, swept.kept fun other early inTime => ?_⟩
      refine DdsQosEnforcer.stamp_violation? (fun same => ?_) inTime
      exact forward nowMs position rfl (same ▸ early)

namespace SharedEnforcer

/-- The shared enforcer is the whole one, but for a miss that is yet to be counted. -/
structure Splits {Thread : Type} (shared : SharedEnforcer Thread) (whole : DdsQosEnforcer) :
    Prop where
  whole : shared.settled = whole
  validators : ∀ thread, (shared.validators thread).Holding shared.enforcer
  checker : shared.checker.Holding shared.enforcer

variable {Thread : Type} {shared : SharedEnforcer Thread} {whole : DdsQosEnforcer}

theorem settled_acceptSample (topicId : BitVec 32) (sampleLen : BitVec 16) :
    shared.settled.acceptSample topicId sampleLen =
      shared.enforcer.acceptSample topicId sampleLen := by
  unfold settled
  cases shared.checker with
  | idle => rfl
  | checking nowMs position => rfl
  | missed index => exact DdsQosEnforcer.missed_acceptSample topicId sampleLen

theorem settled_stamp (validators : Thread → Validator) (index : Fin maxQosProfiles)
    (nowMs : Nat) :
    settled { shared with validators, enforcer := shared.enforcer.stamp index nowMs } =
      shared.settled.stamp index nowMs := by
  unfold settled
  cases shared.checker with
  | idle => rfl
  | checking readMs position => rfl
  | missed other => exact DdsQosEnforcer.stamp_missed other nowMs

namespace Splits

theorem idle_whole (splits : shared.Splits whole) (position : shared.checker = .idle) :
    shared.enforcer = whole := by
  rw [← splits.whole, settled, position]

theorem checking_whole (splits : shared.Splits whole) {nowMs index : Nat}
    (position : shared.checker = .checking nowMs index) : shared.enforcer = whole := by
  rw [← splits.whole, settled, position]

theorem acceptSample (splits : shared.Splits whole) (topicId : BitVec 32)
    (sampleLen : BitVec 16) :
    whole.acceptSample topicId sampleLen = shared.enforcer.acceptSample topicId sampleLen := by
  rw [← splits.whole, settled_acceptSample]

theorem silent_checking (splits : shared.Splits whole) :
    (∀ nowMs, shared.completes (.checkDeadlines nowMs) = none →
      (shared.checkDeadlines nowMs).1 = none ∧ (shared.checkDeadlines nowMs).2.Splits whole) ∧
      (shared.completes .checkOn = none →
        shared.checkOn.1 = none ∧ shared.checkOn.2.Splits whole) := by
  refine ⟨fun nowMs unfinished => ?_, fun unfinished => ?_⟩
  · cases position : shared.checker with
    | idle =>
        cases started : shared.enforcer.initialised with
        | false => simp [completes, position, started] at unfinished
        | true =>
            simp only [checkDeadlines, position, started, Bool.not_true, Bool.false_eq_true,
              ↓reduceIte, true_and]
            exact ⟨splits.idle_whole position, splits.validators, started, swept_zero _ _⟩
    | checking begunMs index =>
        simp only [checkDeadlines, position, true_and]
        exact splits
    | missed index =>
        simp only [checkDeadlines, position, true_and]
        exact splits
  · have held := splits.checker
    cases position : shared.checker with
    | idle =>
        simp only [checkOn, position, true_and]
        exact splits
    | missed index =>
        simp only [checkOn, position, true_and]
        refine ⟨?_, fun thread => ?_, trivial⟩
        · rw [← splits.whole, settled, settled, position]
        · exact (splits.validators thread).moved DdsQosEnforcer.missed_acceptSample
    | checking nowMs index =>
        simp only [Checker.Holding, position] at held
        by_cases inside : index < maxQosProfiles ∧ index < shared.enforcer.profiles.length
        · cases finds : shared.enforcer.violation? nowMs ⟨index, inside.1⟩ with
          | some found => simp [completes, position, inside, finds] at unfinished
          | none =>
              simp only [checkOn, position, inside, and_self, ↓reduceDIte, finds, true_and]
              exact ⟨splits.checking_whole position, splits.validators, held.1,
                held.2.step inside.1 finds⟩
        · simp [completes, position, inside] at unfinished

theorem answers_checking (splits : shared.Splits whole) :
    (∀ nowMs call, shared.completes (.checkDeadlines nowMs) = some call →
      (shared.checkDeadlines nowMs).1 = some (whole.step call).1 ∧
        (shared.checkDeadlines nowMs).2.Splits (whole.step call).2) ∧
      ∀ call, shared.completes .checkOn = some call →
        shared.checkOn.1 = some (whole.step call).1 ∧
          shared.checkOn.2.Splits (whole.step call).2 := by
  refine ⟨fun nowMs call finished => ?_, fun call finished => ?_⟩
  · cases position : shared.checker with
    | idle =>
        cases started : shared.enforcer.initialised with
        | false =>
            obtain rfl : QosCall.checkDeadlines nowMs = call := by
              simpa [completes, position, started] using finished
            rw [← splits.idle_whole position]
            simp only [checkDeadlines, position, started, Bool.not_false, ↓reduceIte,
              DdsQosEnforcer.step, DdsQosEnforcer.checkDeadlines, answered, true_and]
            rw [splits.idle_whole position]
            exact splits
        | true => simp [completes, position, started] at finished
    | checking begunMs index => simp [completes, position] at finished
    | missed index => simp [completes, position] at finished
  · have held := splits.checker
    cases position : shared.checker with
    | idle => simp [completes, position] at finished
    | missed index => simp [completes, position] at finished
    | checking nowMs index =>
        simp only [Checker.Holding, position] at held
        obtain ⟨started, swept⟩ := held
        by_cases inside : index < maxQosProfiles ∧ index < shared.enforcer.profiles.length
        · cases finds : shared.enforcer.violation? nowMs ⟨index, inside.1⟩ with
          | none => simp [completes, position, inside, finds] at finished
          | some found =>
              obtain rfl : QosCall.checkDeadlines nowMs = call := by
                simpa [completes, position, inside, finds] using finished
              rw [← splits.checking_whole position, DdsQosEnforcer.step,
                DdsQosEnforcer.checkDeadlines_found started swept inside.1 finds]
              simp only [checkOn, position, inside, and_self, ↓reduceDIte, finds, true_and]
              exact ⟨rfl, splits.validators, trivial⟩
        · obtain rfl : QosCall.checkDeadlines nowMs = call := by
            simpa [completes, position, inside] using finished
          rw [← splits.checking_whole position, DdsQosEnforcer.step,
            DdsQosEnforcer.checkDeadlines_passed started swept inside]
          simp only [checkOn, position, inside, ↓reduceDIte, true_and]
          exact ⟨rfl, splits.validators, trivial⟩

variable [DecidableEq Thread]

/-- A thread moves on, and what it has found stands. -/
theorem holding_update {validators : Thread → Validator} {enforcer : DdsQosEnforcer}
    (held : ∀ thread, (validators thread).Holding enforcer) {thread : Thread}
    {validator : Validator} (holding : validator.Holding enforcer) (other : Thread) :
    (Function.update validators thread validator other).Holding enforcer := by
  rcases eq_or_ne other thread with rfl | apart
  · rw [Function.update_self]
    exact holding
  · rw [Function.update_of_ne apart]
    exact held other

/-- The store of a time is the whole call, and the check does not notice it. -/
theorem storeTime (splits : shared.Splits whole) {thread : Thread} {topicId : BitVec 32}
    {sampleLen : BitVec 16} {index : Fin maxQosProfiles} {readMs nowMs : Nat}
    (position : shared.validators thread = .stamped topicId sampleLen index readMs)
    (forward : shared.rewinds (.validateOn thread nowMs) = false) :
    (shared.validateOn thread nowMs).1 =
        some (whole.step (.validateSample topicId sampleLen readMs)).1 ∧
      (shared.validateOn thread nowMs).2.Splits
        (whole.step (.validateSample topicId sampleLen readMs)).2 := by
  have held := splits.validators thread
  simp only [Validator.Holding, position] at held
  simp only [DdsQosEnforcer.step, DdsQosEnforcer.validateSample_eq, splits.acceptSample, held,
    validateOn, position]
  refine ⟨rfl, ?_, ?_, ?_⟩
  · rw [← splits.whole]
    exact settled_stamp _ index readMs
  · refine holding_update (fun other => ?_) trivial
    exact (splits.validators other).moved (DdsQosEnforcer.stamp_acceptSample readMs)
  · refine splits.checker.stamp fun checkMs passed checking early => ?_
    simp only [rewinds, checking, position, decide_eq_false_iff_not, not_and, Nat.not_lt] at forward
    exact forward early

theorem silent_validating (splits : shared.Splits whole) {thread : Thread} :
    (∀ topicId sampleLen,
      shared.completes (.validateSample thread topicId sampleLen) = none →
        (shared.validateSample thread topicId sampleLen).1 = none ∧
          (shared.validateSample thread topicId sampleLen).2.Splits whole) ∧
      ∀ nowMs, shared.completes (.validateOn thread nowMs) = none →
        (shared.validateOn thread nowMs).1 = none ∧
          (shared.validateOn thread nowMs).2.Splits whole := by
  refine ⟨fun topicId sampleLen unfinished => ?_, fun nowMs unfinished => ?_⟩
  · cases position : shared.validators thread with
    | idle =>
        cases accepts : shared.enforcer.acceptSample topicId sampleLen with
        | error result => simp [completes, position, accepts] at unfinished
        | ok index =>
            simp only [validateSample, position, accepts, true_and]
            exact ⟨splits.whole, holding_update splits.validators accepts, splits.checker⟩
    | accepted begunId begunLen index =>
        simp only [validateSample, position, true_and]
        exact splits
    | stamped begunId begunLen index readMs =>
        simp only [validateSample, position, true_and]
        exact splits
  · have held := splits.validators thread
    cases position : shared.validators thread with
    | idle =>
        simp only [validateOn, position, true_and]
        exact splits
    | accepted topicId sampleLen index =>
        simp only [Validator.Holding, position] at held
        simp only [validateOn, position, true_and]
        exact ⟨splits.whole, holding_update splits.validators held, splits.checker⟩
    | stamped topicId sampleLen index readMs => simp [completes, position] at unfinished

theorem answers_validating (splits : shared.Splits whole) {thread : Thread} :
    (∀ topicId sampleLen call,
      shared.completes (.validateSample thread topicId sampleLen) = some call →
        (shared.validateSample thread topicId sampleLen).1 = some (whole.step call).1 ∧
          (shared.validateSample thread topicId sampleLen).2.Splits (whole.step call).2) ∧
      ∀ nowMs call, shared.rewinds (.validateOn thread nowMs) = false →
        shared.completes (.validateOn thread nowMs) = some call →
          (shared.validateOn thread nowMs).1 = some (whole.step call).1 ∧
            (shared.validateOn thread nowMs).2.Splits (whole.step call).2 := by
  refine ⟨fun topicId sampleLen call finished => ?_, fun nowMs call forward finished => ?_⟩
  · cases position : shared.validators thread with
    | idle =>
        cases accepts : shared.enforcer.acceptSample topicId sampleLen with
        | ok index => simp [completes, position, accepts] at finished
        | error result =>
            obtain rfl : QosCall.validateSample topicId sampleLen 0 = call := by
              simpa [completes, position, accepts] using finished
            simp only [validateSample, position, accepts, DdsQosEnforcer.step,
              DdsQosEnforcer.validateSample_eq, splits.acceptSample, answered, true_and]
            exact splits
    | accepted begunId begunLen index => simp [completes, position] at finished
    | stamped begunId begunLen index readMs => simp [completes, position] at finished
  · cases position : shared.validators thread with
    | idle => simp [completes, position] at finished
    | accepted topicId sampleLen index => simp [completes, position] at finished
    | stamped topicId sampleLen index readMs =>
        obtain rfl : QosCall.validateSample topicId sampleLen readMs = call := by
          simpa [completes, position] using finished
        exact splits.storeTime position forward

theorem silent (splits : shared.Splits whole) {input : QosStep Thread}
    (unfinished : shared.completes input = none) :
    (shared.step input).1 = none ∧ (shared.step input).2.Splits whole := by
  cases input with
  | validateSample thread topicId sampleLen =>
      exact splits.silent_validating.1 topicId sampleLen unfinished
  | validateOn thread nowMs => exact splits.silent_validating.2 nowMs unfinished
  | checkDeadlines nowMs => exact splits.silent_checking.1 nowMs unfinished
  | checkOn => exact splits.silent_checking.2 unfinished

theorem answers (splits : shared.Splits whole) {input : QosStep Thread} {call : QosCall}
    (forward : shared.rewinds input = false) (finished : shared.completes input = some call) :
    (shared.step input).1 = some (whole.step call).1 ∧
      (shared.step input).2.Splits (whole.step call).2 := by
  cases input with
  | validateSample thread topicId sampleLen =>
      exact splits.answers_validating.1 topicId sampleLen call finished
  | validateOn thread nowMs => exact splits.answers_validating.2 nowMs call forward finished
  | checkDeadlines nowMs => exact splits.answers_checking.1 nowMs call finished
  | checkOn => exact splits.answers_checking.2 call finished

end Splits

theorem splits_quiet (enforcer : DdsQosEnforcer) :
    (quiet enforcer : SharedEnforcer Thread).Splits enforcer where
  whole := rfl
  validators _ := trivial
  checker := trivial

variable [DecidableEq Thread]

/-- Cutting the calls up changes no answer while no clock is set back behind the check. -/
theorem linearises :
    Linearises machine DdsQosEnforcer.machine completes
      (fun (shared : SharedEnforcer Thread) input => shared.rewinds input = false) Splits where
  silent related unfinished := related.silent unfinished
  answers related fits finished := related.answers fits finished

/-- Over every interleaving of threads that validate samples with one that checks the deadlines,
in which no time is stored behind the check that is before the one there: each call answers as if
it had been made whole when it stored its time or ended its search, so that a check finds the
first topic that is overdue then, and the deadlines, once a miss found is counted, are those of
whole calls. -/
theorem deadline_check_linearises (enforcer : DdsQosEnforcer) {steps : List (QosStep Thread)}
    (forward : machine.EveryStep (fun shared input => shared.rewinds input = false)
      (quiet enforcer) steps) :
    let calls := machine.completed completes (quiet enforcer) steps
    (machine.outputs (quiet enforcer) steps).filterMap id =
        DdsQosEnforcer.machine.outputs enforcer calls ∧
      (machine.run (quiet enforcer) steps).settled =
        DdsQosEnforcer.machine.run enforcer calls := by
  intro calls
  obtain ⟨same, splits⟩ := linearises.run (splits_quiet enforcer) forward
  exact ⟨same, splits.whole⟩

/-- The second topic is overdue when the check begins and sampled before the check gets there. -/
def sampledDuringCheck : List (QosStep Bool) :=
  [.validateSample true 1 8, .validateOn true 9, .validateOn true 9, .checkDeadlines 12,
    .validateSample false 2 8, .checkOn, .validateOn false 13, .validateOn false 13, .checkOn,
    .checkOn]

theorem late_sample_is_in_time :
    (machine.outputs (quiet (DdsQosEnforcer.machine.run .construct DdsQosEnforcer.twoSilentTopics))
      sampledDuringCheck).filterMap id = [answered (.ok ()), answered (.ok ()), foundNothing] := by
  have forward : machine.EveryStep (fun shared input => shared.rewinds input = false)
      (quiet (DdsQosEnforcer.machine.run .construct DdsQosEnforcer.twoSilentTopics))
      sampledDuringCheck := by
    simp only [sampledDuringCheck, Machine.everyStep_cons_iff, Machine.everyStep_nil]
    decide +kernel
  refine (deadline_check_linearises _ forward).1.trans ?_
  rfl

end SharedEnforcer

/-- The thread samples only topics that are its own. -/
def QosStep.OwnedBy {Thread : Type} (owner : BitVec 32 → Thread) : QosStep Thread → Prop
  | .validateSample thread topicId _ => owner topicId = thread
  | _ => True

def QosStep.readings {Thread : Type} : QosStep Thread → List Nat
  | .validateOn _ nowMs => [nowMs]
  | _ => []

/-- The time a thread has read is none before the one that is there. -/
def Validator.Paced {Thread : Type} (validator : Validator) (enforcer : DdsQosEnforcer)
    (owner : BitVec 32 → Thread) (latestMs : Nat) (thread : Thread) : Prop :=
  match validator with
  | .idle => True
  | .accepted _ _ index => owner (enforcer.deadlines index).topicId = thread
  | .stamped _ _ index readMs =>
      owner (enforcer.deadlines index).topicId = thread ∧
        (enforcer.deadlines index).lastSampleMs ≤ readMs ∧ readMs ≤ latestMs

section Owned

variable {Thread : Type} {owner : BitVec 32 → Thread} {latestMs : Nat}

theorem DdsQosEnforcer.acceptSample_topic {enforcer : DdsQosEnforcer} {topicId : BitVec 32}
    {sampleLen : BitVec 16} {index : Fin maxQosProfiles}
    (accepts : enforcer.acceptSample topicId sampleLen = .ok index) :
    (enforcer.deadlines index).topicId = topicId := by
  unfold acceptSample at accepts
  split at accepts
  · cases accepts
  · split at accepts
    · cases accepts
    · split at accepts
      · cases accepts
      · split at accepts
        · cases accepts
        · rename_i located
          cases accepts
          have met := List.find?_some located
          rw [Bool.and_eq_true, beq_iff_eq] at met
          exact met.2

/-- A thread does not notice what happens to the clocks of other threads' topics. -/
theorem Validator.Paced.moved {validator : Validator} {before after : DdsQosEnforcer}
    {laterMs : Nat} {thread : Thread} (paced : validator.Paced before owner latestMs thread)
    (topics : ∀ index, (after.deadlines index).topicId = (before.deadlines index).topicId)
    (clocks : ∀ index, owner (before.deadlines index).topicId = thread →
      (after.deadlines index).lastSampleMs = (before.deadlines index).lastSampleMs)
    (later : latestMs ≤ laterMs) : validator.Paced after owner laterMs thread := by
  cases validator with
  | idle => trivial
  | accepted topicId sampleLen index => exact (congrArg owner (topics index)).trans paced
  | stamped topicId sampleLen index readMs =>
      obtain ⟨owned, forward, past⟩ := paced
      exact ⟨(congrArg owner (topics index)).trans owned, (clocks index owned).trans_le forward,
        past.trans later⟩

namespace SharedEnforcer

/-- No time that is stored or about to be is after the latest reading. -/
structure Paced (shared : SharedEnforcer Thread) (owner : BitVec 32 → Thread) (latestMs : Nat) :
    Prop where
  stored : ∀ index, (shared.enforcer.deadlines index).lastSampleMs ≤ latestMs
  validators : ∀ thread,
    (shared.validators thread).Paced shared.enforcer owner latestMs thread

variable {shared : SharedEnforcer Thread}

namespace Paced

theorem forward (paced : shared.Paced owner latestMs) (input : QosStep Thread) :
    shared.rewinds input = false := by
  cases input with
  | validateSample thread topicId sampleLen => rfl
  | checkDeadlines nowMs => rfl
  | checkOn => rfl
  | validateOn thread nowMs =>
      have held := paced.validators thread
      cases checking : shared.checker with
      | idle => simp [rewinds, checking]
      | missed found => simp [rewinds, checking]
      | checking checkMs passed =>
          cases position : shared.validators thread with
          | idle => simp [rewinds, checking, position]
          | accepted topicId sampleLen index => simp [rewinds, checking, position]
          | stamped topicId sampleLen index readMs =>
              simp only [Validator.Paced, position] at held
              simp only [rewinds, checking, position, decide_eq_false_iff_not, not_and, Nat.not_lt]
              exact fun _ => held.2.1

variable {laterMs : Nat}

theorem later (paced : shared.Paced owner latestMs) (late : latestMs ≤ laterMs) :
    shared.Paced owner laterMs where
  stored index := (paced.stored index).trans late
  validators thread :=
    (paced.validators thread).moved (fun _ => rfl) (fun _ _ => rfl) late

variable [DecidableEq Thread]

theorem setValidator (paced : shared.Paced owner latestMs) {thread : Thread}
    {validator : Validator} (own : validator.Paced shared.enforcer owner latestMs thread) :
    (shared.setValidator thread validator).Paced owner latestMs where
  stored := paced.stored
  validators other := by
    rcases eq_or_ne other thread with rfl | apart
    · simp only [SharedEnforcer.setValidator, Function.update_self]
      exact own
    · simp only [SharedEnforcer.setValidator, Function.update_of_ne apart]
      exact paced.validators other

/-- The topic whose clock a thread sets is its own. -/
theorem storeTime (paced : shared.Paced owner latestMs) {thread : Thread} {topicId : BitVec 32}
    {sampleLen : BitVec 16} {index : Fin maxQosProfiles} {readMs nowMs : Nat}
    (position : shared.validators thread = .stamped topicId sampleLen index readMs) :
    (shared.validateOn thread nowMs).2.Paced owner latestMs := by
  have held := paced.validators thread
  simp only [Validator.Paced, position] at held
  obtain ⟨owned, -, past⟩ := held
  simp only [validateOn, position, DdsQosEnforcer.stamp]
  refine ⟨fun other => ?_, fun other => ?_⟩
  · rcases eq_or_ne other index with rfl | apart
    · rw [DdsQosEnforcer.store_same]
      exact past
    · rw [DdsQosEnforcer.store_other apart]
      exact paced.stored other
  · rcases eq_or_ne other thread with rfl | apart
    · simp only [SharedEnforcer.setValidator, Function.update_self]
      trivial
    · simp only [SharedEnforcer.setValidator, Function.update_of_ne apart]
      refine (paced.validators other).moved
        (DdsQosEnforcer.store_field DeadlineState.topicId (by rfl)) (fun place foreign => ?_) le_rfl
      refine congrArg DeadlineState.lastSampleMs (DdsQosEnforcer.store_other (fun same => ?_) _)
      exact apart (foreign.symm.trans (same ▸ owned))

theorem step (paced : shared.Paced owner latestMs) {input : QosStep Thread}
    (owned : input.OwnedBy owner) (late : latestMs ≤ laterMs)
    (reads : ∀ nowMs ∈ input.readings, nowMs = laterMs) :
    (shared.step input).2.Paced owner laterMs := by
  have paced := paced.later late
  cases input with
  | validateSample thread topicId sampleLen =>
      simp only [SharedEnforcer.step, validateSample]
      split
      · cases accepts : shared.enforcer.acceptSample topicId sampleLen with
        | error result => exact paced
        | ok index =>
            refine paced.setValidator ?_
            exact (congrArg owner (DdsQosEnforcer.acceptSample_topic accepts)).trans owned
      · exact paced
  | validateOn thread nowMs =>
      cases position : shared.validators thread with
      | idle =>
          simp only [SharedEnforcer.step, validateOn, position]
          exact paced
      | accepted topicId sampleLen index =>
          have own := paced.validators thread
          simp only [Validator.Paced, position] at own
          simp only [SharedEnforcer.step, validateOn, position]
          obtain rfl := reads nowMs (.head _)
          exact paced.setValidator ⟨own, paced.stored index, le_rfl⟩
      | stamped topicId sampleLen index readMs => exact paced.storeTime position
  | checkDeadlines nowMs =>
      simp only [SharedEnforcer.step, checkDeadlines]
      split
      · split
        · exact paced
        · exact ⟨paced.stored, paced.validators⟩
      · exact paced
  | checkOn =>
      simp only [SharedEnforcer.step, checkOn]
      split
      · exact paced
      · split
        · split
          · exact ⟨paced.stored, paced.validators⟩
          · exact ⟨paced.stored, paced.validators⟩
        · exact ⟨paced.stored, paced.validators⟩
      · rename_i index counting
        refine ⟨fun other => ?_, fun thread => ?_⟩
        · rw [DdsQosEnforcer.missed_lastSampleMs]
          exact paced.stored other
        · refine (paced.validators thread).moved
            (DdsQosEnforcer.store_field DeadlineState.topicId (by rfl)) (fun other _ => ?_) le_rfl
          exact DdsQosEnforcer.missed_lastSampleMs index other

end Paced

variable [DecidableEq Thread]

theorem run_forward (paced : shared.Paced owner latestMs) {steps : List (QosStep Thread)}
    (owned : ∀ input ∈ steps, input.OwnedBy owner)
    (ordered : (latestMs :: steps.flatMap QosStep.readings).Pairwise (· ≤ ·)) :
    machine.EveryStep (fun shared input => shared.rewinds input = false) shared steps := by
  induction steps generalizing shared latestMs with
  | nil => exact machine.everyStep_nil _ _
  | cons input rest ih =>
      have own := owned input List.mem_cons_self
      have others := fun later member => owned later (List.mem_cons_of_mem input member)
      have clock : ∃ laterMs, latestMs ≤ laterMs ∧ (∀ nowMs ∈ input.readings, nowMs = laterMs) ∧
          (laterMs :: rest.flatMap QosStep.readings).Pairwise (· ≤ ·) := by
        cases input with
        | validateOn thread nowMs =>
            obtain ⟨first, later⟩ := List.pairwise_cons.1 ordered
            exact ⟨nowMs, first nowMs List.mem_cons_self, fun _ => List.mem_singleton.1, later⟩
        | validateSample thread topicId sampleLen =>
            exact ⟨latestMs, le_rfl, fun _ member => absurd member List.not_mem_nil, ordered⟩
        | checkDeadlines nowMs =>
            exact ⟨latestMs, le_rfl, fun _ member => absurd member List.not_mem_nil, ordered⟩
        | checkOn =>
            exact ⟨latestMs, le_rfl, fun _ member => absurd member List.not_mem_nil, ordered⟩
      obtain ⟨laterMs, late, reads, later⟩ := clock
      exact (machine.everyStep_cons_iff _ _ _ _).2
        ⟨paced.forward input, ih (paced.step own late reads) others later⟩

/-- Where each topic is sampled by one thread and the clock never goes back, no step sets a
topic's clock back. -/
theorem owned_topics_go_forward {enforcer : DdsQosEnforcer} {steps : List (QosStep Thread)}
    {startMs : Nat} (started : ∀ index, (enforcer.deadlines index).lastSampleMs ≤ startMs)
    (owned : ∀ input ∈ steps, input.OwnedBy owner)
    (ordered : (startMs :: steps.flatMap QosStep.readings).Pairwise (· ≤ ·)) :
    machine.EveryStep (fun shared input => shared.rewinds input = false) (quiet enforcer)
      steps := by
  have paced : (quiet enforcer : SharedEnforcer Thread).Paced owner startMs :=
    ⟨started, fun _ => trivial⟩
  exact run_forward paced owned ordered

end SharedEnforcer

end Owned

end SoaGateway.Dds
