import SoaGateway.Foundation.Binary32Order
import SoaGateway.Safety.Handover

/-! The physical envelope: what the four validators accept, and that no command of any run
leaves the limits of its state. -/

set_option autoImplicit false

namespace SoaGateway.Safety

open Foundation Ipc

def maxSteeringAngleDeg : Binary32 := .ofFraction 540 1
def maxFrictionCoeff : Binary32 := .ofFraction 105 100
def minFrictionCoeff : Binary32 := .ofFraction 10 100
def maxLateralAccelMps2 : Binary32 := .ofFraction 85 10

def validateMagnitude (limit request : Binary32) : VoidResult :=
  if limit.less request.absolute then .error .invalidArgument else .ok ()

def validateSteeringAngle (angleDeg : Binary32) : VoidResult :=
  validateMagnitude maxSteeringAngleDeg angleDeg

def validateFrictionCoeff (mu : Binary32) : VoidResult :=
  if mu.less minFrictionCoeff || maxFrictionCoeff.less mu then .error .invalidArgument
  else .ok ()

def validateDeceleration (decelMps2 : Binary32) : VoidResult :=
  validateMagnitude maxLongitudinalDecelMps2 decelMps2

def validateLateralAccel (accelMps2 : Binary32) : VoidResult :=
  validateMagnitude maxLateralAccelMps2 accelMps2

theorem validateMagnitude_ok_iff {limit : Binary32} (bound : limit.isFinite = true)
    (positive : limit.negative = false) (request : Binary32) :
    validateMagnitude limit request = .ok () ↔
      request.isNaN = true ∨ request.isFinite = true ∧ |request.value| ≤ limit.value := by
  rw [← Binary32.not_less_absolute_iff bound positive, validateMagnitude]
  cases limit.less request.absolute <;> simp

theorem validateFrictionCoeff_ok_iff (mu : Binary32) :
    validateFrictionCoeff mu = .ok () ↔
      mu.isNaN = true ∨ mu.isFinite = true ∧ minFrictionCoeff.value ≤ mu.value ∧
        mu.value ≤ maxFrictionCoeff.value := by
  rw [← Binary32.not_outside_iff (by decide) (by decide), validateFrictionCoeff]
  cases mu.less minFrictionCoeff || maxFrictionCoeff.less mu <;> simp

/-- On all patterns: the four validators accept the numbers inside their limits and every NaN,
and refuse both infinities. -/
theorem envelope_exact (request : Binary32) :
    (validateSteeringAngle request = .ok () ↔ request.isNaN = true ∨
      request.isFinite = true ∧ |request.value| ≤ maxSteeringAngleDeg.value) ∧
    (validateDeceleration request = .ok () ↔ request.isNaN = true ∨
      request.isFinite = true ∧ |request.value| ≤ maxLongitudinalDecelMps2.value) ∧
    (validateLateralAccel request = .ok () ↔ request.isNaN = true ∨
      request.isFinite = true ∧ |request.value| ≤ maxLateralAccelMps2.value) ∧
    (validateFrictionCoeff request = .ok () ↔ request.isNaN = true ∨
      request.isFinite = true ∧ minFrictionCoeff.value ≤ request.value ∧
        request.value ≤ maxFrictionCoeff.value) :=
  ⟨validateMagnitude_ok_iff (by decide) (by decide) request,
    validateMagnitude_ok_iff (by decide) (by decide) request,
    validateMagnitude_ok_iff (by decide) (by decide) request,
    validateFrictionCoeff_ok_iff request⟩

/-- The limits a command carries are those of its state. -/
structure SafeStateCommand.Limited (cmd : SafeStateCommand) : Prop where
  magic : cmd.magic = arbitratorMagic
  state : cmd.state ≠ .emergencyStop
  speed : cmd.maxSpeedKph = SafetyArbitrator.speedCap cmd.state
  deceleration : cmd.maxDecelMps2 = SafetyArbitrator.decelCap cmd.state

/-- A command as the supervisor, a listener or a reader of the arbitrator gets to see it. -/
inductive Issued (replies : List Reply) (arbitrator : SafetyArbitrator) : SafeStateCommand → Prop
  | sent {cmd : SafeStateCommand} {answer : VoidResult} (member : (cmd, answer) ∈ executed replies) :
      Issued replies arbitrator cmd
  | notified {reply : Reply} {listener : SafeStateListener} {cmd : SafeStateCommand}
      (answered : reply ∈ replies) (member : (listener, cmd) ∈ reply.notified) :
      Issued replies arbitrator cmd
  | stored : Issued replies arbitrator arbitrator.lastCommand

namespace SafetyArbitrator

variable {arbitrator : SafetyArbitrator}

/-- The braking limit of a state in metres per second squared: a share of the full one. -/
def brakingMps2 : SafeState → ℚ
  | .deadReckoningMode => 981 / 100 * (7 / 10)
  | .reducedDynamics => 981 / 100 * (5 / 10)
  | .minimalRiskCondition => 981 / 100 * (3 / 10)
  | _ => 981 / 100

theorem decelCap_numerator (state : SafeState) :
    (decelCap state).numerator = (match state with
      | .deadReckoningMode => 14401143 * 2 ^ 129
      | .reducedDynamics => 10286531 * 2 ^ 129
      | .minimalRiskCondition => 12343838 * 2 ^ 128
      | _ => 10286531 * 2 ^ 130) := by
  cases state <;> decide +kernel

/-- The single-precision limits are the decimal ones up to a rounding in the seventh digit. -/
theorem decelCap_near (state : SafeState) :
    |(decelCap state).value - brakingMps2 state| ≤ 1 / 2 ^ 20 := by
  have positive : (decelCap state).negative = false := by cases state <;> decide +kernel
  rw [Binary32.value, if_neg (by simp [positive]), Binary32.toRat, decelCap_numerator]
  cases state <;> norm_num [brakingMps2, abs_le]

theorem decelCap_accepted (state : SafeState) :
    validateDeceleration (decelCap state) = .ok () ∧ (decelCap state).isNaN = false ∧
      0 ≤ (decelCap state).value := by
  have checks : validateDeceleration (decelCap state) = .ok () ∧
      (decelCap state).isNaN = false ∧ (decelCap state).negative = false := by
    cases state <;> decide +kernel
  refine ⟨checks.1, checks.2.1, ?_⟩
  rw [Binary32.value, if_neg (by simp [checks.2.2])]
  exact Binary32.toRat_nonneg _

/-- The speed limits fall as the states get more severe. -/
theorem speedCap_antitone {first second : SafeState}
    (severer : first.severity ≤ second.severity) :
    (speedCap second).toRat ≤ (speedCap first).toRat := by
  rw [speedCap_le_iff]
  cases first <;> cases second <;> revert severer <;> decide

theorem speedCap_toRat (state : SafeState) : (speedCap state).toRat = speedKph state := by
  have scale : (2 : ℚ) ^ 150 ≠ 0 := by positivity
  rw [Binary32.toRat, speedCap_numerator, Nat.cast_mul, Nat.cast_pow, Nat.cast_ofNat,
    mul_div_cancel_right₀ _ scale]

theorem speedKph_restricted {state : SafeState} (restricted : state ≠ .fullOperation) :
    speedKph state ≤ 100 := by
  cases state <;> revert restricted <;> decide

/-- The stored command is the one for the current state. -/
structure Commanding (arbitrator : SafetyArbitrator) : Prop where
  state : arbitrator.lastCommand.state = arbitrator.currentState
  limited : arbitrator.lastCommand.Limited

theorem Commanding.sameView {after : SafetyArbitrator} (commanding : arbitrator.Commanding)
    (same : arbitrator.SameView after) : after.Commanding := by
  refine ⟨?_, ?_⟩
  · rw [same.lastCommand, same.currentState]
    exact commanding.state
  · rw [same.lastCommand]
    exact commanding.limited

/-- Everything a transition shows of its command is within the limits of the target. -/
theorem executeTransition_limited (arbitrator : SafetyArbitrator) {target : SafeState}
    (ordinary : target ≠ .emergencyStop) (clock : CycleClock) :
    let outcome := arbitrator.executeTransition target clock
    outcome.2.Commanding ∧ (∀ send ∈ outcome.1.sent, send.1.Limited) ∧
      ∀ note ∈ outcome.1.notified, note.2.Limited := by
  have built : (arbitrator.buildCommand target).Limited := ⟨rfl, ordinary, rfl, rfl⟩
  have measured : { arbitrator.buildCommand target with transitionMs := clock.latencyMs }.Limited :=
    ⟨rfl, ordinary, rfl, rfl⟩
  unfold executeTransition sendCommandToM7
  cases arbitrator.ipc with
  | none =>
      refine ⟨⟨rfl, measured⟩, fun send sent => ?_, fun note notified => ?_⟩
      · cases sent
        exact built
      · obtain ⟨listener, -, rfl⟩ := List.mem_map.1 notified
        exact measured
  | some bridge =>
      refine ⟨⟨rfl, measured⟩, fun send sent => ?_, fun note notified => ?_⟩
      · cases sent
        exact built
      · obtain ⟨listener, -, rfl⟩ := List.mem_map.1 notified
        exact measured

theorem step_notified_nil {call : ArbitratorCall} (noCycle : ¬ call.IsCycle) :
    (arbitrator.step call).1.notified = [] := by
  cases call with
  | arbitrate clock => exact absurd ⟨clock, rfl⟩ noCycle
  | _ => rfl

theorem step_commanding (commanding : arbitrator.Commanding) (call : ArbitratorCall) :
    (arbitrator.step call).2.Commanding ∧ (∀ send ∈ (arbitrator.step call).1.sent, send.1.Limited) ∧
      ∀ note ∈ (arbitrator.step call).1.notified, note.2.Limited := by
  by_cases cycle : call.IsCycle
  · obtain ⟨clock, rfl⟩ := cycle
    cases ready : arbitrator.initialised with
    | false =>
        rw [show arbitrator.step (.arbitrate clock) = _ from arbitrate_uninitialised ready]
        exact ⟨commanding, by simp [Reply.plain], by simp [Reply.plain]⟩
    | true =>
        by_cases due : arbitrator.Due clock
        · rw [show arbitrator.step (.arbitrate clock) = _ from arbitrate_due due]
          exact executeTransition_limited _ computeRequiredState_ne_emergencyStop clock
        · rw [show arbitrator.step (.arbitrate clock) = _ from arbitrate_not_due ready due]
          exact ⟨⟨commanding.state, commanding.limited⟩, by simp [Reply.plain],
            by simp [Reply.plain]⟩
  · rw [step_notified_nil cycle, step_sent_none cycle]
    refine ⟨?_, by simp, by simp⟩
    by_cases first : call.IsInit
    · obtain ⟨mandatoryDomains, nowMs, rfl⟩ := first
      simp only [step, init]
      split
      · exact commanding
      · split
        · exact commanding
        · exact ⟨rfl, rfl, fun impossible => SafeState.noConfusion impossible, rfl, rfl⟩
    · exact commanding.sameView (ordinary_sameView cycle first)

theorem run_commanding (ipc : Option IpcBridge) (calls : List ArbitratorCall) :
    let replies := machine.outputs (construct ipc) calls
    (machine.run (construct ipc) calls).Commanding ∧
      (∀ send ∈ executed replies, send.1.Limited) ∧
      ∀ reply ∈ replies, ∀ note ∈ reply.notified, note.2.Limited := by
  let law := fun (replies : List Reply) (reached : SafetyArbitrator) =>
    reached.Commanding ∧ (∀ send ∈ executed replies, send.1.Limited) ∧
      ∀ reply ∈ replies, ∀ note ∈ reply.notified, note.2.Limited
  have initial : law [] (construct ipc) :=
    ⟨⟨rfl, rfl, fun impossible => SafeState.noConfusion impossible, rfl, rfl⟩,
      by simp [executed], by simp⟩
  refine machine.trace_invariant initial (fun replies current call holds => ?_) calls
  obtain ⟨commanding, sends, notes⟩ := holds
  obtain ⟨after, sent, notified⟩ := step_commanding commanding call
  refine ⟨after, fun send member => ?_, fun reply member => ?_⟩
  · rw [executed_concat] at member
    rcases List.mem_append.1 member with earlier | new
    · exact sends send earlier
    · exact sent send (Option.mem_toList.1 new)
  · rcases List.mem_append.1 member with earlier | new
    · exact notes reply earlier
    · obtain rfl := List.mem_singleton.1 new
      exact notified

theorem issued_limited (ipc : Option IpcBridge) (calls : List ArbitratorCall)
    {cmd : SafeStateCommand}
    (issued : Issued (machine.outputs (construct ipc) calls) (machine.run (construct ipc) calls)
      cmd) : cmd.Limited := by
  obtain ⟨commanding, sends, notes⟩ := run_commanding ipc calls
  cases issued with
  | sent member => exact sends _ member
  | notified answered member => exact notes _ answered _ member
  | stored => exact commanding.limited

/-- In every run, every command anyone gets to see carries the speed and the braking limit of a
state the matrix knows; the braking limit passes the arbitrator's own validator as a number, and
a more severe command never allows more speed. The stored command is the one of the current
state. -/
theorem commands_within_envelope (ipc : Option IpcBridge) (calls : List ArbitratorCall) :
    let reached := machine.run (construct ipc) calls
    let issued := Issued (machine.outputs (construct ipc) calls) reached
    reached.lastCommand.state = reached.currentState ∧
      (∀ cmd, issued cmd →
        cmd.magic = arbitratorMagic ∧ cmd.state ≠ .emergencyStop ∧
        cmd.maxSpeedKph.toRat = speedKph cmd.state ∧
        cmd.maxDecelMps2 = decelCap cmd.state ∧
        |cmd.maxDecelMps2.value - brakingMps2 cmd.state| ≤ 1 / 2 ^ 20 ∧
        validateDeceleration cmd.maxDecelMps2 = .ok () ∧ cmd.maxDecelMps2.isNaN = false ∧
        0 ≤ cmd.maxDecelMps2.value) ∧
      ∀ first second, issued first → issued second →
        first.state.severity ≤ second.state.severity →
        second.maxSpeedKph.toRat ≤ first.maxSpeedKph.toRat := by
  intro reached issued
  refine ⟨(run_commanding ipc calls).1.state, fun cmd shown => ?_,
    fun first second early late severer => ?_⟩
  · have limited := issued_limited ipc calls shown
    rw [limited.deceleration, limited.speed]
    exact ⟨limited.magic, limited.state, speedCap_toRat cmd.state, rfl, decelCap_near cmd.state,
      decelCap_accepted cmd.state⟩
  · rw [(issued_limited ipc calls early).speed, (issued_limited ipc calls late).speed]
    exact speedCap_antitone severer

end SafetyArbitrator

end SoaGateway.Safety
