import SoaGateway.Safety.DegradationMatrix

/-! A mandatory domain that falls silent, up to the last of its late cycles: what its silence
leaves as it is, and what the minimal risk condition then turns on. -/

set_option autoImplicit false

namespace SoaGateway.Safety

open Foundation Ipc

namespace DomainState

def countWithSilence (entry : DomainState) (nowMs : Nat) : BitVec 32 :=
  if entry.Late nowMs ∧ entry.health ≠ .failed then entry.faultCount + 1 else entry.faultCount

def Down (entry : DomainState) (nowMs : Nat) : Prop := entry.health = .failed ∨ entry.Late nowMs

theorem scan_faultCount (entry : DomainState) (nowMs : Nat) :
    (entry.scan nowMs).faultCount = entry.countWithSilence nowMs := by
  unfold scan countWithSilence
  split <;> rfl

end DomainState

namespace SafetyArbitrator

variable {arbitrator : SafetyArbitrator} {index : Fin maxSensorDomains}

def started (bridge : IpcBridge) (mandatoryDomains : Byte) (initMs : Nat) : SafetyArbitrator :=
  ((construct (some bridge)).init mandatoryDomains initMs).2

/-- The call is no sign of life from the domain after `quietMs`. -/
def QuietAfter (index : Fin maxSensorDomains) (quietMs : Nat) (call : ArbitratorCall) : Prop :=
  (∀ fault nowMs, call.report? = some (fault, nowMs) → fault.domain.index? = some index →
    fault.health = .nominal → nowMs ≤ quietMs) ∧
  ∀ domain nowMs, call = .recordHeartbeat domain nowMs → domain.index? = some index →
    nowMs ≤ quietMs

def lateCycle (quietMs : Nat) : ArbitratorCall → Bool
  | .arbitrate clock => decide (quietMs + sensorTimeoutMs < clock.scanMs)
  | _ => false

/-- A run in which a mandatory domain gives no sign of life after `quietMs`, and which
ends with the last of at least `faultThreshold` late cycles. -/
structure SilentRun (mandatoryDomains : Byte) (initMs quietMs : Nat)
    (index : Fin maxSensorDomains) (calls : List ArbitratorCall) (last : CycleClock) : Prop where
  valid : index.val < numSensorDomains
  mandatory : mandatoryDomains.getLsbD index.val = true
  begun : initMs ≤ quietMs
  clock : (initMs :: (calls ++ [ArbitratorCall.arbitrate last]).flatMap
    ArbitratorCall.readings).Pairwise (· ≤ ·)
  quiet : ∀ call ∈ calls, QuietAfter index quietMs call
  cycles : faultThreshold.toNat ≤
    (calls ++ [ArbitratorCall.arbitrate last]).countP (lateCycle quietMs)
  late : quietMs + sensorTimeoutMs < last.scanMs

/-- What a silent run keeps: the mask, the last sign of life, and no emergency stop. -/
structure Forsaken (mandatoryDomains : Byte) (quietMs : Nat) (index : Fin maxSensorDomains)
    (arbitrator : SafetyArbitrator) : Prop where
  initialised : arbitrator.initialised = true
  mask : arbitrator.mandatoryMask = mandatoryDomains
  lastSign : (arbitrator.domains index).lastHeartbeat ≤ quietMs
  unlatched : arbitrator.currentState ≠ .emergencyStop

theorem step_ne_emergencyStop (ready : arbitrator.initialised = true)
    (unlatched : arbitrator.currentState ≠ .emergencyStop) (call : ArbitratorCall) :
    (arbitrator.step call).2.currentState ≠ .emergencyStop := by
  by_cases cycle : call.IsCycle
  · obtain ⟨clock, rfl⟩ := cycle
    have state := (arbitrate_settles ready clock).currentState
    rw [show (arbitrator.step (.arbitrate clock)).2.currentState = _ from state unlatched]
    exact computeRequiredState_ne_emergencyStop
  · rw [(step_sameView ready cycle).currentState]
    exact unlatched

theorem Forsaken.step {mandatoryDomains : Byte} {quietMs : Nat}
    (forsaken : Forsaken mandatoryDomains quietMs index arbitrator) {call : ArbitratorCall}
    (quiet : QuietAfter index quietMs call) :
    Forsaken mandatoryDomains quietMs index (arbitrator.step call).2 where
  initialised := step_initialised forsaken.initialised call
  mask := (step_mandatoryMask forsaken.initialised call).trans forsaken.mask
  unlatched := step_ne_emergencyStop forsaken.initialised forsaken.unlatched call
  lastSign := by
    rw [step_domains forsaken.initialised]
    obtain same | ⟨clock, -, scanned⟩ | ⟨domain, nowMs, beat, here, beaten⟩ |
      ⟨fault, nowMs, carried, here, reported⟩ := call.touch_cases index (arbitrator.domains index)
    · rw [same]
      exact forsaken.lastSign
    · rw [scanned, DomainState.scan_lastHeartbeat]
      exact forsaken.lastSign
    · rw [beaten]
      exact quiet.2 domain nowMs beat here
    · rw [reported, DomainState.report]
      split
      · next nominal => exact quiet.1 fault nowMs carried here nominal
      · exact forsaken.lastSign

/-- A silent mandatory domain is down, so the matrix turns on the ranging sensors and on
the mandatory fault counts. -/
theorem observe_minimalRisk_iff {nowMs : Nat}
    (mandatory : arbitrator.mandatoryMask.getLsbD index.val = true)
    (late : (arbitrator.domains index).Late nowMs) :
    (arbitrator.scanTimeouts nowMs).MinimalRisk ↔
      (arbitrator.domains lidarIndex).Down nowMs ∧ (arbitrator.domains radarIndex).Down nowMs ∨
        ∃ other : Fin maxSensorDomains, arbitrator.mandatoryMask.getLsbD other.val = true ∧
          faultThreshold ≤ (arbitrator.domains other).countWithSilence nowMs := by
  have down : ∀ place, (arbitrator.scanTimeouts nowMs).domainFailed place ↔
      (arbitrator.domains place).Down nowMs :=
    fun place => DomainState.scan_health_failed_iff
  have lost : ∃ place : Fin maxSensorDomains,
      (arbitrator.scanTimeouts nowMs).mandatoryMask.getLsbD place.val = true ∧
        (arbitrator.scanTimeouts nowMs).domainFailed place :=
    ⟨index, mandatory, (down index).2 (.inr late)⟩
  refine or_congr (and_congr (down _) (down _)) ?_
  rw [and_iff_right lost]
  refine exists_congr fun other => and_congr_right fun _ => ?_
  rw [← DomainState.scan_faultCount]
  exact Iff.rfl

/-- The last cycle of a silent run decides by the entries its scan leaves. -/
theorem silentRun_decided (bridge : IpcBridge) {mandatoryDomains : Byte} {initMs quietMs : Nat}
    {calls : List ArbitratorCall} {last : CycleClock}
    (silent : SilentRun mandatoryDomains initMs quietMs index calls last) :
    let before := machine.run (started bridge mandatoryDomains initMs) calls
    let final := machine.run (started bridge mandatoryDomains initMs) (calls ++ [.arbitrate last])
    final.currentState = (before.scanTimeouts last.scanMs).chosenState ∧
      ((before.scanTimeouts last.scanMs).MinimalRisk ↔
        ((final.domains lidarIndex).health = .failed ∧
            (final.domains radarIndex).health = .failed) ∨
          ∃ other : Fin maxSensorDomains, mandatoryDomains.getLsbD other.val = true ∧
            faultThreshold ≤ (final.domains other).faultCount) := by
  intro before final
  have initial : Forsaken mandatoryDomains quietMs index
      (started bridge mandatoryDomains initMs) :=
    ⟨rfl, rfl, silent.begun, (by decide : SafeState.fullOperation ≠ .emergencyStop)⟩
  have forsaken : Forsaken mandatoryDomains quietMs index before :=
    machine.everyStep_preserves
      (machine.everyStep_of_mem fun call member _ => silent.quiet call member) initial
      fun _ _ forsaken quiet => forsaken.step quiet
  have late : (before.domains index).Late last.scanMs := by
    have sign := forsaken.lastSign
    have overdue := silent.late
    unfold DomainState.Late
    omega
  have stepped : final = (before.step (.arbitrate last)).2 := machine.run_concat _ calls _
  have scanned : ∀ place, final.domains place = (before.domains place).scan last.scanMs := by
    intro place
    rw [stepped]
    exact step_domains forsaken.initialised (.arbitrate last) place
  have mandatory : before.mandatoryMask.getLsbD index.val = true := by
    rw [forsaken.mask]
    exact silent.mandatory
  refine ⟨?_, ?_⟩
  · rw [stepped]
    exact (arbitrate_settles forsaken.initialised last).currentState forsaken.unlatched
  · rw [observe_minimalRisk_iff mandatory late, forsaken.mask]
    simp only [scanned, DomainState.scan_health_failed_iff, DomainState.scan_faultCount]
    exact Iff.rfl

def cycleAt (nowMs : Nat) : CycleClock :=
  { scanMs := nowMs, startMs := nowMs, endMs := nowMs, logMs := nowMs }

end SafetyArbitrator

end SoaGateway.Safety
