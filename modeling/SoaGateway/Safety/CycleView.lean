import SoaGateway.Safety.Handover
import SoaGateway.Safety.HealthyRun

/-! What one cycle sees and what it settles: the fault and active bits of every slot, and
why a cycle that finds the same sensors silent changes nothing. -/

set_option autoImplicit false

namespace SoaGateway.Safety

open Foundation Ipc

namespace DomainState

variable {entry : DomainState} {nowMs : Nat}

/-- The age the scan computes, behind its guard against a clock that went back. -/
def Overdue (entry : DomainState) (nowMs : Nat) : Prop :=
  entry.lastHeartbeat ≤ nowMs ∧ sensorTimeoutMs < nowMs - entry.lastHeartbeat

instance (entry : DomainState) (nowMs : Nat) : Decidable (entry.Overdue nowMs) :=
  inferInstanceAs (Decidable (_ ∧ _))

theorem late_iff_overdue : entry.Late nowMs ↔ entry.Overdue nowMs := by
  unfold Late Overdue
  omega

theorem scan_health_nominal_iff :
    (entry.scan nowMs).health = .nominal ↔ entry.health = .nominal ∧ ¬ entry.Late nowMs := by
  by_cases late : entry.Late nowMs
  · have failed : (entry.scan nowMs).health = .failed := scan_health_failed_iff.2 (.inr late)
    rw [failed]
    exact iff_of_false (by decide) fun nominal => nominal.2 late
  · rw [scan_punctual late]
    exact (and_iff_left late).symm

theorem scan_late_count (late : entry.Late nowMs) :
    (entry.scan nowMs).faultCount =
      if entry.health = .failed then entry.faultCount else entry.faultCount + 1 := by
  by_cases failed : entry.health = .failed
  · rw [scan_failed failed, if_pos failed]
  · rw [scan, if_pos ⟨late, failed⟩, if_neg failed]

end DomainState

namespace ArbitratorCall

/-- Neither a report, nor a heartbeat, nor a cycle. -/
def Idle (call : ArbitratorCall) : Prop :=
  call.report? = none ∧ (∀ domain nowMs, call ≠ .recordHeartbeat domain nowMs) ∧ ¬ call.IsCycle

theorem Idle.touch {call : ArbitratorCall} (idle : call.Idle)
    (index : Fin maxSensorDomains) (entry : DomainState) : call.touch index entry = entry := by
  obtain ⟨silent, noBeat, noCycle⟩ := idle
  obtain same | ⟨clock, rfl, -⟩ | ⟨domain, nowMs, rfl, -⟩ | ⟨fault, nowMs, carried, -⟩ :=
    call.touch_cases index entry
  · exact same
  · exact absurd ⟨clock, rfl⟩ noCycle
  · exact absurd rfl (noBeat domain nowMs)
  · cases silent.symm.trans carried

end ArbitratorCall

namespace SafetyArbitrator

variable {arbitrator : SafetyArbitrator}

theorem observe_active_bit (nowMs : Nat) (index : Fin maxSensorDomains) :
    (arbitrator.observe nowMs).activeBitmask.getLsbD index.val = true ↔
      (arbitrator.domains index).health = .nominal ∧ ¬ (arbitrator.domains index).Late nowMs := by
  have bit : (arbitrator.observe nowMs).activeBitmask.getLsbD index.val =
      decide (((arbitrator.domains index).scan nowMs).health = .nominal) :=
    healthMask_bit _ _
  rw [bit, decide_eq_true_iff, DomainState.scan_health_nominal_iff]

/-- What a cycle says of one slot, in terms of the slot before the cycle. -/
structure SeesExactly (before after : SafetyArbitrator) (nowMs : Nat)
    (index : Fin maxSensorDomains) : Prop where
  fault_iff : after.faultBitmask.getLsbD index.val = true ↔
    (before.domains index).health = .failed ∨ (before.domains index).Overdue nowMs
  active_iff : after.activeBitmask.getLsbD index.val = true ↔
    (before.domains index).health = .nominal ∧ ¬ (before.domains index).Overdue nowMs
  punctual : ¬ (before.domains index).Overdue nowMs →
    (after.domains index).health = (before.domains index).health ∧
      (after.domains index).faultCount = (before.domains index).faultCount
  overdue : (before.domains index).Overdue nowMs →
    (after.domains index).faultCount =
      if (before.domains index).health = .failed then (before.domains index).faultCount
      else (before.domains index).faultCount + 1

/-- Every cycle sees each of the eight slots exactly, and no slot is both failed and
active. -/
theorem cycle_view_exact (ready : arbitrator.initialised = true) (clock : CycleClock) :
    let after := (arbitrator.arbitrate clock).2
    after.faultBitmask &&& after.activeBitmask = 0 ∧
      ∀ index, SeesExactly arbitrator after clock.scanMs index := by
  intro after
  have settles := arbitrate_settles ready clock
  have entry : ∀ index,
      after.domains index = (arbitrator.domains index).scan clock.scanMs :=
    congrFun settles.domains
  have sees : ∀ index, SeesExactly arbitrator after clock.scanMs index := by
    intro index
    refine ⟨?_, ?_, fun punctual => ?_, fun overdue => ?_⟩
    · rw [settles.faultBitmask, ← DomainState.late_iff_overdue]
      exact observe_fault_bit clock.scanMs index
    · rw [settles.activeBitmask, ← DomainState.late_iff_overdue]
      exact observe_active_bit clock.scanMs index
    · rw [← DomainState.late_iff_overdue] at punctual
      rw [entry, DomainState.scan_punctual punctual]
      exact ⟨rfl, rfl⟩
    · rw [entry]
      exact DomainState.scan_late_count (DomainState.late_iff_overdue.2 overdue)
  refine ⟨?_, sees⟩
  by_contra shared
  obtain ⟨index, active, failed⟩ := (mask_inter_ne_zero_iff _ _).1 shared
  obtain ⟨nominal, punctual⟩ := (sees index).active_iff.1 active
  cases (sees index).fault_iff.1 failed with
  | inl stored => exact absurd (nominal.symm.trans stored) (by decide)
  | inr overdue => exact punctual overdue

theorem silent_lidar_is_seen :
    let before := machine.run (overBridge blankSram) [.init 0 0]
    let after := (before.arbitrate (cycleAt 101)).2
    after.faultBitmask &&& after.activeBitmask = 0 ∧
      ∀ index, SeesExactly before after 101 index :=
  cycle_view_exact rfl (cycleAt 101)

/-- The masks are those of the stored healths, and the matrix asks for nothing new. -/
structure Stable (arbitrator : SafetyArbitrator) : Prop where
  initialised : arbitrator.initialised = true
  faults : arbitrator.faultBitmask = arbitrator.healthMask .failed
  actives : arbitrator.activeBitmask = arbitrator.healthMask .nominal
  state : arbitrator.currentState ≠ .emergencyStop →
    arbitrator.currentState = arbitrator.computeRequiredState

theorem arbitrate_stable (ready : arbitrator.initialised = true) (clock : CycleClock) :
    (arbitrator.arbitrate clock).2.Stable := by
  have settles := arbitrate_settles ready clock
  refine ⟨settles.initialised, ?_, ?_, fun unlatched => ?_⟩
  · exact settles.faultBitmask.trans (healthMask_congr settles.domains.symm .failed)
  · exact settles.activeBitmask.trans (healthMask_congr settles.domains.symm .nominal)
  · by_cases latched : arbitrator.currentState = .emergencyStop
    · have quiet : ¬ arbitrator.Due clock := fun due => due.unlatched latched
      rw [arbitrate_not_due ready quiet] at unlatched
      exact absurd latched unlatched
    · exact (settles.currentState latched).trans (computeRequiredState_congr
        settles.faultBitmask.symm settles.mandatoryMask.symm settles.domains.symm)

theorem Stable.idle (stable : arbitrator.Stable) {call : ArbitratorCall}
    (idle : call.Idle) :
    (arbitrator.step call).2.Stable ∧ (arbitrator.step call).2.domains = arbitrator.domains := by
  have domains : (arbitrator.step call).2.domains = arbitrator.domains := by
    funext index
    rw [step_domains stable.initialised, idle.touch]
  have view := step_sameView stable.initialised idle.2.2
  refine ⟨⟨step_initialised stable.initialised call, ?_, ?_, ?_⟩, domains⟩
  · rw [view.faultBitmask, stable.faults]
    exact healthMask_congr domains.symm .failed
  · rw [step_activeBitmask stable.initialised idle.2.2, stable.actives]
    exact healthMask_congr domains.symm .nominal
  · rw [view.currentState]
    intro unlatched
    rw [stable.state unlatched]
    exact computeRequiredState_congr view.faultBitmask.symm view.mandatoryMask.symm domains.symm

theorem Stable.run (stable : arbitrator.Stable) {calls : List ArbitratorCall}
    (idle : ∀ call ∈ calls, call.Idle) :
    (machine.run arbitrator calls).Stable ∧
      (machine.run arbitrator calls).domains = arbitrator.domains := by
  induction calls generalizing arbitrator with
  | nil => exact ⟨stable, rfl⟩
  | cons call rest ih =>
      obtain ⟨after, domains⟩ := stable.idle (idle call List.mem_cons_self)
      obtain ⟨final, same⟩ := ih after fun later member => idle later (.tail call member)
      exact ⟨final, same.trans domains⟩

/-- A stable arbitrator whose silent slots are failed already sees nothing new. -/
theorem Stable.again (stable : arbitrator.Stable) {clock : CycleClock}
    (known : ∀ index, (arbitrator.domains index).Late clock.scanMs →
      (arbitrator.domains index).health = .failed) :
    arbitrator.arbitrate clock = (.plain (.ok ()), arbitrator) := by
  have domains : (arbitrator.observe clock.scanMs).domains = arbitrator.domains := by
    funext index
    by_cases late : (arbitrator.domains index).Late clock.scanMs
    · exact DomainState.scan_failed (known index late)
    · exact DomainState.scan_punctual late
  have same : arbitrator.observe clock.scanMs = arbitrator :=
    SafetyArbitrator.ext rfl domains rfl
      ((healthMask_congr domains .failed).trans stable.faults.symm)
      ((healthMask_congr domains .nominal).trans stable.actives.symm) rfl rfl rfl rfl rfl rfl rfl
      rfl
  have quiet : ¬ arbitrator.Due clock := by
    intro due
    have changed := due.changed
    rw [same] at changed
    exact changed (stable.state due.unlatched).symm
  rw [arbitrate_not_due stable.initialised quiet, same]

/-- A cycle that returned `Ok` is followed by a cycle that does nothing, whatever other
calls come between, as long as the same slots are overdue. -/
theorem second_cycle_is_silent (ipc : Option IpcBridge) (calls between : List ArbitratorCall)
    (first second : CycleClock)
    (accepted : ((machine.run (construct ipc) calls).arbitrate first).1.result = .ok ())
    (idle : ∀ call ∈ between, call.Idle) :
    let before := machine.run (construct ipc) calls
    let middle := machine.run (before.arbitrate first).2 between
    (∀ index, (before.domains index).Overdue first.scanMs ↔
      (middle.domains index).Overdue second.scanMs) →
    middle.arbitrate second = (.plain (.ok ()), middle) := by
  intro before middle sameOverdue
  have ready : before.initialised = true := by
    cases ready : before.initialised with
    | true => rfl
    | false =>
        rw [show (before.arbitrate first).1.result = _ from
          congrArg (fun outcome => outcome.1.result) (arbitrate_uninitialised ready)] at accepted
        cases accepted
  obtain ⟨stable, kept⟩ := (arbitrate_stable ready first).run idle
  refine stable.again fun index late => ?_
  have early : (before.domains index).Late first.scanMs :=
    DomainState.late_iff_overdue.2
      ((sameOverdue index).2 (DomainState.late_iff_overdue.1 late))
  have entry : middle.domains index = (before.domains index).scan first.scanMs :=
    congrFun (kept.trans (arbitrate_settles ready first).domains) index
  rw [entry]
  exact DomainState.scan_health_failed_iff.2 (.inr early)

/-- A LiDAR that falls silent is failed by one cycle and not touched by the next. -/
theorem silent_lidar_is_settled :
    let before := machine.run (overBridge blankSram) [.init 0 0]
    let after := (before.arbitrate (cycleAt 101)).2
    after.arbitrate (cycleAt 102) = (.plain (.ok ()), after) :=
  second_cycle_is_silent (overBridge blankSram).ipc [.init 0 0] [] (cycleAt 101) (cycleAt 102)
    (by decide) (fun _ member => absurd member List.not_mem_nil) (by decide)

end SafetyArbitrator

end SoaGateway.Safety
