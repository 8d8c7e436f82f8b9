import SoaGateway.Safety.DegradationMatrix

/-! What becomes of a failed domain over whole runs: how its fault bit is cleared. -/

set_option autoImplicit false

namespace SoaGateway.Safety

open Foundation Ipc

namespace SafetyArbitrator

variable {arbitrator : SafetyArbitrator} {index : Fin maxSensorDomains}

/-- The call hides a standing failure: a report that is neither nominal nor failed
overwrites it, or a heartbeat does because the fault count has wrapped to zero. -/
def Masks (index : Fin maxSensorDomains) (arbitrator : SafetyArbitrator)
    (call : ArbitratorCall) : Prop :=
  arbitrator.faultBitmask.getLsbD index.val = true ∧
    (arbitrator.domains index).health = .failed ∧
    ((∃ health, call.Reports index health ∧ health ≠ .nominal ∧ health ≠ .failed) ∨
      call.Beats index ∧ (arbitrator.domains index).faultCount = 0)

/-- A standing failure: the last cycle saw it and it is still stored. -/
structure Standing (index : Fin maxSensorDomains) (arbitrator : SafetyArbitrator) : Prop where
  initialised : arbitrator.initialised = true
  bit : arbitrator.faultBitmask.getLsbD index.val = true
  failed : (arbitrator.domains index).health = .failed

theorem Standing.touch (standing : Standing index arbitrator) {call : ArbitratorCall}
    (unmasked : ¬ Masks index arbitrator call) (unrecovered : ¬ call.Reports index .nominal) :
    (call.touch index (arbitrator.domains index)).health = .failed := by
  obtain same | ⟨clock, -, scanned⟩ | ⟨domain, nowMs, rfl, here, beaten⟩ |
    ⟨fault, nowMs, carried, here, reported⟩ := call.touch_cases index (arbitrator.domains index)
  · rw [same]
    exact standing.failed
  · rw [scanned]
    exact DomainState.scan_health_failed_iff.2 (.inl standing.failed)
  · have counted : (arbitrator.domains index).faultCount ≠ 0 := by
      intro wrapped
      exact unmasked ⟨standing.bit, standing.failed, .inr ⟨⟨domain, nowMs, rfl, here⟩, wrapped⟩⟩
    rw [beaten, DomainState.beat, if_neg counted]
    exact standing.failed
  · rw [reported, DomainState.report_health]
    by_contra other
    have notNominal : fault.health ≠ .nominal :=
      fun recovered => unrecovered ⟨fault, nowMs, carried, here, recovered⟩
    exact unmasked ⟨standing.bit, standing.failed,
      .inl ⟨fault.health, ⟨fault, nowMs, carried, here, rfl⟩, notNominal, other⟩⟩

/-- One unmasked step without a recovery keeps a standing failure standing. -/
theorem Standing.step (standing : Standing index arbitrator) {call : ArbitratorCall}
    (unmasked : ¬ Masks index arbitrator call) (unrecovered : ¬ call.Reports index .nominal) :
    Standing index (arbitrator.step call).2 where
  initialised := step_initialised standing.initialised call
  failed := by
    rw [step_domains standing.initialised]
    exact standing.touch unmasked unrecovered
  bit := by
    by_cases cycle : call.IsCycle
    · obtain ⟨clock, rfl⟩ := cycle
      have faults := (arbitrate_settles standing.initialised clock).faultBitmask
      have observed := (observe_fault_bit clock.scanMs index).2 (.inl standing.failed)
      exact (congrArg (fun mask => mask.getLsbD index.val) faults).trans observed
    · rw [(step_sameView standing.initialised cycle).faultBitmask]
      exact standing.bit

theorem not_beats {call : ArbitratorCall} (noHeartbeat : ∀ domain nowMs,
    call ≠ .recordHeartbeat domain nowMs) : ¬ call.Beats index := by
  intro beating
  obtain ⟨domain, nowMs, same, -⟩ := beating
  exact noHeartbeat domain nowMs same

theorem not_masks_of_silent {call : ArbitratorCall} (noReport : call.report? = none)
    (noBeat : ¬ call.Beats index) : ¬ Masks index arbitrator call := by
  rintro ⟨-, -, ⟨health, ⟨fault, nowMs, carried, -⟩, -⟩ | ⟨beats, -⟩⟩
  · rw [noReport] at carried
    cases carried
  · exact noBeat beats

theorem cycle_not_masks (clock : CycleClock) : ¬ Masks index arbitrator (.arbitrate clock) :=
  not_masks_of_silent rfl (not_beats nofun)

theorem Standing.cycle (standing : Standing index arbitrator) (clock : CycleClock) :
    Standing index (arbitrator.step (.arbitrate clock)).2 := by
  refine standing.step (cycle_not_masks clock) ?_
  intro reporting
  obtain ⟨fault, nowMs, carried, -⟩ := reporting
  cases carried

theorem standing_of_cycle {clock : CycleClock} (ready : arbitrator.initialised = true)
    (bit : (arbitrator.step (.arbitrate clock)).2.faultBitmask.getLsbD index.val = true) :
    Standing index (arbitrator.step (.arbitrate clock)).2 where
  initialised := step_initialised ready _
  bit := bit
  failed := by
    have settles := arbitrate_settles ready clock
    have observed : (arbitrator.observe clock.scanMs).faultBitmask.getLsbD index.val = true :=
      (congrArg (fun mask => mask.getLsbD index.val) settles.faultBitmask).symm.trans bit
    have found := (observe_fault_bit clock.scanMs index).1 observed
    rw [show (arbitrator.step (.arbitrate clock)).2.domains = _ from settles.domains]
    exact DomainState.scan_health_failed_iff.2 found

/-- Every masking call does clear the bit, unless silence sets it again in that cycle. -/
theorem masked_fault_clears (ready : arbitrator.initialised = true) {call : ArbitratorCall}
    (masked : Masks index arbitrator call) {clock : CycleClock}
    (punctual : ¬ (call.touch index (arbitrator.domains index)).Late clock.scanMs) :
    (machine.run arbitrator [call, .arbitrate clock]).faultBitmask.getLsbD index.val = false := by
  have hidden : (call.touch index (arbitrator.domains index)).health ≠ .failed := by
    obtain ⟨-, -, reported | beaten⟩ := masked
    · obtain ⟨health, ⟨fault, nowMs, carried, here, rfl⟩, -, other⟩ := reported
      rw [ArbitratorCall.touch_of_report carried here, DomainState.report_health]
      exact other
    · obtain ⟨⟨domain, nowMs, rfl, here⟩, wrapped⟩ := beaten
      rw [ArbitratorCall.touch, if_pos here, DomainState.beat, if_pos wrapped]
      exact (by decide : SensorHealth.nominal ≠ SensorHealth.failed)
  have kept := step_initialised ready call
  have faults := (arbitrate_settles kept clock).faultBitmask
  rw [← step_domains ready] at hidden punctual
  have unset : ¬ ((arbitrator.step call).2.observe clock.scanMs).faultBitmask.getLsbD index.val
      = true := by
    rw [observe_fault_bit]
    exact not_or.2 ⟨hidden, punctual⟩
  rw [← faults] at unset
  exact Bool.eq_false_iff.2 unset

def BitsNeedInit (arbitrator : SafetyArbitrator) : Prop :=
  arbitrator.initialised = true ∨ arbitrator.faultBitmask = 0

theorem run_bitsNeedInit (ipc : Option IpcBridge) (calls : List ArbitratorCall) :
    (machine.run (construct ipc) calls).BitsNeedInit := by
  have initial : (construct ipc).BitsNeedInit := .inr rfl
  refine machine.run_preserves initial (fun current call holds => ?_) calls
  cases ready : current.initialised with
  | true => exact .inl (step_initialised ready call)
  | false =>
      have clear : current.faultBitmask = 0 := holds.resolve_left (by simp [ready])
      obtain same | ⟨initialised, -⟩ := step_uninitialised ready call
      · exact .inr (same.faultBitmask.trans clear)
      · exact .inl initialised

/-- In a run without masking, a fault bit that is set after one cycle and clear after a
later one was cleared by a nominal report in between. -/
theorem fault_cleared_by_recovery (ipc : Option IpcBridge) (index : Fin maxSensorDomains)
    (before middle : List ArbitratorCall) (early late : CycleClock)
    (unmasked : machine.EveryStep (fun current call => ¬ Masks index current call) (construct ipc)
      (before ++ [.arbitrate early] ++ middle))
    (failed : (machine.run (construct ipc)
      (before ++ [.arbitrate early])).faultBitmask.getLsbD index.val = true)
    (cleared : (machine.run (construct ipc)
      (before ++ [.arbitrate early] ++ middle ++ [.arbitrate late])).faultBitmask.getLsbD
        index.val = false) :
    ∃ call ∈ middle, call.Reports index .nominal := by
  by_contra none_reported
  have unrecovered : ∀ call ∈ middle, SafetyArbitrator → ¬ call.Reports index .nominal :=
    fun call member _ reported => none_reported ⟨call, member, reported⟩
  have ready : (machine.run (construct ipc) before).initialised = true := by
    cases run_bitsNeedInit ipc before with
    | inl ready => exact ready
    | inr clear =>
        cases ready : (machine.run (construct ipc) before).initialised with
        | true => rfl
        | false =>
            rw [machine.run_concat] at failed
            have kept : machine.step (machine.run (construct ipc) before) (.arbitrate early) = _ :=
              arbitrate_uninitialised ready
            rw [kept, clear] at failed
            simp at failed
  have start : Standing index (machine.run (construct ipc) (before ++ [.arbitrate early])) := by
    rw [machine.run_concat] at failed ⊢
    exact standing_of_cycle ready failed
  have allowed := machine.everyStep_and (machine.everyStep_suffix unmasked)
    (machine.everyStep_of_mem unrecovered)
  have standing : Standing index (machine.run (construct ipc)
      (before ++ [.arbitrate early] ++ middle)) := by
    rw [machine.run_append]
    exact machine.everyStep_preserves allowed start
      fun _ _ standing free => standing.step free.1 free.2
  have bit := (standing.cycle late).bit
  rw [machine.run_concat] at cleared
  exact absurd (bit.symm.trans cleared) (by decide)

def instantly : CycleClock := { scanMs := 0, startMs := 0, endMs := 0, logMs := 0 }

def lidarReport (health : SensorHealth) : ArbitratorCall := .injectFault .lidar health 0 0 0

/-- A degraded report clears the bit of a failed LiDAR. -/
theorem degraded_report_clears_failure :
    (machine.run (overBridge blankSram)
        [.init 0 0, lidarReport .failed, .arbitrate instantly]).faultBitmask.getLsbD 0 = true ∧
      (machine.run (overBridge blankSram)
        [.init 0 0, lidarReport .failed, .arbitrate instantly, lidarReport .degraded,
          .arbitrate instantly]).faultBitmask.getLsbD 0 = false ∧
      ∀ call ∈ [lidarReport .degraded], ¬ call.Reports lidarIndex .nominal := by
  refine ⟨by decide, by decide, fun call member => ?_⟩
  have same : call = lidarReport .degraded := by simpa using member
  subst same
  intro reporting
  obtain ⟨fault, nowMs, carried, -, recovered⟩ := reporting
  cases carried
  cases recovered

theorem not_masks_of_mild {call : ArbitratorCall} (noBeat : ¬ call.Beats index)
    (mild : ∀ fault nowMs, call.report? = some (fault, nowMs) →
      fault.health = .nominal ∨ fault.health = .failed) :
    ¬ Masks index arbitrator call := by
  rintro ⟨-, -, reported | beaten⟩
  · obtain ⟨_, ⟨fault, nowMs, carried, -, rfl⟩, notNominal, notFailed⟩ := reported
    exact (mild fault nowMs carried).elim notNominal notFailed
  · exact noBeat beaten.1

theorem lidarReport_not_masks {health : SensorHealth}
    (mild : health = .nominal ∨ health = .failed) :
    ¬ Masks index arbitrator (lidarReport health) := by
  refine not_masks_of_mild (not_beats nofun) fun fault nowMs carried => ?_
  cases carried
  exact mild

theorem nominal_report_clears_failure :
    ∃ call ∈ [lidarReport .nominal], call.Reports lidarIndex .nominal := by
  refine fault_cleared_by_recovery (overBridge blankSram).ipc lidarIndex
    [.init 0 0, lidarReport .failed] [lidarReport .nominal] instantly instantly ?_ (by decide)
    (by decide)
  refine machine.everyStep_of_mem fun call member current => ?_
  have listed : call = .init 0 0 ∨ call = lidarReport .failed ∨ call = .arbitrate instantly ∨
      call = lidarReport .nominal := by
    simpa using member
  obtain rfl | rfl | rfl | rfl := listed
  · exact not_masks_of_silent rfl (not_beats nofun)
  · exact lidarReport_not_masks (.inr rfl)
  · exact cycle_not_masks _
  · exact lidarReport_not_masks (.inl rfl)

end SafetyArbitrator

end SoaGateway.Safety
