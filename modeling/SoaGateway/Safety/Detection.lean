import SoaGateway.Safety.Envelope
import SoaGateway.Safety.FaultHistory

/-! How soon silence is noticed. A driving sensor that falls silent is restricted from the
first cycle past its timeout on, for as long as nothing takes it out of failure. -/

set_option autoImplicit false

namespace SoaGateway.Safety

open Foundation Ipc

/-- The call may take a domain out of failure: a heartbeat, or a report of anything else. -/
def Clears (index : Fin maxSensorDomains) (call : ArbitratorCall) : Prop :=
  call.Beats index ∨ ∃ health, call.Reports index health ∧ health ≠ .failed

namespace SafetyArbitrator

variable {arbitrator : SafetyArbitrator} {index : Fin maxSensorDomains}

/-- A failure among the five driving sensors rules full operation out. -/
theorem computeRequiredState_ne_full {place : Nat} (driving : place ≤ 4)
    (failed : arbitrator.faultBitmask.getLsbD place = true) :
    arbitrator.computeRequiredState ≠ .fullOperation := by
  have sensors : arbitrator.isFailed .lidar = true ∨ arbitrator.isFailed .radar = true ∨
      arbitrator.isFailed .camera = true ∨ arbitrator.isFailed .gnss = true ∨
        arbitrator.isFailed .imu = true := by
    have places : place = 0 ∨ place = 1 ∨ place = 2 ∨ place = 3 ∨ place = 4 := by omega
    rcases places with rfl | rfl | rfl | rfl | rfl
    · exact .inl failed
    · exact .inr (.inl failed)
    · exact .inr (.inr (.inl failed))
    · exact .inr (.inr (.inr (.inl failed)))
    · exact .inr (.inr (.inr (.inr failed)))
  unfold computeRequiredState
  simp only
  split_ifs <;> simp_all

theorem Commanding.speed_restricted (commanding : arbitrator.Commanding)
    (restricted : arbitrator.currentState ≠ .fullOperation) :
    arbitrator.lastCommand.maxSpeedKph.toRat ≤ 100 := by
  rw [commanding.limited.speed, speedCap_toRat]
  have ordinary := commanding.state ▸ restricted
  exact_mod_cast speedKph_restricted ordinary

theorem quietAfter_of_not_clears {call : ArbitratorCall} (spared : ¬ Clears index call)
    (quietMs : Nat) : QuietAfter index quietMs call := by
  refine ⟨fun fault nowMs carried here nominal => ?_, fun domain nowMs beat here => ?_⟩
  · exact absurd (.inr ⟨fault.health, ⟨fault, nowMs, carried, here, rfl⟩,
      by rw [nominal]; decide⟩) spared
  · exact absurd (.inl ⟨domain, nowMs, beat, here⟩) spared

/-- A failure that stands with the restriction it calls for. -/
structure Restricting (index : Fin maxSensorDomains) (arbitrator : SafetyArbitrator) : Prop where
  standing : Standing index arbitrator
  unlatched : arbitrator.currentState ≠ .emergencyStop
  restricted : arbitrator.currentState ≠ .fullOperation

theorem restricting_of_cycle (driving : index.val ≤ 4) (ready : arbitrator.initialised = true)
    (unlatched : arbitrator.currentState ≠ .emergencyStop) {clock : CycleClock}
    (down : (arbitrator.domains index).Down clock.scanMs) :
    Restricting index (arbitrator.step (.arbitrate clock)).2 := by
  have settles := arbitrate_settles ready clock
  have seen := (observe_fault_bit clock.scanMs index).2 down
  have bit : (arbitrator.step (.arbitrate clock)).2.faultBitmask.getLsbD index.val = true :=
    (congrArg (fun mask => mask.getLsbD index.val) settles.faultBitmask).trans seen
  refine ⟨standing_of_cycle ready bit, step_ne_emergencyStop ready unlatched _, ?_⟩
  rw [show (arbitrator.step (.arbitrate clock)).2.currentState = _ from
    settles.currentState unlatched]
  exact computeRequiredState_ne_full driving seen

theorem Restricting.step (driving : index.val ≤ 4) (restricting : Restricting index arbitrator)
    {call : ArbitratorCall} (spared : ¬ Clears index call) :
    Restricting index (arbitrator.step call).2 := by
  by_cases cycle : call.IsCycle
  · obtain ⟨clock, rfl⟩ := cycle
    exact restricting_of_cycle driving restricting.standing.initialised restricting.unlatched
      (.inl restricting.standing.failed)
  · have unmasked : ¬ Masks index arbitrator call := by
      intro masked
      obtain ⟨-, -, ⟨health, reports, -, other⟩ | ⟨beats, -⟩⟩ := masked
      · exact spared (.inr ⟨health, reports, other⟩)
      · exact spared (.inl beats)
    have unrecovered : ¬ call.Reports index .nominal :=
      fun reports => spared (.inr ⟨.nominal, reports, by decide⟩)
    have same := step_sameView restricting.standing.initialised cycle
    refine ⟨restricting.standing.step unmasked unrecovered, ?_, ?_⟩
    · rw [same.currentState]
      exact restricting.unlatched
    · rw [same.currentState]
      exact restricting.restricted

theorem run_forsaken {quietMs : Nat} {mandatoryDomains : Byte}
    (forsaken : Forsaken mandatoryDomains quietMs index arbitrator) {calls : List ArbitratorCall}
    (spared : ∀ call ∈ calls, ¬ Clears index call) :
    Forsaken mandatoryDomains quietMs index (machine.run arbitrator calls) := by
  induction calls using List.reverseRecOn with
  | nil => exact forsaken
  | append_singleton calls call ih =>
      rw [machine.run_concat]
      exact (ih fun earlier member => spared earlier (List.mem_append_left _ member)).step
        (quietAfter_of_not_clears (spared call (by simp)) quietMs)

theorem run_restricting (driving : index.val ≤ 4) (restricting : Restricting index arbitrator)
    {calls : List ArbitratorCall} (spared : ∀ call ∈ calls, ¬ Clears index call) :
    Restricting index (machine.run arbitrator calls) := by
  induction calls using List.reverseRecOn with
  | nil => exact restricting
  | append_singleton calls call ih =>
      rw [machine.run_concat]
      exact (ih fun earlier member => spared earlier (List.mem_append_left _ member)).step driving
        (spared call (by simp))

/-- The reaction time to silence is the timeout plus the cycle period. A driving sensor gave
its last sign of life at `quietMs`, and nothing takes it out of failure since. Then at every
moment more than the timeout and `periodMs` later, if some cycle ran in the last `periodMs`,
the fault bit is set and the arbitrator is out of full operation, at no more than 100 km/h. -/
theorem silence_restricts_in_time (ipc : Option IpcBridge) (calls later : List ArbitratorCall)
    (driving : index.val ≤ 4) (quietMs periodMs nowMs : Nat)
    (ready : (machine.run (construct ipc) calls).initialised = true)
    (lastSign : ((machine.run (construct ipc) calls).domains index).lastHeartbeat ≤ quietMs)
    (spared : ∀ call ∈ later, ¬ Clears index call)
    (overdue : quietMs + sensorTimeoutMs + periodMs < nowMs)
    (cycled : ∃ clock, ArbitratorCall.arbitrate clock ∈ later ∧
      nowMs ≤ clock.scanMs + periodMs) :
    let reached := machine.run (construct ipc) (calls ++ later)
    reached.faultBitmask.getLsbD index.val = true ∧ reached.currentState ≠ .fullOperation ∧
      reached.lastCommand.state = reached.currentState ∧
      reached.lastCommand.maxSpeedKph.toRat ≤ 100 := by
  intro reached
  obtain ⟨clock, member, recent⟩ := cycled
  obtain ⟨front, back, rfl⟩ := List.append_of_mem member
  have quiet : ∀ call ∈ front, ¬ Clears index call :=
    fun call inside => spared call (List.mem_append_left _ inside)
  have still : ∀ call ∈ back, ¬ Clears index call :=
    fun call inside => spared call (List.mem_append_right _ (List.mem_cons_of_mem _ inside))
  have forsaken := run_forsaken ⟨ready, rfl, lastSign, run_unlatched ipc calls⟩ quiet
  have late : ((machine.run (machine.run (construct ipc) calls) front).domains index).Late
      clock.scanMs := by
    have sign := forsaken.lastSign
    unfold DomainState.Late
    omega
  have caught := restricting_of_cycle driving forsaken.initialised forsaken.unlatched (.inr late)
  have restricting := run_restricting driving caught still
  have final : reached = machine.run ((machine.run (machine.run (construct ipc) calls) front).step
      (.arbitrate clock)).2 back := by
    rw [show reached = _ from machine.run_append _ calls _, machine.run_append]
    rfl
  rw [← final] at restricting
  have commanding : reached.Commanding := (run_commanding ipc _).1
  exact ⟨restricting.standing.bit, restricting.restricted, commanding.state,
    commanding.speed_restricted restricting.restricted⟩

/-- The LiDAR reports once and is never heard again; the cycles come every 20 ms. -/
def lidarSilence : List ArbitratorCall :=
  [20, 40, 60, 80, 100, 120].map fun nowMs => .arbitrate (cycleAt nowMs)

theorem silent_lidar_restricted :
    let reached := machine.run (overBridge blankSram)
      ([.init 0 0, lidarReport .nominal] ++ lidarSilence)
    reached.faultBitmask.getLsbD lidarIndex.val = true ∧
      reached.currentState ≠ .fullOperation ∧
      reached.lastCommand.state = reached.currentState ∧
      reached.lastCommand.maxSpeedKph.toRat ≤ 100 := by
  refine silence_restricts_in_time _ _ lidarSilence (by decide) 0 20 121 rfl (by decide)
    (fun call member => ?_) (by decide) ⟨cycleAt 120, by simp [lidarSilence], by decide⟩
  obtain ⟨nowMs, -, rfl⟩ := List.mem_map.1 member
  rintro (⟨domain, beatMs, impossible, -⟩ | ⟨health, ⟨fault, reportMs, impossible, -⟩, -⟩)
  · cases impossible
  · cases impossible

end SafetyArbitrator

end SoaGateway.Safety
