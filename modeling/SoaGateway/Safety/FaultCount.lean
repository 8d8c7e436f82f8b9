import SoaGateway.Safety.DomainHistory
import SoaGateway.Safety.FaultHistory

/-! The fault counter against the number of fault ticks since the latest recovery. A
heartbeat is documented to reset the counter, and it does not. -/

set_option autoImplicit false

namespace SoaGateway.Safety

open Foundation Ipc

namespace DomainState

/-- A non-nominal report, or a timeout promotion. -/
def Ticks (entry : DomainState) : DomainEvent → Prop
  | .scanned nowMs => entry.Late nowMs ∧ entry.health ≠ .failed
  | .beaten _ => False
  | .reported fault _ => fault.health ≠ .nominal

/-- A nominal report, or a heartbeat of a degraded domain. -/
def Recovers (entry : DomainState) : DomainEvent → Prop
  | .scanned _ => False
  | .beaten _ => entry.health = .degraded
  | .reported fault _ => fault.health = .nominal

instance (entry : DomainState) : DecidablePred entry.Ticks := fun event =>
  match event with
  | .scanned _ => inferInstanceAs (Decidable (_ ∧ _))
  | .beaten _ => inferInstanceAs (Decidable False)
  | .reported _ _ => inferInstanceAs (Decidable (_ ≠ _))

instance (entry : DomainState) : DecidablePred entry.Recovers := fun event =>
  match event with
  | .scanned _ => inferInstanceAs (Decidable False)
  | .beaten _ => inferInstanceAs (Decidable (_ = _))
  | .reported _ _ => inferInstanceAs (Decidable (_ = _))

/-- The fault ticks since the latest recovery, after one more event. -/
def tally (entry : DomainState) (event : DomainEvent) (ticks : Nat) : Nat :=
  if entry.Recovers event then 0 else if entry.Ticks event then ticks + 1 else ticks

/-- The counter goes wrong: a heartbeat of a degraded domain leaves a count standing, or
a tick finds the counter at its largest value. -/
def Miscounts (entry : DomainState) (event : DomainEvent) : Prop :=
  (∃ nowMs, event = .beaten nowMs ∧ entry.health = .degraded ∧ entry.faultCount ≠ 0) ∨
    entry.Ticks event ∧ entry.faultCount = BitVec.allOnes 32

theorem succ_toNat_iff (count : BitVec 32) :
    (count + 1).toNat = count.toNat + 1 ↔ count ≠ BitVec.allOnes 32 := by
  rw [Ne, ← BitVec.toNat_inj, BitVec.toNat_add, BitVec.toNat_allOnes]
  have bound := count.isLt
  rw [show (1 : BitVec 32).toNat = 1 from rfl]
  omega

theorem tally_kept_iff {entry : DomainState} {event : DomainEvent} {ticks : Nat}
    (right : entry.faultCount.toNat = ticks) :
    (entry.apply event).faultCount.toNat = entry.tally event ticks ↔ ¬ entry.Miscounts event := by
  subst right
  cases event with
  | scanned nowMs =>
      have never : ¬ entry.Recovers (.scanned nowMs) := id
      rw [apply, scan_faultCount, countWithSilence, tally, if_neg never]
      by_cases promoted : entry.Late nowMs ∧ entry.health ≠ .failed
      · have ticks : entry.Ticks (.scanned nowMs) := promoted
        rw [if_pos promoted, if_pos ticks, succ_toNat_iff]
        simp [Miscounts, ticks]
      · have quiet : ¬ entry.Ticks (.scanned nowMs) := promoted
        rw [if_neg promoted, if_neg quiet]
        simp [Miscounts, quiet]
  | beaten nowMs =>
      have never : ¬ entry.Ticks (.beaten nowMs) := id
      have kept : (entry.apply (.beaten nowMs)).faultCount = entry.faultCount := rfl
      rw [kept, tally, if_neg never]
      by_cases degraded : entry.health = .degraded
      · have recovers : entry.Recovers (.beaten nowMs) := degraded
        rw [if_pos recovers]
        simp [Miscounts, never, degraded, BitVec.toNat_eq]
      · have other : ¬ entry.Recovers (.beaten nowMs) := degraded
        rw [if_neg other]
        simp [Miscounts, never, degraded]
  | reported fault nowMs =>
      by_cases nominal : fault.health = .nominal
      · have recovers : entry.Recovers (.reported fault nowMs) := nominal
        have quiet : ¬ entry.Ticks (.reported fault nowMs) := fun ticks => ticks nominal
        rw [tally, if_pos recovers]
        simp [apply, report, nominal, Miscounts, quiet]
      · have lasting : ¬ entry.Recovers (.reported fault nowMs) := nominal
        have ticks : entry.Ticks (.reported fault nowMs) := nominal
        have counted : (entry.apply (.reported fault nowMs)).faultCount = entry.faultCount + 1 := by
          simp [apply, report, nominal]
        rw [counted, tally, if_neg lasting, if_pos ticks, succ_toNat_iff]
        simp [Miscounts, ticks]

end DomainState

namespace SafetyArbitrator

/-- The tally of one domain, kept beside the run. -/
def countTicks (index : Fin maxSensorDomains) (arbitrator : SafetyArbitrator)
    (call : ArbitratorCall) (ticks : Nat) : Nat :=
  match call.event? index with
  | some event => (arbitrator.domains index).tally event ticks
  | none => ticks

/-- The fault ticks of a domain since its latest recovery; `Init` is the first. -/
def ticksSinceRecovery (index : Fin maxSensorDomains) (start : SafetyArbitrator)
    (calls : List ArbitratorCall) : Nat :=
  ((machine.withGhost (countTicks index)).run (start, 0) calls).2

/-- In every state the run reaches, the counter is the number of ticks since the latest
recovery. -/
def CountsConsecutiveFaults (index : Fin maxSensorDomains) (start : SafetyArbitrator)
    (calls : List ArbitratorCall) : Prop :=
  ∀ front, front <+: calls →
    ((machine.run start front).domains index).faultCount.toNat =
      ticksSinceRecovery index start front

def MiscountsAt (index : Fin maxSensorDomains) (arbitrator : SafetyArbitrator)
    (call : ArbitratorCall) : Prop :=
  ∃ event, call.event? index = some event ∧ (arbitrator.domains index).Miscounts event

structure Tallied (index : Fin maxSensorDomains) (current : SafetyArbitrator × Nat) : Prop where
  initialised : current.1.initialised = true
  count : (current.1.domains index).faultCount.toNat = current.2

theorem tallied_step_iff {index : Fin maxSensorDomains} {current : SafetyArbitrator × Nat}
    (tallied : Tallied index current) (call : ArbitratorCall) :
    Tallied index ((machine.withGhost (countTicks index)).step current call).2 ↔
      ¬ MiscountsAt index current.1 call := by
  have ready := step_initialised tallied.initialised call
  have entry := step_domains tallied.initialised call index
  have counted : Tallied index ((machine.withGhost (countTicks index)).step current call).2 ↔
      (call.touch index (current.1.domains index)).faultCount.toNat =
        countTicks index current.1 call current.2 := by
    rw [← entry]
    exact ⟨Tallied.count, fun count => ⟨ready, count⟩⟩
  rw [counted, ArbitratorCall.touch_eq, countTicks, MiscountsAt]
  cases call.event? index with
  | none => simpa using tallied.count
  | some event => simpa using DomainState.tally_kept_iff tallied.count

/-- The counter counts consecutive faults in exactly the runs in which no heartbeat of a
degraded domain meets a standing count and no tick overflows it. -/
theorem counts_consecutive_faults_iff (bridge : IpcBridge) (mandatoryDomains : Byte)
    (initMs : Nat) (index : Fin maxSensorDomains) (calls : List ArbitratorCall) :
    CountsConsecutiveFaults index (started bridge mandatoryDomains initMs) calls ↔
      machine.EveryStep (fun arbitrator call => ¬ MiscountsAt index arbitrator call)
        (started bridge mandatoryDomains initMs) calls := by
  have initial : Tallied index (started bridge mandatoryDomains initMs, 0) := ⟨rfl, rfl⟩
  have steps := machine.withGhost_everyStep_iff (countTicks index)
    (fun arbitrator call => ¬ MiscountsAt index arbitrator call)
    (started bridge mandatoryDomains initMs, 0) calls
  have runs := (machine.withGhost (countTicks index)).forall_prefix_iff initial
    (fun _ call tallied => tallied_step_iff tallied call) calls
  rw [← steps, ← runs]
  refine forall₂_congr fun front isPrefix => ?_
  have reached := machine.withGhost_run_fst (countTicks index)
    (started bridge mandatoryDomains initMs, 0) front
  have ready := run_started_initialised bridge mandatoryDomains initMs front
  constructor
  · intro count
    exact ⟨by rw [reached]; exact ready, by rw [reached]; exact count⟩
  · intro tallied
    rw [← reached]
    exact tallied.count

/-- Degraded reports of the LiDAR, a heartbeat after each. -/
def separatedFaults : List ArbitratorCall :=
  [lidarReport .degraded, .recordHeartbeat .lidar 0, lidarReport .degraded,
    .recordHeartbeat .lidar 0, lidarReport .degraded, .recordHeartbeat .lidar 0]

theorem separated_faults_accumulate :
    let start := started (IpcBridge.construct (some blankSram)).init.2 0 0
    ((machine.run start separatedFaults).domains lidarIndex).faultCount = faultThreshold ∧
      ticksSinceRecovery lidarIndex start separatedFaults = 0 ∧
      ¬ CountsConsecutiveFaults lidarIndex start separatedFaults := by
  intro start
  have accumulated : ((machine.run start separatedFaults).domains lidarIndex).faultCount =
      faultThreshold := by decide
  have recovered : ticksSinceRecovery lidarIndex start separatedFaults = 0 := by decide
  refine ⟨accumulated, recovered, fun counts => ?_⟩
  have equal := counts separatedFaults (List.prefix_refl _)
  rw [accumulated, recovered] at equal
  cases equal

end SafetyArbitrator

end SoaGateway.Safety
