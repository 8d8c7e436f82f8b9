import SoaGateway.Safety.FaultCount

/-! A failed domain under heartbeats. Only a fault count that is not zero keeps a heartbeat
from declaring a failed domain nominal, and the counter wraps. -/

set_option autoImplicit false

namespace SoaGateway.Safety

open Foundation Ipc

theorem succ_ne_zero_iff (count : BitVec 32) : count + 1 ≠ 0 ↔ count ≠ BitVec.allOnes 32 := by
  rw [Ne, Ne, ← BitVec.toNat_inj, ← BitVec.toNat_inj, BitVec.toNat_add, BitVec.toNat_allOnes]
  have bound := count.isLt
  rw [show (1 : BitVec 32).toNat = 1 from rfl, show (0 : BitVec 32).toNat = 0 from rfl]
  omega

namespace DomainState

/-- The guard of the heartbeat path: a failed entry has a fault count. -/
def Guarded (entry : DomainState) : Prop :=
  entry.health = .failed → entry.faultCount ≠ 0

/-- A fault tick that leaves the domain failed: a failed report, or a timeout promotion. -/
def FailingTick (entry : DomainState) : DomainEvent → Prop
  | .scanned nowMs => entry.Late nowMs ∧ entry.health ≠ .failed
  | .beaten _ => False
  | .reported fault _ => fault.health = .failed

variable {entry : DomainState}

/-- The guard survives every event but a failing tick of a full counter. -/
theorem guarded_apply_iff (guarded : entry.Guarded) (event : DomainEvent) :
    (entry.apply event).Guarded ↔
      ¬ (entry.FailingTick event ∧ entry.faultCount = BitVec.allOnes 32) := by
  cases event with
  | scanned nowMs =>
      simp only [apply, scan, FailingTick]
      by_cases promoted : entry.Late nowMs ∧ entry.health ≠ .failed
      · rw [if_pos promoted]
        simp only [Guarded, forall_const, succ_ne_zero_iff, promoted, not_false_eq_true, and_self,
          true_and, ne_eq]
      · rw [if_neg promoted]
        exact iff_of_true guarded fun full => promoted full.1
  | beaten nowMs =>
      refine iff_of_true ?_ fun full => full.1
      intro failed
      simp only [apply, beat] at failed ⊢
      split at failed
      · cases failed
      · next counted => exact counted
  | reported fault nowMs =>
      by_cases failed : fault.health = .failed
      · have other : fault.health ≠ .nominal := by
          rw [failed]
          decide
        have counted : (entry.report fault nowMs).faultCount = entry.faultCount + 1 := by
          rw [report, if_neg other]
        simp only [Guarded, apply, FailingTick, report_health, failed, counted, forall_const,
          succ_ne_zero_iff, true_and, ne_eq]
      · refine iff_of_true ?_ fun full => failed full.1
        intro after
        rw [apply, report_health] at after
        exact absurd after failed

/-- A guarded failure stays through scans and heartbeats. -/
theorem guarded_failure_stays (failed : entry.health = .failed) (counted : entry.faultCount ≠ 0)
    {event : DomainEvent} (unreported : ∀ fault nowMs, event ≠ .reported fault nowMs) :
    (entry.apply event).health = .failed ∧ (entry.apply event).faultCount ≠ 0 := by
  cases event with
  | scanned nowMs =>
      rw [apply, scan_failed failed]
      exact ⟨failed, counted⟩
  | beaten nowMs =>
      rw [apply, beat, if_neg counted]
      exact ⟨failed, counted⟩
  | reported fault nowMs => exact absurd rfl (unreported fault nowMs)

end DomainState

namespace SafetyArbitrator

variable {arbitrator : SafetyArbitrator} {index : Fin maxSensorDomains}

def Unreported (index : Fin maxSensorDomains) (calls : List ArbitratorCall) : Prop :=
  ∀ call ∈ calls, ∀ health, ¬ call.Reports index health

/-- A stored failure is counted, and it stays until a report on the domain arrives. -/
structure HoldsFailure (index : Fin maxSensorDomains) (arbitrator : SafetyArbitrator) :
    Prop where
  counted : (arbitrator.domains index).health = .failed →
    (arbitrator.domains index).faultCount ≠ 0
  stays : (arbitrator.domains index).health = .failed → ∀ calls, Unreported index calls →
    ((machine.run arbitrator calls).domains index).health = .failed

/-- A failed report or a timeout promotion meets a counter at its largest value. -/
def WrapsFailure (index : Fin maxSensorDomains) (arbitrator : SafetyArbitrator)
    (call : ArbitratorCall) : Prop :=
  arbitrator.initialised = true ∧ ∃ event, call.event? index = some event ∧
    (arbitrator.domains index).FailingTick event ∧
    (arbitrator.domains index).faultCount = BitVec.allOnes 32

def GuardedAt (index : Fin maxSensorDomains) (arbitrator : SafetyArbitrator) : Prop :=
  (arbitrator.domains index).health = .failed →
    arbitrator.initialised = true ∧ (arbitrator.domains index).faultCount ≠ 0

theorem guardedAt_step_iff (guarded : GuardedAt index arbitrator) (call : ArbitratorCall) :
    GuardedAt index (arbitrator.step call).2 ↔ ¬ WrapsFailure index arbitrator call := by
  cases ready : arbitrator.initialised with
  | false =>
      have unfailed : (arbitrator.domains index).health ≠ .failed := by
        intro failed
        exact Bool.false_ne_true (ready.symm.trans (guarded failed).1)
      refine iff_of_true ?_ fun wraps => Bool.false_ne_true (ready.symm.trans wraps.1)
      intro failed
      obtain kept | fresh := step_uninitialised_healths ready call
      · rw [kept] at failed
        exact absurd failed unfailed
      · rw [fresh] at failed
        cases failed
  | true =>
      have after := step_initialised ready call
      have entry := step_domains ready call index
      have counted : (arbitrator.domains index).Guarded := fun failed => (guarded failed).2
      have shape : GuardedAt index (arbitrator.step call).2 ↔
          (call.touch index (arbitrator.domains index)).Guarded := by
        rw [GuardedAt, entry]
        exact forall_congr' fun _ => and_iff_right after
      rw [shape, ArbitratorCall.touch_eq, WrapsFailure]
      cases seen : call.event? index with
      | none => exact iff_of_true counted nofun
      | some event =>
          simp only [Option.toList_some, List.foldl_cons, List.foldl_nil, ready, true_and,
            Option.some.injEq, exists_eq_left']
          exact DomainState.guarded_apply_iff counted event

theorem event?_unreported {call : ArbitratorCall}
    (unreported : ∀ health, ¬ call.Reports index health) {event : DomainEvent}
    (seen : call.event? index = some event) (fault : SensorFaultEvent)
    (nowMs : Nat) : event ≠ .reported fault nowMs := by
  rintro rfl
  obtain ⟨clock, -, same⟩ | ⟨domain, beatMs, -, -, same⟩ | ⟨_, _, carried, here, same⟩ :=
    ArbitratorCall.event?_cases seen
  · cases same
  · cases same
  · cases same
    exact unreported fault.health ⟨fault, nowMs, carried, here, rfl⟩

theorem failure_stays (ready : arbitrator.initialised = true)
    (failed : (arbitrator.domains index).health = .failed)
    (counted : (arbitrator.domains index).faultCount ≠ 0) {calls : List ArbitratorCall}
    (unreported : Unreported index calls) :
    ((machine.run arbitrator calls).domains index).health = .failed ∧
      ((machine.run arbitrator calls).domains index).faultCount ≠ 0 := by
  induction calls using List.reverseRecOn with
  | nil => exact ⟨failed, counted⟩
  | append_singleton calls call ih =>
      obtain ⟨stillFailed, stillCounted⟩ :=
        ih fun earlier member => unreported earlier (List.mem_append_left _ member)
      have last := unreported call (by simp)
      rw [run_step, step_domains (run_initialised ready calls), ArbitratorCall.touch_eq]
      cases seen : call.event? index with
      | none => exact ⟨stillFailed, stillCounted⟩
      | some event =>
          exact DomainState.guarded_failure_stays stillFailed stillCounted
            (event?_unreported last seen)

/-- A reached state with a stored failure is initialised: `Init` writes `kUnknown`. -/
theorem run_failed_initialised (ipc : Option IpcBridge) (index : Fin maxSensorDomains)
    (calls : List ArbitratorCall) :
    ((machine.run (construct ipc) calls).domains index).health = .failed →
      (machine.run (construct ipc) calls).initialised = true := by
  induction calls using List.reverseRecOn with
  | nil => exact nofun
  | append_singleton calls call ih =>
      rw [run_step]
      cases ready : (machine.run (construct ipc) calls).initialised with
      | true => exact fun _ => step_initialised ready call
      | false =>
          intro failed
          obtain kept | fresh := step_uninitialised_healths ready call
          · rw [kept] at failed
            exact absurd (ready.symm.trans (ih failed)) Bool.false_ne_true
          · rw [fresh] at failed
            cases failed

/-- Every state of a run holds its failures exactly when no failing tick of the run wraps
the counter to zero. -/
theorem failures_held_iff (ipc : Option IpcBridge) (index : Fin maxSensorDomains)
    (calls : List ArbitratorCall) :
    (∀ front, front <+: calls → HoldsFailure index (machine.run (construct ipc) front)) ↔
      machine.EveryStep (fun arbitrator call => ¬ WrapsFailure index arbitrator call)
        (construct ipc) calls := by
  have initial : GuardedAt index (construct ipc) := nofun
  rw [← machine.forall_prefix_iff initial (fun _ call guarded => guardedAt_step_iff guarded call)]
  refine forall₂_congr fun front _ => ?_
  constructor
  · intro holds failed
    exact ⟨run_failed_initialised ipc index front failed, holds.counted failed⟩
  · intro guarded
    refine ⟨fun failed => (guarded failed).2, fun failed calls unreported => ?_⟩
    exact (failure_stays (guarded failed).1 failed (guarded failed).2 unreported).1

/-- A run of nothing but failed LiDAR reports. -/
def repeatedFaults (count : Nat) : List ArbitratorCall :=
  .init 0 0 :: List.replicate count (lidarReport .failed)

theorem repeated_reports (ready : arbitrator.initialised = true) (count : Nat) :
    ((machine.run arbitrator (List.replicate count (lidarReport .failed))).domains
        lidarIndex).faultCount =
      (arbitrator.domains lidarIndex).faultCount + BitVec.ofNat 32 count := by
  induction count with
  | zero => simp
  | succ count ih =>
      have after := run_initialised ready (List.replicate count (lidarReport .failed))
      have reported : ∀ entry : DomainState,
          ((lidarReport .failed).touch lidarIndex entry).faultCount = entry.faultCount + 1 :=
        fun entry => rfl
      rw [List.replicate_succ', run_step, step_domains after, reported, ih, BitVec.ofNat_add,
        BitVec.add_assoc]
      rfl

theorem last_report_failed (ready : arbitrator.initialised = true) {count : Nat}
    (someReported : 0 < count) :
    ((machine.run arbitrator (List.replicate count (lidarReport .failed))).domains
        lidarIndex).health = .failed := by
  cases count with
  | zero => cases someReported
  | succ count =>
      rw [List.replicate_succ', run_step, step_domains (run_initialised ready _)]
      rfl

theorem masked_when_wrapped {count : Nat} (someReported : 0 < count)
    (wraps : BitVec.ofNat 32 count = 0) :
    let worn := machine.run (overBridge blankSram) (repeatedFaults count)
    (worn.domains lidarIndex).health = .failed ∧ (worn.domains lidarIndex).faultCount = 0 ∧
      ((machine.run worn [.recordHeartbeat .lidar 0]).domains lidarIndex).health = .nominal ∧
      ¬ HoldsFailure lidarIndex worn := by
  intro worn
  have ready : (machine.run (overBridge blankSram) [.init 0 0]).initialised = true := rfl
  have failed : (worn.domains lidarIndex).health = .failed :=
    last_report_failed ready someReported
  have wrapped : (worn.domains lidarIndex).faultCount = 0 := by
    refine (repeated_reports ready count).trans ?_
    rw [wraps]
    rfl
  have initialised : worn.initialised = true := run_initialised ready _
  have beaten : ((machine.run worn [.recordHeartbeat .lidar 0]).domains lidarIndex).health =
      .nominal := by
    have entry := step_domains initialised (.recordHeartbeat .lidar 0) lidarIndex
    refine (congrArg DomainState.health entry).trans ?_
    exact if_pos wrapped
  exact ⟨failed, wrapped, beaten, fun holds => holds.counted failed wrapped⟩

/-- After as many failed LiDAR reports as the counter has values, the count is zero and one
heartbeat declares the LiDAR nominal. -/
theorem wrapped_failure_is_masked :
    let worn := machine.run (overBridge blankSram) (repeatedFaults (2 ^ 32))
    (worn.domains lidarIndex).health = .failed ∧ (worn.domains lidarIndex).faultCount = 0 ∧
      ((machine.run worn [.recordHeartbeat .lidar 0]).domains lidarIndex).health = .nominal ∧
      ¬ HoldsFailure lidarIndex worn :=
  masked_when_wrapped (by decide) (by decide)

end SafetyArbitrator

end SoaGateway.Safety
