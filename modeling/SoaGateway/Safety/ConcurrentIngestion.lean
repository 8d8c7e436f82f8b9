import SoaGateway.Safety.HardFault

/-! One sensor domain, with any number of threads inside `IngestFault`, `RecordHeartbeat` and the
timeout scan, each stopped at any of its accesses. A heartbeat tests the fault count and stores
the health in two accesses, and a report may come between them. -/

set_option autoImplicit false

namespace SoaGateway.Safety

open Foundation

/-- Where a thread stands: inside `IngestFault` with the health, the code or the cleared count
stored; inside `RecordHeartbeat` with the beat stored, or the count seen at zero; inside the scan
with a late beat seen, an unfailed health seen, or the failure stored. -/
inductive DomainControl where
  | idle
  | reported (fault : SensorFaultEvent)
  | coded (fault : SensorFaultEvent)
  | cleared
  | beaten
  | absolved
  | late
  | promoting
  | promoted

structure SharedDomain (Thread : Type) where
  entry : DomainState
  control : Thread → DomainControl

/-- The first access of a call, or the next access of the call a thread is inside. -/
inductive DomainAccess (Thread : Type) where
  | ingestFault (thread : Thread) (fault : SensorFaultEvent)
  | recordHeartbeat (thread : Thread) (nowMs : Nat)
  | scanTimeouts (thread : Thread) (nowMs : Nat)
  | proceed (thread : Thread) (nowMs : Nat)

namespace DomainControl

/-- The next access of a thread, and where it stands then. -/
def next (control : DomainControl) (entry : DomainState) (nowMs : Nat) :
    DomainState × DomainControl :=
  match control with
  | .idle => (entry, .idle)
  | .reported fault => ({ entry with dtcCode := fault.faultCode }, .coded fault)
  | .coded fault =>
      if fault.health = .nominal then ({ entry with faultCount := 0 }, .cleared)
      else ({ entry with faultCount := entry.faultCount + 1 }, .idle)
  | .cleared => ({ entry with lastHeartbeat := nowMs }, .idle)
  | .beaten => (entry, if entry.faultCount = 0 then .absolved else .idle)
  | .absolved => ({ entry with health := .nominal }, .idle)
  | .late => (entry, if entry.health = .failed then .idle else .promoting)
  | .promoting => ({ entry with health := .failed }, .promoted)
  | .promoted => ({ entry with faultCount := entry.faultCount + 1 }, .idle)

/-- The next access adds to the fault count. -/
def Counts : DomainControl → Prop
  | .coded fault => fault.health ≠ .nominal
  | .promoted => True
  | _ => False

/-- The thread will store a nominal health without looking again, or clear the count. -/
def Exposing : DomainControl → Prop
  | .reported fault | .coded fault => fault.health = .nominal
  | .absolved => True
  | _ => False

end DomainControl

namespace SharedDomain

variable {Thread : Type} [DecidableEq Thread]

def store (state : SharedDomain Thread) (thread : Thread) (entry : DomainState)
    (control : DomainControl) : SharedDomain Thread :=
  { entry, control := Function.update state.control thread control }

/-- A call begins only on a thread that is inside no other. -/
def access (state : SharedDomain Thread) (input : DomainAccess Thread) : SharedDomain Thread :=
  match input with
  | .ingestFault thread fault =>
      match state.control thread with
      | .idle => state.store thread { state.entry with health := fault.health } (.reported fault)
      | _ => state
  | .recordHeartbeat thread nowMs =>
      match state.control thread with
      | .idle => state.store thread { state.entry with lastHeartbeat := nowMs } .beaten
      | _ => state
  | .scanTimeouts thread nowMs =>
      match state.control thread with
      | .idle =>
          state.store thread state.entry (if state.entry.Late nowMs then .late else .idle)
      | _ => state
  | .proceed thread nowMs =>
      let (entry, control) := (state.control thread).next state.entry nowMs
      state.store thread entry control

def machine : Machine (SharedDomain Thread) (DomainAccess Thread) Unit where
  step state input := ((), state.access input)

section Uninterrupted

variable {state : SharedDomain Thread} {thread : Thread}

theorem update_idle (idle : state.control thread = .idle) :
    Function.update state.control thread .idle = state.control := by
  rw [← idle]
  exact Function.update_eq_self thread state.control

/-- A call that nothing comes between does what the whole call does. -/
theorem report_uninterrupted (idle : state.control thread = .idle) (fault : SensorFaultEvent)
    (nowMs : Nat) :
    machine.run state [.ingestFault thread fault, .proceed thread nowMs, .proceed thread nowMs,
        .proceed thread nowMs] =
      { state with entry := state.entry.report fault nowMs } := by
  have back := update_idle idle
  by_cases recovered : fault.health = .nominal
  · simp [machine, access, idle, store, DomainControl.next, DomainState.report, recovered, back]
  · simp [machine, access, idle, store, DomainControl.next, DomainState.report, recovered, back]

theorem beat_uninterrupted (idle : state.control thread = .idle) (nowMs : Nat) :
    machine.run state [.recordHeartbeat thread nowMs, .proceed thread nowMs,
        .proceed thread nowMs] =
      { state with entry := state.entry.beat nowMs } := by
  have back := update_idle idle
  by_cases clean : state.entry.faultCount = 0#32
  · simp [machine, access, idle, store, DomainControl.next, DomainState.beat, clean, back]
  · simp [machine, access, idle, store, DomainControl.next, DomainState.beat, clean, back]

theorem scan_uninterrupted (idle : state.control thread = .idle) (nowMs : Nat) :
    machine.run state [.scanTimeouts thread nowMs, .proceed thread nowMs, .proceed thread nowMs,
        .proceed thread nowMs] =
      { state with entry := state.entry.scan nowMs } := by
  have back := update_idle idle
  by_cases late : state.entry.Late nowMs
  · by_cases failed : state.entry.health = .failed
    · simp [machine, access, idle, store, DomainControl.next, DomainState.scan, late, failed, back]
    · simp [machine, access, idle, store, DomainControl.next, DomainState.scan, late, failed, back]
  · simp [machine, access, idle, store, DomainControl.next, DomainState.scan, late, back]

end Uninterrupted

/-- What may come: no report but of a failure, and no count that wraps. -/
def Pressing (state : SharedDomain Thread) : DomainAccess Thread → Prop
  | .ingestFault _ fault => fault.health = .failed
  | .proceed thread _ =>
      (state.control thread).Counts → state.entry.faultCount ≠ BitVec.allOnes 32
  | _ => True

/-- The failure is counted, and nobody is about to store otherwise. -/
structure Hard (state : SharedDomain Thread) : Prop where
  failed : state.entry.health = .failed
  counted : state.entry.faultCount ≠ 0
  covered : ∀ thread, ¬ (state.control thread).Exposing

namespace Hard

variable {state : SharedDomain Thread}

theorem store (hard : state.Hard) {thread : Thread} {entry : DomainState}
    {control : DomainControl} (failed : entry.health = .failed) (counted : entry.faultCount ≠ 0)
    (covered : ¬ control.Exposing) : (state.store thread entry control).Hard where
  failed := failed
  counted := counted
  covered :=
    (Function.forall_update_iff _ fun _ (control : DomainControl) => ¬ control.Exposing).2
      ⟨covered, fun other _ => hard.covered other⟩

theorem proceed (hard : state.Hard) {thread : Thread} (nowMs : Nat)
    (pressing : state.Pressing (.proceed thread nowMs)) :
    (state.access (.proceed thread nowMs)).Hard := by
  have covered := hard.covered thread
  have unwrapped := pressing
  simp only [access]
  rw [Pressing] at unwrapped
  cases control : state.control thread with
  | idle => exact hard.store hard.failed hard.counted id
  | reported fault =>
      rw [control] at covered
      exact hard.store hard.failed hard.counted covered
  | coded fault =>
      rw [control] at covered unwrapped
      have counts : fault.health ≠ .nominal := covered
      simp only [DomainControl.next, counts, ↓reduceIte]
      exact hard.store hard.failed ((succ_ne_zero_iff _).2 (unwrapped counts)) id
  | cleared => exact hard.store hard.failed hard.counted id
  | beaten =>
      simp only [DomainControl.next, hard.counted, ↓reduceIte]
      exact hard.store hard.failed hard.counted id
  | absolved =>
      rw [control] at covered
      exact absurd trivial covered
  | late =>
      simp only [DomainControl.next, hard.failed, ↓reduceIte]
      exact hard.store hard.failed hard.counted id
  | promoting => exact hard.store rfl hard.counted id
  | promoted =>
      rw [control] at unwrapped
      exact hard.store hard.failed ((succ_ne_zero_iff _).2 (unwrapped trivial)) id

theorem step (hard : state.Hard) (input : DomainAccess Thread) (pressing : state.Pressing input) :
    (state.access input).Hard := by
  cases input with
  | ingestFault thread fault =>
      have failing : fault.health = .failed := pressing
      simp only [access]
      split
      · refine hard.store failing hard.counted fun recovered => ?_
        have nominal : fault.health = .nominal := recovered
        rw [failing] at nominal
        exact absurd nominal (by decide)
      · exact hard
  | recordHeartbeat thread nowMs =>
      simp only [access]
      split
      · exact hard.store hard.failed hard.counted id
      · exact hard
  | scanTimeouts thread nowMs =>
      simp only [access]
      split
      · refine hard.store hard.failed hard.counted ?_
        split
        · exact id
        · exact id
      · exact hard
  | proceed thread nowMs => exact hard.proceed nowMs pressing

theorem run (hard : state.Hard) {inputs : List (DomainAccess Thread)}
    (pressing : machine.EveryStep Pressing state inputs) : (machine.run state inputs).Hard :=
  machine.everyStep_preserves pressing hard fun _ input held allowed => held.step input allowed

end Hard

/-- A thread that is about to clear the count or the failure needs no more than its own accesses
and one heartbeat to hide the failure. -/
theorem exposed_recovers {state : SharedDomain Thread} {thread : Thread}
    (exposing : (state.control thread).Exposing) :
    ∃ inputs, machine.EveryStep Pressing state inputs ∧
      (machine.run state inputs).entry.health = .nominal := by
  cases control : state.control thread with
  | absolved =>
      refine ⟨[.proceed thread 0], ?_, ?_⟩
      · simp [Machine.everyStep_cons_iff, Machine.everyStep_nil, Pressing, control,
          DomainControl.Counts]
      · simp [machine, access, store, control, DomainControl.next]
  | coded fault =>
      rw [control] at exposing
      have recovered : fault.health = .nominal := exposing
      refine ⟨[.proceed thread 0, .proceed thread 0, .recordHeartbeat thread 0,
        .proceed thread 0, .proceed thread 0], ?_, ?_⟩
      · simp [Machine.everyStep_cons_iff, Machine.everyStep_nil, Pressing, control,
          DomainControl.Counts, machine, access, store, DomainControl.next, recovered]
      · simp [machine, access, store, control, DomainControl.next, recovered]
  | reported fault =>
      rw [control] at exposing
      have recovered : fault.health = .nominal := exposing
      refine ⟨[.proceed thread 0, .proceed thread 0, .proceed thread 0,
        .recordHeartbeat thread 0, .proceed thread 0, .proceed thread 0], ?_, ?_⟩
      · simp [Machine.everyStep_cons_iff, Machine.everyStep_nil, Pressing, control,
          DomainControl.Counts, machine, access, store, DomainControl.next, recovered]
      · simp [machine, access, store, control, DomainControl.next, recovered]
  | idle => rw [control] at exposing; exact exposing.elim
  | cleared => rw [control] at exposing; exact exposing.elim
  | beaten => rw [control] at exposing; exact exposing.elim
  | late => rw [control] at exposing; exact exposing.elim
  | promoting => rw [control] at exposing; exact exposing.elim
  | promoted => rw [control] at exposing; exact exposing.elim

/-- A counted failure survives every interleaving of heartbeats, scans and further failure reports
exactly when no thread is left between its test of the count and its store, or inside a report of
recovery. -/
theorem counted_failure_kept_iff {state : SharedDomain Thread}
    (failed : state.entry.health = .failed) (counted : state.entry.faultCount ≠ 0) :
    (∀ inputs, machine.EveryStep Pressing state inputs →
        (machine.run state inputs).entry.health = .failed) ↔
      ∀ thread, ¬ (state.control thread).Exposing := by
  constructor
  · intro kept thread exposing
    obtain ⟨inputs, pressing, recovered⟩ := exposed_recovers exposing
    rw [kept inputs pressing] at recovered
    exact absurd recovered (by decide)
  · intro covered inputs pressing
    have hard : state.Hard := { failed, counted, covered }
    exact (hard.run pressing).failed

/-- A heartbeat has seen no fault, and a failure is reported and counted before it stores. -/
def overtaken : SharedDomain Bool :=
  let quiet : SharedDomain Bool := {
    entry := {
      domain := .lidar, health := .nominal, lastHeartbeat := 0, faultCount := 0, dtcCode := 0,
      mandatory := true }
    control := fun _ => .idle }
  let failure : SensorFaultEvent := {
    domain := .lidar, health := .failed, timestampMs := 0, faultCode := 7 }
  machine.run quiet [.recordHeartbeat false 0, .proceed false 0, .ingestFault true failure,
    .proceed true 0, .proceed true 0]

theorem overtaken_heartbeat_hides_failure :
    ¬ ∀ inputs, machine.EveryStep Pressing overtaken inputs →
      (machine.run overtaken inputs).entry.health = .failed :=
  fun kept => (counted_failure_kept_iff (by decide) (by decide)).1 kept false trivial

end SharedDomain

end SoaGateway.Safety
