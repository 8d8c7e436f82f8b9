import SoaGateway.Safety.CommandCopies
import SoaGateway.Safety.Envelope
import SoaGateway.Safety.HealthyRun
import SoaGateway.Safety.SupervisorView

/-! Recovery. Whatever the sensors reported before, a cycle lifts every restriction once
each valid domain has reported nominal and given its signs of life in time since. -/

set_option autoImplicit false

namespace SoaGateway.Safety

open Foundation Ipc

/-- From a sign of life at `signMs` on, no later report is a fault, and no scan, nor the
cycle at `nowMs`, comes more than the timeout after the sign of life before it. -/
def Punctual (nowMs signMs : Nat) : List DomainEvent → Prop
  | [] => nowMs ≤ signMs + sensorTimeoutMs
  | .scanned scanMs :: later => scanMs ≤ signMs + sensorTimeoutMs ∧ Punctual nowMs signMs later
  | .beaten beatMs :: later => Punctual nowMs beatMs later
  | .reported fault reportMs :: later => fault.health = .nominal ∧ Punctual nowMs reportMs later

/-- The history holds a nominal report, and the domain was punctual from there on. -/
def Recovered (nowMs : Nat) (history : List DomainEvent) : Prop :=
  ∃ early fault reportMs later, history = early ++ .reported fault reportMs :: later ∧
    fault.health = .nominal ∧ Punctual nowMs reportMs later

structure DomainState.Clear (nowMs : Nat) (entry : DomainState) : Prop where
  nominal : entry.health = .nominal
  uncounted : entry.faultCount = 0
  punctual : ¬ entry.Late nowMs

theorem Punctual.clear {nowMs : Nat} {later : List DomainEvent} {entry : DomainState}
    (punctual : Punctual nowMs entry.lastHeartbeat later) (nominal : entry.health = .nominal)
    (uncounted : entry.faultCount = 0) : (later.foldl DomainState.apply entry).Clear nowMs := by
  induction later generalizing entry with
  | nil =>
      refine ⟨nominal, uncounted, fun late => ?_⟩
      have inTime : nowMs ≤ entry.lastHeartbeat + sensorTimeoutMs := punctual
      rw [List.foldl_nil] at late
      unfold DomainState.Late at late
      omega
  | cons event later ih =>
      rw [List.foldl_cons]
      cases event with
      | scanned scanMs =>
          obtain ⟨inTime, rest⟩ := punctual
          have early : ¬ entry.Late scanMs := by
            unfold DomainState.Late
            omega
          rw [DomainState.apply, DomainState.scan_punctual early]
          exact ih rest nominal uncounted
      | beaten beatMs =>
          have rest : Punctual nowMs beatMs later := punctual
          refine ih rest ?_ uncounted
          rw [DomainState.apply, DomainState.beat, if_pos uncounted]
      | reported fault reportMs =>
          obtain ⟨recovered, rest⟩ := punctual
          rw [DomainState.apply, DomainState.report, if_pos recovered]
          exact ih rest recovered rfl

/-- What a domain went through before it recovered leaves no trace. -/
theorem Recovered.clear {nowMs : Nat} {history : List DomainEvent}
    (recovered : Recovered nowMs history) (entry : DomainState) :
    (history.foldl DomainState.apply entry).Clear nowMs := by
  obtain ⟨early, fault, reportMs, later, rfl, nominal, punctual⟩ := recovered
  rw [List.foldl_append, List.foldl_cons]
  generalize early.foldl DomainState.apply entry = before
  rw [DomainState.apply, DomainState.report, if_pos nominal]
  exact punctual.clear nominal rfl

/-- The slot no sensor reports for can only fall silent, which counts once. -/
def DomainState.Unheard (entry : DomainState) : Prop :=
  entry.health = .unknown ∧ entry.faultCount = 0 ∨ entry.health = .failed ∧ entry.faultCount = 1

theorem DomainState.Unheard.scan {entry : DomainState} (unheard : entry.Unheard) (nowMs : Nat) :
    (entry.scan nowMs).Unheard := by
  cases unheard with
  | inl fresh =>
      unfold DomainState.scan
      split
      · exact .inr ⟨rfl, by rw [fresh.2]; rfl⟩
      · exact .inl fresh
  | inr silent =>
      rw [DomainState.scan_failed silent.1]
      exact .inr silent

theorem DomainState.Unheard.count_lt {entry : DomainState} (unheard : entry.Unheard) :
    ¬ faultThreshold ≤ entry.faultCount := by
  obtain ⟨-, count⟩ | ⟨-, count⟩ := unheard
  · rw [count]
    decide
  · rw [count]
    decide

namespace SafetyArbitrator

variable {arbitrator : SafetyArbitrator}

/-- Before `Init` succeeds the domain table is as constructed; `Init` writes every entry. -/
theorem step_uninitialised_unheard (unready : arbitrator.initialised = false)
    (unheard : (arbitrator.domains spareIndex).Unheard) (call : ArbitratorCall) :
    ((arbitrator.step call).2.domains spareIndex).Unheard := by
  cases call with
  | init mandatoryDomains nowMs =>
      simp only [step, init, unready, Bool.false_eq_true, ↓reduceIte]
      split
      · exact unheard
      · exact .inl ⟨rfl, rfl⟩
  | otherSend event =>
      simp only [step, otherSend]
      split
      · exact unheard
      · exact unheard
  | consumerStore tail => exact unheard
  | _ => simpa [step, registerListener, ingestFault, injectFault, ingestSoaEvent, recordHeartbeat,
      arbitrate, unready] using unheard

theorem run_unheard (ipc : Option IpcBridge) (calls : List ArbitratorCall) :
    ((machine.run (construct ipc) calls).domains spareIndex).Unheard := by
  let invariant := fun reached : SafetyArbitrator => (reached.domains spareIndex).Unheard
  have start : invariant (construct ipc) := .inl ⟨rfl, rfl⟩
  refine machine.run_preserves start (fun current call unheard => ?_) calls
  cases ready : current.initialised with
  | false => exact step_uninitialised_unheard ready unheard call
  | true =>
      change ((current.step call).2.domains spareIndex).Unheard
      rw [step_domains ready call spareIndex, ArbitratorCall.touch_eq]
      cases seen : call.event? spareIndex with
      | none => exact unheard
      | some event =>
          obtain ⟨clock, -, rfl⟩ := event?_spare seen
          exact unheard.scan clock.scanMs

/-- A cycle that finds the seven sensors clear asks for full operation, whatever it makes
of the eighth slot. -/
theorem observe_clear {nowMs : Nat}
    (clear : ∀ index : Fin maxSensorDomains, index.val < numSensorDomains →
      (arbitrator.domains index).Clear nowMs)
    (unheard : (arbitrator.domains spareIndex).Unheard) :
    (arbitrator.observe nowMs).computeRequiredState = .fullOperation := by
  have scanned : ∀ index : Fin maxSensorDomains, index.val < numSensorDomains →
      (arbitrator.scanTimeouts nowMs).domains index = arbitrator.domains index := by
    intro index valid
    exact DomainState.scan_punctual (clear index valid).punctual
  have working : ∀ index : Fin maxSensorDomains, index.val < numSensorDomains →
      ¬ (arbitrator.scanTimeouts nowMs).domainFailed index := by
    intro index valid failed
    rw [domainFailed, scanned index valid, (clear index valid).nominal] at failed
    exact absurd failed (by decide)
  have counts : ∀ index : Fin maxSensorDomains,
      ¬ faultThreshold ≤ ((arbitrator.scanTimeouts nowMs).domains index).faultCount := by
    intro index
    rcases Nat.lt_or_ge index.val numSensorDomains with valid | spare
    · rw [scanned index valid, (clear index valid).uncounted]
      decide
    · have same : index = spareIndex := Fin.ext (Nat.le_antisymm (Nat.le_of_lt_succ index.isLt) spare)
      rw [same]
      exact (unheard.scan nowMs).count_lt
  have safe : ¬ (arbitrator.scanTimeouts nowMs).MinimalRisk := by
    intro risk
    obtain ranging | ⟨-, worn, -, count⟩ := risk
    · exact working lidarIndex (by decide) ranging.1
    · exact counts worn count
  classical
  rw [show (arbitrator.observe nowMs).computeRequiredState = _ from chosenState_eq, if_neg safe,
    if_neg (working lidarIndex (by decide)), if_neg (working radarIndex (by decide)),
    if_neg (working cameraIndex (by decide)), if_neg (working imuIndex (by decide)),
    if_neg (working gnssIndex (by decide))]

/-- Whatever ran before, once the seven sensors have recovered the next cycle stores the
command for full operation, with the full speed, and it sends that command and calls
every listener with it if a restriction was in force. -/
theorem recovery_lifts_every_restriction (ipc : Option IpcBridge) (calls between : List ArbitratorCall)
    (clock : CycleClock) (ready : (machine.run (construct ipc) calls).initialised = true)
    (recovered : ∀ index : Fin maxSensorDomains, index.val < numSensorDomains →
      Recovered clock.scanMs (domainHistory index between)) :
    let before := machine.run (construct ipc) (calls ++ between)
    let outcome := before.step (.arbitrate clock)
    outcome.2.currentState = .fullOperation ∧ outcome.2.lastCommand.state = .fullOperation ∧
      outcome.2.lastCommand.maxSpeedKph.toRat = 130 ∧
      (before.currentState ≠ .fullOperation →
        (∃ cmd answer, outcome.1.sent = some (cmd, answer) ∧ cmd.state = .fullOperation ∧
          cmd.maxSpeedKph.toRat = 130) ∧
        outcome.1.notified =
          before.listeners.map fun listener => (listener, outcome.2.lastCommand)) := by
  intro before outcome
  have front : before.initialised = true := by
    rw [show before = _ from machine.run_append _ calls between]
    exact run_initialised ready between
  have clear : ∀ index : Fin maxSensorDomains, index.val < numSensorDomains →
      (before.domains index).Clear clock.scanMs := by
    intro index valid
    rw [show before = _ from machine.run_append _ calls between, run_domain ready]
    exact (recovered index valid).clear _
  have required := observe_clear clear (run_unheard ipc (calls ++ between))
  have unlatched : before.currentState ≠ .emergencyStop := run_unlatched ipc (calls ++ between)
  have state := ((arbitrate_settles front clock).currentState unlatched).trans required
  have commanding : outcome.2.Commanding := by
    have reached := (run_commanding ipc (calls ++ between ++ [.arbitrate clock])).1
    rw [run_step] at reached
    exact reached
  have stored : outcome.2.lastCommand.state = .fullOperation := commanding.state.trans state
  refine ⟨state, stored, ?_, fun restricted => ?_⟩
  · rw [commanding.limited.speed, stored]
    exact speedCap_toRat .fullOperation
  · have due : before.Due clock := ⟨front, by rw [required]; exact restricted.symm, unlatched⟩
    obtain ⟨-, notified⟩ := executeTransition_copies (before.observe clock.scanMs)
      (before.observe clock.scanMs).computeRequiredState clock
    rw [show outcome = _ from arbitrate_due due]
    refine ⟨?_, notified⟩
    obtain ⟨answer, sent⟩ := executeTransition_sent (before.observe clock.scanMs)
      (before.observe clock.scanMs).computeRequiredState clock
    refine ⟨_, answer, sent, required, ?_⟩
    rw [show (buildCommand _ _).maxSpeedKph = _ from congrArg speedCap required]
    exact speedCap_toRat .fullOperation

/-- Two mandatory sensors fail until the arbitrator asks for the minimal risk condition. -/
def mandatoryLosses : List ArbitratorCall :=
  [.init 0x03 0, lidarReport .failed, lidarReport .failed, lidarReport .failed,
    .injectFault .radar .failed 0 0 0, .arbitrate instantly]

theorem recovery_after_minimalRisk :
    let before := machine.run (overBridge blankSram) (mandatoryLosses ++ allNominal 10)
    before.currentState = .minimalRiskCondition ∧
      (before.step (.arbitrate (cycleAt 50))).2.currentState = .fullOperation :=
  ⟨by decide, (recovery_lifts_every_restriction _ mandatoryLosses (allNominal 10) (cycleAt 50)
    (by decide) fun index valid => ⟨[], ⟨.ofIndex index, .nominal, 10, 0⟩, 10, [],
      by revert index; decide, rfl, (by decide : 50 ≤ 10 + sensorTimeoutMs)⟩).1⟩

end SafetyArbitrator

end SoaGateway.Safety
