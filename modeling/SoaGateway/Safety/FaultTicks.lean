import SoaGateway.Safety.HealthyRun

/-! Fault ticks by the history of a domain alone: the faults it was reported with since its
latest nominal report, and the silences that a cycle found it in. Between two reports silence
ticks once, however many cycles it lasts, so that it does not escalate on its own. -/

set_option autoImplicit false

namespace SoaGateway.Safety

open Foundation Ipc

/-- The non-nominal reports since the latest nominal one. -/
def faultReports (history : List DomainEvent) : Nat :=
  ((history.filterMap DomainEvent.health?).reverse.takeWhile (· ≠ .nominal)).length

theorem faultReports_concat (history : List DomainEvent) (event : DomainEvent) :
    faultReports (history ++ [event]) =
      match event.health? with
      | none => faultReports history
      | some health => if health = .nominal then 0 else faultReports history + 1 := by
  cases carried : event.health? with
  | none => simp [faultReports, carried]
  | some health =>
      rcases eq_or_ne health .nominal with rfl | fault
      · simp [faultReports, carried]
      · simp [faultReports, carried, fault]

/-- What the events of a domain add up to. The counts begin anew with a nominal report. -/
structure FaultRecord where
  signMs : Nat
  failed : Bool
  reports : Nat
  silences : Nat

namespace FaultRecord

def ticks (record : FaultRecord) : Nat := record.reports + record.silences

/-- A cycle finds a silence only where there is no failure yet. A heartbeat lifts a failure when
the ticks fill the 32-bit counter a whole number of times. -/
def add (record : FaultRecord) : DomainEvent → FaultRecord
  | .scanned nowMs =>
      if sensorTimeoutMs < nowMs - record.signMs ∧ record.failed = false then
        { record with failed := true, silences := record.silences + 1 }
      else record
  | .beaten nowMs =>
      { record with
        signMs := nowMs
        failed := record.failed && decide (record.ticks % 2 ^ 32 ≠ 0) }
  | .reported fault nowMs =>
      if fault.health = .nominal then
        { signMs := nowMs, failed := false, reports := 0, silences := 0 }
      else
        { record with
          failed := decide (fault.health = .failed), reports := record.reports + 1 }

def ofHistory (initMs : Nat) (history : List DomainEvent) : FaultRecord :=
  history.foldl add { signMs := initMs, failed := false, reports := 0, silences := 0 }

theorem ofHistory_concat (initMs : Nat) (history : List DomainEvent) (event : DomainEvent) :
    ofHistory initMs (history ++ [event]) = (ofHistory initMs history).add event :=
  List.foldl_concat _ _ _ _

theorem ofHistory_reports (initMs : Nat) (history : List DomainEvent) :
    (ofHistory initMs history).reports = faultReports history := by
  induction history using List.reverseRecOn with
  | nil => rfl
  | append_singleton history event ih =>
      rw [ofHistory_concat, faultReports_concat, ← ih]
      cases event with
      | scanned nowMs =>
          simp only [add, DomainEvent.health?]
          split <;> rfl
      | beaten nowMs => rfl
      | reported fault nowMs =>
          simp only [add, DomainEvent.health?]
          split <;> rfl

/-- Silence ticks at most once more than reports do, and once more only while the failure it
made still stands. -/
theorem add_silences {record : FaultRecord}
    (bounded : record.silences ≤ record.reports + record.failed.toNat) (event : DomainEvent) :
    (record.add event).silences ≤ (record.add event).reports + (record.add event).failed.toNat := by
  cases event with
  | scanned nowMs =>
      simp only [add]
      split
      · next silent =>
          rw [silent.2] at bounded
          exact Nat.succ_le_succ bounded
      · exact bounded
  | beaten nowMs =>
      simp only [add]
      cases failed : record.failed with
      | false =>
          rw [failed] at bounded
          exact bounded
      | true =>
          rw [failed, Bool.toNat_true] at bounded
          rw [Bool.true_and]
          rcases eq_or_ne (record.ticks % 2 ^ 32) 0 with whole | partly
          · -- One silence more than there are reports would make the ticks an odd number.
            have even : (record.reports + record.silences) % 2 ^ 32 = 0 := whole
            omega
          · rw [decide_eq_true partly]
            exact bounded
  | reported fault nowMs =>
      simp only [add]
      split
      · exact Nat.zero_le _
      · have once := Bool.toNat_le record.failed
        show record.silences ≤ record.reports + 1 + _
        omega

theorem ofHistory_silences (initMs : Nat) (history : List DomainEvent) :
    (ofHistory initMs history).silences ≤
      (ofHistory initMs history).reports + (ofHistory initMs history).failed.toNat := by
  induction history using List.reverseRecOn with
  | nil => exact Nat.zero_le _
  | append_singleton history event ih =>
      rw [ofHistory_concat]
      exact add_silences ih event

theorem ticks_between (initMs : Nat) (history : List DomainEvent) :
    faultReports history ≤ (ofHistory initMs history).ticks ∧
      (ofHistory initMs history).ticks ≤ 2 * faultReports history + 1 := by
  have reports := ofHistory_reports initMs history
  have silences := ofHistory_silences initMs history
  have once := Bool.toNat_le (ofHistory initMs history).failed
  unfold ticks
  omega

end FaultRecord

/-- The entry of a domain is what its history adds up to. -/
structure DomainState.Reflects (entry : DomainState) (record : FaultRecord) : Prop where
  sign : entry.lastHeartbeat = record.signMs
  failed : entry.health = .failed ↔ record.failed = true
  count : entry.faultCount.toNat = record.ticks % 2 ^ 32

theorem DomainState.Reflects.apply {entry : DomainState} {record : FaultRecord}
    (reflects : entry.Reflects record) (event : DomainEvent) :
    (entry.apply event).Reflects (record.add event) := by
  obtain ⟨sign, failed, count⟩ := reflects
  cases event with
  | scanned nowMs =>
      have due : entry.Late nowMs ∧ entry.health ≠ .failed ↔
          sensorTimeoutMs < nowMs - record.signMs ∧ record.failed = false := by
        rw [Late, sign, Ne, failed, Bool.not_eq_true]
      simp only [DomainState.apply, scan, FaultRecord.add, due]
      split
      · refine ⟨sign, iff_of_true rfl rfl, ?_⟩
        rw [BitVec.toNat_add, count]
        exact Nat.mod_add_mod _ _ _
      · exact ⟨sign, failed, count⟩
  | beaten nowMs =>
      have zero : entry.faultCount = 0 ↔ record.ticks % 2 ^ 32 = 0 := by
        rw [← count, ← BitVec.toNat_inj]
        rfl
      simp only [DomainState.apply, beat, FaultRecord.add]
      refine ⟨rfl, ?_, count⟩
      rcases eq_or_ne (record.ticks % 2 ^ 32) 0 with whole | partly
      · rw [if_pos (zero.2 whole), whole]
        exact iff_of_false (by decide : SensorHealth.nominal ≠ .failed) (by simp)
      · rw [if_neg (mt zero.1 partly), failed, decide_eq_true partly, Bool.and_true]
  | reported fault nowMs =>
      simp only [DomainState.apply, report, FaultRecord.add]
      split
      · next nominal =>
          refine ⟨rfl, ?_, rfl⟩
          simp only [nominal]
          decide
      · refine ⟨sign, decide_eq_true_iff.symm, ?_⟩
        rw [BitVec.toNat_add, count, FaultRecord.ticks, FaultRecord.ticks]
        simp only [Nat.add_right_comm record.reports 1]
        exact Nat.mod_add_mod _ _ _

namespace SafetyArbitrator

/-- The record of a domain after a run from `Init` on. -/
def faultRecord (initMs : Nat) (index : Fin maxSensorDomains) (calls : List ArbitratorCall) :
    FaultRecord :=
  .ofHistory initMs (domainHistory index calls)

theorem run_reflects (bridge : IpcBridge) (mandatoryDomains : Byte) (initMs : Nat)
    (index : Fin maxSensorDomains) (calls : List ArbitratorCall) :
    ((machine.run (started bridge mandatoryDomains initMs) calls).domains index).Reflects
      (faultRecord initMs index calls) := by
  rw [run_started_domain, faultRecord]
  induction domainHistory index calls using List.reverseRecOn with
  | nil =>
      exact ⟨rfl, iff_of_false (by decide : SensorHealth.unknown ≠ .failed) Bool.false_ne_true, rfl⟩
  | append_singleton history event ih =>
      rw [List.foldl_concat, FaultRecord.ofHistory_concat]
      exact ih.apply event

/-- The state after the last late cycle of a silent mandatory domain, by the histories of the
domains. Silence alone never leads to the minimal risk condition: a domain that was reported with
no fault since its latest nominal report has at most one tick. -/
theorem silent_mandatory_escalates_iff (bridge : IpcBridge) {mandatoryDomains : Byte}
    {initMs quietMs : Nat} {index : Fin maxSensorDomains} {calls : List ArbitratorCall}
    {last : CycleClock}
    (silent : SilentRun mandatoryDomains initMs quietMs index calls last) :
    let run := calls ++ [ArbitratorCall.arbitrate last]
    let final := machine.run (started bridge mandatoryDomains initMs) run
    ((final.currentState = .minimalRiskCondition ∨ final.currentState = .emergencyStop) ↔
      ((faultRecord initMs lidarIndex run).failed = true ∧
          (faultRecord initMs radarIndex run).failed = true) ∨
        ∃ other : Fin maxSensorDomains, mandatoryDomains.getLsbD other.val = true ∧
          3 ≤ (faultRecord initMs other run).ticks % 2 ^ 32) ∧
      ∀ other, faultReports (domainHistory other run) ≤ (faultRecord initMs other run).ticks ∧
        (faultRecord initMs other run).ticks ≤ 2 * faultReports (domainHistory other run) + 1 := by
  intro run final
  refine ⟨?_, fun other => FaultRecord.ticks_between initMs (domainHistory other run)⟩
  obtain ⟨decided, risk⟩ := silentRun_decided bridge silent
  have reflects := fun place => run_reflects bridge mandatoryDomains initMs place run
  have failed : ∀ place, (final.domains place).health = .failed ↔
      (faultRecord initMs place run).failed = true := fun place => (reflects place).failed
  have worn : ∀ place, faultThreshold ≤ (final.domains place).faultCount ↔
      3 ≤ (faultRecord initMs place run).ticks % 2 ^ 32 := by
    intro place
    rw [← (reflects place).count]
    exact BitVec.le_def
  simp only [← failed, ← worn]
  rw [← risk, decided, ← chosenState_minimalRisk_iff]
  exact or_iff_left computeRequiredState_ne_emergencyStop

/-- The other matrix domains beat once more; a mandatory GNSS never does. -/
def gnssSilence : List ArbitratorCall :=
  [.recordHeartbeat .lidar 100, .recordHeartbeat .radar 100, .recordHeartbeat .camera 100,
    .recordHeartbeat .imu 100, .arbitrate (cycleAt 101), .arbitrate (cycleAt 111)]

theorem gnssSilence_silent : SilentRun 0x08 0 0 gnssIndex gnssSilence (cycleAt 121) where
  valid := by decide
  mandatory := by decide
  begun := by decide
  clock := by decide
  cycles := by decide
  late := by decide
  quiet := by
    have beat : ∀ domain : SensorDomain, domain.index? ≠ some gnssIndex →
        QuietAfter gnssIndex 0 (.recordHeartbeat domain 100) := by
      intro domain elsewhere
      refine ⟨fun fault nowMs carried => ?_, fun other nowMs same here => ?_⟩
      · cases carried
      · cases same
        exact absurd here elsewhere
    have cycle : ∀ clock, QuietAfter gnssIndex 0 (.arbitrate clock) := by
      intro clock
      refine ⟨fun fault nowMs carried => ?_, fun other nowMs same => ?_⟩
      · cases carried
      · cases same
    simp only [gnssSilence, List.forall_mem_cons, List.not_mem_nil, false_imp_iff,
      implies_true, and_true]
    exact ⟨beat _ (by decide), beat _ (by decide), beat _ (by decide), beat _ (by decide),
      cycle _, cycle _⟩

/-- After three late cycles the arbitrator still only dead-reckons. -/
theorem gnss_silence_never_escalates :
    SilentRun 0x08 0 0 gnssIndex gnssSilence (cycleAt 121) ∧
      (machine.run (started (IpcBridge.construct (some blankSram)).init.2 0x08 0)
        (gnssSilence ++ [.arbitrate (cycleAt 121)])).currentState = .deadReckoningMode :=
  ⟨gnssSilence_silent, by decide⟩

theorem gnssSilence_escalation :
    let run := gnssSilence ++ [ArbitratorCall.arbitrate (cycleAt 121)]
    let final := machine.run (started (IpcBridge.construct (some blankSram)).init.2 0x08 0) run
    ((final.currentState = .minimalRiskCondition ∨ final.currentState = .emergencyStop) ↔
      ((faultRecord 0 lidarIndex run).failed = true ∧
        (faultRecord 0 radarIndex run).failed = true) ∨
        ∃ other : Fin maxSensorDomains, (0x08#8).getLsbD other.val = true ∧
          3 ≤ (faultRecord 0 other run).ticks % 2 ^ 32) ∧
      (faultRecord 0 gnssIndex run).ticks = 1 := by
  obtain ⟨exactly, -⟩ :=
    silent_mandatory_escalates_iff (IpcBridge.construct (some blankSram)).init.2 gnssSilence_silent
  exact ⟨exactly, by decide⟩

end SafetyArbitrator

end SoaGateway.Safety
