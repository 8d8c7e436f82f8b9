import SoaGateway.Safety.CycleView
import SoaGateway.Safety.IngestionOrder
import SoaGateway.Safety.TransitionLog

/-! The trigger domain of a log record against the rows of the matrix. The target state is
chosen by priority, the trigger by a scan for the lowest failed slot. -/

set_option autoImplicit false

namespace SoaGateway.Safety

open Foundation Ipc

theorem SensorDomain.index?_ofIndex (index : Fin maxSensorDomains) :
    (ofIndex index).index? = if index.val < numSensorDomains then some index else none := by
  revert index
  decide

namespace SafetyArbitrator

variable {arbitrator : SafetyArbitrator} {index : Fin maxSensorDomains}

/-- The domains the row that asks for a state depends on. -/
def IsCause (arbitrator : SafetyArbitrator) (target : SafeState)
    (index : Fin maxSensorDomains) : Prop :=
  match target with
  | .radarCameraFallback => index = lidarIndex
  | .lidarCameraFallback => index = radarIndex
  | .lidarRadarFallback => index = cameraIndex
  | .deadReckoningMode => index = gnssIndex
  | .reducedDynamics => index = imuIndex
  | .minimalRiskCondition =>
      (arbitrator.domainFailed lidarIndex ∧ arbitrator.domainFailed radarIndex ∧
        (index = lidarIndex ∨ index = radarIndex)) ∨
      arbitrator.mandatoryMask.getLsbD index.val = true
  | .fullOperation | .emergencyStop => False

/-- The trigger is a failed domain and a cause of the target state. -/
def NamesCause (arbitrator : SafetyArbitrator) (target : SafeState) (trigger : SensorDomain) :
    Prop :=
  ∃ index, trigger.index? = some index ∧ arbitrator.domainFailed index ∧
    arbitrator.IsCause target index

structure LowestFailed (arbitrator : SafetyArbitrator) (index : Fin maxSensorDomains) : Prop where
  failed : arbitrator.domainFailed index
  lowest : ∀ other, arbitrator.domainFailed other → index ≤ other

theorem exists_lowestFailed (failed : arbitrator.domainFailed index) :
    ∃ lowest, arbitrator.LowestFailed lowest := by
  obtain ⟨lowest, isFailed, least⟩ :=
    (wellFounded_lt : WellFounded ((· < ·) : Fin maxSensorDomains → _ → Prop)).has_min
      {index | arbitrator.domainFailed index} ⟨index, failed⟩
  exact ⟨lowest, isFailed, fun other otherFailed => Fin.not_lt.1 (least other otherFailed)⟩

theorem LowestFailed.unique {other : Fin maxSensorDomains}
    (first : arbitrator.LowestFailed index) (second : arbitrator.LowestFailed other) :
    index = other :=
  le_antisymm (first.lowest other second.failed) (second.lowest index first.failed)

/-- The scan for the trigger finds the lowest failed slot. -/
theorem triggerDomain_lowest (lowest : arbitrator.LowestFailed index) :
    arbitrator.updateBitmasks.triggerDomain = .ofIndex index := by
  have bit : ∀ other : Fin maxSensorDomains,
      arbitrator.updateBitmasks.faultBitmask.getLsbD other.val =
        decide (arbitrator.domainFailed other) := fun other => healthMask_bit _ _
  have found : (List.finRange maxSensorDomains).find? (fun other =>
      arbitrator.updateBitmasks.faultBitmask.getLsbD other.val) = some index := by
    rw [List.find?_eq_some_iff_getElem]
    refine ⟨(bit index).trans (decide_eq_true lowest.failed), index.val, by simp, by simp, ?_⟩
    intro place below
    have unfailed : ¬ arbitrator.domainFailed ⟨place, below.trans index.isLt⟩ := by
      intro failed
      exact absurd (lowest.lowest _ failed) (Nat.not_le.2 below)
    have clear : arbitrator.updateBitmasks.faultBitmask.getLsbD place = false :=
      (bit ⟨place, _⟩).trans (decide_eq_false unfailed)
    simp [clear]
  rw [triggerDomain, found]

/-- The lowest failed slot is not what the matrix acted on: a mandatory loss below which
an optional domain has failed too, or which only the spare slot suffered; or an inertial
failure behind a GNSS failure. -/
def Misleads (arbitrator : SafetyArbitrator) : Prop :=
  (arbitrator.MinimalRisk ∧
    ¬ (arbitrator.domainFailed lidarIndex ∧ arbitrator.domainFailed radarIndex) ∧
    ∀ index : Fin maxSensorDomains, index.val < numSensorDomains →
      arbitrator.mandatoryMask.getLsbD index.val = true → arbitrator.domainFailed index →
      ∃ lower < index, arbitrator.domainFailed lower ∧
        arbitrator.mandatoryMask.getLsbD lower.val = false) ∨
  (¬ arbitrator.MinimalRisk ∧ ¬ arbitrator.domainFailed lidarIndex ∧
    ¬ arbitrator.domainFailed radarIndex ∧ ¬ arbitrator.domainFailed cameraIndex ∧
    arbitrator.domainFailed gnssIndex ∧ arbitrator.domainFailed imuIndex)

theorem namesCause_iff (lowest : arbitrator.LowestFailed index) (target : SafeState) :
    arbitrator.NamesCause target arbitrator.updateBitmasks.triggerDomain ↔
      index.val < numSensorDomains ∧ arbitrator.IsCause target index := by
  rw [triggerDomain_lowest lowest, NamesCause, SensorDomain.index?_ofIndex]
  constructor
  · intro sound
    obtain ⟨found, located, -, cause⟩ := sound
    split at located
    · next valid =>
        cases located
        exact ⟨valid, cause⟩
    · cases located
  · intro justified
    obtain ⟨valid, cause⟩ := justified
    exact ⟨index, if_pos valid, lowest.failed, cause⟩

theorem lowestFailed_of_clear (failed : arbitrator.domainFailed index)
    (clear : ∀ lower < index, ¬ arbitrator.domainFailed lower) : arbitrator.LowestFailed index :=
  ⟨failed, fun other otherFailed => Fin.not_lt.1 fun below => clear other below otherFailed⟩

theorem lidar_lowest (failed : arbitrator.domainFailed lidarIndex) :
    arbitrator.LowestFailed lidarIndex :=
  lowestFailed_of_clear failed fun lower below => absurd below (Nat.not_lt_zero lower.val)

theorem MinimalRisk.exists_failed (risk : arbitrator.MinimalRisk) :
    ∃ index, arbitrator.domainFailed index := by
  cases risk with
  | inl ranging => exact ⟨_, ranging.1⟩
  | inr mandatory =>
      obtain ⟨⟨lost, -, failed⟩, -⟩ := mandatory
      exact ⟨lost, failed⟩

/-- Under the minimal risk condition the lowest failed slot decides. -/
theorem namesCause_of_risk (risk : arbitrator.MinimalRisk) :
    arbitrator.NamesCause .minimalRiskCondition arbitrator.updateBitmasks.triggerDomain ↔
      ¬ arbitrator.Misleads := by
  obtain ⟨failing, failed⟩ := risk.exists_failed
  obtain ⟨lowest, isLowest⟩ := exists_lowestFailed failed
  rw [namesCause_iff isLowest]
  by_cases ranging : arbitrator.domainFailed lidarIndex ∧ arbitrator.domainFailed radarIndex
  · have same := isLowest.unique (lidar_lowest ranging.1)
    subst same
    refine iff_of_true ⟨by decide, .inl ⟨ranging.1, ranging.2, .inl rfl⟩⟩ ?_
    rintro (⟨-, notRanging, -⟩ | ⟨safe, -⟩)
    · exact notRanging ranging
    · exact safe risk
  · constructor
    · rintro ⟨valid, cause⟩ (⟨-, -, hidden⟩ | ⟨safe, -⟩)
      · have mandatory := cause.resolve_left fun both => ranging ⟨both.1, both.2.1⟩
        obtain ⟨lower, below, lowerFailed, -⟩ := hidden lowest valid mandatory isLowest.failed
        exact absurd (isLowest.lowest lower lowerFailed) (Fin.not_le.2 below)
      · exact safe risk
    · intro honest
      by_contra misnamed
      refine honest (.inl ⟨risk, ranging, fun index valid mandatory indexFailed => ?_⟩)
      -- The lowest failed slot itself hides the loss: were it mandatory, it would be named.
      have named : ¬ (lowest.val < numSensorDomains ∧
          arbitrator.mandatoryMask.getLsbD lowest.val = true) :=
        fun both => misnamed ⟨both.1, .inr both.2⟩
      have order : lowest ≤ index := isLowest.lowest index indexFailed
      have valid_lowest : lowest.val < numSensorDomains := Nat.lt_of_le_of_lt order valid
      have optional : arbitrator.mandatoryMask.getLsbD lowest.val = false :=
        Bool.eq_false_iff.2 fun mandatory => named ⟨valid_lowest, mandatory⟩
      have apart : lowest ≠ index := by
        rintro rfl
        exact Bool.false_ne_true (optional.symm.trans mandatory)
      exact ⟨lowest, lt_of_le_of_ne order apart, isLowest.failed, optional⟩

theorem not_misleads_of_safe (safe : ¬ arbitrator.MinimalRisk)
    (single : ¬ (¬ arbitrator.domainFailed lidarIndex ∧ ¬ arbitrator.domainFailed radarIndex ∧
      ¬ arbitrator.domainFailed cameraIndex ∧ arbitrator.domainFailed gnssIndex ∧
      arbitrator.domainFailed imuIndex)) : ¬ arbitrator.Misleads := by
  rintro (⟨risk, -⟩ | ⟨-, double⟩)
  · exact safe risk
  · exact single double

theorem below_radar : ∀ lower < radarIndex, lower = lidarIndex := by
  decide

theorem below_camera : ∀ lower < cameraIndex, lower = lidarIndex ∨ lower = radarIndex := by
  decide

theorem below_gnss : ∀ lower < gnssIndex,
    lower = lidarIndex ∨ lower = radarIndex ∨ lower = cameraIndex := by
  decide

theorem below_imu : ∀ lower < imuIndex,
    lower = lidarIndex ∨ lower = radarIndex ∨ lower = cameraIndex ∨ lower = gnssIndex := by
  decide

theorem namesCause_of_clear {target : SafeState} (failed : arbitrator.domainFailed index)
    (clear : ∀ lower < index, ¬ arbitrator.domainFailed lower)
    (valid : index.val < numSensorDomains) (cause : arbitrator.IsCause target index) :
    arbitrator.NamesCause target arbitrator.updateBitmasks.triggerDomain :=
  (namesCause_iff (lowestFailed_of_clear failed clear) target).2 ⟨valid, cause⟩

/-- The single-loss rows: each names its own sensor, but for an inertial failure behind a
GNSS failure. -/
theorem namesCause_of_safe (safe : ¬ arbitrator.MinimalRisk)
    (needed : arbitrator.chosenState ≠ .fullOperation) :
    arbitrator.NamesCause arbitrator.chosenState arbitrator.updateBitmasks.triggerDomain ↔
      ¬ arbitrator.Misleads := by
  classical
  rw [chosenState_eq, if_neg safe] at needed ⊢
  by_cases lidar : arbitrator.domainFailed lidarIndex
  · rw [if_pos lidar]
    refine iff_of_true ((namesCause_iff (lidar_lowest lidar) _).2 ⟨by decide, rfl⟩) ?_
    exact not_misleads_of_safe safe fun double => double.1 lidar
  rw [if_neg lidar] at needed ⊢
  by_cases radar : arbitrator.domainFailed radarIndex
  · rw [if_pos radar]
    refine iff_of_true (namesCause_of_clear radar (fun lower below => ?_) (by decide) rfl) ?_
    · rw [below_radar lower below]
      exact lidar
    · exact not_misleads_of_safe safe fun double => double.2.1 radar
  rw [if_neg radar] at needed ⊢
  by_cases camera : arbitrator.domainFailed cameraIndex
  · rw [if_pos camera]
    refine iff_of_true (namesCause_of_clear camera (fun lower below => ?_) (by decide) rfl) ?_
    · obtain rfl | rfl := below_camera lower below
      · exact lidar
      · exact radar
    · exact not_misleads_of_safe safe fun double => double.2.2.1 camera
  rw [if_neg camera] at needed ⊢
  by_cases gnss : arbitrator.domainFailed gnssIndex
  · have clear : ∀ lower < gnssIndex, ¬ arbitrator.domainFailed lower := by
      intro lower below
      obtain rfl | rfl | rfl := below_gnss lower below
      · exact lidar
      · exact radar
      · exact camera
    by_cases imu : arbitrator.domainFailed imuIndex
    · rw [if_pos imu, namesCause_iff (lowestFailed_of_clear gnss clear)]
      refine iff_of_false (fun named => absurd named.2 ?_) fun honest => honest ?_
      · exact (by decide : gnssIndex ≠ imuIndex)
      · exact .inr ⟨safe, lidar, radar, camera, gnss, imu⟩
    · rw [if_neg imu, if_pos gnss]
      refine iff_of_true (namesCause_of_clear gnss clear (by decide) rfl) ?_
      exact not_misleads_of_safe safe fun double => imu double.2.2.2.2
  · by_cases imu : arbitrator.domainFailed imuIndex
    · rw [if_pos imu]
      refine iff_of_true (namesCause_of_clear imu (fun lower below => ?_) (by decide) rfl) ?_
      · obtain rfl | rfl | rfl | rfl := below_imu lower below
        · exact lidar
        · exact radar
        · exact camera
        · exact gnss
      · exact not_misleads_of_safe safe fun double => gnss double.2.2.2.1
    · rw [if_neg imu, if_neg gnss] at needed
      exact absurd rfl needed

theorem namesCause_iff_not_misleads (needed : arbitrator.chosenState ≠ .fullOperation) :
    arbitrator.NamesCause arbitrator.chosenState arbitrator.updateBitmasks.triggerDomain ↔
      ¬ arbitrator.Misleads := by
  by_cases risk : arbitrator.MinimalRisk
  · rw [chosenState_minimalRisk risk]
    exact namesCause_of_risk risk
  · exact namesCause_of_safe risk needed

/-- The cycle executes a transition, and not one back to full operation. -/
def Restricts (arbitrator : SafetyArbitrator) (clock : CycleClock) : Prop :=
  arbitrator.Due clock ∧
    (arbitrator.observe clock.scanMs).computeRequiredState ≠ .fullOperation

/-- If the call executes a transition into a restricted state, the record it logs names a
cause of that state, as the domains are after the scan of that cycle. -/
def RecordsCause (arbitrator : SafetyArbitrator) (call : ArbitratorCall) : Prop :=
  ∀ clock, call = .arbitrate clock → arbitrator.Restricts clock →
    (arbitrator.observe clock.scanMs).NamesCause
      ((arbitrator.step call).2.transitionLog arbitrator.logHead).toState
      ((arbitrator.step call).2.transitionLog arbitrator.logHead).triggerDomain

def Misattributes (arbitrator : SafetyArbitrator) (call : ArbitratorCall) : Prop :=
  ∃ clock, call = .arbitrate clock ∧ arbitrator.Restricts clock ∧
    (arbitrator.observe clock.scanMs).Misleads

theorem restricts_record {clock : CycleClock} (restricts : arbitrator.Restricts clock) :
    (arbitrator.step (.arbitrate clock)).2.transitionLog arbitrator.logHead =
      (arbitrator.observe clock.scanMs).transitionRecord
        (arbitrator.observe clock.scanMs).computeRequiredState clock := by
  obtain ⟨-, log, -⟩ := executeTransition_logs (arbitrator.observe clock.scanMs)
    (arbitrator.observe clock.scanMs).computeRequiredState clock
  rw [show arbitrator.step (.arbitrate clock) = _ from arbitrate_due restricts.1, log]
  exact Function.update_self _ _ _

theorem recordsCause_iff (call : ArbitratorCall) :
    arbitrator.RecordsCause call ↔ ¬ arbitrator.Misattributes call := by
  have cycle : ∀ clock, arbitrator.Restricts clock →
      ((arbitrator.observe clock.scanMs).NamesCause
          ((arbitrator.step (.arbitrate clock)).2.transitionLog arbitrator.logHead).toState
          ((arbitrator.step (.arbitrate clock)).2.transitionLog
            arbitrator.logHead).triggerDomain ↔
        ¬ (arbitrator.observe clock.scanMs).Misleads) := by
    intro clock restricts
    rw [restricts_record restricts]
    exact (arbitrator.scanTimeouts clock.scanMs).namesCause_iff_not_misleads restricts.2
  constructor
  · rintro records ⟨clock, rfl, restricts, misleads⟩
    exact (cycle clock restricts).1 (records clock rfl restricts) misleads
  · rintro honest clock rfl restricts
    exact (cycle clock restricts).2 fun misleads => honest ⟨clock, rfl, restricts, misleads⟩

/-- The log of a run names a cause of every restricted state exactly when no transition of
the run finds the matrix acting on another sensor than the lowest failed slot. -/
theorem transitions_name_causes_iff (ipc : Option IpcBridge) (calls : List ArbitratorCall) :
    machine.EveryStep RecordsCause (construct ipc) calls ↔
      machine.EveryStep (fun arbitrator call => ¬ arbitrator.Misattributes call)
        (construct ipc) calls := by
  refine forall_congr' fun before => forall_congr' fun call => forall_congr' fun after => ?_
  exact imp_congr_right fun _ => recordsCause_iff call

/-- GNSS and IMU have failed: the state is that of the IMU, the record names the GNSS. -/
theorem inertial_loss_names_gnss :
    let before := machine.run (overBridge blankSram)
      [.init 0 0, .injectFault .gnss .failed 0 0 0, .injectFault .imu .failed 0 0 0]
    let record := (before.step (.arbitrate instantly)).2.transitionLog before.logHead
    record.toState = .reducedDynamics ∧ record.triggerDomain = .gnss ∧
      ¬ before.RecordsCause (.arbitrate instantly) := by
  intro before record
  have state : record.toState = .reducedDynamics := by decide
  have trigger : record.triggerDomain = .gnss := by decide
  refine ⟨state, trigger, fun records => ?_⟩
  have restricts : before.Restricts instantly := ⟨⟨rfl, by decide, by decide⟩, by decide⟩
  obtain ⟨index, located, -, cause⟩ := records instantly rfl restricts
  rw [show ((before.step _).2.transitionLog before.logHead).triggerDomain = _ from trigger]
    at located
  rw [show ((before.step _).2.transitionLog before.logHead).toState = _ from state] at cause
  have imu : index = imuIndex := cause
  rw [imu] at located
  exact absurd located (by decide)

end SafetyArbitrator

end SoaGateway.Safety
