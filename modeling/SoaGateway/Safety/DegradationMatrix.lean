import SoaGateway.Safety.ArbitratorProperties

/-! The degradation matrix as a function of the failed domains. The matrix asks for the
leading group of failed sensors, so adding a failure relaxes the restriction exactly when
it moves the lead to another group without reaching the minimal risk condition. -/

set_option autoImplicit false

namespace SoaGateway.Safety

open Foundation Ipc

def lidarIndex : Fin maxSensorDomains := ⟨0, by decide⟩
def radarIndex : Fin maxSensorDomains := ⟨1, by decide⟩
def cameraIndex : Fin maxSensorDomains := ⟨2, by decide⟩
def gnssIndex : Fin maxSensorDomains := ⟨3, by decide⟩
def imuIndex : Fin maxSensorDomains := ⟨4, by decide⟩

namespace SafetyArbitrator

/-- The state one bitmask update and one look at the matrix choose. -/
def chosenState (arbitrator : SafetyArbitrator) : SafeState :=
  arbitrator.updateBitmasks.computeRequiredState

def domainFailed (arbitrator : SafetyArbitrator) (index : Fin maxSensorDomains) : Prop :=
  (arbitrator.domains index).health = .failed

instance (arbitrator : SafetyArbitrator) : DecidablePred arbitrator.domainFailed :=
  fun _ => inferInstanceAs (Decidable (_ = _))

/-- Both ranging sensors are failed, or a mandatory domain is failed and a mandatory
domain has reached the fault threshold. -/
def MinimalRisk (arbitrator : SafetyArbitrator) : Prop :=
  (arbitrator.domainFailed lidarIndex ∧ arbitrator.domainFailed radarIndex) ∨
    (∃ index : Fin maxSensorDomains,
      arbitrator.mandatoryMask.getLsbD index.val = true ∧ arbitrator.domainFailed index) ∧
    ∃ index : Fin maxSensorDomains, arbitrator.mandatoryMask.getLsbD index.val = true ∧
      faultThreshold ≤ (arbitrator.domains index).faultCount

/-- The groups of sensors whose failures the single-loss rows of the matrix handle. -/
inductive SensorGroup where
  | ranging
  | vision
  | motion
deriving DecidableEq, Repr

def SensorGroup.row : SensorGroup → Nat
  | .ranging => 0
  | .vision => 1
  | .motion => 2

def leadingGroup (arbitrator : SafetyArbitrator) : Option SensorGroup :=
  if arbitrator.domainFailed lidarIndex ∨ arbitrator.domainFailed radarIndex then some .ranging
  else if arbitrator.domainFailed cameraIndex then some .vision
  else if arbitrator.domainFailed gnssIndex ∨ arbitrator.domainFailed imuIndex then some .motion
  else none

variable {arbitrator : SafetyArbitrator}

theorem mask_inter_ne_zero_iff (left right : Byte) :
    left &&& right ≠ 0 ↔
      ∃ index : Fin maxSensorDomains,
        right.getLsbD index.val = true ∧ left.getLsbD index.val = true := by
  constructor
  · intro common
    by_contra none_shared
    refine common (BitVec.eq_of_getLsbD_eq fun place inside => ?_)
    cases onLeft : left.getLsbD place with
    | false => simp [onLeft]
    | true =>
        cases onRight : right.getLsbD place with
        | false => simp [onRight]
        | true => exact absurd ⟨⟨place, inside⟩, onRight, onLeft⟩ none_shared
  · rintro ⟨index, onRight, onLeft⟩ empty
    have bit : (left &&& right).getLsbD index.val = false := by simp [empty]
    simp [onLeft, onRight] at bit

theorem isFailed_updateBitmasks (arbitrator : SafetyArbitrator) (domain : SensorDomain)
    (index : Fin maxSensorDomains) (located : domain.code.toNat = index.val) :
    arbitrator.updateBitmasks.isFailed domain = decide (arbitrator.domainFailed index) := by
  unfold isFailed
  rw [located]
  exact healthMask_bit _ _

theorem mandatoryLost_updateBitmasks_iff :
    arbitrator.updateBitmasks.mandatoryLost = true ↔
      (∃ index : Fin maxSensorDomains,
        arbitrator.mandatoryMask.getLsbD index.val = true ∧ arbitrator.domainFailed index) ∧
      ∃ index : Fin maxSensorDomains, arbitrator.mandatoryMask.getLsbD index.val = true ∧
        faultThreshold ≤ (arbitrator.domains index).faultCount := by
  have lost : (arbitrator.updateBitmasks.faultBitmask &&& arbitrator.mandatoryMask ≠ 0) ↔
      ∃ index : Fin maxSensorDomains,
        arbitrator.mandatoryMask.getLsbD index.val = true ∧ arbitrator.domainFailed index := by
    rw [mask_inter_ne_zero_iff]
    refine exists_congr fun index => and_congr_right fun _ => ?_
    rw [show arbitrator.updateBitmasks.faultBitmask.getLsbD index.val =
      decide ((arbitrator.domains index).health = .failed) from healthMask_bit _ _]
    exact decide_eq_true_iff
  unfold mandatoryLost
  rw [Bool.and_eq_true, bne_iff_ne]
  refine and_congr lost ?_
  simp only [List.any_eq_true, List.mem_finRange, true_and, Bool.and_eq_true, decide_eq_true_eq]
  exact Iff.rfl

theorem chosenState_eq [Decidable arbitrator.MinimalRisk] :
    arbitrator.chosenState =
      if arbitrator.MinimalRisk then .minimalRiskCondition
      else if arbitrator.domainFailed lidarIndex then .radarCameraFallback
      else if arbitrator.domainFailed radarIndex then .lidarCameraFallback
      else if arbitrator.domainFailed cameraIndex then .lidarRadarFallback
      else if arbitrator.domainFailed imuIndex then .reducedDynamics
      else if arbitrator.domainFailed gnssIndex then .deadReckoningMode
      else .fullOperation := by
  have lidar := isFailed_updateBitmasks arbitrator .lidar lidarIndex rfl
  have radar := isFailed_updateBitmasks arbitrator .radar radarIndex rfl
  have camera := isFailed_updateBitmasks arbitrator .camera cameraIndex rfl
  have gnss := isFailed_updateBitmasks arbitrator .gnss gnssIndex rfl
  have imu := isFailed_updateBitmasks arbitrator .imu imuIndex rfl
  have risk : arbitrator.MinimalRisk ↔
      (arbitrator.domainFailed lidarIndex ∧ arbitrator.domainFailed radarIndex) ∨
        arbitrator.updateBitmasks.mandatoryLost = true :=
    or_congr_right mandatoryLost_updateBitmasks_iff.symm
  simp only [chosenState, computeRequiredState, lidar, radar, camera, gnss, imu, risk,
    Bool.and_eq_true, decide_eq_true_eq, Bool.not_eq_true', decide_eq_false_iff_not]
  by_cases lidarFailed : arbitrator.domainFailed lidarIndex <;>
    by_cases radarFailed : arbitrator.domainFailed radarIndex <;>
    by_cases lost : arbitrator.updateBitmasks.mandatoryLost = true <;>
    simp [lidarFailed, radarFailed, lost]
  by_cases gnssFailed : arbitrator.domainFailed gnssIndex <;>
    by_cases imuFailed : arbitrator.domainFailed imuIndex <;>
    simp [gnssFailed, imuFailed]

theorem computeRequiredState_ne_emergencyStop :
    arbitrator.computeRequiredState ≠ .emergencyStop := by
  unfold computeRequiredState
  simp only
  split_ifs <;> decide

def speedKph : SafeState → Nat
  | .fullOperation => 130
  | .radarCameraFallback | .lidarCameraFallback => 100
  | .lidarRadarFallback | .deadReckoningMode | .reducedDynamics => 30
  | .minimalRiskCondition => 20
  | .emergencyStop => 0

theorem speedCap_numerator (state : SafeState) :
    (speedCap state).numerator = speedKph state * 2 ^ 150 := by
  cases state <;> decide +kernel

theorem speedCap_le_iff (first second : SafeState) :
    (speedCap first).toRat ≤ (speedCap second).toRat ↔ speedKph first ≤ speedKph second := by
  rw [Binary32.toRat_le_toRat_iff, speedCap_numerator, speedCap_numerator]
  exact Nat.mul_le_mul_right_iff (Nat.two_pow_pos 150)

/-- The chosen state restricts at least as much, in rank and in speed. -/
def Stricter (first second : SafeState) : Prop :=
  first.severity ≤ second.severity ∧ (speedCap second).toRat ≤ (speedCap first).toRat

theorem stricter_iff (first second : SafeState) :
    Stricter first second ↔
      first.severity ≤ second.severity ∧ speedKph second ≤ speedKph first :=
  and_congr_right fun _ => speedCap_le_iff second first

theorem chosenState_minimalRisk_iff :
    arbitrator.chosenState = .minimalRiskCondition ↔ arbitrator.MinimalRisk := by
  classical
  rw [chosenState_eq]
  constructor
  · intro chosen
    by_contra safe
    rw [if_neg safe] at chosen
    revert chosen
    split_ifs <;> simp
  · exact fun risk => if_pos risk

theorem chosenState_minimalRisk (risk : arbitrator.MinimalRisk) :
    arbitrator.chosenState = .minimalRiskCondition :=
  chosenState_minimalRisk_iff.2 risk

/-- The matrix never asks for an emergency stop. -/
theorem stricter_minimalRisk : Stricter arbitrator.chosenState .minimalRiskCondition := by
  classical
  rw [stricter_iff, chosenState_eq]
  split_ifs <;> decide

theorem MinimalRisk.mono {first second : SafetyArbitrator} (risk : first.MinimalRisk)
    (sameMask : first.mandatoryMask = second.mandatoryMask)
    (failures : ∀ index, first.domainFailed index → second.domainFailed index)
    (counts : ∀ index, (first.domains index).faultCount ≤ (second.domains index).faultCount) :
    second.MinimalRisk := by
  cases risk with
  | inl ranging => exact .inl ⟨failures _ ranging.1, failures _ ranging.2⟩
  | inr mandatory =>
      obtain ⟨⟨lost, lostMandatory, lostFailed⟩, worn, wornMandatory, wornCount⟩ := mandatory
      rw [sameMask] at lostMandatory wornMandatory
      refine .inr ⟨⟨lost, lostMandatory, failures lost lostFailed⟩, worn, wornMandatory, ?_⟩
      exact BitVec.le_trans wornCount (counts worn)

/-- One cycle asks for the minimal risk condition when, after its timeout scan, both
ranging sensors are failed, or a mandatory domain is failed while a mandatory domain,
the same or another, has reached the fault threshold. -/
theorem minimalRisk_required_iff (arbitrator : SafetyArbitrator) (nowMs : Nat) :
    let after := arbitrator.observe nowMs
    after.computeRequiredState = .minimalRiskCondition ↔
      ((after.domains lidarIndex).health = .failed ∧
          (after.domains radarIndex).health = .failed) ∨
        (∃ lost : Fin maxSensorDomains, after.mandatoryMask.getLsbD lost.val = true ∧
          (after.domains lost).health = .failed) ∧
        ∃ worn : Fin maxSensorDomains, after.mandatoryMask.getLsbD worn.val = true ∧
          faultThreshold ≤ (after.domains worn).faultCount := by
  intro after
  have chosen : after.computeRequiredState = (arbitrator.scanTimeouts nowMs).chosenState := rfl
  rw [chosen]
  exact chosenState_minimalRisk_iff

/-- A degraded camera has used up its count, and the GNSS fails once. -/
def mixedMandatoryFaults : List ArbitratorCall :=
  [.init 0x0C 0, .injectFault .camera .degraded 0 0 0, .injectFault .camera .degraded 0 0 0,
    .injectFault .camera .degraded 0 0 0, .injectFault .gnss .failed 0 0 0]

theorem mixed_faults_reach_minimalRisk :
    let after := (machine.run (overBridge blankSram) mixedMandatoryFaults).observe 0
    ¬ (after.computeRequiredState = .minimalRiskCondition ↔
      ((after.domains lidarIndex).health = .failed ∧
          (after.domains radarIndex).health = .failed) ∨
        ∃ index : Fin maxSensorDomains, after.mandatoryMask.getLsbD index.val = true ∧
          (after.domains index).health = .failed ∧
          faultThreshold ≤ (after.domains index).faultCount) := by
  decide

/-- The state a leading group asks for; within a group one sensor decides. -/
def groupState (arbitrator : SafetyArbitrator) : Option SensorGroup → SafeState
  | some .ranging =>
      if arbitrator.domainFailed lidarIndex then .radarCameraFallback else .lidarCameraFallback
  | some .vision => .lidarRadarFallback
  | some .motion =>
      if arbitrator.domainFailed imuIndex then .reducedDynamics else .deadReckoningMode
  | none => .fullOperation

theorem chosenState_of_safe (safe : ¬ arbitrator.MinimalRisk) :
    arbitrator.chosenState = arbitrator.groupState arbitrator.leadingGroup := by
  classical
  rw [chosenState_eq, if_neg safe]
  unfold leadingGroup
  by_cases lidar : arbitrator.domainFailed lidarIndex
  · simp [lidar, groupState]
  · by_cases radar : arbitrator.domainFailed radarIndex
    · simp [lidar, radar, groupState]
    · by_cases camera : arbitrator.domainFailed cameraIndex
      · simp [lidar, radar, camera, groupState]
      · by_cases imu : arbitrator.domainFailed imuIndex <;>
          by_cases gnss : arbitrator.domainFailed gnssIndex <;>
          simp [lidar, radar, camera, imu, gnss, groupState]

theorem leadingGroup_ranging_iff :
    arbitrator.leadingGroup = some .ranging ↔
      arbitrator.domainFailed lidarIndex ∨ arbitrator.domainFailed radarIndex := by
  unfold leadingGroup
  split_ifs <;> simp_all

theorem leadingGroup_vision_iff :
    arbitrator.leadingGroup = some .vision ↔
      arbitrator.leadingGroup ≠ some .ranging ∧ arbitrator.domainFailed cameraIndex := by
  unfold leadingGroup
  split_ifs <;> simp_all

theorem leadingGroup_motion_iff :
    arbitrator.leadingGroup = some .motion ↔
      arbitrator.leadingGroup ≠ some .ranging ∧ arbitrator.leadingGroup ≠ some .vision ∧
        (arbitrator.domainFailed gnssIndex ∨ arbitrator.domainFailed imuIndex) := by
  unfold leadingGroup
  split_ifs <;> simp_all

/-- More failures can only bring an earlier row into the lead. -/
theorem leadingGroup_mono {first second : SafetyArbitrator}
    (failures : ∀ index, first.domainFailed index → second.domainFailed index)
    {later : SensorGroup} (lead : first.leadingGroup = some later) :
    ∃ earlier, second.leadingGroup = some earlier ∧ earlier.row ≤ later.row := by
  by_cases ranging : second.leadingGroup = some .ranging
  · exact ⟨.ranging, ranging, Nat.zero_le _⟩
  · by_cases vision : second.leadingGroup = some .vision
    · refine ⟨.vision, vision, ?_⟩
      cases later with
      | ranging =>
          have failed := (leadingGroup_ranging_iff.1 lead).imp (failures _) (failures _)
          exact absurd (leadingGroup_ranging_iff.2 failed) ranging
      | vision => decide
      | motion => decide
    · cases later with
      | ranging =>
          have failed := (leadingGroup_ranging_iff.1 lead).imp (failures _) (failures _)
          exact absurd (leadingGroup_ranging_iff.2 failed) ranging
      | vision =>
          have failed := failures _ (leadingGroup_vision_iff.1 lead).2
          exact absurd (leadingGroup_vision_iff.2 ⟨ranging, failed⟩) vision
      | motion =>
          have failed := (leadingGroup_motion_iff.1 lead).2.2.imp (failures _) (failures _)
          exact ⟨.motion, leadingGroup_motion_iff.2 ⟨ranging, vision, failed⟩, le_refl _⟩

/-- A group tried earlier asks for a strictly milder state. -/
theorem groupState_severity_lt (first second : SafetyArbitrator) {earlier later : SensorGroup}
    (before : earlier.row < later.row) :
    (second.groupState (some earlier)).severity < (first.groupState (some later)).severity := by
  cases earlier with
  | ranging =>
      cases later with
      | ranging => exact absurd before (by decide)
      | vision => simp only [groupState]; split <;> decide
      | motion => simp only [groupState]; split_ifs <;> decide
  | vision =>
      cases later with
      | ranging | vision => exact absurd before (by decide)
      | motion => simp only [groupState]; split <;> decide
  | motion => cases later <;> exact absurd before (by decide)

/-- Within one group the added failures never relax the state. -/
theorem groupState_stricter {first second : SafetyArbitrator}
    (failures : ∀ index, first.domainFailed index → second.domainFailed index)
    (secondSafe : ¬ second.MinimalRisk) {group : SensorGroup}
    (lead : first.leadingGroup = some group) :
    Stricter (first.groupState (some group)) (second.groupState (some group)) := by
  rw [stricter_iff]
  cases group with
  | vision => exact ⟨le_refl _, le_refl _⟩
  | ranging =>
      have someFailed := leadingGroup_ranging_iff.1 lead
      have lidar : first.domainFailed lidarIndex ↔ second.domainFailed lidarIndex := by
        refine ⟨failures _, fun failed => someFailed.resolve_right fun radar => ?_⟩
        exact secondSafe (.inl ⟨failed, failures _ radar⟩)
      simp only [groupState, lidar]
      exact ⟨le_refl _, le_refl _⟩
  | motion =>
      simp only [groupState]
      by_cases imu : first.domainFailed imuIndex
      · simp only [imu, failures _ imu, ↓reduceIte]
        exact ⟨le_refl _, le_refl _⟩
      · simp only [imu, ↓reduceIte]
        split <;> decide

theorem stricter_fullOperation (state : SafeState) : Stricter .fullOperation state := by
  rw [stricter_iff]
  cases state <;> decide

theorem stricter_of_safe {first second : SafetyArbitrator}
    (failures : ∀ index, first.domainFailed index → second.domainFailed index)
    (firstSafe : ¬ first.MinimalRisk) (secondSafe : ¬ second.MinimalRisk) :
    Stricter first.chosenState second.chosenState ↔
      first.leadingGroup = none ∨ first.leadingGroup = second.leadingGroup := by
  rw [chosenState_of_safe firstSafe, chosenState_of_safe secondSafe]
  cases lead : first.leadingGroup with
  | none => exact iff_of_true (stricter_fullOperation _) (.inl rfl)
  | some later =>
      obtain ⟨earlier, front, order⟩ := leadingGroup_mono failures lead
      rw [front]
      cases Nat.lt_or_eq_of_le order with
      | inl before =>
          have milder := groupState_severity_lt first second before
          refine iff_of_false (fun stricter => absurd stricter.1 (Nat.not_le.2 milder)) ?_
          intro same
          cases same with
          | inl impossible => cases impossible
          | inr equal =>
              cases equal
              exact absurd before (lt_irrefl _)
      | inr level =>
          have same : later = earlier := by
            cases earlier <;> cases later <;> first | rfl | exact absurd level (by decide)
          subst same
          exact iff_of_true (groupState_stricter failures secondSafe lead) (.inr rfl)

theorem degradation_monotone_iff (first second : SafetyArbitrator)
    (sameMask : first.mandatoryMask = second.mandatoryMask)
    (failures : ∀ index, (first.domains index).health = .failed →
      (second.domains index).health = .failed)
    (counts : ∀ index, (first.domains index).faultCount ≤ (second.domains index).faultCount) :
    (first.chosenState.severity ≤ second.chosenState.severity ∧
        (speedCap second.chosenState).toRat ≤ (speedCap first.chosenState).toRat) ↔
      second.MinimalRisk ∨ first.leadingGroup = none ∨
        first.leadingGroup = second.leadingGroup := by
  by_cases risk : second.MinimalRisk
  · rw [chosenState_minimalRisk risk]
    exact iff_of_true stricter_minimalRisk (.inl risk)
  · have firstSafe : ¬ first.MinimalRisk := fun early => risk (early.mono sameMask failures counts)
    have compared := stricter_of_safe failures firstSafe risk
    simp only [risk, false_or]
    exact compared

/-- Camera lost, and then the LiDAR as well. -/
def cameraLoss : List ArbitratorCall :=
  [.init 0 0, .injectFault .camera .failed 0 0 0]

def cameraAndLidarLoss : List ArbitratorCall :=
  cameraLoss ++ [.injectFault .lidar .failed 0 0 0]

/-- Losing the LiDAR on top of the camera raises the permitted speed from 30 to 100 kph. -/
theorem lidar_loss_relaxes :
    let first := machine.run (overBridge blankSram) cameraLoss
    let second := machine.run (overBridge blankSram) cameraAndLidarLoss
    first.mandatoryMask = second.mandatoryMask ∧
      (∀ index, (first.domains index).health = .failed →
        (second.domains index).health = .failed) ∧
      (∀ index, (first.domains index).faultCount ≤ (second.domains index).faultCount) ∧
      second.chosenState.severity < first.chosenState.severity ∧
      (speedCap first.chosenState).toRat < (speedCap second.chosenState).toRat := by
  refine ⟨rfl, by decide, by decide, by decide, ?_⟩
  rw [← not_le, speedCap_le_iff]
  decide

theorem cameraLoss_comparison :
    ((machine.run (overBridge blankSram) cameraLoss).chosenState.severity ≤
          (machine.run (overBridge blankSram) cameraAndLidarLoss).chosenState.severity ∧
        (speedCap (machine.run (overBridge blankSram) cameraAndLidarLoss).chosenState).toRat ≤
          (speedCap (machine.run (overBridge blankSram) cameraLoss).chosenState).toRat) ↔
      (machine.run (overBridge blankSram) cameraAndLidarLoss).MinimalRisk ∨
        (machine.run (overBridge blankSram) cameraLoss).leadingGroup = none ∨
        (machine.run (overBridge blankSram) cameraLoss).leadingGroup =
          (machine.run (overBridge blankSram) cameraAndLidarLoss).leadingGroup :=
  degradation_monotone_iff _ _ rfl (by decide) (by decide)

end SafetyArbitrator

end SoaGateway.Safety
