import SoaGateway.Ipc.BridgeProperties
import SoaGateway.Safety.ArbitratorMachine

/-! What each call can do: its effect on one domain entry, on the view the matrix reads,
and on the bridge. Run laws elsewhere use these lemmas and unfold no call. -/

set_option autoImplicit false

namespace SoaGateway.Safety

open Foundation Ipc

namespace DomainState

variable {entry : DomainState} {nowMs : Nat}

theorem scan_health_failed_iff :
    (entry.scan nowMs).health = .failed ↔ entry.health = .failed ∨ entry.Late nowMs := by
  unfold scan
  split
  · next promoted => exact ⟨fun _ => .inr promoted.1, fun _ => rfl⟩
  · next kept =>
      constructor
      · exact Or.inl
      · intro failed
        cases failed with
        | inl already => exact already
        | inr late =>
            by_contra other
            exact kept ⟨late, other⟩

@[simp] theorem scan_lastHeartbeat :
    (entry.scan nowMs).lastHeartbeat = entry.lastHeartbeat := by
  unfold scan
  split <;> rfl

theorem scan_failed (failed : entry.health = .failed) : entry.scan nowMs = entry :=
  if_neg fun promoted => promoted.2 failed

theorem scan_punctual (punctual : ¬ entry.Late nowMs) : entry.scan nowMs = entry :=
  if_neg fun promoted => punctual promoted.1

theorem scan_scan : (entry.scan nowMs).scan nowMs = entry.scan nowMs := by
  by_cases late : entry.Late nowMs
  · exact scan_failed (scan_health_failed_iff.2 (.inr late))
  · rw [scan_punctual late, scan_punctual late]

theorem report_health (fault : SensorFaultEvent) : (entry.report fault nowMs).health = fault.health := by
  unfold report
  split <;> rfl

end DomainState

def ArbitratorCall.touch (call : ArbitratorCall) (index : Fin maxSensorDomains)
    (entry : DomainState) : DomainState :=
  match call with
  | .arbitrate clock => entry.scan clock.scanMs
  | .recordHeartbeat domain nowMs =>
      if domain.index? = some index then entry.beat nowMs else entry
  | _ =>
      match call.report? with
      | some (fault, nowMs) =>
          if fault.domain.index? = some index then entry.report fault nowMs else entry
      | none => entry

namespace ArbitratorCall

theorem touch_cases (call : ArbitratorCall) (index : Fin maxSensorDomains) (entry : DomainState) :
    call.touch index entry = entry ∨
      (∃ clock, call = .arbitrate clock ∧ call.touch index entry = entry.scan clock.scanMs) ∨
      (∃ domain nowMs, call = .recordHeartbeat domain nowMs ∧ domain.index? = some index ∧
        call.touch index entry = entry.beat nowMs) ∨
      ∃ fault nowMs, call.report? = some (fault, nowMs) ∧ fault.domain.index? = some index ∧
        call.touch index entry = entry.report fault nowMs := by
  have reported : ∀ fault nowMs, call.report? = some (fault, nowMs) →
      call.touch index entry =
        (if fault.domain.index? = some index then entry.report fault nowMs else entry) →
      call.touch index entry = entry ∨ ∃ fault nowMs,
        call.report? = some (fault, nowMs) ∧ fault.domain.index? = some index ∧
          call.touch index entry = entry.report fault nowMs := by
    intro fault nowMs carried touched
    by_cases here : fault.domain.index? = some index
    · rw [if_pos here] at touched
      exact .inr ⟨fault, nowMs, carried, here, touched⟩
    · rw [if_neg here] at touched
      exact .inl touched
  cases call with
  | arbitrate clock => exact .inr (.inl ⟨clock, rfl, rfl⟩)
  | recordHeartbeat domain nowMs =>
      by_cases here : domain.index? = some index
      · exact .inr (.inr (.inl ⟨domain, nowMs, rfl, here, if_pos here⟩))
      · exact .inl (if_neg here)
  | ingestFault fault nowMs =>
      exact (reported fault nowMs rfl rfl).imp_right fun report => .inr (.inr report)
  | injectFault domain health dtcCode stampMs nowMs =>
      exact (reported _ nowMs rfl rfl).imp_right fun report => .inr (.inr report)
  | ingestSoaEvent event nowMs =>
      by_cases short : event.payloadLen < 12
      · left
        simp only [touch, report?, short, ↓reduceIte]
      · refine (reported (SafetyArbitrator.decodeFault event) nowMs ?_ ?_).imp_right
          fun report => .inr (.inr report)
        · simp only [report?, short, ↓reduceIte]
        · simp only [touch, report?, short, ↓reduceIte]
  | init mandatoryDomains nowMs => exact .inl rfl
  | registerListener listener => exact .inl rfl
  | otherSend event => exact .inl rfl
  | consumerStore tail => exact .inl rfl

theorem touch_of_report {call : ArbitratorCall} {fault : SensorFaultEvent} {nowMs : Nat}
    {index : Fin maxSensorDomains} (carried : call.report? = some (fault, nowMs))
    (here : fault.domain.index? = some index) (entry : DomainState) :
    call.touch index entry = entry.report fault nowMs := by
  cases call <;> simp only [report?, reduceCtorEq] at carried <;>
    simp only [touch, report?, carried, here, ↓reduceIte]

end ArbitratorCall

namespace SafetyArbitrator

variable {arbitrator : SafetyArbitrator}

private theorem foldl_mask_bit (holds : Fin maxSensorDomains → Prop) [DecidablePred holds]
    (indices : List (Fin maxSensorDomains)) (mask : Byte) (index : Fin maxSensorDomains) :
    (indices.foldl (fun mask index => if holds index then mask ||| (1#8 <<< index.val) else mask)
      mask).getLsbD index.val =
        (mask.getLsbD index.val || decide (index ∈ indices ∧ holds index)) := by
  induction indices generalizing mask with
  | nil => simp
  | cons head rest ih =>
      have bound : index.val < 8 := index.isLt
      rw [List.foldl_cons, ih]
      by_cases same : index = head
      · subst same
        by_cases met : holds index <;> simp [met, bound]
      · have other : (1#8 <<< head.val).getLsbD index.val = false := by
          have apart : index.val ≠ head.val := fun equal => same (Fin.ext equal)
          simp only [BitVec.getLsbD_shiftLeft, BitVec.getLsbD_one]
          by_cases below : index.val < head.val
          · simp [below]
          · have positive : index.val - head.val ≠ 0 := by omega
            simp [positive]
        by_cases met : holds head <;> simp [met, same, other]

theorem healthMask_bit (health : SensorHealth) (index : Fin maxSensorDomains) :
    (arbitrator.healthMask health).getLsbD index.val =
      decide ((arbitrator.domains index).health = health) := by
  unfold healthMask
  rw [foldl_mask_bit fun index => (arbitrator.domains index).health = health]
  simp

theorem healthMask_congr {first second : SafetyArbitrator} (same : first.domains = second.domains)
    (health : SensorHealth) : first.healthMask health = second.healthMask health := by
  unfold healthMask
  rw [same]

/-- The fault bit of a cycle: failed before it, or silent for too long. -/
theorem observe_fault_bit (nowMs : Nat) (index : Fin maxSensorDomains) :
    (arbitrator.observe nowMs).faultBitmask.getLsbD index.val = true ↔
      (arbitrator.domains index).health = .failed ∨ (arbitrator.domains index).Late nowMs := by
  have bit : (arbitrator.observe nowMs).faultBitmask.getLsbD index.val =
      decide (((arbitrator.domains index).scan nowMs).health = .failed) :=
    healthMask_bit _ _
  rw [bit, decide_eq_true_iff, DomainState.scan_health_failed_iff]

/-- What the matrix and its result depend on, beside the domain table. -/
structure SameView (before after : SafetyArbitrator) : Prop where
  initialised : after.initialised = before.initialised
  currentState : after.currentState = before.currentState
  faultBitmask : after.faultBitmask = before.faultBitmask
  mandatoryMask : after.mandatoryMask = before.mandatoryMask
  lastCommand : after.lastCommand = before.lastCommand

theorem SameView.refl (arbitrator : SafetyArbitrator) : arbitrator.SameView arbitrator :=
  ⟨rfl, rfl, rfl, rfl, rfl⟩

theorem SameView.trans {first second third : SafetyArbitrator} (early : first.SameView second)
    (late : second.SameView third) : first.SameView third :=
  ⟨late.initialised.trans early.initialised, late.currentState.trans early.currentState,
    late.faultBitmask.trans early.faultBitmask, late.mandatoryMask.trans early.mandatoryMask,
    late.lastCommand.trans early.lastCommand⟩

theorem ingestFault_local (arbitrator : SafetyArbitrator) (fault : SensorFaultEvent) (nowMs : Nat) :
    ∃ domains, (arbitrator.ingestFault fault nowMs).2 = { arbitrator with domains } := by
  unfold ingestFault
  split
  · exact ⟨_, rfl⟩
  · split
    · exact ⟨_, rfl⟩
    · exact ⟨_, rfl⟩

theorem recordHeartbeat_local (arbitrator : SafetyArbitrator) (domain : SensorDomain)
    (nowMs : Nat) :
    ∃ domains, (arbitrator.recordHeartbeat domain nowMs).2 = { arbitrator with domains } := by
  unfold recordHeartbeat
  split
  · exact ⟨_, rfl⟩
  · split
    · exact ⟨_, rfl⟩
    · exact ⟨_, rfl⟩

theorem init_initialised (ready : arbitrator.initialised = true) (mandatoryDomains : Byte)
    (nowMs : Nat) : (arbitrator.init mandatoryDomains nowMs).2 = arbitrator := by
  simp [init, ready]

/-- Apart from the cycle, `Init` and the bridge traffic, a call changes at most the
domain table and the listeners. -/
theorem step_local (arbitrator : SafetyArbitrator) {call : ArbitratorCall}
    (noCycle : ¬ call.IsCycle) (noInit : ¬ call.IsInit) (noTraffic : ¬ call.IsTraffic) :
    ∃ domains listeners, (arbitrator.step call).2 = { arbitrator with domains, listeners } := by
  have ingested : ∀ fault nowMs, ∃ domains listeners,
      (arbitrator.ingestFault fault nowMs).2 = { arbitrator with domains, listeners } := by
    intro fault nowMs
    obtain ⟨domains, same⟩ := ingestFault_local arbitrator fault nowMs
    exact ⟨domains, arbitrator.listeners, same⟩
  cases call with
  | init mandatoryDomains nowMs => exact absurd ⟨mandatoryDomains, nowMs, rfl⟩ noInit
  | arbitrate clock => exact absurd ⟨clock, rfl⟩ noCycle
  | otherSend event => exact absurd (.inl ⟨event, rfl⟩) noTraffic
  | consumerStore tail => exact absurd (.inr ⟨tail, rfl⟩) noTraffic
  | registerListener listener =>
      simp only [step, registerListener]
      split
      · exact ⟨_, _, rfl⟩
      · cases listener with
        | none => exact ⟨_, _, rfl⟩
        | some address =>
            simp only
            split
            · exact ⟨_, _, rfl⟩
            · exact ⟨_, _, rfl⟩
  | ingestFault fault nowMs => exact ingested fault nowMs
  | injectFault domain health dtcCode stampMs nowMs => exact ingested _ nowMs
  | ingestSoaEvent event nowMs =>
      simp only [step, ingestSoaEvent]
      split
      · exact ⟨_, _, rfl⟩
      · split
        · exact ⟨_, _, rfl⟩
        · exact ingested _ nowMs
  | recordHeartbeat domain nowMs =>
      obtain ⟨domains, same⟩ := recordHeartbeat_local arbitrator domain nowMs
      exact ⟨domains, arbitrator.listeners, same⟩

/-- The bridge traffic changes the bridge on top of that. -/
theorem ordinary_local (arbitrator : SafetyArbitrator) {call : ArbitratorCall}
    (noCycle : ¬ call.IsCycle) (noInit : ¬ call.IsInit) : ∃ domains listeners ipc,
      (arbitrator.step call).2 = { arbitrator with domains, listeners, ipc } := by
  by_cases traffic : call.IsTraffic
  · obtain ⟨event, rfl⟩ | ⟨tail, rfl⟩ := traffic
    · simp only [step, otherSend]
      split
      · exact ⟨_, _, _, rfl⟩
      · exact ⟨_, _, _, rfl⟩
    · exact ⟨_, _, _, rfl⟩
  · obtain ⟨domains, listeners, same⟩ := step_local arbitrator noCycle noInit traffic
    exact ⟨domains, listeners, arbitrator.ipc, same⟩

theorem ordinary_sameView {call : ArbitratorCall} (noCycle : ¬ call.IsCycle)
    (noInit : ¬ call.IsInit) : arbitrator.SameView (arbitrator.step call).2 := by
  obtain ⟨domains, listeners, ipc, same⟩ := ordinary_local arbitrator noCycle noInit
  rw [same]
  exact ⟨rfl, rfl, rfl, rfl, rfl⟩

theorem step_sameView (ready : arbitrator.initialised = true) {call : ArbitratorCall}
    (noCycle : ¬ call.IsCycle) : arbitrator.SameView (arbitrator.step call).2 := by
  by_cases again : call.IsInit
  · obtain ⟨mandatoryDomains, nowMs, rfl⟩ := again
    have kept := init_initialised ready mandatoryDomains nowMs
    simp only [step, kept]
    exact .refl _
  · exact ordinary_sameView noCycle again

/-- A cycle moves the state when the matrix asks for another one and no emergency stop
is latched. -/
structure Due (arbitrator : SafetyArbitrator) (clock : CycleClock) : Prop where
  initialised : arbitrator.initialised = true
  changed : (arbitrator.observe clock.scanMs).computeRequiredState ≠ arbitrator.currentState
  unlatched : arbitrator.currentState ≠ .emergencyStop

theorem arbitrate_due {clock : CycleClock} (due : arbitrator.Due clock) :
    arbitrator.arbitrate clock = (arbitrator.observe clock.scanMs).executeTransition
      (arbitrator.observe clock.scanMs).computeRequiredState clock := by
  have same : (arbitrator.observe clock.scanMs).currentState = arbitrator.currentState := rfl
  simp [arbitrate, due.initialised, same, due.changed, due.unlatched]

theorem arbitrate_not_due {clock : CycleClock} (ready : arbitrator.initialised = true)
    (quiet : ¬ arbitrator.Due clock) :
    arbitrator.arbitrate clock = (.plain (.ok ()), arbitrator.observe clock.scanMs) := by
  have same : (arbitrator.observe clock.scanMs).currentState = arbitrator.currentState := rfl
  simp only [arbitrate, ready, Bool.not_true, Bool.false_eq_true, ↓reduceIte, same]
  split
  · rfl
  · next changed =>
      split
      · rfl
      · next unlatched => exact absurd ⟨ready, changed, unlatched⟩ quiet

theorem arbitrate_uninitialised {clock : CycleClock} (unready : arbitrator.initialised = false) :
    arbitrator.arbitrate clock = (.plain (.error .notInitialized), arbitrator) := by
  simp [arbitrate, unready]

/-- Before `Init` a call keeps the view, or it is the `Init` that succeeds. -/
theorem step_uninitialised (unready : arbitrator.initialised = false) (call : ArbitratorCall) :
    arbitrator.SameView (arbitrator.step call).2 ∨
      (arbitrator.step call).2.initialised = true ∧
        (arbitrator.step call).2.faultBitmask = 0 ∧
        (arbitrator.step call).2.currentState = .fullOperation := by
  by_cases cycle : call.IsCycle
  · obtain ⟨clock, rfl⟩ := cycle
    left
    rw [show arbitrator.step (.arbitrate clock) = _ from arbitrate_uninitialised unready]
    exact .refl _
  · by_cases first : call.IsInit
    · obtain ⟨mandatoryDomains, nowMs, rfl⟩ := first
      simp only [step, init, unready, Bool.false_eq_true, ↓reduceIte]
      split
      · exact .inl (.refl _)
      · exact .inr ⟨rfl, rfl, rfl⟩
    · exact .inl (ordinary_sameView cycle first)

/-- The state is committed with its command, and the inputs of the matrix are kept. -/
structure Commits (before : SafetyArbitrator) (target : SafeState) (after : SafetyArbitrator) :
    Prop where
  currentState : after.currentState = target
  domains : after.domains = before.domains
  faultBitmask : after.faultBitmask = before.faultBitmask
  activeBitmask : after.activeBitmask = before.activeBitmask
  mandatoryMask : after.mandatoryMask = before.mandatoryMask
  initialised : after.initialised = before.initialised
  commanded : after.lastCommand.state = target

/-- A transition is committed and recorded whatever the send returned. -/
theorem executeTransition_commits (arbitrator : SafetyArbitrator) (target : SafeState)
    (clock : CycleClock) :
    arbitrator.Commits target (arbitrator.executeTransition target clock).2 := by
  unfold executeTransition sendCommandToM7
  cases arbitrator.ipc with
  | none => exact ⟨rfl, rfl, rfl, rfl, rfl, rfl, rfl⟩
  | some bridge => exact ⟨rfl, rfl, rfl, rfl, rfl, rfl, rfl⟩

/-- The bridge sees exactly the built command, and the result reports its answer. -/
theorem executeTransition_sends {bridge : IpcBridge} (attached : arbitrator.ipc = some bridge)
    (target : SafeState) (clock : CycleClock) :
    let cmd := arbitrator.buildCommand target
    let answer := bridge.send (commandEvent cmd)
    let outcome := arbitrator.executeTransition target clock
    outcome.1.sent = some (cmd, answer.1) ∧ outcome.2.ipc = some answer.2 ∧
      (outcome.1.result = .ok () → answer.1 = .ok ()) ∧
      (outcome.1.result = .error .e2eViolation ↔
        clock.latencyMs ≤ safeStateTransitionMs ∧ answer.1 ≠ .ok ()) := by
  unfold executeTransition sendCommandToM7
  rw [attached]
  refine ⟨rfl, rfl, ?_, ?_⟩
  · intro accepted
    simp only at accepted
    split at accepted
    · cases accepted
    · split at accepted
      · cases accepted
      · next answered => exact answered
  · simp only
    split
    · next slow => simp [BitVec.not_le.2 slow]
    · next fast =>
        split
        · next answered => simp [answered, BitVec.not_lt.1 fast]
        · next answered => simp [answered]

/-- What a cycle leaves behind: the scan, the masks over it and, unless the stop is
latched, the state the matrix asks for. -/
structure Settles (before : SafetyArbitrator) (clock : CycleClock) (after : SafetyArbitrator) :
    Prop where
  initialised : after.initialised = true
  mandatoryMask : after.mandatoryMask = before.mandatoryMask
  domains : after.domains = (before.observe clock.scanMs).domains
  faultBitmask : after.faultBitmask = (before.observe clock.scanMs).faultBitmask
  activeBitmask : after.activeBitmask = (before.observe clock.scanMs).activeBitmask
  currentState : before.currentState ≠ .emergencyStop →
    after.currentState = (before.observe clock.scanMs).computeRequiredState

/-- The one lemma about what a cycle does to the view. -/
theorem arbitrate_settles (ready : arbitrator.initialised = true) (clock : CycleClock) :
    arbitrator.Settles clock (arbitrator.arbitrate clock).2 := by
  by_cases due : arbitrator.Due clock
  · rw [arbitrate_due due]
    have commits := executeTransition_commits (arbitrator.observe clock.scanMs)
      (arbitrator.observe clock.scanMs).computeRequiredState clock
    exact ⟨commits.initialised.trans ready, commits.mandatoryMask, commits.domains,
      commits.faultBitmask, commits.activeBitmask, fun _ => commits.currentState⟩
  · rw [arbitrate_not_due ready due]
    refine ⟨ready, rfl, rfl, rfl, rfl, fun unlatched => ?_⟩
    by_contra changed
    exact due ⟨ready, fun same => changed same.symm, unlatched⟩

theorem step_initialised (ready : arbitrator.initialised = true) (call : ArbitratorCall) :
    (arbitrator.step call).2.initialised = true := by
  by_cases cycle : call.IsCycle
  · obtain ⟨clock, rfl⟩ := cycle
    exact (arbitrate_settles ready clock).initialised
  · exact (step_sameView ready cycle).initialised.trans ready

theorem step_mandatoryMask (ready : arbitrator.initialised = true) (call : ArbitratorCall) :
    (arbitrator.step call).2.mandatoryMask = arbitrator.mandatoryMask := by
  by_cases cycle : call.IsCycle
  · obtain ⟨clock, rfl⟩ := cycle
    exact (arbitrate_settles ready clock).mandatoryMask
  · exact (step_sameView ready cycle).mandatoryMask

theorem updateDomain_domains (place index : Fin maxSensorDomains) (entry : DomainState) :
    (arbitrator.updateDomain place entry).domains index =
      if some place = some index then entry else arbitrator.domains index := by
  by_cases same : place = index
  · subst same
    simp [updateDomain]
  · simp [updateDomain, same, Function.update_of_ne (Ne.symm same)]

theorem ingestFault_domains (ready : arbitrator.initialised = true) (fault : SensorFaultEvent)
    (nowMs : Nat) (index : Fin maxSensorDomains) :
    (arbitrator.ingestFault fault nowMs).2.domains index =
      if fault.domain.index? = some index then (arbitrator.domains index).report fault nowMs
      else arbitrator.domains index := by
  unfold ingestFault
  cases located : fault.domain.index? with
  | none => simp [ready]
  | some place =>
      simp only [ready, Bool.not_true, Bool.false_eq_true, ↓reduceIte, updateDomain_domains]
      split
      · next same =>
          cases same
          rfl
      · rfl

theorem step_domains (ready : arbitrator.initialised = true) (call : ArbitratorCall)
    (index : Fin maxSensorDomains) :
    (arbitrator.step call).2.domains index = call.touch index (arbitrator.domains index) := by
  cases call with
  | init mandatoryDomains nowMs =>
      have kept := init_initialised ready mandatoryDomains nowMs
      simp only [step, kept]
      rfl
  | registerListener listener =>
      simp only [step, registerListener, ready]
      cases listener with
      | none => rfl
      | some address =>
          simp only [Bool.not_true, Bool.false_eq_true, ↓reduceIte]
          split <;> rfl
  | ingestFault fault nowMs => exact ingestFault_domains ready fault nowMs index
  | injectFault domain health dtcCode stampMs nowMs =>
      exact ingestFault_domains ready _ nowMs index
  | ingestSoaEvent event nowMs =>
      simp only [step, ingestSoaEvent, ready, ArbitratorCall.touch, ArbitratorCall.report?]
      by_cases short : event.payloadLen < 12
      · simp only [short, Bool.not_true, Bool.false_eq_true, ↓reduceIte]
      · simp only [short, Bool.not_true, Bool.false_eq_true, ↓reduceIte]
        exact ingestFault_domains ready _ nowMs index
  | recordHeartbeat domain nowMs =>
      simp only [step, recordHeartbeat, ready, ArbitratorCall.touch]
      cases located : domain.index? with
      | none => simp
      | some place =>
          simp only [Bool.not_true, Bool.false_eq_true, ↓reduceIte, updateDomain_domains]
          split
          · next same =>
              cases same
              rfl
          · rfl
  | arbitrate clock =>
      exact congrFun (arbitrate_settles ready clock).domains index
  | otherSend event =>
      simp only [step, otherSend]
      split <;> rfl
  | consumerStore tail => rfl

end SafetyArbitrator

end SoaGateway.Safety
