import SoaGateway.Safety.DomainHistory
import SoaGateway.Safety.FaultHistory

/-! Healthy runs and the slot no sensor owns. The loops of a cycle range over eight slots
while calls reach only seven, so the last slot falls silent 100 ms after `Init`. -/

set_option autoImplicit false

namespace SoaGateway.Safety

open Foundation Ipc

namespace DomainEvent

def health? : DomainEvent → Option SensorHealth
  | .reported fault _ => some fault.health
  | _ => none

/-- The clock reading of a sign of life. -/
def sign? : DomainEvent → Option Nat
  | .scanned _ => none
  | .beaten nowMs => some nowMs
  | .reported fault nowMs => if fault.health = .nominal then some nowMs else none

end DomainEvent

def latestReport (history : List DomainEvent) : Option SensorHealth :=
  (history.filterMap DomainEvent.health?).getLast?

def latestSign (history : List DomainEvent) : Option Nat :=
  (history.filterMap DomainEvent.sign?).getLast?

@[simp] theorem latestReport_concat (history : List DomainEvent) (event : DomainEvent) :
    latestReport (history ++ [event]) = event.health?.or (latestReport history) := by
  cases health : event.health? <;> simp [latestReport, health]

@[simp] theorem latestSign_concat (history : List DomainEvent) (event : DomainEvent) :
    latestSign (history ++ [event]) = event.sign?.or (latestSign history) := by
  cases sign : event.sign? <;> simp [latestSign, sign]

/-- The latest report is nominal and the latest sign of life is recent. -/
def Healthy (history : List DomainEvent) (nowMs : Nat) : Prop :=
  latestReport history = some .nominal ∧
    ∃ signMs ∈ latestSign history, nowMs ≤ signMs + sensorTimeoutMs

instance (history : List DomainEvent) (nowMs : Nat) : Decidable (Healthy history nowMs) :=
  inferInstanceAs (Decidable (_ ∧ _))

/-- Every valid domain is healthy at every cycle of the run. -/
def HealthyRun (calls : List ArbitratorCall) : Prop :=
  ∀ front clock, front ++ [.arbitrate clock] <+: calls →
    ∀ index : Fin maxSensorDomains, index.val < numSensorDomains →
      Healthy (domainHistory index front) clock.scanMs

def ValidBits (mask : Byte) : Prop :=
  ∀ place, mask.getLsbD place = true → place < numSensorDomains

theorem validBits_iff (mask : Byte) : ValidBits mask ↔ mask.getLsbD 7 = false := by
  constructor
  · intro valid
    cases spare : mask.getLsbD 7 with
    | false => rfl
    | true => exact absurd (valid 7 spare) (by decide)
  · intro spare place set
    by_contra outside
    have beyond : 7 ≤ place := Nat.not_lt.1 outside
    cases Nat.eq_or_lt_of_le beyond with
    | inl here =>
        subst here
        exact absurd (set.symm.trans spare) (by decide)
    | inr past =>
        rw [BitVec.getLsbD_of_ge mask place past] at set
        cases set

/-- The slot behind the seven sensors. -/
def spareIndex : Fin maxSensorDomains := ⟨7, by decide⟩

theorem index?_ne_spare (domain : SensorDomain) : domain.index? ≠ some spareIndex := by
  unfold SensorDomain.index?
  split
  · next inside =>
      intro same
      have code : domain.code.toNat = 7 := congrArg Fin.val (Option.some.inj same)
      exact absurd inside (by rw [code]; decide)
  · exact nofun

def lateClock (initMs : Nat) : ArbitratorCall → Bool
  | .arbitrate clock => decide (initMs + sensorTimeoutMs < clock.scanMs)
  | _ => false

def isCycle : ArbitratorCall → Bool
  | .arbitrate _ => true
  | _ => false

theorem event?_spare {call : ArbitratorCall} {event : DomainEvent}
    (seen : call.event? spareIndex = some event) :
    ∃ clock, call = .arbitrate clock ∧ event = .scanned clock.scanMs := by
  obtain cycle | ⟨domain, nowMs, -, here, -⟩ | ⟨fault, nowMs, -, here, -⟩ :=
    ArbitratorCall.event?_cases seen
  · exact cycle
  · exact absurd here (index?_ne_spare domain)
  · exact absurd here (index?_ne_spare fault.domain)

/-- What the history of a healthy domain says of its entry. -/
structure Follows (history : List DomainEvent) (entry : DomainState) : Prop where
  sign : ∀ signMs ∈ latestSign history, entry.lastHeartbeat = signMs
  nominal : latestReport history = some .nominal → entry.health = .nominal ∧ entry.faultCount = 0

theorem Follows.punctual {history : List DomainEvent} {entry : DomainState}
    (follows : Follows history entry) {nowMs : Nat} (healthy : Healthy history nowMs) :
    ¬ entry.Late nowMs := by
  obtain ⟨-, signMs, latest, recent⟩ := healthy
  have sign := follows.sign signMs latest
  unfold DomainState.Late
  omega

theorem Follows.apply {history : List DomainEvent} {entry : DomainState}
    (follows : Follows history entry) (event : DomainEvent)
    (healthy : ∀ nowMs, event = .scanned nowMs → Healthy history nowMs) :
    Follows (history ++ [event]) (entry.apply event) := by
  cases event with
  | scanned nowMs =>
      have punctual := follows.punctual (healthy nowMs rfl)
      rw [DomainState.apply, DomainState.scan_punctual punctual]
      refine ⟨?_, ?_⟩
      · rw [latestSign_concat]
        exact follows.sign
      · rw [latestReport_concat]
        exact follows.nominal
  | beaten nowMs =>
      refine ⟨fun signMs latest => ?_, fun nominal => ?_⟩
      · rw [latestSign_concat] at latest
        exact Option.some.inj latest
      · rw [latestReport_concat] at nominal
        obtain ⟨health, count⟩ := follows.nominal nominal
        exact ⟨by rw [DomainState.apply, DomainState.beat, if_pos count], count⟩
  | reported fault nowMs =>
      rw [DomainState.apply, DomainState.report]
      refine ⟨fun signMs latest => ?_, fun nominal => ?_⟩
      · rw [latestSign_concat, DomainEvent.sign?] at latest
        by_cases recovered : fault.health = .nominal
        · rw [if_pos recovered] at latest ⊢
          exact Option.some.inj latest
        · rw [if_neg recovered] at latest ⊢
          exact follows.sign signMs latest
      · rw [latestReport_concat] at nominal
        have recovered : fault.health = .nominal := Option.some.inj nominal
        rw [if_pos recovered]
        exact ⟨recovered, rfl⟩

theorem HealthyRun.front {calls : List ArbitratorCall} {call : ArbitratorCall}
    (healthy : HealthyRun (calls ++ [call])) : HealthyRun calls :=
  fun front clock isPrefix => healthy front clock (isPrefix.trans (List.prefix_append calls [call]))

theorem healthyRun_single {calls : List ArbitratorCall} {clock : CycleClock}
    (quiet : calls.any isCycle = false)
    (healthy : ∀ index : Fin maxSensorDomains, index.val < numSensorDomains →
      Healthy (domainHistory index calls) clock.scanMs) :
    HealthyRun (calls ++ [.arbitrate clock]) := by
  intro front other isPrefix
  cases List.prefix_concat_iff.1 isPrefix with
  | inl whole =>
      obtain ⟨rfl, same⟩ := List.append_inj' whole rfl
      cases same
      exact healthy
  | inr earlier =>
      have member : ArbitratorCall.arbitrate other ∈ calls := earlier.subset (by simp)
      rw [List.any_eq_false] at quiet
      exact absurd rfl (quiet _ member)

namespace SafetyArbitrator

variable {arbitrator : SafetyArbitrator}

theorem step_activeBitmask (ready : arbitrator.initialised = true) {call : ArbitratorCall}
    (noCycle : ¬ call.IsCycle) :
    (arbitrator.step call).2.activeBitmask = arbitrator.activeBitmask := by
  by_cases again : call.IsInit
  · obtain ⟨mandatoryDomains, nowMs, rfl⟩ := again
    have kept := init_initialised ready mandatoryDomains nowMs
    simp only [step, kept]
  · by_cases traffic : call.IsTraffic
    · obtain ⟨event, rfl⟩ | ⟨tail, rfl⟩ := traffic
      · simp only [step, otherSend]
        split <;> rfl
      · rfl
    · obtain ⟨domains, listeners, same⟩ := step_local arbitrator noCycle again traffic
      rw [same]

theorem computeRequiredState_clear (clear : arbitrator.faultBitmask = 0) :
    arbitrator.computeRequiredState = .fullOperation := by
  simp [computeRequiredState, isFailed, mandatoryLost, clear]

theorem run_follows (bridge : IpcBridge) (mandatoryDomains : Byte) (initMs : Nat)
    {calls : List ArbitratorCall} (healthy : HealthyRun calls) {index : Fin maxSensorDomains}
    (valid : index.val < numSensorDomains) :
    Follows (domainHistory index calls)
      ((machine.run (started bridge mandatoryDomains initMs) calls).domains index) := by
  induction calls using List.reverseRecOn with
  | nil => exact ⟨fun signMs latest => absurd latest (by simp [latestSign, domainHistory]), nofun⟩
  | append_singleton calls call ih =>
      have follows := ih healthy.front
      have ready := run_started_initialised bridge mandatoryDomains initMs calls
      have stepped := step_domains ready call index
      rw [run_step, domainHistory_concat, stepped, ArbitratorCall.touch_eq]
      cases seen : call.event? index with
      | none => simpa using follows
      | some event =>
          refine follows.apply event fun nowMs scanned => ?_
          obtain ⟨clock, rfl, same⟩ | ⟨domain, beatMs, -, -, same⟩ | ⟨fault, reportMs, -, -, same⟩ :=
            ArbitratorCall.event?_cases seen
          · cases scanned.symm.trans same
            exact healthy calls clock (List.prefix_refl _) index valid
          · cases scanned.symm.trans same
          · cases scanned.symm.trans same

/-- The slot no sensor owns: its last sign of life stays the one `Init` gave it. -/
structure SpareSlot (initMs : Nat) (calls : List ArbitratorCall)
    (arbitrator : SafetyArbitrator) : Prop where
  silent : (arbitrator.domains spareIndex).lastHeartbeat = initMs
  unheard : (arbitrator.domains spareIndex).health ≠ .nominal
  failed_iff : (arbitrator.domains spareIndex).health = .failed ↔
    calls.any (lateClock initMs) = true
  fault_iff : arbitrator.faultBitmask.getLsbD 7 = true ↔ calls.any (lateClock initMs) = true
  active_iff : arbitrator.activeBitmask.getLsbD 7 = true ↔ calls.any isCycle = false

/-- A cycle scans the slot and writes both masks from what it finds. -/
theorem SpareSlot.arbitrate {initMs : Nat} {calls : List ArbitratorCall}
    (spare : SpareSlot initMs calls arbitrator) (ready : arbitrator.initialised = true)
    (clock : CycleClock) :
    SpareSlot initMs (calls ++ [.arbitrate clock]) (arbitrator.step (.arbitrate clock)).2 := by
  have scanned : (arbitrator.step (.arbitrate clock)).2.domains spareIndex =
      (arbitrator.domains spareIndex).scan clock.scanMs :=
    step_domains ready (.arbitrate clock) spareIndex
  have late : (arbitrator.domains spareIndex).Late clock.scanMs ↔
      initMs + sensorTimeoutMs < clock.scanMs := by
    rw [DomainState.Late, spare.silent]
    omega
  have failed : ((arbitrator.domains spareIndex).scan clock.scanMs).health = .failed ↔
      (calls ++ [ArbitratorCall.arbitrate clock]).any (lateClock initMs) = true := by
    rw [DomainState.scan_health_failed_iff, spare.failed_iff, late]
    simp [lateClock]
  have unheard : ((arbitrator.domains spareIndex).scan clock.scanMs).health ≠ .nominal := by
    unfold DomainState.scan
    split
    · exact (by decide : SensorHealth.failed ≠ .nominal)
    · exact spare.unheard
  have settles := arbitrate_settles ready clock
  refine ⟨?_, ?_, ?_, ?_, ?_⟩
  · rw [scanned, DomainState.scan_lastHeartbeat]
    exact spare.silent
  · rw [scanned]
    exact unheard
  · rw [scanned]
    exact failed
  · rw [show (arbitrator.step (.arbitrate clock)).2.faultBitmask = _ from settles.faultBitmask,
      ← failed,
      DomainState.scan_health_failed_iff]
    exact observe_fault_bit clock.scanMs spareIndex
  · rw [show (arbitrator.step (.arbitrate clock)).2.activeBitmask = _ from settles.activeBitmask]
    have bit : (arbitrator.observe clock.scanMs).activeBitmask.getLsbD 7 =
        decide (((arbitrator.domains spareIndex).scan clock.scanMs).health = .nominal) :=
      (arbitrator.scanTimeouts clock.scanMs).healthMask_bit .nominal spareIndex
    rw [bit]
    simp [unheard, isCycle]

theorem step_spare {call : ArbitratorCall} (ready : arbitrator.initialised = true)
    (noCycle : ¬ call.IsCycle) :
    (arbitrator.step call).2.domains spareIndex = arbitrator.domains spareIndex := by
  rw [step_domains ready, ArbitratorCall.touch_eq]
  cases seen : call.event? spareIndex with
  | none => rfl
  | some event =>
      obtain ⟨clock, rfl, -⟩ := event?_spare seen
      exact absurd ⟨clock, rfl⟩ noCycle

/-- No other call reaches the slot or the masks. -/
theorem SpareSlot.quiet {initMs : Nat} {calls : List ArbitratorCall}
    (spare : SpareSlot initMs calls arbitrator) (ready : arbitrator.initialised = true)
    {call : ArbitratorCall} (noCycle : ¬ call.IsCycle) :
    SpareSlot initMs (calls ++ [call]) (arbitrator.step call).2 := by
  have untouched := step_spare ready noCycle
  have quiet : lateClock initMs call = false ∧ isCycle call = false := by
    cases call with
    | arbitrate clock => exact absurd ⟨clock, rfl⟩ noCycle
    | _ => exact ⟨rfl, rfl⟩
  have sameFaults := (step_sameView ready noCycle).faultBitmask
  have sameActives := step_activeBitmask ready noCycle
  refine ⟨?_, ?_, ?_, ?_, ?_⟩
  · rw [untouched]
    exact spare.silent
  · rw [untouched]
    exact spare.unheard
  · rw [untouched, spare.failed_iff]
    simp [quiet.1]
  · rw [sameFaults, spare.fault_iff]
    simp [quiet.1]
  · rw [sameActives, spare.active_iff]
    simp [quiet.2]

theorem SpareSlot.step {initMs : Nat} {calls : List ArbitratorCall}
    (spare : SpareSlot initMs calls arbitrator) (ready : arbitrator.initialised = true)
    (call : ArbitratorCall) : SpareSlot initMs (calls ++ [call]) (arbitrator.step call).2 := by
  by_cases cycle : call.IsCycle
  · obtain ⟨clock, rfl⟩ := cycle
    exact spare.arbitrate ready clock
  · exact spare.quiet ready cycle

theorem run_spareSlot (bridge : IpcBridge) (mandatoryDomains : Byte) (initMs : Nat)
    (calls : List ArbitratorCall) :
    SpareSlot initMs calls (machine.run (started bridge mandatoryDomains initMs) calls) := by
  induction calls using List.reverseRecOn with
  | nil => exact ⟨rfl, (by decide : SensorHealth.unknown ≠ .nominal),
      iff_of_false (by decide : SensorHealth.unknown ≠ .failed) (by simp),
      iff_of_false (by decide : ¬ (0#8).getLsbD 7 = true) (by simp),
      iff_of_true (by decide : (0xFF#8).getLsbD 7 = true) rfl⟩
  | append_singleton calls call ih =>
      rw [machine.run_concat]
      exact ih.step (run_started_initialised bridge mandatoryDomains initMs calls) call

/-- A cycle that finds the seven sensors nominal and punctual, and the spare slot neither
failed nor overdue, sees no fault. -/
theorem observe_healthy {nowMs : Nat}
    (healthy : ∀ index : Fin maxSensorDomains, index.val < numSensorDomains →
      (arbitrator.domains index).health = .nominal ∧ ¬ (arbitrator.domains index).Late nowMs)
    (unheard : ((arbitrator.domains spareIndex).scan nowMs).health ≠ .nominal)
    (unfailed : ((arbitrator.domains spareIndex).scan nowMs).health ≠ .failed) :
    (arbitrator.observe nowMs).faultBitmask = 0 ∧
      (arbitrator.observe nowMs).activeBitmask = 0x7F := by
  have scanned : ∀ index : Fin maxSensorDomains, index.val < numSensorDomains →
      ((arbitrator.domains index).scan nowMs).health = .nominal := by
    intro index valid
    obtain ⟨nominal, punctual⟩ := healthy index valid
    rw [DomainState.scan_punctual punctual]
    exact nominal
  have spare : ∀ index : Fin maxSensorDomains, ¬ index.val < numSensorDomains →
      index = spareIndex := by decide
  have bits : ∀ index : Fin maxSensorDomains,
      (0x7F#8).getLsbD index.val = decide (index.val < numSensorDomains) := by decide
  have masked := fun health index =>
    (arbitrator.scanTimeouts nowMs).healthMask_bit health index
  refine ⟨BitVec.eq_of_getLsbD_eq fun place inside => ?_,
    BitVec.eq_of_getLsbD_eq fun place inside => ?_⟩
  · refine (masked .failed ⟨place, inside⟩).trans ?_
    rw [BitVec.ofNat_eq_ofNat, BitVec.getLsbD_zero, decide_eq_false_iff_not]
    by_cases valid : place < numSensorDomains
    · exact fun failed => absurd ((scanned ⟨place, inside⟩ valid).symm.trans failed) (by decide)
    · rw [spare ⟨place, inside⟩ valid]
      exact unfailed
  · refine (masked .nominal ⟨place, inside⟩).trans ((bits ⟨place, inside⟩).trans ?_).symm
    by_cases valid : place < numSensorDomains
    · exact decide_eq_decide.2 (iff_of_true valid (scanned ⟨place, inside⟩ valid))
    · refine decide_eq_decide.2 (iff_of_false valid ?_)
      rw [spare ⟨place, inside⟩ valid]
      exact unheard

/-- In the state reached, only bits of valid domains are set, and a cycle that ends a
healthy run leaves all seven domains active and full operation. -/
def PhantomFree (bridge : IpcBridge) (mandatoryDomains : Byte) (initMs : Nat)
    (calls : List ArbitratorCall) : Prop :=
  let final := machine.run (started bridge mandatoryDomains initMs) calls
  ValidBits final.faultBitmask ∧ ValidBits final.activeBitmask ∧
    ((∃ front clock, calls = front ++ [.arbitrate clock]) → HealthyRun calls →
      final.faultBitmask = 0 ∧ final.activeBitmask = 0x7F ∧
        final.currentState = .fullOperation)

theorem any_isCycle_iff (calls : List ArbitratorCall) :
    calls.any isCycle = true ↔ ∃ clock, ArbitratorCall.arbitrate clock ∈ calls := by
  rw [List.any_eq_true]
  constructor
  · intro cycled
    obtain ⟨call, member, cycle⟩ := cycled
    cases call with
    | arbitrate clock => exact ⟨clock, member⟩
    | _ => cases cycle
  · intro cycled
    obtain ⟨clock, member⟩ := cycled
    exact ⟨_, member, rfl⟩

theorem any_lateClock_eq_false_iff (initMs : Nat) (calls : List ArbitratorCall) :
    calls.any (lateClock initMs) = false ↔
      ∀ clock, ArbitratorCall.arbitrate clock ∈ calls →
        clock.scanMs ≤ initMs + sensorTimeoutMs := by
  rw [List.any_eq_false]
  constructor
  · intro early clock member
    simpa [lateClock] using early _ member
  · intro early call member
    cases call with
    | arbitrate clock => simpa [lateClock] using early clock member
    | _ => exact Bool.false_ne_true

/-- The cycle that ends a healthy run, all of whose cycles come in time, sees no fault. -/
theorem healthy_cycle (bridge : IpcBridge) (mandatoryDomains : Byte) (initMs : Nat)
    {front : List ArbitratorCall} {clock : CycleClock}
    (healthy : HealthyRun (front ++ [.arbitrate clock]))
    (early : (front ++ [ArbitratorCall.arbitrate clock]).any (lateClock initMs) = false) :
    let final :=
      machine.run (started bridge mandatoryDomains initMs) (front ++ [.arbitrate clock])
    final.faultBitmask = 0 ∧ final.activeBitmask = 0x7F ∧ final.currentState = .fullOperation := by
  intro final
  have ready := run_started_initialised bridge mandatoryDomains initMs front
  have before := run_spareSlot bridge mandatoryDomains initMs front
  have after := before.arbitrate ready clock
  have scanned : ((machine.run (started bridge mandatoryDomains initMs) front).step
      (.arbitrate clock)).2.domains spareIndex =
        ((machine.run (started bridge mandatoryDomains initMs) front).domains spareIndex).scan
          clock.scanMs := step_domains ready (.arbitrate clock) spareIndex
  have unfailed := after.failed_iff.not.2 (by rw [early]; exact Bool.false_ne_true)
  have unheard := after.unheard
  rw [scanned] at unfailed unheard
  have sensors := healthy front clock (List.prefix_refl _)
  have punctual : ∀ index : Fin maxSensorDomains, index.val < numSensorDomains →
      ((machine.run (started bridge mandatoryDomains initMs) front).domains index).health =
          .nominal ∧
        ¬ ((machine.run (started bridge mandatoryDomains initMs) front).domains index).Late
          clock.scanMs := by
    intro index valid
    have follows := run_follows bridge mandatoryDomains initMs healthy.front valid
    exact ⟨(follows.nominal (sensors index valid).1).1, follows.punctual (sensors index valid)⟩
  obtain ⟨clear, active⟩ := observe_healthy punctual unheard unfailed
  have unlatched := run_started_unlatched bridge mandatoryDomains initMs front
  have settles := arbitrate_settles ready clock
  rw [show final = _ from machine.run_concat _ _ _]
  exact ⟨settles.faultBitmask.trans clear, settles.activeBitmask.trans active,
    (settles.currentState unlatched).trans (computeRequiredState_clear clear)⟩

/-- No run is free of phantom bits before its first cycle, or once a cycle comes more
than the sensor timeout after `Init`; every other run is. -/
theorem phantom_free_iff (bridge : IpcBridge) (mandatoryDomains : Byte) (initMs : Nat)
    (calls : List ArbitratorCall) :
    PhantomFree bridge mandatoryDomains initMs calls ↔
      (∃ clock, ArbitratorCall.arbitrate clock ∈ calls) ∧
        ∀ clock, ArbitratorCall.arbitrate clock ∈ calls →
          clock.scanMs ≤ initMs + sensorTimeoutMs := by
  have spare := run_spareSlot bridge mandatoryDomains initMs calls
  have faults := Bool.eq_iff_iff.2 spare.fault_iff
  rw [← any_isCycle_iff, ← any_lateClock_eq_false_iff, PhantomFree, validBits_iff, validBits_iff,
    faults, ← Bool.not_eq_true (BitVec.getLsbD _ _), spare.active_iff, Bool.not_eq_false]
  constructor
  · intro begun
    obtain ⟨early, cycled, -⟩ := begun
    exact ⟨cycled, early⟩
  · intro begun
    obtain ⟨cycled, early⟩ := begun
    refine ⟨early, cycled, ?_⟩
    rintro ⟨front, clock, rfl⟩ healthy
    exact healthy_cycle bridge mandatoryDomains initMs healthy early

/-- Nominal reports of all seven sensors. -/
def allNominal (nowMs : Nat) : List ArbitratorCall :=
  [.lidar, .radar, .camera, .gnss, .imu, .v2x, .uss].map fun domain =>
    .injectFault domain .nominal 0 nowMs nowMs

/-- One millisecond after all sensors reported nominal, the cycle sees a fault of the
eighth slot. -/
theorem spare_slot_raises_phantom_fault :
    HealthyRun (allNominal 100 ++ [.arbitrate (cycleAt 101)]) ∧
      (machine.run (started (IpcBridge.construct (some blankSram)).init.2 0 0)
        (allNominal 100 ++ [.arbitrate (cycleAt 101)])).faultBitmask = 0x80 :=
  ⟨healthyRun_single rfl (by decide), by decide⟩

end SafetyArbitrator

end SoaGateway.Safety
