import SoaGateway.Safety.FaultHistory
import SoaGateway.Safety.Handover

/-! The three copies of a command: the bytes in the ring slot, the stored last command and
the argument of the listeners. The slot is filled before the latency is measured. -/

set_option autoImplicit false

namespace SoaGateway.Safety

open Foundation Ipc

def littleEndianValue (bytes : List Byte) : Nat :=
  bytes.foldr (fun byte rest => byte.toNat + 256 * rest) 0

def littleEndianWord (bytes : List Byte) : BitVec 32 := BitVec.ofNat 32 (littleEndianValue bytes)

theorem littleEndianWord_littleEndian32 (word : BitVec 32) :
    littleEndianWord (littleEndian32 word) = word := by
  apply BitVec.eq_of_toNat_eq
  have bound := word.isLt
  simp only [littleEndianWord, littleEndianValue, littleEndian32, List.foldr_cons, List.foldr_nil,
    BitVec.toNat_ofNat, BitVec.toNat_setWidth, BitVec.toNat_ushiftRight, Nat.shiftRight_eq_div_pow]
  omega

def SafeState.ofCode? (code : Byte) : Option SafeState :=
  [.fullOperation, .radarCameraFallback, .lidarCameraFallback, .lidarRadarFallback,
    .deadReckoningMode, .reducedDynamics, .minimalRiskCondition, .emergencyStop].find?
      fun state => code.toNat == state.severity

theorem SafeState.ofCode?_severity (state : SafeState) :
    SafeState.ofCode? (BitVec.ofNat 8 state.severity) = some state := by
  cases state <;> rfl

/-- A command read from its documented layout. -/
def decodeCommand : List Byte → Option SafeStateCommand
  | [magic0, magic1, magic2, magic3, state, activeDomains, faultBitmask, reserved,
      speed0, speed1, speed2, speed3, decel0, decel1, decel2, decel3,
      transition0, transition1, transition2, transition3,
      sequence0, sequence1, sequence2, sequence3] =>
      (SafeState.ofCode? state).map fun state => {
        magic := littleEndianWord [magic0, magic1, magic2, magic3]
        state
        activeDomains
        faultBitmask
        reserved
        maxSpeedKph := ⟨littleEndianWord [speed0, speed1, speed2, speed3]⟩
        maxDecelMps2 := ⟨littleEndianWord [decel0, decel1, decel2, decel3]⟩
        transitionMs := littleEndianWord [transition0, transition1, transition2, transition3]
        sequenceNum := littleEndianWord [sequence0, sequence1, sequence2, sequence3] }
  | _ => none

open SafetyArbitrator in
theorem decodeCommand_commandBytes {cmd : SafeStateCommand} (blank : cmd.reserved = 0) :
    decodeCommand (commandBytes cmd) = some cmd := by
  have words := littleEndianWord_littleEndian32
  simp only [littleEndian32] at words
  simp only [commandBytes, littleEndian32, List.cons_append, List.nil_append, decodeCommand,
    SafeState.ofCode?_severity, Option.map_some, words, ← blank]

/-- The 24 payload bytes a command occupies. -/
def commandArea (slot : IpcSlot) : List Byte := (List.ofFn slot.payload).take 24

theorem commandArea_carries {slot : IpcSlot} {cmd : SafeStateCommand} {count : Nat}
    (carries : slot.Carries (SafetyArbitrator.commandEvent cmd) count) :
    commandArea slot = SafetyArbitrator.commandBytes cmd := by
  have length : (SafetyArbitrator.commandBytes cmd).length = 24 := rfl
  have filled : (commandArea slot).length = 24 := by
    rw [commandArea, List.length_take, List.length_ofFn]
    rfl
  refine List.ext_getElem (filled.trans length.symm) fun index inside own => ?_
  have short : index < 24 := length ▸ own
  simp only [commandArea, List.getElem_take, List.getElem_ofFn]
  rw [carries.payload _ short]
  simp [SafetyArbitrator.commandEvent, List.getD_eq_getElem?_getD, own]

theorem IpcBridge.send_ok_slot {bridge : IpcBridge} {ring : IpcRingBuffer} {event : SoaEvent}
    (attached : bridge.ring = some ring) (accepted : (bridge.send event).1 = .ok ()) :
    ∃ after, (bridge.send event).2.ring = some after ∧
      (after.slots ring.head).Carries event bridge.seqCounter.toNat := by
  unfold IpcBridge.send at accepted ⊢
  cases checked : bridge.sendCheck event with
  | error code => simp [checked] at accepted
  | ok head =>
      obtain ⟨-, found, same, rfl, -⟩ := IpcBridge.sendCheck_ok_iff.1 checked
      cases attached.symm.trans same
      have carries := IpcBridge.populated_carries (ring.slots ring.head) event
        bridge.seqCounter.toNat
      rw [BitVec.ofNat_toNat, BitVec.setWidth_eq] at carries
      simp only [IpcBridge.writeSlot, IpcBridge.storeHead, attached, Option.map_some]
      refine ⟨_, rfl, ?_⟩
      simpa using carries

namespace SafetyArbitrator

variable {arbitrator : SafetyArbitrator}

theorem executeTransition_copies (arbitrator : SafetyArbitrator) (target : SafeState)
    (clock : CycleClock) :
    let outcome := arbitrator.executeTransition target clock
    outcome.2.lastCommand =
        { arbitrator.buildCommand target with transitionMs := clock.latencyMs } ∧
      outcome.1.notified =
        arbitrator.listeners.map fun listener => (listener, outcome.2.lastCommand) := by
  unfold executeTransition sendCommandToM7
  cases arbitrator.ipc with
  | none => exact ⟨rfl, rfl⟩
  | some bridge => exact ⟨rfl, rfl⟩

/-- The slot the send filled decodes to the stored command, every listener was called with
it, and the slot's session id is its sequence number. -/
def CopiesAgree (before : SafetyArbitrator) (outcome : Reply × SafetyArbitrator) : Prop :=
  ∃ bridge ring bridge' ring', before.OnRing bridge ring ∧ outcome.2.OnRing bridge' ring' ∧
    decodeCommand (commandArea (ring'.slots ring.head)) = some outcome.2.lastCommand ∧
    outcome.1.notified =
      before.listeners.map (fun listener => (listener, outcome.2.lastCommand)) ∧
    (ring'.slots ring.head).sessionId = outcome.2.lastCommand.sequenceNum

theorem latencyMs_eq_zero_iff (clock : CycleClock) :
    clock.latencyMs = 0 ↔ (clock.endMs - clock.startMs) % 2 ^ 32 = 0 := by
  unfold CycleClock.latencyMs
  split
  · rw [← BitVec.toNat_inj, BitVec.toNat_ofNat]
    exact Iff.rfl
  · next backward => simp [Nat.sub_eq_zero_of_le (Nat.le_of_not_le backward)]

theorem due_of_sent {clock : CycleClock} {send : SafeStateCommand × VoidResult}
    (sent : (arbitrator.arbitrate clock).1.sent = some send) : arbitrator.Due clock := by
  by_contra quiet
  cases ready : arbitrator.initialised with
  | false =>
      rw [arbitrate_uninitialised ready] at sent
      cases sent
  | true =>
      rw [arbitrate_not_due ready quiet] at sent
      cases sent

/-- A delivered command stands in its slot as it was built, before the latency is known. -/
theorem executeTransition_slot {bridge : IpcBridge} {ring : IpcRingBuffer} {target : SafeState}
    {clock : CycleClock} {cmd : SafeStateCommand} (onRing : arbitrator.OnRing bridge ring)
    (delivers : (arbitrator.executeTransition target clock).1.sent = some (cmd, .ok ())) :
    ∃ bridge' after, (arbitrator.executeTransition target clock).2.OnRing bridge' after ∧
      decodeCommand (commandArea (after.slots ring.head)) =
        some (arbitrator.buildCommand target) ∧
      (after.slots ring.head).sessionId = (arbitrator.buildCommand target).sequenceNum := by
  obtain ⟨sent, ipc, -, -⟩ := executeTransition_sends onRing.1 target clock
  obtain ⟨-, accepted⟩ := Prod.mk.inj (Option.some.inj (sent.symm.trans delivers))
  obtain ⟨after, mapped, carries⟩ := IpcBridge.send_ok_slot onRing.2.2 accepted
  have kept := (send_onRing onRing.2.1 onRing.2.2
    (commandEvent (arbitrator.buildCommand target))).1
  refine ⟨_, after, ⟨ipc, kept, mapped⟩, ?_, carries.sessionId⟩
  rw [commandArea_carries carries]
  exact decodeCommand_commandBytes rfl

/-- The copies of a delivered command agree exactly when no latency was measured. -/
theorem command_copies_agree_iff (sramBase : IpcRingBuffer) (calls : List ArbitratorCall)
    (clock : CycleClock) (cmd : SafeStateCommand)
    (delivers : ((machine.run (overBridge sramBase) calls).arbitrate clock).1.sent =
      some (cmd, .ok ())) :
    let before := machine.run (overBridge sramBase) calls
    before.CopiesAgree (before.arbitrate clock) ↔ (clock.endMs - clock.startMs) % 2 ^ 32 = 0 := by
  intro before
  rw [← latencyMs_eq_zero_iff]
  obtain ⟨bridge, ring, onRing⟩ := run_attached sramBase calls
  have due : before.Due clock := due_of_sent delivers
  rw [arbitrate_due due] at delivers ⊢
  have observed : (before.observe clock.scanMs).OnRing bridge ring := onRing
  obtain ⟨last, notified⟩ := executeTransition_copies (before.observe clock.scanMs)
    (before.observe clock.scanMs).computeRequiredState clock
  obtain ⟨bridge', after, onAfter, decoded, session⟩ := executeTransition_slot observed delivers
  constructor
  · intro copied
    obtain ⟨bridge₁, ring₁, bridge₂, ring₂, onFirst, onSecond, agrees, -, -⟩ := copied
    cases onRing.1.symm.trans onFirst.1
    cases onRing.2.2.symm.trans onFirst.2.2
    cases onAfter.1.symm.trans onSecond.1
    cases onAfter.2.2.symm.trans onSecond.2.2
    rw [decoded, last] at agrees
    exact (congrArg SafeStateCommand.transitionMs (Option.some.inj agrees)).symm
  · intro instant
    refine ⟨bridge, ring, bridge', after, onRing, onAfter, ?_, notified, ?_⟩
    · rw [decoded, last, instant]
      rfl
    · rw [session, last]

/-- The LiDAR has failed and one listener waits for the command. -/
def lidarLoss : List ArbitratorCall :=
  [.init 0 0, .registerListener (some 1), lidarReport .failed]

def oneMillisecond : CycleClock := { scanMs := 0, startMs := 0, endMs := 1, logMs := 1 }

theorem instant_copies_agree :
    let before := machine.run (overBridge blankSram) lidarLoss
    before.CopiesAgree (before.arbitrate instantly) ↔
      (instantly.endMs - instantly.startMs) % 2 ^ 32 = 0 :=
  command_copies_agree_iff blankSram lidarLoss instantly _ rfl

/-- A transition that takes one millisecond is delivered with a transition time of zero,
while the stored command carries the millisecond. -/
theorem slow_transition_copies_differ :
    let before := machine.run (overBridge blankSram) lidarLoss
    let outcome := before.arbitrate oneMillisecond
    outcome.1.sent.map (fun send => send.2.toBool) = some true ∧
      outcome.2.lastCommand.transitionMs = 1 ∧
      ¬ before.CopiesAgree outcome := by
  intro before outcome
  refine ⟨by decide, by decide, ?_⟩
  intro copied
  obtain ⟨bridge, ring, bridge', ring', onFirst, onSecond, agrees, -⟩ := copied
  have head : (before.ipc.bind IpcBridge.ring).map IpcRingBuffer.head = some 0 := by decide
  have first : ((outcome.2.ipc.bind IpcBridge.ring).bind fun ring =>
      decodeCommand (commandArea (ring.slots 0))).map SafeStateCommand.transitionMs = some 0 := by
    decide
  simp only [onFirst.1, onFirst.2.2, Option.bind_some, Option.map_some, Option.some.injEq] at head
  rw [head] at agrees
  simp only [onSecond.1, onSecond.2.2, Option.bind_some, agrees, Option.map_some] at first
  exact absurd first (by decide)

end SafetyArbitrator

end SoaGateway.Safety
