import SoaGateway.Safety.CommandCopies
import SoaGateway.Safety.TransitionLog

/-! What the supervisor core gets to see. It takes the slots off the ring one by one; the
commands it decodes are the accepted ones in order, numbered so that every refused command
leaves a gap. -/

set_option autoImplicit false

namespace SoaGateway.Safety

open Foundation Ipc

/-- What crossed the bridge, oldest first: the events it accepted, from the arbitrator and from
others, and the slots that were taken. -/
structure Wire where
  accepted : List SoaEvent
  received : List IpcSlot

def Wire.empty : Wire := { accepted := [], received := [] }

/-- The service and event that mark a command. -/
def IsCommand (event : SoaEvent) : Prop := event.serviceId = 0xFF00 ∧ event.eventId = 0xFF01

instance (event : SoaEvent) : Decidable (IsCommand event) := inferInstanceAs (Decidable (_ ∧ _))

/-- The event that the bridge accepted during a call. -/
def acceptedEvent? (call : ArbitratorCall) (reply : Reply) : Option SoaEvent :=
  match call with
  | .arbitrate _ => (reply.sent.bind delivered).map SafetyArbitrator.commandEvent
  | .otherSend event => if reply.result.isOk then some event else none
  | _ => none

/-- The slot the supervisor takes when it moves the tail. -/
def takenSlot? (arbitrator : SafetyArbitrator) (call : ArbitratorCall) : Option IpcSlot :=
  match call with
  | .consumerStore _ => (arbitrator.ipc.bind IpcBridge.ring).map fun ring => ring.slots ring.tail
  | _ => none

def Wire.record (arbitrator : SafetyArbitrator) (call : ArbitratorCall) (wire : Wire) : Wire where
  accepted := wire.accepted ++ (acceptedEvent? call (arbitrator.step call).1).toList
  received := wire.received ++ (takenSlot? arbitrator call).toList

def supervised : Machine (SafetyArbitrator × Wire) ArbitratorCall Reply :=
  SafetyArbitrator.machine.withGhost Wire.record

/-- The supervisor moves the tail past one unread slot at a time. -/
def Orderly (arbitrator : SafetyArbitrator) (call : ArbitratorCall) : Prop :=
  ∀ tail, call = .consumerStore tail → ∃ bridge ring, arbitrator.OnRing bridge ring ∧
    ring.tail ≠ ring.head ∧ tail = Ring.next ipcRingSlots ring.tail

/-- A slot as the supervisor reads it. -/
def seenCommand (slot : IpcSlot) : Option SafeStateCommand :=
  if slot.serviceId = 0xFF00 ∧ slot.eventId = 0xFF01 then decodeCommand (commandArea slot)
  else none

/-- The wire is in step with the ring: what was received and what is unread carry the accepted
events in order. -/
structure InStep (arbitrator : SafetyArbitrator) (wire : Wire) (bridge : IpcBridge)
    (ring : IpcRingBuffer) (unread : List IpcSlot) : Prop where
  onRing : arbitrator.OnRing bridge ring
  queue : Ring.Holds ipcRingSlots ring.slots ring.head ring.tail unread
  counter : bridge.seqCounter = BitVec.ofNat 8 wire.accepted.length
  numbered : wire.accepted.length = (wire.received ++ unread).length
  carried : ∀ (position : Nat) (slot : IpcSlot), (wire.received ++ unread)[position]? = some slot →
    ∃ event, wire.accepted[position]? = some event ∧ slot.Carries event position

section Bridge

variable {bridge : IpcBridge} {ring : IpcRingBuffer}

/-- A send leaves the bridge as it is, or puts one more stamped slot behind the head. -/
theorem send_cases (attached : bridge.ring = some ring) (event : SoaEvent) {count : Nat}
    (counter : bridge.seqCounter = BitVec.ofNat 8 count) :
    (∃ code, bridge.send event = (.error code, bridge)) ∨
      ∃ slot : IpcSlot, slot.Carries event count ∧ Ring.next ipcRingSlots ring.head ≠ ring.tail ∧
        bridge.send event = (.ok (), {
          bridge with
          ring := some {
            ring with
            slots := Function.update ring.slots ring.head slot
            head := Ring.next ipcRingSlots ring.head }
          seqCounter := BitVec.ofNat 8 (count + 1) }) := by
  cases checked : bridge.sendCheck event with
  | error code =>
      left
      exact ⟨code, by simp only [IpcBridge.send, checked]⟩
  | ok head =>
      right
      obtain ⟨-, found, same, rfl, -, room⟩ := IpcBridge.sendCheck_ok_iff.1 checked
      cases attached.symm.trans same
      refine ⟨_, IpcBridge.populated_carries (ring.slots ring.head) event count, ?_, ?_⟩
      · rw [← IpcBridge.nextHead_eq_next]
        exact room
      · simp only [IpcBridge.send, checked, IpcBridge.writeSlot, IpcBridge.storeHead, attached,
          Option.map_some, IpcBridge.nextHead_eq_next, counter, IpcBridge.applyE2eHeader]
        rw [BitVec.ofNat_add]
        rfl

end Bridge

section Steps

variable {arbitrator : SafetyArbitrator} {wire : Wire} {bridge : IpcBridge}
  {ring : IpcRingBuffer} {unread : List IpcSlot}

/-- Apart from cycles and the bridge traffic no call touches the bridge. -/
theorem bridge_untouched (arbitrator : SafetyArbitrator) {call : ArbitratorCall}
    (noCycle : ¬ call.IsCycle) (noTraffic : ¬ call.IsTraffic) :
    (arbitrator.step call).2.ipc = arbitrator.ipc ∧
      acceptedEvent? call (arbitrator.step call).1 = none ∧ takenSlot? arbitrator call = none := by
  refine ⟨?_, ?_, ?_⟩
  · by_cases first : call.IsInit
    · obtain ⟨mandatoryDomains, nowMs, rfl⟩ := first
      simp only [SafetyArbitrator.step, SafetyArbitrator.init]
      split
      · rfl
      · split
        · rfl
        · rfl
    · obtain ⟨domains, listeners, same⟩ :=
        SafetyArbitrator.step_local arbitrator noCycle first noTraffic
      rw [same]
  · cases call with
    | arbitrate clock => exact absurd ⟨clock, rfl⟩ noCycle
    | otherSend event => exact absurd (.inl ⟨event, rfl⟩) noTraffic
    | _ => rfl
  · cases call with
    | consumerStore tail => exact absurd (.inr ⟨tail, rfl⟩) noTraffic
    | _ => rfl

theorem delivered_map (cmd : SafeStateCommand) (answer : VoidResult) :
    (delivered (cmd, answer)).map SafetyArbitrator.commandEvent =
      if answer.isOk then some (SafetyArbitrator.commandEvent cmd) else none := by
  cases answer with
  | ok done => rfl
  | error code => rfl

/-- A cycle sends the command of the transition it executes, if it executes one. -/
theorem bridge_cycle (attached : arbitrator.ipc = some bridge) (clock : CycleClock) :
    (∃ event, (arbitrator.step (.arbitrate clock)).2.ipc = some (bridge.send event).2 ∧
        acceptedEvent? (.arbitrate clock) (arbitrator.step (.arbitrate clock)).1 =
          if (bridge.send event).1.isOk then some event else none) ∨
      (arbitrator.step (.arbitrate clock)).2.ipc = some bridge ∧
        acceptedEvent? (.arbitrate clock) (arbitrator.step (.arbitrate clock)).1 = none := by
  by_cases due : arbitrator.Due clock
  · left
    have observed : (arbitrator.observe clock.scanMs).ipc = some bridge := attached
    obtain ⟨sent, ipc, -⟩ := SafetyArbitrator.executeTransition_sends observed
      (arbitrator.observe clock.scanMs).computeRequiredState clock
    rw [← SafetyArbitrator.arbitrate_due due] at sent ipc
    refine ⟨_, ipc, ?_⟩
    rw [acceptedEvent?, show (arbitrator.step (.arbitrate clock)).1.sent = _ from sent,
      Option.bind_some, delivered_map]
  · right
    cases begun : arbitrator.initialised with
    | false =>
        rw [show arbitrator.step (.arbitrate clock) = _ from
          SafetyArbitrator.arbitrate_uninitialised begun]
        exact ⟨attached, rfl⟩
    | true =>
        rw [show arbitrator.step (.arbitrate clock) = _ from
          SafetyArbitrator.arbitrate_not_due begun due]
        exact ⟨attached, rfl⟩

/-- A call sends one event over the bridge, moves the tail, or does not touch the bridge. -/
theorem bridge_cases (onRing : arbitrator.OnRing bridge ring) (call : ArbitratorCall) :
    (∃ event, (arbitrator.step call).2.ipc = some (bridge.send event).2 ∧
        acceptedEvent? call (arbitrator.step call).1 =
          (if (bridge.send event).1.isOk then some event else none) ∧
        takenSlot? arbitrator call = none) ∨
      (∃ tail, call = .consumerStore tail ∧
        (arbitrator.step call).2.ipc = some { bridge with ring := some { ring with tail } } ∧
        acceptedEvent? call (arbitrator.step call).1 = none ∧
        takenSlot? arbitrator call = some (ring.slots ring.tail)) ∨
      (arbitrator.step call).2.ipc = some bridge ∧
        acceptedEvent? call (arbitrator.step call).1 = none ∧ takenSlot? arbitrator call = none := by
  obtain ⟨attached, ready, mapped⟩ := onRing
  by_cases cycle : call.IsCycle
  · obtain ⟨clock, rfl⟩ := cycle
    rcases bridge_cycle attached clock with ⟨event, ipc, accepted⟩ | ⟨ipc, nothing⟩
    · exact .inl ⟨event, ipc, accepted, rfl⟩
    · exact .inr (.inr ⟨ipc, nothing, rfl⟩)
  · by_cases traffic : call.IsTraffic
    · rcases traffic with ⟨event, rfl⟩ | ⟨tail, rfl⟩
      · left
        refine ⟨event, ?_, ?_, rfl⟩
        · simp only [SafetyArbitrator.step, SafetyArbitrator.otherSend, attached]
        · simp only [SafetyArbitrator.step, SafetyArbitrator.otherSend, attached, acceptedEvent?,
            Reply.plain]
      · refine .inr (.inl ⟨tail, rfl, ?_, rfl, ?_⟩)
        · simp only [SafetyArbitrator.step, SafetyArbitrator.consumerStore, attached, mapped,
            Option.map_some]
        · simp only [takenSlot?, attached, Option.bind_some, mapped, Option.map_some]
    · obtain ⟨ipc, nothing, untaken⟩ := bridge_untouched arbitrator cycle traffic
      exact .inr (.inr ⟨ipc.trans attached, nothing, untaken⟩)

/-- The bridge of the arbitrator after a step, and its ring. -/
theorem InStep.kept (inStep : InStep arbitrator wire bridge ring unread) {after : SafetyArbitrator}
    (ipc : after.ipc = some bridge) : InStep after wire bridge ring unread where
  onRing := ⟨ipc, inStep.onRing.2⟩
  queue := inStep.queue
  counter := inStep.counter
  numbered := inStep.numbered
  carried := inStep.carried

theorem InStep.sent (inStep : InStep arbitrator wire bridge ring unread) {event : SoaEvent}
    {slot : IpcSlot} (carries : slot.Carries event wire.accepted.length)
    (room : Ring.next ipcRingSlots ring.head ≠ ring.tail) {after : SafetyArbitrator}
    (ipc : after.ipc = some {
      bridge with
      ring := some {
        ring with
        slots := Function.update ring.slots ring.head slot
        head := Ring.next ipcRingSlots ring.head }
      seqCounter := BitVec.ofNat 8 (wire.accepted.length + 1) }) :
    ∃ bridge' ring', InStep after { wire with accepted := wire.accepted ++ [event] } bridge' ring'
      (unread ++ [slot]) := by
  have bound := inStep.queue.length_lt
  have space : unread.length + 1 < ipcRingSlots := by
    have full := mt inStep.queue.full_iff.2 room
    omega
  refine ⟨_, _, ⟨ipc, inStep.onRing.2.1, rfl⟩, inStep.queue.push slot space, ?_, ?_, ?_⟩
  · rw [List.length_append, List.length_singleton]
  · rw [← List.append_assoc, List.length_append, List.length_append, inStep.numbered]
    rfl
  · intro position found listed
    rw [← List.append_assoc] at listed
    rcases Nat.lt_or_ge position (wire.received ++ unread).length with old | new
    · rw [List.getElem?_append_left old] at listed
      obtain ⟨earlier, numbered, held⟩ := inStep.carried position found listed
      rw [List.getElem?_append_left (inStep.numbered ▸ old)]
      exact ⟨earlier, numbered, held⟩
    · have inside : position < (wire.received ++ unread).length + 1 := by
        rw [← List.length_singleton (a := slot), ← List.length_append]
        exact (List.getElem?_eq_some_iff.1 listed).1
      have last : position = wire.accepted.length := by
        rw [inStep.numbered]
        omega
      subst last
      rw [inStep.numbered, List.getElem?_concat_length] at listed
      cases listed
      exact ⟨event, List.getElem?_concat_length, carries⟩

theorem InStep.taken (inStep : InStep arbitrator wire bridge ring unread)
    (waiting : ring.tail ≠ ring.head) {after : SafetyArbitrator}
    (ipc : after.ipc = some {
      bridge with ring := some { ring with tail := Ring.next ipcRingSlots ring.tail } }) :
    ∃ bridge' ring' rest, InStep after
      { wire with received := wire.received ++ [ring.slots ring.tail] } bridge' ring' rest := by
  cases contents : unread with
  | nil => exact absurd (inStep.queue.empty_iff.2 contents) waiting
  | cons slot rest =>
      obtain ⟨front, popped⟩ := (contents ▸ inStep.queue).pop
      have joined : (wire.received ++ [ring.slots ring.tail]) ++ rest = wire.received ++ unread := by
        rw [front, contents, List.append_assoc]
        rfl
      refine ⟨_, _, rest, ⟨ipc, inStep.onRing.2.1, rfl⟩, popped, inStep.counter, ?_, ?_⟩
      · rw [joined]
        exact inStep.numbered
      · rw [joined]
        exact inStep.carried

/-- Every step of an orderly run keeps the wire in step. -/
theorem InStep.step (inStep : InStep arbitrator wire bridge ring unread) {call : ArbitratorCall}
    (orderly : Orderly arbitrator call) :
    ∃ bridge' ring' unread',
      InStep (arbitrator.step call).2 (wire.record arbitrator call) bridge' ring' unread' := by
  rcases bridge_cases inStep.onRing call with ⟨event, ipc, accepted, untaken⟩ |
    ⟨tail, rfl, ipc, unsent, taken⟩ | ⟨ipc, unsent, untaken⟩
  · rcases send_cases inStep.onRing.2.2 event inStep.counter with ⟨code, refused⟩ |
      ⟨slot, carries, room, sent⟩
    · rw [refused] at ipc accepted
      refine ⟨bridge, ring, unread, ?_⟩
      simp only [Wire.record, accepted, untaken, isOk_error, Bool.false_eq_true, ↓reduceIte,
        Option.toList_none, List.append_nil]
      exact inStep.kept ipc
    · rw [sent] at ipc accepted
      obtain ⟨bridge', ring', after⟩ := inStep.sent carries room ipc
      refine ⟨bridge', ring', unread ++ [slot], ?_⟩
      simp only [Wire.record, accepted, untaken, isOk_ok, ↓reduceIte, Option.toList_none,
        Option.toList_some, List.append_nil]
      exact after
  · obtain ⟨bridge', ring', same, waiting, rfl⟩ := orderly tail rfl
    cases inStep.onRing.1.symm.trans same.1
    cases inStep.onRing.2.2.symm.trans same.2.2
    rw [Wire.record, unsent, taken, Option.toList_none, List.append_nil]
    exact inStep.taken waiting ipc
  · refine ⟨bridge, ring, unread, ?_⟩
    simp only [Wire.record, unsent, untaken, Option.toList_none, List.append_nil]
    exact inStep.kept ipc

end Steps

section Kept

variable {Given Taken : Type} {keep : Given → Option Taken}

/-- The place of a kept element is its position less the elements dropped before it. -/
theorem filterMap_position {given : List Given} {place : Nat} {taken : Taken}
    (listed : (given.filterMap keep)[place]? = some taken) :
    ∃ position source, given[position]? = some source ∧ keep source = some taken ∧
      position = place + (given.take position).countP fun earlier => (keep earlier).isNone := by
  induction given generalizing place with
  | nil => cases listed
  | cons first rest ih =>
      cases kept : keep first with
      | none =>
          rw [List.filterMap_cons_none kept] at listed
          obtain ⟨position, source, found, same, counted⟩ := ih listed
          refine ⟨position + 1, source, found, same, ?_⟩
          rw [List.take_succ_cons, List.countP_cons_of_pos (by simp [kept]), ← Nat.add_assoc,
            ← counted]
      | some value =>
          rw [List.filterMap_cons_some kept] at listed
          cases place with
          | zero =>
              cases listed
              exact ⟨0, first, rfl, kept, rfl⟩
          | succ place =>
              obtain ⟨position, source, found, same, counted⟩ := ih listed
              refine ⟨position + 1, source, found, same, ?_⟩
              rw [List.take_succ_cons, List.countP_cons_of_neg (by simp [kept])]
              omega

end Kept

section Decoding

/-- An event is a command of the arbitrator or no command at all. -/
def Genuine (event : SoaEvent) : Prop :=
  (∃ cmd : SafeStateCommand, cmd.reserved = 0 ∧ event = SafetyArbitrator.commandEvent cmd) ∨
    ¬ IsCommand event

/-- The command an event carries. -/
def eventCommand (event : SoaEvent) : Option SafeStateCommand :=
  if IsCommand event then decodeCommand ((List.ofFn event.payload).take 24) else none

theorem eventCommand_commandEvent {cmd : SafeStateCommand} (blank : cmd.reserved = 0) :
    eventCommand (SafetyArbitrator.commandEvent cmd) = some cmd := by
  have bytes : (List.ofFn (SafetyArbitrator.commandEvent cmd).payload).take 24 =
      SafetyArbitrator.commandBytes cmd := rfl
  rw [eventCommand, if_pos ⟨rfl, rfl⟩, bytes, decodeCommand_commandBytes blank]

/-- The supervisor reads from a slot what the event behind it carries. -/
theorem seenCommand_carries {slot : IpcSlot} {event : SoaEvent} {count : Nat}
    (carries : slot.Carries event count) (genuine : Genuine event) :
    seenCommand slot = eventCommand event := by
  rw [seenCommand, carries.serviceId, carries.eventId]
  rcases genuine with ⟨cmd, blank, rfl⟩ | other
  · rw [if_pos ⟨rfl, rfl⟩, commandArea_carries carries, decodeCommand_commandBytes blank,
      eventCommand_commandEvent blank]
  · rw [eventCommand, if_neg other]
    exact if_neg other

theorem InStep.seen {arbitrator : SafetyArbitrator} {wire : Wire} {bridge : IpcBridge}
    {ring : IpcRingBuffer} {unread : List IpcSlot}
    (inStep : InStep arbitrator wire bridge ring unread)
    (genuine : ∀ event ∈ wire.accepted, Genuine event) :
    (wire.received ++ unread).map seenCommand = wire.accepted.map eventCommand := by
  refine List.ext_getElem? fun position => ?_
  rw [List.getElem?_map, List.getElem?_map]
  cases listed : (wire.received ++ unread)[position]? with
  | some slot =>
      obtain ⟨event, numbered, carries⟩ := inStep.carried position slot listed
      rw [numbered, Option.map_some, Option.map_some,
        seenCommand_carries carries (genuine event (List.mem_of_getElem? numbered))]
  | none =>
      have outside := List.getElem?_eq_none_iff.1 listed
      rw [← inStep.numbered] at outside
      rw [List.getElem?_eq_none outside]
      rfl

end Decoding

section Runs

/-- The commands on the wire are those the arbitrator handed over, and each executed transition
takes the next number. -/
structure Commanded (replies : List Reply) (arbitrator : SafetyArbitrator) (wire : Wire) :
    Prop where
  audited : SafetyArbitrator.Audited replies arbitrator
  numbered : ∀ (position : Nat) (send : SafeStateCommand × VoidResult),
    (executed replies)[position]? = some send →
      send.1.sequenceNum = BitVec.ofNat 32 (position + 1)
  genuine : ∀ event ∈ wire.accepted, Genuine event
  commands : wire.accepted.filterMap eventCommand = acceptedCommands replies

theorem executeTransition_sent (arbitrator : SafetyArbitrator) (target : SafeState)
    (clock : CycleClock) :
    ∃ answer, (arbitrator.executeTransition target clock).1.sent =
      some (arbitrator.buildCommand target, answer) := by
  unfold SafetyArbitrator.executeTransition SafetyArbitrator.sendCommandToM7
  cases arbitrator.ipc with
  | none => exact ⟨_, rfl⟩
  | some bridge => exact ⟨_, rfl⟩

/-- What a cycle sends is built from the arbitrator's own counter. -/
theorem arbitrate_sent {arbitrator : SafetyArbitrator} {clock : CycleClock}
    {send : SafeStateCommand × VoidResult} (sent : (arbitrator.arbitrate clock).1.sent = some send) :
    send.1.sequenceNum = arbitrator.sequenceNum + 1 ∧ send.1.reserved = 0 := by
  have due := SafetyArbitrator.due_of_sent sent
  rw [SafetyArbitrator.arbitrate_due due] at sent
  obtain ⟨answer, built⟩ := executeTransition_sent
    (arbitrator.observe clock.scanMs) (arbitrator.observe clock.scanMs).computeRequiredState clock
  cases sent.symm.trans built
  exact ⟨rfl, rfl⟩

/-- Nobody else marks an event as a command. -/
def LeavesCommands (call : ArbitratorCall) : Prop :=
  ∀ event, call = .otherSend event → ¬ IsCommand event

variable {replies : List Reply} {arbitrator : SafetyArbitrator} {wire : Wire}

theorem Commanded.arbitrate (commanded : Commanded replies arbitrator wire) (clock : CycleClock) :
    Commanded (replies ++ [(arbitrator.arbitrate clock).1]) (arbitrator.arbitrate clock).2
      (wire.record arbitrator (.arbitrate clock)) := by
  obtain ⟨history, logged⟩ := commanded.audited
  have audited := logged.step (.arbitrate clock)
  have recorded : (wire.record arbitrator (.arbitrate clock)).accepted = wire.accepted ++
      (((arbitrator.arbitrate clock).1.sent.bind delivered).map
        SafetyArbitrator.commandEvent).toList := rfl
  refine ⟨audited, fun position send listed => ?_, fun event member => ?_, ?_⟩
  · rw [executed_concat] at listed
    rcases Nat.lt_or_ge position (executed replies).length with old | new
    · rw [List.getElem?_append_left old] at listed
      exact commanded.numbered position send listed
    · rw [List.getElem?_append_right new] at listed
      cases sent : (arbitrator.arbitrate clock).1.sent with
      | none =>
          rw [sent] at listed
          cases listed
      | some last =>
          rw [sent, Option.toList_some, List.getElem?_singleton] at listed
          split at listed
          · next same =>
              cases listed
              have place : position = history.length := by
                rw [logged.length_eq]
                omega
              rw [(arbitrate_sent sent).1, logged.commands, place, BitVec.ofNat_add]
              rfl
          · cases listed
  · rw [recorded] at member
    rcases List.mem_append.1 member with earlier | new
    · exact commanded.genuine event earlier
    · obtain ⟨cmd, handed, rfl⟩ := Option.map_eq_some_iff.1 (Option.mem_toList.1 new)
      obtain ⟨send, sent, answered⟩ := Option.bind_eq_some_iff.1 handed
      have same : send.1 = cmd := by
        unfold delivered at answered
        split at answered
        · exact Option.some.inj answered
        · cases answered
      exact .inl ⟨cmd, same ▸ (arbitrate_sent sent).2, rfl⟩
  · rw [recorded, List.filterMap_append, commanded.commands, acceptedCommands_concat]
    congr 1
    cases sent : (arbitrator.arbitrate clock).1.sent with
    | none => rfl
    | some send =>
        have blank := (arbitrate_sent sent).2
        obtain ⟨cmd, answer⟩ := send
        cases answer with
        | error code => rfl
        | ok done => simp [delivered, eventCommand_commandEvent blank]

theorem Commanded.step (commanded : Commanded replies arbitrator wire) {call : ArbitratorCall}
    (leaves : LeavesCommands call) :
    Commanded (replies ++ [(arbitrator.step call).1]) (arbitrator.step call).2
      (wire.record arbitrator call) := by
  by_cases cycle : call.IsCycle
  · obtain ⟨clock, rfl⟩ := cycle
    exact commanded.arbitrate clock
  · obtain ⟨history, logged⟩ := commanded.audited
    have silent : (arbitrator.step call).1.sent = none := SafetyArbitrator.step_sent_none cycle
    have new_events : ∀ event ∈ acceptedEvent? call (arbitrator.step call).1, ¬ IsCommand event := by
      intro event accepted
      cases call with
      | arbitrate clock => exact absurd ⟨clock, rfl⟩ cycle
      | otherSend other =>
          simp only [acceptedEvent?] at accepted
          split at accepted
          · cases accepted
            exact leaves event rfl
          · cases accepted
      | _ => cases accepted
    refine ⟨logged.step call, fun position send listed => ?_, fun event member => ?_, ?_⟩
    · rw [executed_concat, silent, Option.toList_none, List.append_nil] at listed
      exact commanded.numbered position send listed
    · rcases List.mem_append.1 member with earlier | new
      · exact commanded.genuine event earlier
      · exact .inr (new_events event (Option.mem_toList.1 new))
    · rw [acceptedCommands_concat, silent, Option.bind_none, Option.toList_none, List.append_nil,
        ← commanded.commands, Wire.record, List.filterMap_append]
      cases accepted : acceptedEvent? call (arbitrator.step call).1 with
      | none => simp
      | some event =>
          have unread : eventCommand event = none := if_neg (new_events event accepted)
          simp [unread]

theorem overBridge_inStep (sramBase : IpcRingBuffer) : ∃ bridge ring,
    InStep (SafetyArbitrator.overBridge sramBase) .empty bridge ring [] :=
  ⟨_, _, ⟨rfl, rfl, rfl⟩, Ring.holds_empty _ (by decide : 0 < ipcRingSlots), rfl, rfl,
    fun _ _ impossible => by simp [Wire.empty] at impossible⟩

/-- The runs in question: the supervisor takes one slot at a time, and commands come from the
arbitrator alone. -/
def Supervises (arbitrator : SafetyArbitrator) (call : ArbitratorCall) : Prop :=
  Orderly arbitrator call ∧ LeavesCommands call

/-- What holds of the wire after every such run. -/
def Overseen (replies : List Reply) (current : SafetyArbitrator × Wire) : Prop :=
  Commanded replies current.1 current.2 ∧
    ∃ bridge ring unread, InStep current.1 current.2 bridge ring unread

theorem run_overseen (sramBase : IpcRingBuffer) {calls : List ArbitratorCall}
    (supervises : SafetyArbitrator.machine.EveryStep Supervises (.overBridge sramBase) calls) :
    Overseen (SafetyArbitrator.machine.outputs (.overBridge sramBase) calls)
      (supervised.run (.overBridge sramBase, .empty) calls) := by
  have initial : Overseen [] (.overBridge sramBase, .empty) := by
    obtain ⟨bridge, ring, start⟩ := overBridge_inStep sramBase
    refine ⟨⟨SafetyArbitrator.run_logged _ [], ?_, ?_, rfl⟩, bridge, ring, [], start⟩
    · intro position send listed
      simp [executed] at listed
    · intro event member
      exact absurd member List.not_mem_nil
  have every := (SafetyArbitrator.machine.withGhost_everyStep_iff Wire.record Supervises
    (.overBridge sramBase, .empty) calls).2 supervises
  have preserved : ∀ replies current call, Overseen replies current →
      Supervises current.1 call →
      Overseen (replies ++ [(supervised.step current call).1]) (supervised.step current call).2 := by
    intro replies current call overseen allowed
    obtain ⟨commanded, _, _, _, inStep⟩ := overseen
    exact ⟨commanded.step allowed.2, inStep.step allowed.1⟩
  have reached := supervised.trace_preserves initial preserved every
  rwa [supervised, Machine.withGhost_outputs] at reached

/-- A command the bridge refused. -/
def refused (send : SafeStateCommand × VoidResult) : Bool := (delivered send).isNone

/-- In every run the supervisor decodes, from slots that pass the E2E check under their own
number, the accepted commands in order, all of them once the ring is empty; the number of a
command exceeds its place by one and the commands refused before it. -/
theorem supervisor_sees_every_command (sramBase : IpcRingBuffer) (calls : List ArbitratorCall)
    (supervises : SafetyArbitrator.machine.EveryStep Supervises (.overBridge sramBase) calls) :
    let replies := SafetyArbitrator.machine.outputs (.overBridge sramBase) calls
    let reached := supervised.run (.overBridge sramBase, .empty) calls
    let seen := reached.2.received.filterMap seenCommand
    reached.1 = SafetyArbitrator.machine.run (.overBridge sramBase) calls ∧
      (∀ (position : Nat) (slot : IpcSlot), reached.2.received[position]? = some slot →
        IpcBridge.verifyE2e slot (BitVec.ofNat 8 position) = .ok ()) ∧
      seen <+: acceptedCommands replies ∧
      (∀ bridge ring, reached.1.OnRing bridge ring → ring.tail = ring.head →
        seen = acceptedCommands replies) ∧
      (∀ (place : Nat) (cmd : SafeStateCommand), seen[place]? = some cmd →
        ∃ position, (executed replies)[position]? = some (cmd, .ok ()) ∧
          position = place + ((executed replies).take position).countP refused ∧
          cmd.sequenceNum = BitVec.ofNat 32 (position + 1)) ∧
      ((executed replies).length < 2 ^ 32 →
        seen.Pairwise fun first second => first.sequenceNum < second.sequenceNum) := by
  intro replies reached seen
  obtain ⟨commanded, bridge, ring, unread, inStep⟩ := run_overseen sramBase supervises
  have whole : (reached.2.received ++ unread).filterMap seenCommand = acceptedCommands replies := by
    have slots := inStep.seen commanded.genuine
    have read := congrArg (List.filterMap id) slots
    rw [List.filterMap_map, List.filterMap_map, Function.id_comp, Function.id_comp,
      commanded.commands] at read
    exact read
  have front : seen <+: acceptedCommands replies := by
    rw [← whole, List.filterMap_append]
    exact List.prefix_append _ _
  refine ⟨SafetyArbitrator.machine.withGhost_run_fst _ _ calls, fun position slot listed => ?_,
    front, fun other mapped onRing drained => ?_, fun place cmd listed => ?_, fun bounded => ?_⟩
  · have inside := (List.getElem?_eq_some_iff.1 listed).1
    obtain ⟨event, -, carries⟩ := inStep.carried position slot
      ((List.getElem?_append_left inside).trans listed)
    exact carries.accepted
  · cases inStep.onRing.1.symm.trans onRing.1
    cases inStep.onRing.2.2.symm.trans onRing.2.2
    rw [← whole, inStep.queue.empty_iff.1 drained, List.append_nil]
  · have accepted : (acceptedCommands replies)[place]? = some cmd := by
      obtain ⟨later, split⟩ := front
      rw [← split, List.getElem?_append_left (List.getElem?_eq_some_iff.1 listed).1]
      exact listed
    obtain ⟨position, send, found, handed, counted⟩ := filterMap_position accepted
    obtain ⟨sent, answer⟩ := send
    cases answer with
    | error code => cases handed
    | ok done =>
        cases handed
        exact ⟨position, found, counted, commanded.numbered position _ found⟩
  · have ordered : (executed replies).Pairwise fun first second =>
        first.1.sequenceNum < second.1.sequenceNum := by
      refine List.pairwise_iff_getElem.2 fun early late before after earlier => ?_
      rw [commanded.numbered early _ (List.getElem?_eq_getElem before),
        commanded.numbered late _ (List.getElem?_eq_getElem after), BitVec.lt_def,
        BitVec.toNat_ofNat, BitVec.toNat_ofNat, Nat.mod_eq_of_lt (by omega),
        Nat.mod_eq_of_lt (by omega)]
      omega
    refine List.Pairwise.sublist front.sublist (List.Pairwise.filterMap _ ?_ ordered)
    intro first second smaller early handed late taken
    obtain ⟨cmd, answer⟩ := first
    obtain ⟨other, reply⟩ := second
    cases answer with
    | error code => cases handed
    | ok done =>
        cases reply with
        | error code => cases taken
        | ok finished =>
            cases handed
            cases taken
            exact smaller

open SafetyArbitrator

instance (arbitrator : SafetyArbitrator) (call : ArbitratorCall) :
    Decidable (Supervises arbitrator call) :=
  decidable_of_iff
    ((match call with
      | .consumerStore tail => decide (∃ bridge ∈ arbitrator.ipc, bridge.initialised = true ∧
          ∃ ring ∈ bridge.ring, ring.tail ≠ ring.head ∧ tail = Ring.next ipcRingSlots ring.tail)
      | .otherSend event => decide (¬ IsCommand event)
      | _ => true) = true)
    (by cases call <;> simp [Supervises, Orderly, LeavesCommands, OnRing, and_assoc])

/-- The LiDAR comes back while other traffic fills the ring, and is lost again once the supervisor
has taken a slot: the command in between is refused. -/
def crowdedLidar : List ArbitratorCall :=
  .init 0 0 :: List.replicate 30 (.otherSend {
      serviceId := 1, eventId := 1, sessionId := 0, payloadLen := 0, payload := fun _ => 0 }) ++
    [lidarReport .failed, .arbitrate instantly, lidarReport .nominal, .arbitrate instantly,
      .consumerStore 1, lidarReport .failed, .arbitrate instantly] ++
    (List.range 31).map fun place => .consumerStore ((place + 2) % ipcRingSlots)

theorem crowdedLidar_supervised :
    machine.EveryStep Supervises (overBridge blankSram) crowdedLidar := by decide +kernel

theorem lidarLoss_seen :
    let replies := machine.outputs (overBridge blankSram) crowdedLidar
    let reached := supervised.run (overBridge blankSram, .empty) crowdedLidar
    let seen := reached.2.received.filterMap seenCommand
    (executed replies).map (fun send => send.2.isOk) = [true, false, true] ∧
      seen.map (fun cmd => cmd.sequenceNum) = [1, 3] ∧
      seen <+: acceptedCommands replies ∧
      (∀ (place : Nat) (cmd : SafeStateCommand), seen[place]? = some cmd →
        ∃ position, (executed replies)[position]? = some (cmd, .ok ()) ∧
          position = place + ((executed replies).take position).countP refused ∧
          cmd.sequenceNum = BitVec.ofNat 32 (position + 1)) ∧
      seen.Pairwise fun first second => first.sequenceNum < second.sequenceNum := by
  intro replies reached seen
  obtain ⟨-, -, accepted, -, numbered, ordered⟩ :=
    supervisor_sees_every_command blankSram crowdedLidar crowdedLidar_supervised
  exact ⟨by decide +kernel, by decide +kernel, accepted, numbered, ordered (by decide +kernel)⟩

end Runs

end SoaGateway.Safety
