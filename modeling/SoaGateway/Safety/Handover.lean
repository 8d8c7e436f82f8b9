import SoaGateway.Safety.SilentDomain

/-! The path of a command to the supervisor core: what was handed over, and what a failed
send leaves behind. -/

set_option autoImplicit false

namespace SoaGateway.Safety

open Foundation Ipc

def executed (replies : List Reply) : List (SafeStateCommand × VoidResult) :=
  replies.filterMap Reply.sent

def delivered (send : SafeStateCommand × VoidResult) : Option SafeStateCommand :=
  match send.2 with
  | .ok _ => some send.1
  | .error _ => none

def acceptedCommands (replies : List Reply) : List SafeStateCommand :=
  (executed replies).filterMap delivered

/-- No transition was executed, or the last accepted command carries the current state. -/
def HandedOver (replies : List Reply) (arbitrator : SafetyArbitrator) : Prop :=
  executed replies = [] ∨
    ∃ cmd, (acceptedCommands replies).getLast? = some cmd ∧ cmd.state = arbitrator.currentState

@[simp] theorem executed_concat (replies : List Reply) (reply : Reply) :
    executed (replies ++ [reply]) = executed replies ++ reply.sent.toList := by
  cases sent : reply.sent <;> simp [executed, sent]

@[simp] theorem acceptedCommands_concat (replies : List Reply) (reply : Reply) :
    acceptedCommands (replies ++ [reply]) =
      acceptedCommands replies ++ (reply.sent.bind delivered).toList := by
  cases sent : reply.sent with
  | none => simp [acceptedCommands, sent]
  | some send => cases answer : delivered send <;> simp [acceptedCommands, sent, answer]

theorem handedOver_silent_iff {replies : List Reply} {before after : SafetyArbitrator}
    {reply : Reply} (noSend : reply.sent = none)
    (same : after.currentState = before.currentState) :
    HandedOver (replies ++ [reply]) after ↔ HandedOver replies before := by
  unfold HandedOver
  rw [executed_concat, acceptedCommands_concat, noSend, same]
  simp

theorem handedOver_delivered (replies : List Reply) {after : SafetyArbitrator} {reply : Reply}
    {cmd : SafeStateCommand} (sent : reply.sent = some (cmd, .ok ()))
    (carried : cmd.state = after.currentState) : HandedOver (replies ++ [reply]) after := by
  refine .inr ⟨cmd, ?_, carried⟩
  rw [acceptedCommands_concat, sent]
  simp [delivered]

/-- A failed transition breaks the handover, and silence does not mend it. -/
theorem HandedOver.broken {replies : List Reply} {before after : SafetyArbitrator} {reply : Reply}
    (handed : HandedOver replies before) {send : SafeStateCommand × VoidResult}
    (sent : reply.sent = some send) (lost : delivered send = none)
    (moved : after.currentState ≠ before.currentState) :
    ¬ HandedOver (replies ++ [reply]) after := by
  intro claimed
  cases claimed with
  | inl nothing => simp [sent] at nothing
  | inr last =>
      obtain ⟨cmd, isLast, carries⟩ := last
      rw [acceptedCommands_concat, sent] at isLast
      simp only [Option.bind_some, lost, Option.toList_none, List.append_nil] at isLast
      cases handed with
      | inl nothing => simp [acceptedCommands, nothing] at isLast
      | inr kept =>
          obtain ⟨earlier, wasLast, carried⟩ := kept
          rw [wasLast] at isLast
          cases isLast
          exact moved (carries.symm.trans carried)

namespace SafetyArbitrator

variable {arbitrator : SafetyArbitrator}

def OnRing (arbitrator : SafetyArbitrator) (bridge : IpcBridge) (ring : IpcRingBuffer) : Prop :=
  arbitrator.ipc = some bridge ∧ bridge.initialised = true ∧ bridge.ring = some ring

def RingRoom (arbitrator : SafetyArbitrator) : Prop :=
  ∃ bridge ring, arbitrator.ipc = some bridge ∧ bridge.ring = some ring ∧
    IpcBridge.nextHead ring.head ≠ ring.tail

theorem send_onRing {bridge : IpcBridge} {ring : IpcRingBuffer} (ready : bridge.initialised = true)
    (attached : bridge.ring = some ring) (event : SoaEvent) :
    (bridge.send event).2.initialised = true ∧ ∃ after, (bridge.send event).2.ring = some after := by
  unfold IpcBridge.send
  cases checked : bridge.sendCheck event with
  | error code => exact ⟨ready, ring, attached⟩
  | ok head =>
      simp only [IpcBridge.storeHead, IpcBridge.writeSlot, attached, Option.map_some]
      exact ⟨ready, _, rfl⟩

/-- A command always fits its slot, so only a full ring can refuse it. -/
theorem send_command_ok_iff {bridge : IpcBridge} {ring : IpcRingBuffer}
    (onRing : arbitrator.OnRing bridge ring) (cmd : SafeStateCommand) :
    (bridge.send (commandEvent cmd)).1 = .ok () ↔ arbitrator.RingRoom := by
  obtain ⟨attached, ready, mapped⟩ := onRing
  have fits : (commandEvent cmd).payloadLen.toNat ≤ ipcPayloadBytes :=
    (by decide : (24#8).toNat ≤ ipcPayloadBytes)
  unfold IpcBridge.send
  constructor
  · intro accepted
    cases checked : bridge.sendCheck (commandEvent cmd) with
    | error code => simp [checked] at accepted
    | ok head =>
        obtain ⟨-, found, same, rfl, -, room⟩ := IpcBridge.sendCheck_ok_iff.1 checked
        exact ⟨bridge, found, attached, same, room⟩
  · intro handed
    obtain ⟨other, found, attached', same, room⟩ := handed
    cases attached.symm.trans attached'
    have passed := IpcBridge.sendCheck_ok_iff.2 ⟨ready, found, same, rfl, fits, room⟩
    rw [passed]

/-- What a due cycle over a bridge answers and leaves behind: it commits the required state,
and the command is delivered exactly when the ring has room. -/
structure DueOutcome (before : SafetyArbitrator) (clock : CycleClock)
    (outcome : Reply × SafetyArbitrator) (cmd : SafeStateCommand) (answer : VoidResult) :
    Prop where
  sent : outcome.1.sent = some (cmd, answer)
  carried : cmd.state = outcome.2.currentState
  committed : outcome.2.currentState = (before.observe clock.scanMs).computeRequiredState
  delivers : answer = .ok () ↔ before.RingRoom
  accepted : outcome.1.result = .ok () → before.RingRoom
  refused : outcome.1.result = .error .e2eViolation ↔
    clock.latencyMs ≤ safeStateTransitionMs ∧ ¬ before.RingRoom
  attached : ∃ bridge ring, outcome.2.OnRing bridge ring

theorem arbitrate_due_outcome {bridge : IpcBridge} {ring : IpcRingBuffer}
    (onRing : arbitrator.OnRing bridge ring) {clock : CycleClock} (due : arbitrator.Due clock) :
    ∃ cmd answer, arbitrator.DueOutcome clock (arbitrator.arbitrate clock) cmd answer := by
  rw [arbitrate_due due]
  have attached : (arbitrator.observe clock.scanMs).ipc = some bridge := onRing.1
  obtain ⟨sent, ipc, accepted, refused⟩ := executeTransition_sends attached
    (arbitrator.observe clock.scanMs).computeRequiredState clock
  have state := (executeTransition_commits (arbitrator.observe clock.scanMs)
    (arbitrator.observe clock.scanMs).computeRequiredState clock).currentState
  have room := send_command_ok_iff onRing ((arbitrator.observe clock.scanMs).buildCommand
    (arbitrator.observe clock.scanMs).computeRequiredState)
  obtain ⟨ready, after, mapped⟩ := send_onRing onRing.2.1 onRing.2.2 (commandEvent
    ((arbitrator.observe clock.scanMs).buildCommand
      (arbitrator.observe clock.scanMs).computeRequiredState))
  refine ⟨_, _, sent, state.symm, state, room, fun ok => room.1 (accepted ok), ?_, ?_⟩
  · rw [refused, ← room]
  · exact ⟨_, after, ipc, ready, mapped⟩

theorem step_onRing {bridge : IpcBridge} {ring : IpcRingBuffer}
    (onRing : arbitrator.OnRing bridge ring) (call : ArbitratorCall) :
    ∃ bridge ring, (arbitrator.step call).2.OnRing bridge ring := by
  by_cases cycle : call.IsCycle
  · obtain ⟨clock, rfl⟩ := cycle
    cases ready : arbitrator.initialised with
    | false =>
        rw [show arbitrator.step (.arbitrate clock) = _ from arbitrate_uninitialised ready]
        exact ⟨bridge, ring, onRing⟩
    | true =>
        by_cases due : arbitrator.Due clock
        · obtain ⟨_, _, outcome⟩ := arbitrate_due_outcome onRing due
          exact outcome.attached
        · rw [show arbitrator.step (.arbitrate clock) = _ from arbitrate_not_due ready due]
          exact ⟨bridge, ring, onRing⟩
  · by_cases traffic : call.IsTraffic
    · obtain ⟨event, rfl⟩ | ⟨tail, rfl⟩ := traffic
      · obtain ⟨ready, after, mapped⟩ := send_onRing onRing.2.1 onRing.2.2 event
        simp only [step, otherSend, onRing.1]
        exact ⟨_, after, rfl, ready, mapped⟩
      · simp only [step, consumerStore, onRing.1, onRing.2.2, Option.map_some]
        exact ⟨_, _, rfl, onRing.2.1, rfl⟩
    · by_cases first : call.IsInit
      · obtain ⟨mandatoryDomains, nowMs, rfl⟩ := first
        simp only [step, init]
        split
        · exact ⟨bridge, ring, onRing⟩
        · split
          · exact ⟨bridge, ring, onRing⟩
          · exact ⟨bridge, ring, onRing⟩
      · obtain ⟨domains, listeners, same⟩ := step_local arbitrator cycle first traffic
        rw [same]
        exact ⟨bridge, ring, onRing⟩

theorem step_sent_none {call : ArbitratorCall} (noCycle : ¬ call.IsCycle) :
    (arbitrator.step call).1.sent = none := by
  cases call with
  | arbitrate clock => exact absurd ⟨clock, rfl⟩ noCycle
  | _ => rfl

def Attached (arbitrator : SafetyArbitrator) : Prop :=
  ∃ bridge ring, arbitrator.OnRing bridge ring

theorem run_attached (sramBase : IpcRingBuffer) (calls : List ArbitratorCall) :
    (machine.run (overBridge sramBase) calls).Attached := by
  have initial : (overBridge sramBase).Attached := ⟨_, _, rfl, rfl, rfl⟩
  refine machine.run_preserves initial (fun current call attached => ?_) calls
  obtain ⟨bridge, ring, onRing⟩ := attached
  exact step_onRing onRing call

/-- A call that is a cycle finds no transition due, or a ring with room. -/
def Sendable (arbitrator : SafetyArbitrator) (call : ArbitratorCall) : Prop :=
  ∀ clock, call = .arbitrate clock → arbitrator.Due clock → arbitrator.RingRoom

structure Settled (replies : List Reply) (arbitrator : SafetyArbitrator) : Prop where
  handed : HandedOver replies arbitrator
  fresh : arbitrator.initialised = false → executed replies = []
  attached : arbitrator.Attached

theorem overBridge_settled (sramBase : IpcRingBuffer) : Settled [] (overBridge sramBase) where
  handed := .inl rfl
  fresh _ := rfl
  attached := ⟨_, _, rfl, rfl, rfl⟩

theorem Settled.step {replies : List Reply} (settled : Settled replies arbitrator)
    {call : ArbitratorCall} (sendable : arbitrator.Sendable call) :
    Settled (replies ++ [(arbitrator.step call).1]) (arbitrator.step call).2 := by
  obtain ⟨bridge, ring, onRing⟩ := settled.attached
  have attached := step_onRing onRing call
  cases ready : arbitrator.initialised with
  | false =>
      have noSend : (arbitrator.step call).1.sent = none := by
        by_cases cycle : call.IsCycle
        · obtain ⟨clock, rfl⟩ := cycle
          rw [show arbitrator.step (.arbitrate clock) = _ from arbitrate_uninitialised ready]
          rfl
        · exact step_sent_none cycle
      have nothing : executed (replies ++ [(arbitrator.step call).1]) = [] := by
        rw [executed_concat, settled.fresh ready, noSend]
        rfl
      exact ⟨.inl nothing, fun _ => nothing, attached⟩
  | true =>
      have kept := step_initialised ready call
      refine ⟨?_, fun unready => absurd (kept.symm.trans unready) (by decide), attached⟩
      by_cases cycle : call.IsCycle
      · obtain ⟨clock, rfl⟩ := cycle
        by_cases due : arbitrator.Due clock
        · obtain ⟨cmd, answer, outcome⟩ := arbitrate_due_outcome onRing due
          have accepted := outcome.delivers.2 (sendable clock rfl due)
          subst accepted
          exact handedOver_delivered replies outcome.sent outcome.carried
        · rw [show arbitrator.step (.arbitrate clock) = _ from arbitrate_not_due ready due]
          exact (handedOver_silent_iff rfl rfl).2 settled.handed
      · have same := (step_sameView ready cycle).currentState
        exact (handedOver_silent_iff (step_sent_none cycle) same).2 settled.handed

theorem run_settled (sramBase : IpcRingBuffer) {calls : List ArbitratorCall}
    (sendable : machine.EveryStep Sendable (overBridge sramBase) calls) :
    Settled (machine.outputs (overBridge sramBase) calls)
      (machine.run (overBridge sramBase) calls) :=
  machine.trace_preserves (overBridge_settled sramBase)
    (fun _ _ _ settled sendable => settled.step sendable) sendable

theorem computeRequiredState_congr {first second : SafetyArbitrator}
    (faults : first.faultBitmask = second.faultBitmask)
    (mask : first.mandatoryMask = second.mandatoryMask)
    (domains : first.domains = second.domains) :
    first.computeRequiredState = second.computeRequiredState := by
  cases first
  cases second
  cases faults
  cases mask
  cases domains
  rfl

theorem chosenState_congr {first second : SafetyArbitrator} (domains : first.domains = second.domains)
    (mask : first.mandatoryMask = second.mandatoryMask) :
    first.chosenState = second.chosenState :=
  computeRequiredState_congr (healthMask_congr domains .failed) mask domains

theorem not_due_again (ready : arbitrator.initialised = true) {clock : CycleClock}
    (due : arbitrator.Due clock) : ¬ (arbitrator.arbitrate clock).2.Due clock := by
  have settles := arbitrate_settles ready clock
  intro again
  refine again.changed ?_
  rw [settles.currentState due.unlatched]
  refine chosenState_congr ?_ settles.mandatoryMask
  funext index
  have same := congrFun settles.domains index
  calc ((arbitrator.arbitrate clock).2.domains index).scan clock.scanMs
      = ((arbitrator.domains index).scan clock.scanMs).scan clock.scanMs := by rw [same]; rfl
    _ = (arbitrator.domains index).scan clock.scanMs := DomainState.scan_scan

/-- A cycle that meets a full ring commits a state nobody was told, and the next cycle
at the same instant returns `Ok` over it. -/
theorem Settled.lost {replies : List Reply} (settled : Settled replies arbitrator)
    {clock : CycleClock} (due : arbitrator.Due clock) (full : ¬ arbitrator.RingRoom) :
    let outcome := arbitrator.arbitrate clock
    ¬ HandedOver (replies ++ [outcome.1]) outcome.2 ∧
      outcome.2.arbitrate clock = (.plain (.ok ()), outcome.2.observe clock.scanMs) := by
  obtain ⟨bridge, ring, onRing⟩ := settled.attached
  obtain ⟨cmd, answer, effect⟩ := arbitrate_due_outcome onRing due
  have lost : delivered (cmd, answer) = none := by
    cases answer with
    | error code => rfl
    | ok value => exact absurd (effect.delivers.1 rfl) full
  have moved : (arbitrator.arbitrate clock).2.currentState ≠ arbitrator.currentState := by
    rw [effect.committed]
    exact due.changed
  have ready := (arbitrate_settles due.initialised clock).initialised
  exact ⟨settled.handed.broken effect.sent lost moved,
    arbitrate_not_due ready (not_due_again due.initialised due)⟩

/-- Whenever a cycle at the end of a prefix of the run returns `Ok`, the committed state
has been handed over. -/
def OkMeansHandedOver (start : SafetyArbitrator) (calls : List ArbitratorCall) : Prop :=
  ∀ front clock, front <+: calls →
    ((machine.run start front).arbitrate clock).1.result = .ok () →
    HandedOver (machine.outputs start (front ++ [.arbitrate clock]))
      (machine.run start (front ++ [.arbitrate clock]))

theorem ok_means_handed_over_iff (sramBase : IpcRingBuffer) (calls : List ArbitratorCall) :
    OkMeansHandedOver (overBridge sramBase) calls ↔
      machine.EveryStep Sendable (overBridge sramBase) calls := by
  constructor
  · intro handed
    by_contra failed
    obtain ⟨before, call, after, rfl, every, broken⟩ := machine.exists_first_failure failed
    unfold Sendable at broken
    push Not at broken
    obtain ⟨clock, rfl, due, full⟩ := broken
    obtain ⟨unsent, idle⟩ := (run_settled sramBase every).lost due full
    have reached : machine.run (overBridge sramBase) (before ++ [.arbitrate clock]) =
        ((machine.run (overBridge sramBase) before).arbitrate clock).2 :=
      machine.run_concat _ _ _
    have accepted : ((machine.run (overBridge sramBase)
        (before ++ [.arbitrate clock])).arbitrate clock).1.result = .ok () := by
      rw [reached, idle]
      rfl
    have claimed := handed (before ++ [.arbitrate clock]) clock ⟨after, by simp⟩ accepted
    have silent : machine.step ((machine.run (overBridge sramBase) before).arbitrate clock).2
        (.arbitrate clock) = _ := idle
    have moved := machine.run_concat (overBridge sramBase) (before ++ [.arbitrate clock])
      (.arbitrate clock)
    rw [machine.outputs_concat, moved, reached, silent, handedOver_silent_iff rfl rfl,
      machine.outputs_concat] at claimed
    exact unsent claimed
  · intro every front clock isPrefix accepted
    have settled := run_settled sramBase (machine.everyStep_prefix every isPrefix)
    obtain ⟨bridge, ring, onRing⟩ := settled.attached
    rw [machine.outputs_concat, machine.run_concat]
    refine (settled.step fun other same due => ?_).handed
    cases same
    obtain ⟨_, _, outcome⟩ := arbitrate_due_outcome onRing due
    exact outcome.accepted accepted

def otherEvent : SoaEvent where
  serviceId := 1
  eventId := 1
  sessionId := 0
  payloadLen := 0
  payload _ := 0

/-- Other traffic fills the undrained ring before the LiDAR fails. -/
def fullRingLoss : List ArbitratorCall :=
  .init 0 0 :: List.replicate 31 (.otherSend otherEvent) ++
    [.injectFault .lidar .failed 0 0 0]

def zeroClock : CycleClock := { scanMs := 0, startMs := 0, endMs := 0, logMs := 0 }

/-- The failed send is followed by an `Ok` cycle, with no command ever accepted. -/
theorem full_ring_ok_unsent :
    let before := machine.run (overBridge blankSram) (fullRingLoss ++ [.arbitrate zeroClock])
    let replies := machine.outputs (overBridge blankSram)
      (fullRingLoss ++ [.arbitrate zeroClock] ++ [.arbitrate zeroClock])
    (before.arbitrate zeroClock).1.result = .ok () ∧
      ¬ HandedOver replies (before.arbitrate zeroClock).2 := by
  refine ⟨by decide +kernel, fun handed => ?_⟩
  have sent : (executed (machine.outputs (overBridge blankSram)
      (fullRingLoss ++ [.arbitrate zeroClock] ++ [.arbitrate zeroClock]))).length = 1 := by
    decide +kernel
  have accepted : (acceptedCommands (machine.outputs (overBridge blankSram)
      (fullRingLoss ++ [.arbitrate zeroClock] ++ [.arbitrate zeroClock]))).length = 0 := by
    decide +kernel
  cases handed with
  | inl nothing =>
      rw [nothing] at sent
      cases sent
  | inr last =>
      obtain ⟨cmd, isLast, -⟩ := last
      rw [List.length_eq_zero_iff.1 accepted] at isLast
      cases isLast

def Unlatched (arbitrator : SafetyArbitrator) : Prop := arbitrator.currentState ≠ .emergencyStop

theorem run_unlatched (ipc : Option IpcBridge) (calls : List ArbitratorCall) :
    (machine.run (construct ipc) calls).Unlatched := by
  have initial : (construct ipc).Unlatched := (by decide : SafeState.fullOperation ≠ .emergencyStop)
  refine machine.run_preserves initial (fun current call unlatched => ?_) calls
  cases ready : current.initialised with
  | true => exact step_ne_emergencyStop ready unlatched call
  | false =>
      obtain same | ⟨-, -, full⟩ := step_uninitialised ready call
      · exact fun stopped => unlatched (same.currentState.symm.trans stopped)
      · exact fun stopped => absurd (full.symm.trans stopped) (by decide)

def Stopped (arbitrator : SafetyArbitrator) : Prop :=
  arbitrator.initialised = true ∧ arbitrator.currentState = .emergencyStop

/-- Once stopped, always stopped: no call leaves a latched emergency stop. -/
theorem emergencyStop_latched (stopped : arbitrator.Stopped) (calls : List ArbitratorCall) :
    (machine.run arbitrator calls).Stopped := by
  refine machine.run_preserves stopped (fun current call holds => ?_) calls
  obtain ⟨ready, state⟩ := holds
  refine ⟨step_initialised ready call, ?_⟩
  by_cases cycle : call.IsCycle
  · obtain ⟨clock, rfl⟩ := cycle
    have quiet : ¬ current.Due clock := fun due => due.unlatched state
    rw [show machine.step current (.arbitrate clock) = _ from arbitrate_not_due ready quiet]
    exact state
  · exact (step_sameView ready cycle).currentState.trans state

/-- The next cycle after a reported E2E violation, and everything later, finds the
emergency stop with no speed left. -/
def ViolationStops (start : SafetyArbitrator) (calls : List ArbitratorCall) : Prop :=
  ∀ front clock rest, front ++ .arbitrate clock :: rest <+: calls →
    ((machine.run start front).arbitrate clock).1.result = .error .e2eViolation →
    (∃ call ∈ rest, call.IsCycle) →
    let reached := machine.run start (front ++ .arbitrate clock :: rest)
    reached.currentState = .emergencyStop ∧ reached.lastCommand.maxSpeedKph = .ofFraction 0 1

/-- A cycle that has to move, in time, over a full ring. -/
structure Refused (arbitrator : SafetyArbitrator) (clock : CycleClock) : Prop where
  due : arbitrator.Due clock
  full : ¬ arbitrator.RingRoom
  inTime : clock.latencyMs ≤ safeStateTransitionMs

theorem e2eViolation_iff {bridge : IpcBridge} {ring : IpcRingBuffer}
    (onRing : arbitrator.OnRing bridge ring) (clock : CycleClock) :
    (arbitrator.arbitrate clock).1.result = .error .e2eViolation ↔ arbitrator.Refused clock := by
  by_cases due : arbitrator.Due clock
  · obtain ⟨_, _, outcome⟩ := arbitrate_due_outcome onRing due
    rw [outcome.refused]
    exact ⟨fun both => ⟨due, both.2, both.1⟩, fun both => ⟨both.inTime, both.full⟩⟩
  · refine iff_of_false ?_ fun refused => due refused.due
    cases ready : arbitrator.initialised with
    | false => simp [arbitrate_uninitialised ready, Reply.plain]
    | true => simp [arbitrate_not_due ready due, Reply.plain]

theorem violation_stops_iff (sramBase : IpcRingBuffer) (calls : List ArbitratorCall) :
    ViolationStops (overBridge sramBase) calls ↔
      ∀ front clock rest, calls = front ++ .arbitrate clock :: rest →
        (∃ call ∈ rest, call.IsCycle) →
        ¬ (machine.run (overBridge sramBase) front).Refused clock := by
  constructor
  · intro stops front clock rest split later refused
    obtain ⟨bridge, ring, onRing⟩ := run_attached sramBase front
    have violated := (e2eViolation_iff onRing clock).2 refused
    obtain ⟨stopped, -⟩ := stops front clock rest (split ▸ List.prefix_rfl) violated later
    exact run_unlatched _ _ stopped
  · intro never front clock rest isPrefix violated later
    obtain ⟨bridge, ring, onRing⟩ := run_attached sramBase front
    have refused := (e2eViolation_iff onRing clock).1 violated
    obtain ⟨more, split⟩ := isPrefix
    obtain ⟨call, member, cycle⟩ := later
    have later : ∃ call ∈ rest ++ more, call.IsCycle :=
      ⟨call, List.mem_append_left more member, cycle⟩
    exact absurd refused (never front clock (rest ++ more) (by simp [← split]) later)

/-- Two cycles over a full ring: a violation, and then only a fallback. -/
theorem full_ring_never_stops :
    ((machine.run (overBridge blankSram) fullRingLoss).arbitrate zeroClock).1.result =
        .error .e2eViolation ∧
      (machine.run (overBridge blankSram)
        (fullRingLoss ++ [.arbitrate zeroClock, .arbitrate zeroClock])).currentState =
        .radarCameraFallback ∧
      ¬ ViolationStops (overBridge blankSram)
        (fullRingLoss ++ [.arbitrate zeroClock, .arbitrate zeroClock]) := by
  have violated : ((machine.run (overBridge blankSram) fullRingLoss).arbitrate zeroClock).1.result =
      .error .e2eViolation := by decide +kernel
  have fallback : (machine.run (overBridge blankSram)
      (fullRingLoss ++ [.arbitrate zeroClock, .arbitrate zeroClock])).currentState =
        .radarCameraFallback := by decide +kernel
  refine ⟨violated, fallback, fun stops => ?_⟩
  obtain ⟨stopped, -⟩ := stops fullRingLoss zeroClock [.arbitrate zeroClock] List.prefix_rfl violated
    ⟨_, List.mem_singleton_self _, zeroClock, rfl⟩
  exact absurd (fallback.symm.trans stopped) (by decide)

end SafetyArbitrator

end SoaGateway.Safety
