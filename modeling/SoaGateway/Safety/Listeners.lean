import SoaGateway.Safety.Envelope
import SoaGateway.Safety.SupervisorView

/-! The safe state listeners over a run. The table is only appended to, so a listener keeps
the place it was registered at, and hears every command executed from then on. -/

set_option autoImplicit false

namespace SoaGateway.Safety

open Foundation Ipc

/-- The calls made to the listener at one place of the table, oldest first. -/
def heard (place : Nat) (replies : List Reply) : List (SafeStateListener × SafeStateCommand) :=
  replies.filterMap fun reply => reply.notified[place]?

@[simp] theorem heard_concat (place : Nat) (replies : List Reply) (reply : Reply) :
    heard place (replies ++ [reply]) = heard place replies ++ reply.notified[place]?.toList := by
  cases called : reply.notified[place]? <;> simp [heard, called]

/-- A command as it was sent, before its latency was measured. -/
def SafeStateCommand.unmeasured (cmd : SafeStateCommand) : SafeStateCommand :=
  { cmd with transitionMs := 0 }

/-- The command a cycle executes, as it is shown: as it was sent, with the latency that the clock
of the cycle gives. -/
def measured? : ArbitratorCall × Reply → Option SafeStateCommand
  | (.arbitrate clock, reply) =>
      reply.sent.map fun sent => { sent.1 with transitionMs := clock.latencyMs }
  | _ => none

namespace SafetyArbitrator

variable {arbitrator : SafetyArbitrator}

/-- Once initialised, the listener table only grows, at its end. -/
theorem step_listeners (ready : arbitrator.initialised = true) (call : ArbitratorCall) :
    ∃ joined, (arbitrator.step call).2.listeners = arbitrator.listeners ++ joined := by
  cases call with
  | init mandatoryDomains nowMs =>
      exact ⟨[], by simp [step, init_initialised ready mandatoryDomains nowMs]⟩
  | registerListener listener =>
      cases listener with
      | none => exact ⟨[], by simp [step, registerListener, ready]⟩
      | some address =>
          simp only [step, registerListener, ready, Bool.not_true, Bool.false_eq_true, ↓reduceIte]
          split
          · exact ⟨[], (List.append_nil _).symm⟩
          · exact ⟨[address], rfl⟩
  | ingestFault fault nowMs =>
      obtain ⟨domains, same⟩ := ingestFault_local arbitrator fault nowMs
      exact ⟨[], by simp [step, same]⟩
  | injectFault domain health dtcCode stampMs nowMs =>
      obtain ⟨domains, same⟩ := ingestFault_local arbitrator
        ⟨domain, health, BitVec.ofNat 32 stampMs, dtcCode⟩ nowMs
      exact ⟨[], by simp [step, injectFault, same]⟩
  | ingestSoaEvent event nowMs =>
      simp only [step, ingestSoaEvent, ready, Bool.not_true, Bool.false_eq_true, ↓reduceIte]
      split
      · exact ⟨[], (List.append_nil _).symm⟩
      · obtain ⟨domains, same⟩ := ingestFault_local arbitrator (decodeFault event) nowMs
        exact ⟨[], by simp [same]⟩
  | recordHeartbeat domain nowMs =>
      obtain ⟨domains, same⟩ := recordHeartbeat_local arbitrator domain nowMs
      exact ⟨[], by simp [step, same]⟩
  | arbitrate clock =>
      refine ⟨[], ?_⟩
      rw [List.append_nil]
      by_cases due : arbitrator.Due clock
      · rw [show arbitrator.step (.arbitrate clock) = _ from arbitrate_due due]
        unfold executeTransition sendCommandToM7
        split <;> rfl
      · rw [show arbitrator.step (.arbitrate clock) = _ from arbitrate_not_due ready due]
        rfl
  | otherSend event =>
      refine ⟨[], ?_⟩
      simp only [step, otherSend, List.append_nil]
      split <;> rfl
  | consumerStore tail => exact ⟨[], (List.append_nil _).symm⟩

theorem step_sameLog (ready : arbitrator.initialised = true) {call : ArbitratorCall}
    (noCycle : ¬ call.IsCycle) : arbitrator.SameLog (arbitrator.step call).2 := by
  by_cases again : call.IsInit
  · obtain ⟨mandatoryDomains, nowMs, rfl⟩ := again
    rw [show (arbitrator.step (.init mandatoryDomains nowMs)).2 = arbitrator from
      init_initialised ready mandatoryDomains nowMs]
    exact .refl _
  · exact ordinary_sameLog noCycle again

/-- What the listener at a place has been told since it joined. -/
structure Hears (place : Nat) (address : SafeStateListener) (joined : SafetyArbitrator)
    (replies : List Reply) (reached : SafetyArbitrator) : Prop where
  initialised : reached.initialised = true
  listed : reached.listeners[place]? = some address
  addressed : ∀ told ∈ heard place replies, told.1 = address
  sent : (heard place replies).map (fun told => told.2.unmeasured) =
    (executed replies).map Prod.fst
  counter : reached.sequenceNum =
    joined.sequenceNum + BitVec.ofNat 32 (heard place replies).length
  numbered : ∀ (position : Nat) (told : SafeStateListener × SafeStateCommand),
    (heard place replies)[position]? = some told →
      told.2.sequenceNum = joined.sequenceNum + BitVec.ofNat 32 (position + 1)
  latest : reached.lastCommand =
    ((heard place replies).getLast?.map Prod.snd).getD joined.lastCommand

variable {place : Nat} {address : SafeStateListener} {joined : SafetyArbitrator}
  {replies : List Reply}

/-- A call without a transition tells nobody anything. -/
theorem Hears.silent (hears : Hears place address joined replies arbitrator)
    {reply : Reply} {after : SafetyArbitrator} (quiet : reply.notified = [])
    (noSend : reply.sent = none) (ready : after.initialised = true)
    (listed : after.listeners[place]? = some address)
    (counter : after.sequenceNum = arbitrator.sequenceNum)
    (last : after.lastCommand = arbitrator.lastCommand) :
    Hears place address joined (replies ++ [reply]) after := by
  have same : heard place (replies ++ [reply]) = heard place replies := by simp [quiet]
  have sent : executed (replies ++ [reply]) = executed replies := by simp [noSend]
  refine ⟨ready, listed, ?_, ?_, ?_, ?_, ?_⟩
  · rw [same]
    exact hears.addressed
  · rw [same, sent]
    exact hears.sent
  · rw [same, counter]
    exact hears.counter
  · rw [same]
    exact hears.numbered
  · rw [same, last]
    exact hears.latest

theorem Hears.executeTransition (hears : Hears place address joined replies arbitrator)
    (target : SafeState) (clock : CycleClock) :
    let outcome := arbitrator.executeTransition target clock
    outcome.2.listeners[place]? = some address →
      Hears place address joined (replies ++ [outcome.1]) outcome.2 := by
  intro outcome listed
  obtain ⟨last, notified⟩ := executeTransition_copies arbitrator target clock
  obtain ⟨answer, sent⟩ := executeTransition_sent arbitrator target clock
  obtain ⟨-, -, -, -, counter, lastNumber⟩ := executeTransition_logs arbitrator target clock
  have told : outcome.1.notified[place]? = some (address, outcome.2.lastCommand) := by
    rw [notified, List.getElem?_map, hears.listed]
    rfl
  have grown : heard place (replies ++ [outcome.1]) =
      heard place replies ++ [(address, outcome.2.lastCommand)] := by
    rw [heard_concat, told]
    rfl
  have executedNow : executed (replies ++ [outcome.1]) =
      executed replies ++ [(arbitrator.buildCommand target, answer)] := by
    rw [executed_concat, sent]
    rfl
  have next : arbitrator.sequenceNum + 1 =
      joined.sequenceNum + BitVec.ofNat 32 ((heard place replies).length + 1) := by
    rw [hears.counter, BitVec.ofNat_add, BitVec.add_assoc]
    rfl
  refine ⟨(executeTransition_commits arbitrator target clock).initialised.trans hears.initialised,
    listed, fun told member => ?_, ?_, ?_, fun position told found => ?_, ?_⟩
  · rw [grown] at member
    rcases List.mem_append.1 member with earlier | new
    · exact hears.addressed told earlier
    · rw [List.mem_singleton.1 new]
  · rw [grown, executedNow, List.map_append, List.map_append, hears.sent, List.map_singleton,
      List.map_singleton, last]
    rfl
  · rw [grown, List.length_append, counter, next]
    rfl
  · rw [grown] at found
    rcases Nat.lt_or_ge position (heard place replies).length with old | new
    · rw [List.getElem?_append_left old] at found
      exact hears.numbered position told found
    · rw [List.getElem?_append_right new, List.getElem?_singleton] at found
      split at found
      · next same =>
          cases found
          have here : position = (heard place replies).length :=
            Nat.le_antisymm (Nat.sub_eq_zero_iff_le.1 same) new
          rw [here, lastNumber, next]
      · cases found
  · rw [grown, List.getLast?_concat]
    rfl

theorem Hears.step (hears : Hears place address joined replies arbitrator)
    (call : ArbitratorCall) :
    Hears place address joined (replies ++ [(arbitrator.step call).1]) (arbitrator.step call).2 := by
  have ready := step_initialised hears.initialised call
  have listed : (arbitrator.step call).2.listeners[place]? = some address := by
    obtain ⟨new, grown⟩ := step_listeners hears.initialised call
    obtain ⟨inside, -⟩ := List.getElem?_eq_some_iff.1 hears.listed
    rw [grown, List.getElem?_append_left inside, hears.listed]
  by_cases cycle : call.IsCycle
  · obtain ⟨clock, rfl⟩ := cycle
    have outcome : arbitrator.step (.arbitrate clock) = arbitrator.arbitrate clock := rfl
    by_cases due : arbitrator.Due clock
    · rw [outcome, arbitrate_due due] at listed ⊢
      have observed : Hears place address joined replies (arbitrator.observe clock.scanMs) :=
        ⟨hears.initialised, hears.listed, hears.addressed, hears.sent, hears.counter,
          hears.numbered, hears.latest⟩
      exact observed.executeTransition _ clock listed
    · rw [outcome, arbitrate_not_due hears.initialised due] at ready listed ⊢
      exact hears.silent rfl rfl ready listed rfl rfl
  · have same := step_sameLog hears.initialised cycle
    exact hears.silent (step_notified_nil cycle) (step_sent_none cycle) ready listed
      same.sequenceNum same.lastCommand

/-- A registered listener is told what a step executes, latency included. -/
theorem step_measured (ready : arbitrator.initialised = true)
    (listed : arbitrator.listeners[place]? = some address) (call : ArbitratorCall) :
    (arbitrator.step call).1.notified[place]?.map Prod.snd =
      measured? (call, (arbitrator.step call).1) := by
  by_cases cycle : call.IsCycle
  · obtain ⟨clock, rfl⟩ := cycle
    have outcome : arbitrator.step (.arbitrate clock) = arbitrator.arbitrate clock := rfl
    by_cases due : arbitrator.Due clock
    · let observed := arbitrator.observe clock.scanMs
      obtain ⟨last, notified⟩ :=
        executeTransition_copies observed observed.computeRequiredState clock
      obtain ⟨answer, sent⟩ := executeTransition_sent observed observed.computeRequiredState clock
      have stays : observed.listeners[place]? = some address := listed
      rw [outcome, arbitrate_due due, measured?, notified, sent, List.getElem?_map, stays, last]
      rfl
    · rw [outcome, arbitrate_not_due ready due]
      rfl
  · rw [step_notified_nil cycle]
    cases call with
    | arbitrate clock => exact absurd ⟨clock, rfl⟩ cycle
    | _ => rfl

theorem heard_measured (start : Hears place address joined [] joined)
    (later : List ArbitratorCall) :
    (heard place (machine.outputs joined later)).map Prod.snd =
      (machine.trace joined later).filterMap measured? := by
  induction later using List.reverseRecOn with
  | nil => rfl
  | append_singleton later call ih =>
      have hears := machine.trace_invariant start (fun _ _ call told => told.step call) later
      let reply := (machine.step (machine.run joined later) call).1
      have told : reply.notified[place]?.map Prod.snd = measured? (call, reply) :=
        step_measured hears.initialised hears.listed call
      rw [machine.outputs_concat, machine.trace_concat, heard_concat, List.map_append, ih,
        List.filterMap_append]
      congr 1
      change reply.notified[place]?.toList.map Prod.snd = [(call, reply)].filterMap measured?
      rw [← Option.toList_map, told, List.filterMap_cons, List.filterMap_nil]
      cases measured? (call, reply) <;> rfl

/-- Nobody has been called at a place the table has not reached. -/
structure Unreached (replies : List Reply) (reached : SafetyArbitrator) : Prop where
  unopened : reached.initialised = false → reached.listeners = []
  within : ∀ reply ∈ replies, reply.notified.length ≤ reached.listeners.length

theorem arbitrate_notified_length (ready : arbitrator.initialised = true) (clock : CycleClock) :
    (arbitrator.arbitrate clock).1.notified.length ≤ arbitrator.listeners.length := by
  by_cases due : arbitrator.Due clock
  · obtain ⟨-, notified⟩ := executeTransition_copies (arbitrator.observe clock.scanMs)
      (arbitrator.observe clock.scanMs).computeRequiredState clock
    rw [arbitrate_due due, notified, List.length_map]
    exact le_refl _
  · rw [arbitrate_not_due ready due]
    exact Nat.zero_le _

theorem Unreached.step (unreached : Unreached replies arbitrator) (call : ArbitratorCall) :
    Unreached (replies ++ [(arbitrator.step call).1]) (arbitrator.step call).2 := by
  cases ready : arbitrator.initialised with
  | true =>
      obtain ⟨new, grown⟩ := step_listeners ready call
      have kept := step_initialised ready call
      refine ⟨fun unready => absurd (kept.symm.trans unready) (by decide), fun reply member => ?_⟩
      rw [grown, List.length_append]
      refine Nat.le_trans ?_ (Nat.le_add_right _ _)
      rcases List.mem_append.1 member with earlier | last
      · exact unreached.within reply earlier
      · obtain rfl := List.mem_singleton.1 last
        by_cases cycle : call.IsCycle
        · obtain ⟨clock, rfl⟩ := cycle
          exact arbitrate_notified_length ready clock
        · rw [step_notified_nil cycle]
          exact Nat.zero_le _
  | false =>
      have empty := unreached.unopened ready
      have quiet : (arbitrator.step call).1.notified = [] := by
        by_cases cycle : call.IsCycle
        · obtain ⟨clock, rfl⟩ := cycle
          rw [show arbitrator.step (.arbitrate clock) = _ from arbitrate_uninitialised ready]
          rfl
        · exact step_notified_nil cycle
      have still : (arbitrator.step call).2.listeners = [] := by
        cases call with
        | init mandatoryDomains nowMs =>
            simp only [SafetyArbitrator.step, init, ready, Bool.false_eq_true, ↓reduceIte]
            split
            · exact empty
            · rfl
        | otherSend event =>
            simp only [SafetyArbitrator.step, otherSend]
            split
            · exact empty
            · exact empty
        | consumerStore tail => exact empty
        | _ => simpa [SafetyArbitrator.step, registerListener, ingestFault, injectFault,
            ingestSoaEvent, recordHeartbeat, arbitrate, ready] using empty
      refine ⟨fun _ => still, fun reply member => ?_⟩
      rcases List.mem_append.1 member with earlier | last
      · have short := unreached.within reply earlier
        rw [empty] at short
        rw [still]
        exact short
      · rw [List.mem_singleton.1 last, quiet]
        exact Nat.zero_le _

theorem run_unreached (ipc : Option IpcBridge) (calls : List ArbitratorCall) :
    Unreached (machine.outputs (construct ipc) calls) (machine.run (construct ipc) calls) :=
  machine.trace_invariant ⟨fun _ => rfl, by simp⟩ (fun _ _ call unreached => unreached.step call)
    calls

/-- An accepted registration takes the next of eight places. -/
theorem registerListener_accepted {listener : Option SafeStateListener}
    (accepted : (arbitrator.step (.registerListener listener)).1.result = .ok ()) :
    ∃ address, listener = some address ∧ arbitrator.initialised = true ∧
      arbitrator.listeners.length < maxArbitratorListeners ∧
      (arbitrator.step (.registerListener listener)).2 =
        { arbitrator with listeners := arbitrator.listeners ++ [address] } := by
  simp only [SafetyArbitrator.step, registerListener, Reply.plain] at accepted ⊢
  cases ready : arbitrator.initialised with
  | false => simp [ready] at accepted
  | true =>
      cases listener with
      | none => simp [ready] at accepted
      | some address =>
          simp only [ready, Bool.not_true, Bool.false_eq_true, ↓reduceIte] at accepted ⊢
          rcases Nat.lt_or_ge arbitrator.listeners.length maxArbitratorListeners with room | full
          · rw [if_neg (Nat.not_le.2 room)]
            exact ⟨address, rfl, trivial, room, rfl⟩
          · rw [if_pos full] at accepted
            cases accepted

/-- A listener whose registration is accepted gets one of eight places, at which nobody was
called before. From then on, in every run, it is told every executed transition exactly once
and in order: the command is the one sent, with the latency that its cycle measured, the sequence
numbers are consecutive, and the latest is the one stored. -/
theorem listener_hears_every_command (ipc : Option IpcBridge) (calls later : List ArbitratorCall)
    (listener : Option SafeStateListener)
    (accepted : ((machine.run (construct ipc) calls).step
      (.registerListener listener)).1.result = .ok ()) :
    let before := machine.run (construct ipc) calls
    let joined := (before.step (.registerListener listener)).2
    let replies := machine.outputs joined later
    let place := before.listeners.length
    place < maxArbitratorListeners ∧ heard place (machine.outputs (construct ipc) calls) = [] ∧
      (∀ told ∈ heard place replies, listener = some told.1) ∧
      (heard place replies).map (fun told => told.2.unmeasured) =
        (executed replies).map Prod.fst ∧
      (heard place replies).map Prod.snd = (machine.trace joined later).filterMap measured? ∧
      (∀ (position : Nat) (told : SafeStateListener × SafeStateCommand),
        (heard place replies)[position]? = some told →
          told.2.sequenceNum = joined.sequenceNum + BitVec.ofNat 32 (position + 1)) ∧
      (machine.run joined later).lastCommand =
        ((heard place replies).getLast?.map Prod.snd).getD joined.lastCommand := by
  intro before joined replies place
  obtain ⟨address, rfl, ready, room, registered⟩ := registerListener_accepted accepted
  have start : Hears place address joined [] joined := by
    rw [show joined = _ from registered]
    refine ⟨ready, ?_, by simp [heard], rfl, (BitVec.add_zero _).symm, by simp [heard], rfl⟩
    exact List.getElem?_concat_length
  have hears := machine.trace_invariant start (fun _ _ call told => told.step call) later
  have unreached := run_unreached ipc calls
  refine ⟨room, ?_, fun told member => ?_, hears.sent, heard_measured start later,
    hears.numbered, hears.latest⟩
  · refine List.filterMap_eq_nil_iff.2 fun reply member => ?_
    exact List.getElem?_eq_none (unreached.within reply member)
  · rw [hears.addressed told member]

/-- The LiDAR is lost and found again while one listener waits. -/
def lidarLossAndReturn : List ArbitratorCall :=
  [lidarReport .failed, .arbitrate instantly, lidarReport .nominal, .arbitrate instantly]

theorem lidar_return_heard :
    let joined := machine.run (overBridge blankSram) [.init 0 0, .registerListener (some 1)]
    let replies := machine.outputs joined lidarLossAndReturn
    (heard 0 replies).map (fun told => told.2.state) =
        [.radarCameraFallback, .fullOperation] ∧
      (heard 0 replies).map (fun told => told.2.unmeasured) =
        (executed replies).map Prod.fst :=
  ⟨by decide, (listener_hears_every_command (some _) [.init 0 0] lidarLossAndReturn (some 1)
    rfl).2.2.2.1⟩

end SafetyArbitrator

end SoaGateway.Safety
