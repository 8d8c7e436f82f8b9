import Mathlib.Data.List.Chain
import SoaGateway.Foundation.Ring
import SoaGateway.Safety.FaultHistory
import SoaGateway.Safety.Handover

/-! The transition log as an audit trail. The history of executed transitions is a chain
that ends in the current state, and the log keeps its newest records. -/

set_option autoImplicit false

namespace SoaGateway.Safety

open Foundation Ipc

/-- The oldest record leaves full operation, each later one leaves the state the one
before it reached, and the newest reached `current`. -/
structure Contiguous (history : List SafeStateTransition) (current : SafeState) : Prop where
  linked : history.IsChain fun older newer => newer.fromState = older.toState
  changes : ∀ record ∈ history, record.fromState ≠ record.toState
  first : ∀ record ∈ history.head?, record.fromState = .fullOperation
  reached : (history.getLast?.map SafeStateTransition.toState).getD .fullOperation = current

theorem contiguous_nil : Contiguous [] .fullOperation where
  linked := .nil
  changes record member := absurd member List.not_mem_nil
  first record isHead := by cases isHead
  reached := rfl

theorem Contiguous.concat {history : List SafeStateTransition} {current : SafeState}
    (contiguous : Contiguous history current) {record : SafeStateTransition}
    (leaves : record.fromState = current) (moves : record.fromState ≠ record.toState) :
    Contiguous (history ++ [record]) record.toState where
  linked := by
    rw [List.isChain_append]
    refine ⟨contiguous.linked, .singleton record, fun older isLast newer isHead => ?_⟩
    have reached := contiguous.reached
    rw [Option.mem_def.1 isLast] at reached
    cases isHead
    exact leaves.trans reached.symm
  changes other member := by
    cases List.mem_append.1 member with
    | inl earlier => exact contiguous.changes other earlier
    | inr newest =>
        obtain rfl := List.mem_singleton.1 newest
        exact moves
  first other isHead := by
    cases history with
    | nil =>
        cases isHead
        exact leaves.trans contiguous.reached.symm
    | cons oldest rest => exact contiguous.first other isHead
  reached := by simp

namespace SafetyArbitrator

variable {arbitrator : SafetyArbitrator}

/-- What the log fields say of the history of executed transitions. -/
structure Logged (replies : List Reply) (arbitrator : SafetyArbitrator)
    (history : List SafeStateTransition) : Prop where
  length_eq : history.length = (executed replies).length
  fresh : arbitrator.initialised = false → history = []
  ring : Ring.Recent maxTransitionLog arbitrator.transitionLog arbitrator.logHead history
  contiguous : Contiguous history arbitrator.currentState
  numbered : ∀ position (inside : position < history.length),
    history[position].sequenceNum = BitVec.ofNat 32 (position + 1)
  transitions : arbitrator.transitionCount = BitVec.ofNat 32 history.length
  commands : arbitrator.sequenceNum = BitVec.ofNat 32 history.length
  lastState : arbitrator.lastCommand.state = arbitrator.currentState
  lastNumber : arbitrator.lastCommand.sequenceNum = BitVec.ofNat 32 history.length

def Audited (replies : List Reply) (arbitrator : SafetyArbitrator) : Prop :=
  ∃ history, Logged replies arbitrator history

/-- The fields that tie the log to the current state are untouched. -/
structure SameLog (before after : SafetyArbitrator) : Prop where
  initialised : after.initialised = before.initialised
  currentState : after.currentState = before.currentState
  transitionLog : after.transitionLog = before.transitionLog
  logHead : after.logHead = before.logHead
  transitionCount : after.transitionCount = before.transitionCount
  sequenceNum : after.sequenceNum = before.sequenceNum
  lastCommand : after.lastCommand = before.lastCommand

theorem SameLog.refl (arbitrator : SafetyArbitrator) : arbitrator.SameLog arbitrator :=
  ⟨rfl, rfl, rfl, rfl, rfl, rfl, rfl⟩

theorem ordinary_sameLog {call : ArbitratorCall} (noCycle : ¬ call.IsCycle)
    (noInit : ¬ call.IsInit) : arbitrator.SameLog (arbitrator.step call).2 := by
  obtain ⟨domains, listeners, ipc, same⟩ := ordinary_local arbitrator noCycle noInit
  rw [same]
  exact ⟨rfl, rfl, rfl, rfl, rfl, rfl, rfl⟩

/-- The record an executed transition leaves in the log. -/
def transitionRecord (arbitrator : SafetyArbitrator) (target : SafeState) (clock : CycleClock) :
    SafeStateTransition where
  fromState := arbitrator.currentState
  toState := target
  triggerDomain := arbitrator.triggerDomain
  timestampMs := clock.logMs
  transitionMs := clock.latencyMs
  sequenceNum := arbitrator.transitionCount + 1

theorem executeTransition_logs (arbitrator : SafetyArbitrator) (target : SafeState)
    (clock : CycleClock) :
    let outcome := arbitrator.executeTransition target clock
    outcome.1.sent.isSome = true ∧
      outcome.2.transitionLog = Function.update arbitrator.transitionLog arbitrator.logHead
        (arbitrator.transitionRecord target clock) ∧
      outcome.2.logHead = Ring.next maxTransitionLog arbitrator.logHead ∧
      outcome.2.transitionCount = arbitrator.transitionCount + 1 ∧
      outcome.2.sequenceNum = arbitrator.sequenceNum + 1 ∧
      outcome.2.lastCommand.sequenceNum = arbitrator.sequenceNum + 1 := by
  unfold executeTransition sendCommandToM7
  cases arbitrator.ipc with
  | none => exact ⟨rfl, rfl, rfl, rfl, rfl, rfl⟩
  | some bridge => exact ⟨rfl, rfl, rfl, rfl, rfl, rfl⟩

theorem logged_nil {replies : List Reply} (nothing : executed replies = [])
    (state : arbitrator.currentState = .fullOperation) (head : arbitrator.logHead = 0)
    (transitions : arbitrator.transitionCount = 0) (commands : arbitrator.sequenceNum = 0)
    (last : arbitrator.lastCommand = initialCommand) : Logged replies arbitrator [] where
  length_eq := by
    rw [nothing]
    rfl
  fresh _ := rfl
  ring := by
    rw [head]
    exact Ring.recent_nil (by decide) _
  contiguous := by
    rw [state]
    exact contiguous_nil
  numbered position inside := absurd inside (Nat.not_lt_zero position)
  transitions := transitions
  commands := commands
  lastState := by
    rw [last, state]
    rfl
  lastNumber := by
    rw [last]
    rfl

theorem Logged.silent {replies : List Reply} {history : List SafeStateTransition}
    (logged : Logged replies arbitrator history) {after : SafetyArbitrator}
    (same : arbitrator.SameLog after) {reply : Reply} (noSend : reply.sent = none) :
    Logged (replies ++ [reply]) after history where
  length_eq := by
    rw [executed_concat, noSend, Option.toList_none, List.append_nil]
    exact logged.length_eq
  fresh unready := logged.fresh (same.initialised.symm.trans unready)
  ring := by
    rw [same.transitionLog, same.logHead]
    exact logged.ring
  contiguous := by
    rw [same.currentState]
    exact logged.contiguous
  numbered := logged.numbered
  transitions := same.transitionCount.trans logged.transitions
  commands := same.sequenceNum.trans logged.commands
  lastState := by
    rw [same.lastCommand, same.currentState]
    exact logged.lastState
  lastNumber := by
    rw [same.lastCommand]
    exact logged.lastNumber

theorem Logged.executeTransition {replies : List Reply} {history : List SafeStateTransition}
    (logged : Logged replies arbitrator history) (ready : arbitrator.initialised = true)
    {target : SafeState} (moves : target ≠ arbitrator.currentState) (clock : CycleClock) :
    let outcome := arbitrator.executeTransition target clock
    Logged (replies ++ [outcome.1]) outcome.2
      (history ++ [arbitrator.transitionRecord target clock]) := by
  intro outcome
  obtain ⟨sent, log, head, transitions, commands, lastNumber⟩ :=
    executeTransition_logs arbitrator target clock
  have commits := executeTransition_commits arbitrator target clock
  have length : (history ++ [arbitrator.transitionRecord target clock]).length =
      history.length + 1 := by simp
  have counted : BitVec.ofNat 32 history.length + 1 = BitVec.ofNat 32 (history.length + 1) :=
    (BitVec.ofNat_add history.length 1).symm
  refine ⟨?_, fun unready => ?_, ?_, ?_, fun position inside => ?_, ?_, ?_, ?_, ?_⟩
  · obtain ⟨send, isSent⟩ := Option.isSome_iff_exists.1 sent
    rw [executed_concat, isSent, length, logged.length_eq]
    simp
  · rw [commits.initialised, ready] at unready
    cases unready
  · rw [log, head]
    exact logged.ring.push _
  · rw [commits.currentState]
    exact logged.contiguous.concat rfl (Ne.symm moves)
  · rw [List.getElem_append]
    split
    · next old => exact logged.numbered position old
    · next new =>
        have newest : position = history.length := by omega
        subst newest
        simp only [List.getElem_singleton, transitionRecord]
        rw [logged.transitions, counted]
  · rw [transitions, logged.transitions, length, counted]
  · rw [commands, logged.commands, length, counted]
  · exact commits.commanded.trans commits.currentState.symm
  · rw [lastNumber, logged.commands, length, counted]

/-- A cycle appends one record when it executes a transition, and nothing otherwise. -/
theorem Logged.arbitrate {replies : List Reply} {history : List SafeStateTransition}
    (logged : Logged replies arbitrator history) (clock : CycleClock) :
    Audited (replies ++ [(arbitrator.arbitrate clock).1]) (arbitrator.arbitrate clock).2 := by
  cases ready : arbitrator.initialised with
  | false =>
      rw [arbitrate_uninitialised ready]
      exact ⟨history, logged.silent (.refl _) rfl⟩
  | true =>
      have observed : arbitrator.SameLog (arbitrator.observe clock.scanMs) :=
        ⟨rfl, rfl, rfl, rfl, rfl, rfl, rfl⟩
      by_cases due : arbitrator.Due clock
      · rw [arbitrate_due due]
        have scanned : Logged replies (arbitrator.observe clock.scanMs) history :=
          ⟨logged.length_eq, logged.fresh, logged.ring, logged.contiguous, logged.numbered,
            logged.transitions, logged.commands, logged.lastState, logged.lastNumber⟩
        exact ⟨_, scanned.executeTransition ready due.changed clock⟩
      · rw [arbitrate_not_due ready due]
        exact ⟨history, logged.silent observed rfl⟩

/-- `Init` clears the log when it succeeds, and no transition was executed before that. -/
theorem Logged.init {replies : List Reply} {history : List SafeStateTransition}
    (logged : Logged replies arbitrator history) (mandatoryDomains : Byte) (nowMs : Nat) :
    Audited (replies ++ [(arbitrator.step (.init mandatoryDomains nowMs)).1])
      (arbitrator.step (.init mandatoryDomains nowMs)).2 := by
  have noSend : (arbitrator.step (.init mandatoryDomains nowMs)).1.sent = none :=
    step_sent_none (by rintro ⟨clock, same⟩; cases same)
  cases ready : arbitrator.initialised with
  | true =>
      have kept := init_initialised ready mandatoryDomains nowMs
      refine ⟨history, logged.silent ?_ noSend⟩
      simp only [SafetyArbitrator.step, kept]
      exact .refl _
  | false =>
      by_cases detached : arbitrator.ipc.isNone = true
      · refine ⟨history, logged.silent ?_ noSend⟩
        simp only [SafetyArbitrator.step, SafetyArbitrator.init, ready, detached, Bool.false_eq_true,
          ↓reduceIte]
        exact .refl _
      · have nothing : executed (replies ++
            [(arbitrator.step (.init mandatoryDomains nowMs)).1]) = [] := by
          rw [executed_concat, noSend, Option.toList_none, List.append_nil,
            ← List.length_eq_zero_iff, ← logged.length_eq, logged.fresh ready]
          rfl
        refine ⟨[], ?_⟩
        simp only [SafetyArbitrator.step, SafetyArbitrator.init, ready, detached,
          Bool.false_eq_true, ↓reduceIte] at nothing ⊢
        exact logged_nil nothing rfl rfl rfl rfl rfl

theorem Logged.step {replies : List Reply} {history : List SafeStateTransition}
    (logged : Logged replies arbitrator history) (call : ArbitratorCall) :
    Audited (replies ++ [(arbitrator.step call).1]) (arbitrator.step call).2 := by
  by_cases cycle : call.IsCycle
  · obtain ⟨clock, rfl⟩ := cycle
    exact logged.arbitrate clock
  · by_cases first : call.IsInit
    · obtain ⟨mandatoryDomains, nowMs, rfl⟩ := first
      exact logged.init mandatoryDomains nowMs
    · exact ⟨history, logged.silent (ordinary_sameLog cycle first) (step_sent_none cycle)⟩

theorem run_logged (ipc : Option IpcBridge) (calls : List ArbitratorCall) :
    Audited (machine.outputs (construct ipc) calls) (machine.run (construct ipc) calls) := by
  have initial : Audited [] (construct ipc) :=
    ⟨[], logged_nil rfl rfl rfl rfl rfl rfl⟩
  refine machine.trace_invariant initial (fun replies current call logged => ?_) calls
  obtain ⟨history, held⟩ := logged
  exact held.step call

theorem Logged.drain_length {replies : List Reply} {history : List SafeStateTransition}
    (logged : Logged replies arbitrator history) (bound : history.length < 2 ^ 32)
    (bufferSize : Byte) :
    (arbitrator.drainTransitionLog bufferSize).length =
      min (min history.length maxTransitionLog) bufferSize.toNat := by
  simp only [drainTransitionLog, List.length_map, List.length_range]
  rw [logged.transitions, BitVec.toNat_ofNat, Nat.mod_eq_of_lt bound]

/-- A drained log is the newest part of the history, read backwards. -/
theorem Logged.drain_record {replies : List Reply} {history : List SafeStateTransition}
    (logged : Logged replies arbitrator history) (bound : history.length < 2 ^ 32)
    (bufferSize : Byte) {back : Nat}
    (inside : back < (arbitrator.drainTransitionLog bufferSize).length) :
    ∃ old : back < history.length, (arbitrator.drainTransitionLog bufferSize)[back] =
      history[history.length - 1 - back] := by
  have length := logged.drain_length bound bufferSize
  have kept : back < maxTransitionLog := by omega
  have old : back < history.length := by omega
  refine ⟨old, ?_⟩
  simp only [drainTransitionLog, List.getElem_map, List.getElem_range]
  exact logged.ring.newest old kept

/-- Draining reads a contiguous audit trail of the executed transitions, newest first. -/
theorem transition_log_faithful (ipc : Option IpcBridge) (calls : List ArbitratorCall)
    (bufferSize : Byte)
    (bound : (executed (machine.outputs (construct ipc) calls)).length < 2 ^ 32) :
    let arbitrator := machine.run (construct ipc) calls
    let count := (executed (machine.outputs (construct ipc) calls)).length
    let records := arbitrator.drainTransitionLog bufferSize
    records.length = min (min count maxTransitionLog) bufferSize.toNat ∧
      (∀ back (inside : back < records.length),
        records[back].sequenceNum.toNat = count - back ∧
          records[back].fromState ≠ records[back].toState) ∧
      (∀ back (inside : back + 1 < records.length),
        records[back].fromState = records[back + 1].toState) ∧
      (∀ newest ∈ records.head?, newest.toState = arbitrator.currentState) ∧
      arbitrator.lastCommand.state = arbitrator.currentState ∧
      arbitrator.lastCommand.sequenceNum.toNat = count ∧
      (records.length = count →
        ∀ oldest ∈ records.getLast?, oldest.fromState = .fullOperation) := by
  intro arbitrator count records
  obtain ⟨history, logged⟩ := run_logged ipc calls
  have counted : history.length = count := logged.length_eq
  have small : history.length < 2 ^ 32 := counted ▸ bound
  have record : ∀ back (inside : back < records.length), ∃ old : back < history.length,
      records[back] = history[history.length - 1 - back] :=
    fun back inside => logged.drain_record small bufferSize inside
  refine ⟨?_, fun back inside => ?_, fun back inside => ?_, fun newest isHead => ?_,
    logged.lastState, ?_, fun whole oldest isLast => ?_⟩
  · rw [← counted]
    exact logged.drain_length small bufferSize
  · obtain ⟨old, same⟩ := record back inside
    rw [same]
    refine ⟨?_, logged.contiguous.changes _ (List.getElem_mem _)⟩
    rw [logged.numbered, BitVec.toNat_ofNat, Nat.mod_eq_of_lt (by omega)]
    omega
  · obtain ⟨older, sameOlder⟩ := record (back + 1) inside
    obtain ⟨newer, sameNewer⟩ := record back (by omega)
    rw [sameOlder, sameNewer]
    have linked := logged.contiguous.linked.getElem (history.length - 1 - (back + 1)) (by omega)
    have next : history.length - 1 - (back + 1) + 1 = history.length - 1 - back := by omega
    simpa only [next] using linked
  · obtain ⟨inside, atHead⟩ := List.getElem?_eq_some_iff.1 (List.head?_eq_getElem? ▸ isHead)
    obtain ⟨old, same⟩ := record 0 inside
    have reached := logged.contiguous.reached
    rw [List.getLast?_eq_getElem?, List.getElem?_eq_getElem (by omega)] at reached
    rw [← atHead, same]
    exact reached
  · rw [logged.lastNumber, BitVec.toNat_ofNat, Nat.mod_eq_of_lt small, counted]
  · rw [List.getLast?_eq_getElem?] at isLast
    obtain ⟨inside, atLast⟩ := List.getElem?_eq_some_iff.1 isLast
    obtain ⟨old, same⟩ := record _ inside
    refine logged.contiguous.first oldest ?_
    have position : history.length - 1 - (records.length - 1) = 0 := by omega
    rw [← atLast, same, List.head?_eq_getElem?]
    simp only [position]
    exact List.getElem?_eq_getElem (by omega)

/-- The LiDAR fails and recovers: two transitions. -/
def lidarRecovery : List ArbitratorCall :=
  [.init 0 0, lidarReport .failed, .arbitrate instantly, lidarReport .nominal,
    .arbitrate instantly]

theorem lidarRecovery_log :
    let records := (machine.run (overBridge blankSram) lidarRecovery).drainTransitionLog 8
    records.length = 2 ∧ ∀ oldest ∈ records.getLast?, oldest.fromState = .fullOperation := by
  have count : (executed (machine.outputs (construct (overBridge blankSram).ipc)
      lidarRecovery)).length = 2 := by decide
  obtain ⟨length, -, -, -, -, -, oldest⟩ :=
    transition_log_faithful (overBridge blankSram).ipc lidarRecovery 8 (by rw [count]; decide)
  have whole := length.trans (congrArg (fun total => min (min total maxTransitionLog) 8) count)
  exact ⟨whole, oldest (whole.trans count.symm)⟩

end SafetyArbitrator

end SoaGateway.Safety
