import SoaGateway.Foundation.Linearisation
import SoaGateway.Services.DispatchBound

/-! `PublishEvent` on a thread of its own. The call is cut at its loads, its write of the cell
and its store of the head, and the dispatch loop may act in between; it still takes effect as a
whole, when it is refused or when it stores the head. -/

set_option autoImplicit false

namespace SoaGateway.Services

open Foundation

/-- Where the publishing thread stands inside `PublishEvent`: before it, or with the head it has
loaded, tested against the tail, or written at. -/
inductive Publisher where
  | idle
  | loaded (event : SoaEvent) (head : Nat)
  | checked (event : SoaEvent) (head : Nat)
  | written (event : SoaEvent) (head : Nat)

structure SplitDispatch where
  dispatch : DispatchState
  publisher : Publisher

inductive SplitCall where
  | publishEvent (event : SoaEvent)
  | publishOn
  | subscribe (serviceId eventId : BitVec 16) (handler : Option EventHandler)
  | processEvents

namespace SplitDispatch

def started : SplitDispatch := { dispatch := .started, publisher := .idle }

def published (result : VoidResult) : DispatchReply := { result, handled := none }

/-- The beginning of `PublishEvent`, up to its load of the head. -/
def publishEvent (state : SplitDispatch) (event : SoaEvent) :
    Option DispatchReply × SplitDispatch :=
  match state.publisher with
  | .idle =>
      if !state.dispatch.manager.initialised then
        (some (published (.error .notInitialized)), state)
      else (none, { state with publisher := .loaded event state.dispatch.manager.queueHead })
  | _ => (none, state)

/-- The next step of the `PublishEvent` that has begun. -/
def publishOn (state : SplitDispatch) : Option DispatchReply × SplitDispatch :=
  let manager := state.dispatch.manager
  match state.publisher with
  | .idle => (none, state)
  | .loaded event head =>
      if (head + 1) % maxPendingEvents = manager.queueTail then
        (some (published (.error .queueFull)), { state with publisher := .idle })
      else (none, { state with publisher := .checked event head })
  | .checked event head =>
      (none, {
        dispatch := { state.dispatch with manager := { manager with
          eventQueue := Function.update manager.eventQueue head event } }
        publisher := .written event head })
  | .written _ head =>
      (some (published (.ok ())), {
        dispatch := { state.dispatch with manager := { manager with
          queueHead := (head + 1) % maxPendingEvents } }
        publisher := .idle })

def step (state : SplitDispatch) (call : SplitCall) : Option DispatchReply × SplitDispatch :=
  match call with
  | .publishEvent event => state.publishEvent event
  | .publishOn => state.publishOn
  | .subscribe serviceId eventId handler =>
      let (reply, dispatch) := state.dispatch.step (.subscribe serviceId eventId handler)
      (some reply, { state with dispatch })
  | .processEvents =>
      let (reply, dispatch) := state.dispatch.step .processEvents
      (some reply, { state with dispatch })

def machine : Machine SplitDispatch SplitCall (Option DispatchReply) := ⟨step⟩

/-- The call a step completes. A publication completes when it is refused or stores the head. -/
def completes (state : SplitDispatch) (call : SplitCall) : Option DispatchCall :=
  match call, state.publisher with
  | .publishEvent event, .idle =>
      if !state.dispatch.manager.initialised then some (.publishEvent event) else none
  | .publishOn, .loaded event head =>
      if (head + 1) % maxPendingEvents = state.dispatch.manager.queueTail then
        some (.publishEvent event)
      else none
  | .publishOn, .written event _ => some (.publishEvent event)
  | .subscribe serviceId eventId handler, _ => some (.subscribe serviceId eventId handler)
  | .processEvents, _ => some .processEvents
  | _, _ => none

end SplitDispatch

namespace Publisher

/-- The cell a publication has written before it stores the head. -/
def ahead (publisher : Publisher) (eventQueue : Nat → SoaEvent) : Nat → SoaEvent :=
  match publisher with
  | .written event head => Function.update eventQueue head event
  | _ => eventQueue

/-- The head loaded is still the head, and the room found behind it is still there. -/
def Holding (publisher : Publisher) (manager : SoaServiceManager) : Prop :=
  match publisher with
  | .idle => True
  | .loaded _ head => head = manager.queueHead
  | .checked _ head | .written _ head =>
      head = manager.queueHead ∧ Ring.next maxPendingEvents head ≠ manager.queueTail

end Publisher

def DispatchState.withCells (state : DispatchState) (cells : Nat → SoaEvent) : DispatchState :=
  { state with manager := { state.manager with eventQueue := cells } }

namespace SplitDispatch

/-- The split state is the whole one, but for the cell at the head. -/
structure Splits (split : SplitDispatch) (whole : DispatchState) : Prop where
  tracked : ∃ history, Tracked (whole, history)
  dispatch : split.dispatch = whole.withCells (split.publisher.ahead whole.manager.eventQueue)
  holding : split.publisher.Holding whole.manager

end SplitDispatch

namespace DispatchState

variable {whole : DispatchState} {cells : Nat → SoaEvent}

/-- A subscription does not look at the cells. -/
theorem withCells_subscribe (serviceId eventId : BitVec 16) (handler : Option EventHandler) :
    (whole.withCells cells).step (.subscribe serviceId eventId handler) =
      ((whole.step (.subscribe serviceId eventId handler)).1,
        (whole.step (.subscribe serviceId eventId handler)).2.withCells cells) := by
  obtain ⟨⟨registry, subscribers, eventQueue, head, tail, initialised⟩, control⟩ := whole
  simp only [step, withCells, SoaServiceManager.subscribe]
  cases initialised with
  | false => rfl
  | true =>
      cases handler with
      | none => rfl
      | some address =>
          by_cases full : maxSubscribers ≤ subscribers.length
          · simp [full]
          · simp [full]

/-- The dispatch loop looks at the cell it is at and at no other. -/
theorem withCells_processEvents
    (same : ∀ subCount tail index, whole.control = .matching subCount tail index →
      cells tail = whole.manager.eventQueue tail) :
    (whole.withCells cells).step .processEvents =
      ((whole.step .processEvents).1, (whole.step .processEvents).2.withCells cells) := by
  obtain ⟨⟨registry, subscribers, eventQueue, head, queueTail, initialised⟩, control⟩ := whole
  simp only [step, processEvents, withCells]
  cases control with
  | idle =>
      cases initialised with
      | false => rfl
      | true => rfl
  | polling subCount =>
      by_cases empty : queueTail = head
      · simp [empty]
      · simp [empty]
  | matching subCount tail index =>
      by_cases more : index < subCount
      · simp [more, same subCount tail index rfl]
      · simp [more]

end DispatchState

section Room

variable {whole : DispatchState} {history : DispatchHistory} {queue : List SoaEvent}
  {publisher : Publisher}

theorem Publisher.Holding.moved {before after : SoaServiceManager}
    (holding : publisher.Holding before) (head : after.queueHead = before.queueHead)
    (room : Ring.next maxPendingEvents before.queueHead ≠ before.queueTail →
      Ring.next maxPendingEvents before.queueHead ≠ after.queueTail) :
    publisher.Holding after := by
  cases publisher with
  | idle => trivial
  | loaded event loaded => exact holding.trans head.symm
  | checked event loaded =>
      obtain ⟨rfl, free⟩ := holding
      exact ⟨head.symm, room free⟩
  | written event loaded =>
      obtain ⟨rfl, free⟩ := holding
      exact ⟨head.symm, room free⟩

theorem subscribe_indices (manager : SoaServiceManager) (serviceId eventId : BitVec 16)
    (handler : Option EventHandler) :
    let after := (manager.subscribe serviceId eventId handler).2
    after.queueHead = manager.queueHead ∧ after.queueTail = manager.queueTail ∧
      after.eventQueue = manager.eventQueue := by
  unfold SoaServiceManager.subscribe
  split
  · exact ⟨rfl, rfl, rfl⟩
  · split
    · exact ⟨rfl, rfl, rfl⟩
    · split
      · exact ⟨rfl, rfl, rfl⟩
      · exact ⟨rfl, rfl, rfl⟩

/-- The dispatch loop gives cells back and takes none: it moves the tail by at most one, and only
when there is an event to release. -/
theorem Accounted.processEvents_indices (accounted : Accounted whole history queue) :
    let after := (whole.step .processEvents).2.manager
    after.queueHead = whole.manager.queueHead ∧ after.eventQueue = whole.manager.eventQueue ∧
      (after.queueTail = whole.manager.queueTail ∨
        queue ≠ [] ∧ after.queueTail = Ring.next maxPendingEvents whole.manager.queueTail) := by
  have consistent := accounted.consistent
  simp only [DispatchState.step, DispatchState.processEvents]
  cases control : whole.control with
  | idle =>
      simp only
      split
      · exact ⟨rfl, rfl, .inl rfl⟩
      · exact ⟨rfl, rfl, .inl rfl⟩
  | polling subCount =>
      simp only
      split
      · exact ⟨rfl, rfl, .inl rfl⟩
      · exact ⟨rfl, rfl, .inl rfl⟩
  | matching subCount tail index =>
      rw [control] at consistent
      obtain ⟨-, -, slot, -, waiting⟩ := consistent
      simp only
      split
      · exact ⟨rfl, rfl, .inl rfl⟩
      · exact ⟨rfl, rfl, .inr ⟨waiting, congrArg (Ring.next maxPendingEvents) slot⟩⟩

/-- Releasing a slot leaves the room a publisher has found. -/
theorem Accounted.room_kept (accounted : Accounted whole history queue) (waiting : queue ≠ []) :
    Ring.next maxPendingEvents whole.manager.queueHead ≠
      Ring.next maxPendingEvents whole.manager.queueTail := by
  have bound := accounted.ring.length_lt
  cases contents : queue with
  | nil => exact absurd contents waiting
  | cons event rest =>
      have released := (contents ▸ accounted.ring).pop.2
      rw [contents, List.length_cons] at bound
      exact mt released.full_iff.1 (by omega)

/-- The cell being dispatched is not the one at the head. -/
theorem Accounted.matching_ne_head (accounted : Accounted whole history queue)
    {subCount tail index : Nat} (control : whole.control = .matching subCount tail index) :
    tail ≠ whole.manager.queueHead := by
  have consistent := accounted.consistent
  rw [control] at consistent
  obtain ⟨-, -, slot, -, waiting⟩ := consistent
  rw [slot]
  exact mt accounted.ring.empty_iff.1 waiting

/-- What a publication has written ahead is out of sight of the dispatch loop. -/
theorem Accounted.ahead_unseen (accounted : Accounted whole history queue)
    (holding : publisher.Holding whole.manager) {subCount tail index : Nat}
    (control : whole.control = .matching subCount tail index) :
    publisher.ahead whole.manager.eventQueue tail = whole.manager.eventQueue tail := by
  cases publisher with
  | idle => rfl
  | loaded event head => rfl
  | checked event head => rfl
  | written event head =>
      have apart : tail ≠ head := by
        rw [holding.1]
        exact accounted.matching_ne_head control
      exact Function.update_of_ne apart _ _

end Room

namespace SplitDispatch

variable {split : SplitDispatch} {whole : DispatchState}

namespace Splits

theorem initialised (splits : Splits split whole) : split.dispatch.manager.initialised = true := by
  obtain ⟨history, queue, accounted⟩ := splits.tracked
  rw [splits.dispatch]
  exact accounted.initialised

theorem queueHead (splits : Splits split whole) :
    split.dispatch.manager.queueHead = whole.manager.queueHead := by
  rw [splits.dispatch]
  rfl

theorem queueTail (splits : Splits split whole) :
    split.dispatch.manager.queueTail = whole.manager.queueTail := by
  rw [splits.dispatch]
  rfl

/-- A step of the publisher that completes nothing is not answered, and the whole machine stays
where it is. -/
theorem silent (splits : Splits split whole) {call : SplitCall}
    (unfinished : split.completes call = none) :
    (split.step call).1 = none ∧ Splits (split.step call).2 whole := by
  obtain ⟨dispatch, publisher⟩ := split
  have tracked := splits.tracked
  have same := splits.dispatch
  have holding := splits.holding
  cases call with
  | publishEvent event =>
      cases publisher with
      | idle =>
          have ready : dispatch.manager.initialised = true := splits.initialised
          simp only [step, publishEvent, ready, Bool.not_true, Bool.false_eq_true, ↓reduceIte,
            true_and]
          exact ⟨tracked, same, splits.queueHead⟩
      | loaded begun head => exact ⟨rfl, splits⟩
      | checked begun head => exact ⟨rfl, splits⟩
      | written begun head => exact ⟨rfl, splits⟩
  | publishOn =>
      cases publisher with
      | idle => exact ⟨rfl, splits⟩
      | loaded event head =>
          by_cases full : (head + 1) % maxPendingEvents = dispatch.manager.queueTail
          · simp [completes, full] at unfinished
          · simp only [step, publishOn, full, ↓reduceIte, true_and]
            exact ⟨tracked, same, holding, splits.queueTail ▸ full⟩
      | checked event head =>
          have whole_cells : dispatch = whole.withCells whole.manager.eventQueue := same
          refine ⟨rfl, tracked, ?_, holding⟩
          rw [step, publishOn, whole_cells]
          rfl
      | written event head => cases unfinished
  | subscribe serviceId eventId handler => cases unfinished
  | processEvents => cases unfinished

/-- A refusal is that of the whole call in the state where the tail is loaded, and an acceptance
that of the whole call in the state where the head is stored. -/
theorem publishes (splits : Splits split whole) {event : SoaEvent}
    (finished : split.completes .publishOn = some (.publishEvent event)) :
    (split.step .publishOn).1 = some (whole.step (.publishEvent event)).1 ∧
      Splits (split.step .publishOn).2 (whole.step (.publishEvent event)).2 := by
  obtain ⟨history, tracked⟩ := splits.tracked
  have after : ∃ history, Tracked ((whole.step (.publishEvent event)).2, history) :=
    ⟨_, tracked.step (.publishEvent event)⟩
  obtain ⟨queue, accounted⟩ := tracked
  have ready : whole.manager.initialised = true := accounted.initialised
  have holding := splits.holding
  have same := splits.dispatch
  have tail := splits.queueTail
  obtain ⟨dispatch, publisher⟩ := split
  cases publisher with
  | idle => cases finished
  | checked begun head => cases finished
  | loaded begun head =>
      have found : head = whole.manager.queueHead := holding
      by_cases full : (head + 1) % maxPendingEvents = dispatch.manager.queueTail
      · simp only [completes, full, ↓reduceIte, Option.some.injEq,
          DispatchCall.publishEvent.injEq] at finished
        have meets : (whole.manager.queueHead + 1) % maxPendingEvents =
            whole.manager.queueTail := by
          rw [← found, full]
          exact tail
        have refused : whole.step (.publishEvent event) =
            (published (.error .queueFull), whole) := by
          simp [DispatchState.step, SoaServiceManager.publishEvent, ready, meets, published]
        rw [refused] at after ⊢
        simp only [step, publishOn, full, ↓reduceIte, true_and]
        exact ⟨after, same, trivial⟩
      · simp [completes, full] at finished
  | written begun head =>
      obtain ⟨found, room⟩ := holding
      obtain rfl : begun = event := by simpa [completes] using finished
      have taken : whole.step (.publishEvent begun) =
          (published (.ok ()), { whole with manager := { whole.manager with
            eventQueue := Function.update whole.manager.eventQueue head begun
            queueHead := (head + 1) % maxPendingEvents } }) := by
        rw [found] at room ⊢
        have open_ended : ¬ (whole.manager.queueHead + 1) % maxPendingEvents =
          whole.manager.queueTail := room
        simp [DispatchState.step, SoaServiceManager.publishEvent, ready, open_ended, published]
      rw [taken] at after ⊢
      have written_cells : dispatch = whole.withCells
          (Function.update whole.manager.eventQueue head begun) := same
      refine ⟨rfl, after, ?_, trivial⟩
      rw [step, publishOn, written_cells]
      rfl

theorem subscribes (splits : Splits split whole) (serviceId eventId : BitVec 16)
    (handler : Option EventHandler) :
    let call := DispatchCall.subscribe serviceId eventId handler
    (split.step (.subscribe serviceId eventId handler)).1 = some (whole.step call).1 ∧
      Splits (split.step (.subscribe serviceId eventId handler)).2 (whole.step call).2 := by
  intro call
  obtain ⟨history, tracked⟩ := splits.tracked
  obtain ⟨head, tail, cells⟩ := subscribe_indices whole.manager serviceId eventId handler
  have moved : split.dispatch.step call =
      ((whole.step call).1,
        (whole.step call).2.withCells (split.publisher.ahead whole.manager.eventQueue)) := by
    rw [splits.dispatch]
    exact DispatchState.withCells_subscribe serviceId eventId handler
  simp only [step]
  rw [show split.dispatch.step (.subscribe serviceId eventId handler) = _ from moved]
  refine ⟨rfl, ⟨_, tracked.step call⟩, ?_, ?_⟩
  · have unchanged : (whole.step call).2.manager.eventQueue = whole.manager.eventQueue := cells
    rw [unchanged]
  · refine splits.holding.moved head fun room => ?_
    have unmoved : (whole.step call).2.manager.queueTail = whole.manager.queueTail := tail
    rwa [unmoved]

theorem dispatches (splits : Splits split whole) :
    (split.step .processEvents).1 = some (whole.step .processEvents).1 ∧
      Splits (split.step .processEvents).2 (whole.step .processEvents).2 := by
  obtain ⟨history, tracked⟩ := splits.tracked
  have after : ∃ history, Tracked ((whole.step .processEvents).2, history) :=
    ⟨_, tracked.step .processEvents⟩
  obtain ⟨queue, accounted⟩ := tracked
  obtain ⟨head, cells, tail⟩ := accounted.processEvents_indices
  have moved : split.dispatch.step .processEvents =
      ((whole.step .processEvents).1,
        (whole.step .processEvents).2.withCells
          (split.publisher.ahead whole.manager.eventQueue)) := by
    rw [splits.dispatch]
    exact DispatchState.withCells_processEvents fun subCount tail index control =>
      accounted.ahead_unseen splits.holding control
  simp only [step]
  rw [moved]
  refine ⟨rfl, after, ?_, splits.holding.moved head fun room => ?_⟩
  · have unchanged : (whole.step .processEvents).2.manager.eventQueue =
      whole.manager.eventQueue := cells
    rw [unchanged]
  · obtain stays | ⟨waiting, advances⟩ := tail
    · rwa [stays]
    · rw [advances]
      exact accounted.room_kept waiting

theorem answers (splits : Splits split whole) {call : SplitCall} {command : DispatchCall}
    (finished : split.completes call = some command) :
    (split.step call).1 = some (whole.step command).1 ∧
      Splits (split.step call).2 (whole.step command).2 := by
  cases call with
  | publishEvent event =>
      have ready := splits.initialised
      cases publisher : split.publisher with
      | idle => simp [completes, publisher, ready] at finished
      | loaded begun head => simp [completes, publisher] at finished
      | checked begun head => simp [completes, publisher] at finished
      | written begun head => simp [completes, publisher] at finished
  | publishOn =>
      obtain ⟨event, rfl⟩ : ∃ event, command = .publishEvent event := by
        cases publisher : split.publisher with
        | idle => simp [completes, publisher] at finished
        | loaded begun head =>
            simp only [completes, publisher] at finished
            split at finished
            · exact ⟨begun, (Option.some.inj finished).symm⟩
            · cases finished
        | checked begun head => simp [completes, publisher] at finished
        | written begun head =>
            simp only [completes, publisher] at finished
            exact ⟨begun, (Option.some.inj finished).symm⟩
      exact splits.publishes finished
  | subscribe serviceId eventId handler =>
      obtain rfl : DispatchCall.subscribe serviceId eventId handler = command :=
        Option.some.inj finished
      exact splits.subscribes serviceId eventId handler
  | processEvents =>
      obtain rfl : DispatchCall.processEvents = command := Option.some.inj finished
      exact splits.dispatches

end Splits

/-- Cutting `PublishEvent` up does not change what anyone is answered. -/
theorem linearises :
    Linearises machine DispatchState.dispatcher completes (fun _ _ => True) Splits where
  silent related unfinished := related.silent unfinished
  answers related _ finished := related.answers finished

theorem splits_started : Splits started .started where
  tracked := ⟨.empty, run_accounted []⟩
  dispatch := rfl
  holding := trivial

/-- The cells between tail and head are those of the whole state. -/
theorem Splits.holds (splits : Splits split whole) {queue : List SoaEvent}
    (ring : Ring.Holds maxPendingEvents whole.manager.eventQueue whole.manager.queueHead
      whole.manager.queueTail queue) :
    Ring.Holds maxPendingEvents split.dispatch.manager.eventQueue
      split.dispatch.manager.queueHead split.dispatch.manager.queueTail queue := by
  have holding := splits.holding
  rw [splits.dispatch]
  cases publisher : split.publisher with
  | idle => exact ring
  | loaded event head => exact ring
  | checked event head => exact ring
  | written event head =>
      rw [publisher] at holding
      obtain ⟨rfl, -⟩ := holding
      exact ring.write event

/-- The event in dispatch stays in its cell, whatever the publisher does next. -/
theorem Splits.dispatched_kept (splits : Splits split whole) {subCount tail index : Nat}
    (control : split.dispatch.control = .matching subCount tail index) :
    (split.step .publishOn).2.dispatch.manager.eventQueue tail =
      split.dispatch.manager.eventQueue tail := by
  obtain ⟨history, queue, accounted⟩ := splits.tracked
  have holding := splits.holding
  have apart : tail ≠ whole.manager.queueHead := by
    rw [splits.dispatch] at control
    exact accounted.matching_ne_head control
  cases publisher : split.publisher with
  | idle => simp [step, publishOn, publisher]
  | loaded event head =>
      simp only [step, publishOn, publisher]
      split
      · rfl
      · rfl
  | checked event head =>
      rw [publisher] at holding
      obtain ⟨rfl, -⟩ := holding
      simp only [step, publishOn, publisher]
      exact Function.update_of_ne apart _ _
  | written event head => simp [step, publishOn, publisher]

end SplitDispatch

section Order

def Publisher.inFlight : Publisher → Option SoaEvent
  | .idle => none
  | .loaded event _ | .checked event _ | .written event _ => some event

def DispatchCall.event? : DispatchCall → Option SoaEvent
  | .publishEvent event => some event
  | _ => none

/-- The calls that are made in one step. -/
def SplitCall.whole? : SplitCall → Option DispatchCall
  | .subscribe serviceId eventId handler => some (.subscribe serviceId eventId handler)
  | .processEvents => some .processEvents
  | _ => none

def DispatchCall.whole? (call : DispatchCall) : Option DispatchCall :=
  if call.event?.isSome then none else some call

namespace SplitDispatch

/-- The event whose publication a step begins. -/
def begins (state : SplitDispatch) (call : SplitCall) : List SoaEvent :=
  match call, state.publisher with
  | .publishEvent event, .idle => [event]
  | _, _ => []

theorem step_order (state : SplitDispatch) (call : SplitCall) :
    (state.completes call).toList.filterMap DispatchCall.event? ++
          (state.step call).2.publisher.inFlight.toList =
        state.publisher.inFlight.toList ++ state.begins call ∧
      (state.completes call).toList.filterMap DispatchCall.whole? = call.whole?.toList := by
  obtain ⟨dispatch, publisher⟩ := state
  cases call with
  | publishEvent event =>
      cases publisher with
      | idle =>
          by_cases ready : dispatch.manager.initialised = true
          · simp [completes, step, publishEvent, begins, ready, Publisher.inFlight,
              SplitCall.whole?]
          · simp [completes, step, publishEvent, begins, ready, Publisher.inFlight,
              SplitCall.whole?, DispatchCall.event?, DispatchCall.whole?]
      | loaded begun head => exact ⟨rfl, rfl⟩
      | checked begun head => exact ⟨rfl, rfl⟩
      | written begun head => exact ⟨rfl, rfl⟩
  | publishOn =>
      cases publisher with
      | idle => exact ⟨rfl, rfl⟩
      | loaded begun head =>
          by_cases full : (head + 1) % maxPendingEvents = dispatch.manager.queueTail
          · simp [completes, step, publishOn, begins, full, Publisher.inFlight,
              SplitCall.whole?, DispatchCall.event?, DispatchCall.whole?]
          · simp [completes, step, publishOn, begins, full, Publisher.inFlight,
              SplitCall.whole?]
      | checked begun head => exact ⟨rfl, rfl⟩
      | written begun head => exact ⟨rfl, rfl⟩
  | subscribe serviceId eventId handler => exact ⟨(List.append_nil _).symm, rfl⟩
  | processEvents => exact ⟨(List.append_nil _).symm, rfl⟩

/-- Each thread's calls complete in the order in which they were made. -/
theorem completed_order (state : SplitDispatch) (steps : List SplitCall) :
    let calls := machine.completed completes state steps
    calls.filterMap DispatchCall.event? ++ (machine.run state steps).publisher.inFlight.toList =
        state.publisher.inFlight.toList ++ machine.handedOn begins state steps ∧
      calls.filterMap DispatchCall.whole? = steps.filterMap SplitCall.whole? := by
  induction steps generalizing state with
  | nil => exact ⟨(List.append_nil _).symm, rfl⟩
  | cons call rest ih =>
      obtain ⟨published_here, whole_here⟩ := step_order state call
      obtain ⟨published_later, whole_later⟩ := ih (state.step call).2
      simp only [Machine.completed, Machine.handedOn, Machine.run_cons, List.filterMap_append]
        at published_later whole_later ⊢
      refine ⟨?_, ?_⟩
      · rw [← List.append_assoc _ _ (machine.handedOn begins _ rest), ← published_here,
          List.append_assoc, List.append_assoc]
        exact congrArg _ published_later
      · rw [whole_here, List.filterMap_cons]
        cases made : call.whole? with
        | none => exact whole_later
        | some own => exact congrArg (own :: ·) whole_later

end SplitDispatch

end Order

theorem tracker_handled (state : DispatchState) (history : DispatchHistory)
    (calls : List DispatchCall) :
    (tracker.run (state, history) calls).2.handled =
      history.handled ++
        (DispatchState.dispatcher.outputs state calls).flatMap fun reply =>
          reply.handled.toList := by
  induction calls generalizing state history with
  | nil => exact (List.append_nil _).symm
  | cons call rest ih =>
      rw [Machine.run_cons, tracker_step, ih, record_handled, List.append_assoc]
      rfl

namespace SplitDispatch

/-- Over every interleaving of a publishing thread with the dispatch loop: the answers are those
of whole calls, taken in the order in which they complete, which is the order in which each
thread makes them; the queue holds in its cells the accepted events that are not yet dispatched;
the event in dispatch is never written over; and the handlers run are exactly those owed. -/
theorem publishing_thread_linearises (steps : List SplitCall) :
    let calls := machine.completed completes started steps
    let replies := (machine.outputs started steps).filterMap id
    let reached := machine.run started steps
    let manager := reached.dispatch.manager
    let history := (tracker.run (.started, .empty) calls).2
    replies = DispatchState.dispatcher.outputs .started calls ∧
      calls.filterMap DispatchCall.event? ++ reached.publisher.inFlight.toList =
        machine.handedOn begins started steps ∧
      calls.filterMap DispatchCall.whole? = steps.filterMap SplitCall.whole? ∧
      (∀ subCount tail index, reached.dispatch.control = .matching subCount tail index →
        (reached.step .publishOn).2.dispatch.manager.eventQueue tail =
          manager.eventQueue tail) ∧
      ∃ queue,
        history.accepted = history.dequeued.map Prod.fst ++ queue ∧
          Ring.Holds maxPendingEvents manager.eventQueue manager.queueHead manager.queueTail
            queue ∧
          replies.flatMap (fun reply => reply.handled.toList) =
            history.dequeued.flatMap (fun event => deliveries event.2 event.1) ++
              queue.head?.toList.flatMap
                (deliveries (history.audience.take reached.dispatch.control.progress)) := by
  intro calls replies reached manager history
  obtain ⟨same, splits⟩ := linearises.run splits_started (machine.everyStep_of_mem fun _ _ _ => trivial)
  obtain ⟨order, others⟩ := completed_order started steps
  obtain ⟨queue, accounted⟩ := run_accounted calls
  have whole : (tracker.run (.started, .empty) calls).1 =
      DispatchState.dispatcher.run .started calls :=
    DispatchState.dispatcher.withGhost_run_fst _ _ calls
  have handled := tracker_handled .started .empty calls
  have owed := accounted.handled
  have ring := accounted.ring
  rw [whole] at owed ring
  have progress : reached.dispatch.control =
      (DispatchState.dispatcher.run .started calls).control := by
    rw [splits.dispatch]
    rfl
  refine ⟨same, order, others, fun subCount tail index control => splits.dispatched_kept control,
    queue, accounted.accepted, splits.holds ring, ?_⟩
  rw [progress, ← owed, handled]
  exact congrArg (List.flatMap _) same

end SplitDispatch

end SoaGateway.Services
