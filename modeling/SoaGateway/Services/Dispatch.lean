import SoaGateway.Services.Manager

/-! Event dispatch, one step of the dispatch loop at a time. Between any two steps events
may be published and subscribers added; this is what the handlers do that the loop runs. -/

set_option autoImplicit false

namespace SoaGateway.Services

open Foundation

/-- Where the dispatch loop stands: outside, before its test of the queue, or before the
subscriber at `index` for the event at `tail`. -/
inductive DispatchControl where
  | idle
  | polling (subCount : Nat)
  | matching (subCount tail index : Nat)
deriving DecidableEq, Repr

structure DispatchState where
  manager : SoaServiceManager
  control : DispatchControl

inductive DispatchCall where
  | publishEvent (event : SoaEvent)
  | subscribe (serviceId eventId : BitVec 16) (handler : Option EventHandler)
  | processEvents

/-- The handler run by a step, if any, is named by its subscriber. -/
structure DispatchReply where
  result : VoidResult
  handled : Option (SubscriberEntry × SoaEvent)

namespace SubscriberEntry

def addressedBy (entry : SubscriberEntry) (event : SoaEvent) : Bool :=
  entry.serviceId == event.serviceId && entry.eventId == event.eventId

def receives (entry : SubscriberEntry) (event : SoaEvent) : Bool :=
  entry.addressedBy event && entry.handler.isSome

end SubscriberEntry

namespace DispatchState

/-- `ProcessEvents`, up to its next test of the queue, subscriber or release of a slot. -/
def processEvents (state : DispatchState) : DispatchReply × DispatchState :=
  match state.control with
  | .idle =>
      if !state.manager.initialised then ({ result := .ok (), handled := none }, state)
      else
        ({ result := .ok (), handled := none },
          { state with control := .polling state.manager.subscribers.length })
  | .polling subCount =>
      if state.manager.queueTail = state.manager.queueHead then
        ({ result := .ok (), handled := none }, { state with control := .idle })
      else
        ({ result := .ok (), handled := none },
          { state with control := .matching subCount state.manager.queueTail 0 })
  | .matching subCount tail index =>
      if index < subCount then
        let event := state.manager.eventQueue tail
        ({ result := .ok ()
           handled := (state.manager.subscribers[index]?.filter fun entry =>
             entry.receives event).map fun entry => (entry, event) },
          { state with control := .matching subCount tail (index + 1) })
      else
        ({ result := .ok (), handled := none }, {
          manager := { state.manager with queueTail := (tail + 1) % maxPendingEvents }
          control := .polling subCount })

def step (state : DispatchState) (call : DispatchCall) : DispatchReply × DispatchState :=
  match call with
  | .publishEvent event =>
      let (result, manager) := state.manager.publishEvent event
      ({ result, handled := none }, { state with manager })
  | .subscribe serviceId eventId handler =>
      let (result, manager) := state.manager.subscribe serviceId eventId handler
      ({ result, handled := none }, { state with manager })
  | .processEvents => state.processEvents

def dispatcher : Machine DispatchState DispatchCall DispatchReply := ⟨step⟩

end DispatchState

/-- What happened so far: the accepted events and subscriptions, the subscribers when the current
call of `ProcessEvents` began, the events whose slots were released with the subscribers their
call began with, and the handlers run. -/
structure DispatchHistory where
  accepted : List SoaEvent
  subscribed : List SubscriberEntry
  audience : List SubscriberEntry
  dequeued : List (SoaEvent × List SubscriberEntry)
  handled : List (SubscriberEntry × SoaEvent)

def DispatchHistory.empty : DispatchHistory :=
  { accepted := [], subscribed := [], audience := [], dequeued := [], handled := [] }

def DispatchHistory.record (state : DispatchState) (call : DispatchCall)
    (history : DispatchHistory) : DispatchHistory :=
  let reply := (state.step call).1
  match call with
  | .publishEvent event =>
      if reply.result.isOk then { history with accepted := history.accepted ++ [event] }
      else history
  | .subscribe serviceId eventId handler =>
      if reply.result.isOk then
        { history with subscribed := history.subscribed ++ [{ serviceId, eventId, handler }] }
      else history
  | .processEvents =>
      match state.control with
      | .idle => { history with audience := history.subscribed }
      | .polling _ => history
      | .matching subCount tail index =>
          if index < subCount then
            { history with handled := history.handled ++ reply.handled.toList }
          else
            { history with
              dequeued := history.dequeued ++ [(state.manager.eventQueue tail, history.audience)] }

/-- The deliveries an event owes to an audience, in registration order. -/
def deliveries (audience : List SubscriberEntry) (event : SoaEvent) :
    List (SubscriberEntry × SoaEvent) :=
  (audience.filter fun entry => entry.addressedBy event).map fun entry => (entry, event)

/-- How many subscribers the event being dispatched has passed. -/
def DispatchControl.progress : DispatchControl → Nat
  | .matching _ _ index => index
  | _ => 0

/-- The loop is where the history says it is. -/
def DispatchControl.Consistent (control : DispatchControl) (manager : SoaServiceManager)
    (audience : List SubscriberEntry) (queue : List SoaEvent) : Prop :=
  match control with
  | .idle => True
  | .polling subCount => audience <+: manager.subscribers ∧ subCount = audience.length
  | .matching subCount tail index =>
      audience <+: manager.subscribers ∧ subCount = audience.length ∧ tail = manager.queueTail ∧
        index ≤ subCount ∧ queue ≠ []

structure Accounted (state : DispatchState) (history : DispatchHistory)
    (queue : List SoaEvent) : Prop where
  initialised : state.manager.initialised = true
  subscribed : state.manager.subscribers = history.subscribed
  handlers : ∀ entry ∈ state.manager.subscribers, entry.handler.isSome = true
  ring : Ring.Holds maxPendingEvents state.manager.eventQueue state.manager.queueHead
    state.manager.queueTail queue
  consistent : state.control.Consistent state.manager history.audience queue
  accepted : history.accepted = history.dequeued.map Prod.fst ++ queue
  handled : history.handled =
    history.dequeued.flatMap (fun event => deliveries event.2 event.1) ++
      queue.head?.toList.flatMap
        (deliveries (history.audience.take state.control.progress))

def Tracked (current : DispatchState × DispatchHistory) : Prop :=
  ∃ queue, Accounted current.1 current.2 queue

def tracker : Machine (DispatchState × DispatchHistory) DispatchCall DispatchReply :=
  DispatchState.dispatcher.withGhost DispatchHistory.record

theorem tracker_step (state : DispatchState) (history : DispatchHistory) (call : DispatchCall) :
    (tracker.step (state, history) call).2 =
      ((state.step call).2, DispatchHistory.record state call history) := rfl

/-- The history notes every handler run and no other. -/
theorem record_handled (state : DispatchState) (call : DispatchCall) (history : DispatchHistory) :
    (DispatchHistory.record state call history).handled =
      history.handled ++ (state.step call).1.handled.toList := by
  cases call with
  | publishEvent event =>
      simp only [DispatchHistory.record]
      split <;> simp [DispatchState.step]
  | subscribe serviceId eventId handler =>
      simp only [DispatchHistory.record]
      split <;> simp [DispatchState.step]
  | processEvents =>
      cases control : state.control with
      | idle =>
          simp only [DispatchHistory.record, DispatchState.step, DispatchState.processEvents,
            control]
          split <;> simp
      | polling subCount =>
          simp only [DispatchHistory.record, DispatchState.step, DispatchState.processEvents,
            control]
          split <;> simp
      | matching subCount tail index =>
          by_cases more : index < subCount
          · simp [DispatchHistory.record, DispatchState.step, DispatchState.processEvents,
              control, more]
          · simp [DispatchHistory.record, DispatchState.step, DispatchState.processEvents,
              control, more]

/-- Outside its first step a call of `ProcessEvents` keeps its audience. -/
theorem record_audience (state : DispatchState) (call : DispatchCall) (history : DispatchHistory)
    (kept : call = .processEvents → state.control ≠ .idle) :
    (DispatchHistory.record state call history).audience = history.audience := by
  cases call with
  | publishEvent event =>
      simp only [DispatchHistory.record]
      split <;> rfl
  | subscribe serviceId eventId handler =>
      simp only [DispatchHistory.record]
      split <;> rfl
  | processEvents =>
      simp only [DispatchHistory.record]
      split
      · next idle => exact absurd idle (kept rfl)
      · rfl
      · split <;> rfl

namespace SoaServiceManager

variable {manager : SoaServiceManager} {queue : List SoaEvent}

/-- A full queue refuses the event and stays as it is; any other queue takes it. -/
theorem publishEvent_cases (ready : manager.initialised = true)
    (ring : Ring.Holds maxPendingEvents manager.eventQueue manager.queueHead manager.queueTail
      queue) (event : SoaEvent) :
    queue.length = maxPendingEvents - 1 ∧
        manager.publishEvent event = (.error .queueFull, manager) ∨
      queue.length < maxPendingEvents - 1 ∧
        manager.publishEvent event = (.ok (), {
          manager with
          eventQueue := Function.update manager.eventQueue manager.queueHead event
          queueHead := Ring.next maxPendingEvents manager.queueHead }) := by
  have bound := ring.length_lt
  have full := ring.full_iff
  simp only [publishEvent, ready, Bool.not_true, Bool.false_eq_true, ↓reduceIte]
  by_cases meets : Ring.next maxPendingEvents manager.queueHead = manager.queueTail
  · left
    have length := full.1 meets
    refine ⟨by omega, if_pos meets⟩
  · right
    have length := mt full.2 meets
    refine ⟨by omega, if_neg meets⟩

theorem subscribe_cases (ready : manager.initialised = true) (serviceId eventId : BitVec 16)
    (handler : Option EventHandler) :
    (∃ code, manager.subscribe serviceId eventId handler = (.error code, manager)) ∨
      handler.isSome = true ∧ manager.subscribe serviceId eventId handler = (.ok (),
        { manager with
          subscribers := manager.subscribers ++ [{ serviceId, eventId, handler }] }) := by
  unfold subscribe
  simp only [ready, Bool.not_true, Bool.false_eq_true, ↓reduceIte]
  cases handler with
  | none => exact .inl ⟨_, rfl⟩
  | some address =>
      simp only [Option.isNone_some, Bool.false_eq_true, ↓reduceIte, Option.isSome_some, true_and]
      split
      · exact .inl ⟨_, rfl⟩
      · exact .inr rfl

end SoaServiceManager

theorem deliveries_append (front back : List SubscriberEntry) (event : SoaEvent) :
    deliveries (front ++ back) event = deliveries front event ++ deliveries back event := by
  simp [deliveries]

@[simp] theorem deliveries_nil : deliveries [] = fun _ => [] := rfl

theorem DispatchControl.Consistent.subscribed {control : DispatchControl}
    {manager : SoaServiceManager} {audience : List SubscriberEntry} {queue : List SoaEvent}
    (consistent : control.Consistent manager audience queue) (added : List SubscriberEntry) :
    control.Consistent { manager with subscribers := manager.subscribers ++ added } audience
      queue := by
  cases control with
  | idle => trivial
  | polling subCount =>
      exact ⟨consistent.1.trans (List.prefix_append _ _), consistent.2⟩
  | matching subCount tail index =>
      exact ⟨consistent.1.trans (List.prefix_append _ _), consistent.2⟩

/-- Only a queue with an event in front is being dispatched. -/
theorem DispatchControl.Consistent.progress_nil {control : DispatchControl}
    {manager : SoaServiceManager} {audience : List SubscriberEntry}
    (consistent : control.Consistent manager audience []) : control.progress = 0 := by
  cases control with
  | idle => rfl
  | polling subCount => rfl
  | matching subCount tail index => exact absurd rfl consistent.2.2.2.2

namespace Accounted

variable {state : DispatchState} {history : DispatchHistory} {queue : List SoaEvent}

theorem publishEvent (accounted : Accounted state history queue) (event : SoaEvent) :
    Tracked (tracker.step (state, history) (.publishEvent event)).2 := by
  obtain ⟨-, refused⟩ | ⟨room, taken⟩ :=
    SoaServiceManager.publishEvent_cases accounted.initialised accounted.ring event
  · refine ⟨queue, ?_⟩
    simp only [tracker_step, DispatchState.step, DispatchHistory.record, refused, isOk_error,
      Bool.false_eq_true, ↓reduceIte]
    exact accounted
  · have space : queue.length + 1 < maxPendingEvents := by omega
    have started : (queue ++ [event]).head?.toList.flatMap
        (deliveries (history.audience.take state.control.progress)) =
          queue.head?.toList.flatMap
            (deliveries (history.audience.take state.control.progress)) := by
      cases waiting : queue with
      | nil =>
          have consistent := accounted.consistent
          rw [waiting] at consistent
          simp [consistent.progress_nil]
      | cons front rest => rfl
    refine ⟨queue ++ [event], ?_⟩
    simp only [tracker_step, DispatchState.step, DispatchHistory.record, taken, isOk_ok, ↓reduceIte]
    refine ⟨accounted.initialised, accounted.subscribed, accounted.handlers,
      accounted.ring.push event space, ?_, ?_, ?_⟩
    · have consistent := accounted.consistent
      cases control : state.control with
      | idle => trivial
      | polling subCount =>
          rw [control] at consistent
          exact consistent
      | matching subCount tail index =>
          rw [control] at consistent
          obtain ⟨registered, count, slot, passed, -⟩ := consistent
          exact ⟨registered, count, slot, passed, by simp⟩
    · rw [accounted.accepted, List.append_assoc]
    · rw [started]
      exact accounted.handled

theorem subscribe (accounted : Accounted state history queue) (serviceId eventId : BitVec 16)
    (handler : Option EventHandler) :
    Tracked (tracker.step (state, history) (.subscribe serviceId eventId handler)).2 := by
  refine ⟨queue, ?_⟩
  simp only [tracker_step, DispatchState.step, DispatchHistory.record]
  obtain ⟨code, refused⟩ | ⟨present, added⟩ :=
    SoaServiceManager.subscribe_cases accounted.initialised serviceId eventId handler
  · simp only [refused, isOk_error, Bool.false_eq_true, ↓reduceIte]
    exact accounted
  · simp only [added, isOk_ok, ↓reduceIte]
    refine ⟨accounted.initialised, congrArg (· ++ _) accounted.subscribed,
      fun entry member => ?_, accounted.ring,
      accounted.consistent.subscribed _, accounted.accepted, accounted.handled⟩
    cases List.mem_append.1 member with
    | inl earlier => exact accounted.handlers entry earlier
    | inr newest =>
        obtain rfl := List.mem_singleton.1 newest
        exact present

/-- The test of one subscriber: its handler runs when the event is addressed to it. -/
theorem test (accounted : Accounted state history queue) {subCount tail index : Nat}
    (control : state.control = .matching subCount tail index) (more : index < subCount) :
    Tracked (tracker.step (state, history) .processEvents).2 := by
  have consistent := accounted.consistent
  rw [control] at consistent
  obtain ⟨registered, count, slot, passed, waiting⟩ := consistent
  cases contents : queue with
  | nil => exact absurd contents waiting
  | cons event rest =>
      have inside : index < history.audience.length := count ▸ more
      have entryAt : state.manager.subscribers[index]? = some history.audience[index] :=
        List.prefix_iff_getElem?.1 registered index inside
      have front : state.manager.eventQueue tail = event := by
        rw [slot]
        exact (contents ▸ accounted.ring).pop.1
      have present := accounted.handlers _ (List.mem_of_getElem? entryAt)
      have handled : ((state.manager.subscribers[index]?.filter fun entry =>
            entry.receives event).map fun entry => (entry, event)).toList =
          deliveries [history.audience[index]] event := by
        rw [entryAt, Option.filter_some, SubscriberEntry.receives, present, Bool.and_true]
        cases addressed : history.audience[index].addressedBy event <;>
          simp [deliveries, addressed]
      refine ⟨queue, ?_⟩
      simp only [tracker_step, DispatchState.step, DispatchHistory.record,
        DispatchState.processEvents, control, more, ↓reduceIte, front, handled]
      refine ⟨accounted.initialised, accounted.subscribed, accounted.handlers, accounted.ring,
        ⟨registered, count, slot, more, waiting⟩, accounted.accepted, ?_⟩
      have earlier := accounted.handled
      rw [control, contents] at earlier
      simp only [contents, DispatchControl.progress, List.head?_cons, Option.toList_some,
        List.flatMap_cons, List.flatMap_nil, List.append_nil] at earlier ⊢
      rw [earlier, List.take_succ_eq_append_getElem inside, deliveries_append, List.append_assoc]

/-- The release of a slot: by then the event has passed the whole audience. -/
theorem release (accounted : Accounted state history queue) {subCount tail index : Nat}
    (control : state.control = .matching subCount tail index) (done : ¬ index < subCount) :
    Tracked (tracker.step (state, history) .processEvents).2 := by
  have consistent := accounted.consistent
  rw [control] at consistent
  obtain ⟨registered, count, slot, passed, waiting⟩ := consistent
  cases contents : queue with
  | nil => exact absurd contents waiting
  | cons event rest =>
      have whole : history.audience.take index = history.audience :=
        List.take_of_length_le (by omega)
      obtain ⟨front, popped⟩ := (contents ▸ accounted.ring).pop
      rw [← slot] at front popped
      refine ⟨rest, ?_⟩
      simp only [tracker_step, DispatchState.step, DispatchHistory.record,
        DispatchState.processEvents, control, done, ↓reduceIte, front]
      refine ⟨accounted.initialised, accounted.subscribed, accounted.handlers, popped,
        ⟨registered, count⟩, ?_, ?_⟩
      · rw [accounted.accepted, contents]
        simp
      · have earlier := accounted.handled
        rw [control, contents] at earlier
        simp only [DispatchControl.progress, List.head?_cons, Option.toList_some,
          List.flatMap_cons, List.flatMap_nil, List.append_nil, whole] at earlier
        simp [earlier, DispatchControl.progress]

theorem processEvents (accounted : Accounted state history queue) :
    Tracked (tracker.step (state, history) .processEvents).2 := by
  have consistent := accounted.consistent
  have earlier := accounted.handled
  cases control : state.control with
  | idle =>
      refine ⟨queue, ?_⟩
      simp only [tracker_step, DispatchState.step, DispatchHistory.record,
        DispatchState.processEvents, control, accounted.initialised, Bool.not_true,
        Bool.false_eq_true, ↓reduceIte]
      rw [control] at earlier
      refine ⟨accounted.initialised, accounted.subscribed, accounted.handlers, accounted.ring,
        ?_, accounted.accepted, earlier⟩
      rw [← accounted.subscribed]
      exact ⟨List.prefix_refl _, rfl⟩
  | polling subCount =>
      rw [control] at consistent earlier
      refine ⟨queue, ?_⟩
      simp only [tracker_step, DispatchState.step, DispatchHistory.record,
        DispatchState.processEvents, control]
      split
      · exact ⟨accounted.initialised, accounted.subscribed, accounted.handlers, accounted.ring,
          trivial, accounted.accepted, earlier⟩
      · next waiting =>
          have some_queued : queue ≠ [] := mt accounted.ring.empty_iff.2 waiting
          exact ⟨accounted.initialised, accounted.subscribed, accounted.handlers, accounted.ring,
            ⟨consistent.1, consistent.2, rfl, Nat.zero_le _, some_queued⟩, accounted.accepted,
            earlier⟩
  | matching subCount tail index =>
      by_cases more : index < subCount
      · exact accounted.test control more
      · exact accounted.release control more

theorem step (accounted : Accounted state history queue) (call : DispatchCall) :
    Tracked (tracker.step (state, history) call).2 := by
  cases call with
  | publishEvent event => exact accounted.publishEvent event
  | subscribe serviceId eventId handler => exact accounted.subscribe serviceId eventId handler
  | processEvents => exact accounted.processEvents

end Accounted

def DispatchState.started : DispatchState where
  manager := SoaServiceManager.construct.init.2
  control := .idle

theorem run_accounted (calls : List DispatchCall) :
    Tracked (tracker.run (.started, .empty) calls) := by
  have initial : Tracked (DispatchState.started, DispatchHistory.empty) :=
    ⟨[], rfl, rfl, fun _ member => absurd member List.not_mem_nil,
      Ring.holds_empty _ (by decide : 0 < maxPendingEvents), trivial, rfl, rfl⟩
  refine tracker.run_preserves initial (fun current call tracked => ?_) calls
  obtain ⟨queue, accounted⟩ := tracked
  exact accounted.step call

/-- In every state of every run: the subscribers are those whose `Subscribe` was accepted, the
dequeued events are the oldest accepted ones, the rest is queued in order, and the handlers run
are those each dequeued event owed to the subscribers its `ProcessEvents` call began with,
followed by those the event in dispatch has passed. An event is refused exactly by a full queue,
which stays as it is. -/
theorem exactly_once_dispatch (calls : List DispatchCall) :
    let reached := tracker.run (.started, .empty) calls
    let manager := reached.1.manager
    let history := reached.2
    reached.1 = DispatchState.dispatcher.run .started calls ∧
      manager.subscribers = history.subscribed ∧ ∃ queue,
      history.accepted = history.dequeued.map Prod.fst ++ queue ∧
        Ring.Holds maxPendingEvents manager.eventQueue manager.queueHead manager.queueTail queue ∧
        history.handled =
          history.dequeued.flatMap (fun event => deliveries event.2 event.1) ++
            queue.head?.toList.flatMap
              (deliveries (history.audience.take reached.1.control.progress)) ∧
        (∀ event, (manager.publishEvent event).1 = .ok () ↔
          queue.length ≠ maxPendingEvents - 1) ∧
        ∀ event, (manager.publishEvent event).1 ≠ .ok () →
          manager.publishEvent event = (.error .queueFull, manager) := by
  intro reached manager history
  obtain ⟨queue, accounted⟩ := run_accounted calls
  have cases_of := SoaServiceManager.publishEvent_cases accounted.initialised accounted.ring
  refine ⟨DispatchState.dispatcher.withGhost_run_fst _ _ calls, accounted.subscribed, queue,
    accounted.accepted, accounted.ring, accounted.handled, fun event => ?_, fun event failed => ?_⟩
  · obtain ⟨full, refused⟩ | ⟨room, taken⟩ := cases_of event
    · exact iff_of_false (by rw [refused]; exact nofun) (not_not_intro full)
    · exact iff_of_true (by rw [taken]) (Nat.ne_of_lt room)
  · obtain ⟨-, refused⟩ | ⟨-, taken⟩ := cases_of event
    · exact refused
    · exact absurd (by rw [taken]) failed

end SoaGateway.Services
