import SoaGateway.Foundation.Loop
import SoaGateway.Services.Dispatch

/-! One whole call of `ProcessEvents`, with handlers that publish while it runs. The call ends
when it finds the queue empty, and by then it has dispatched whatever was accepted meanwhile;
handlers that keep to a budget bring it there in time. -/

set_option autoImplicit false

namespace SoaGateway.Services

open Foundation

/-- What each handler publishes before it returns, given all that has happened. -/
abbrev Handlers := DispatchHistory → EventHandler → SoaEvent → List SoaEvent

abbrev Dispatching := DispatchState × DispatchHistory

/-- The events published by the handler that a step runs. -/
def publications (handlers : Handlers) (history : DispatchHistory) (reply : DispatchReply) :
    List SoaEvent :=
  match reply.handled with
  | none => []
  | some (entry, event) =>
      match entry.handler with
      | none => []
      | some handler => handlers history handler event

/-- One step of the dispatch loop, the handler it runs included. -/
def advance (handlers : Handlers) (current : Dispatching) : Dispatching :=
  let pass := tracker.step current .processEvents
  tracker.run pass.2 ((publications handlers pass.2.2 pass.1).map .publishEvent)

def Idle (current : Dispatching) : Prop := current.1.control = .idle

/-- A call of `ProcessEvents` returns, having dispatched at most as many events as the queue has
cells. -/
def ReturnsInTime (handlers : Handlers) (current : Dispatching) : Prop :=
  let begun := (tracker.step current .processEvents).2
  ∃ passes, Leaves (advance handlers) Idle begun passes ∧
    ((advance handlers)^[passes] begun).2.dequeued.length ≤
      current.2.dequeued.length + maxPendingEvents

/-- A state between two calls; the registry is no concern of the dispatcher. -/
def Reached (current : Dispatching) : Prop :=
  Idle current ∧ ∃ calls registry,
    let reached := tracker.run (.started, .empty) calls
    current = ({ reached.1 with manager := { reached.1.manager with registry } }, reached.2)

/-- The accepted events whose slots are not released. -/
def DispatchHistory.pending (history : DispatchHistory) : List SoaEvent :=
  history.accepted.drop history.dequeued.length

theorem DispatchHistory.pending_released {before after : DispatchHistory} {front : SoaEvent}
    {rest : List SoaEvent} {audience : List SubscriberEntry}
    (waiting : before.pending = front :: rest) (accepted : after.accepted = before.accepted)
    (dequeued : after.dequeued = before.dequeued ++ [(front, audience)]) :
    after.pending = rest := by
  rw [pending, accepted, dequeued, List.length_append, List.length_singleton, ← List.drop_drop,
    ← pending, waiting]
  rfl

section Step

variable {state : DispatchState} {history : DispatchHistory} {current : Dispatching}
  {queue : List SoaEvent}

theorem Accounted.pending_eq (accounted : Accounted state history queue) :
    history.pending = queue := by
  rw [DispatchHistory.pending, accounted.accepted, ← List.length_map Prod.fst,
    List.drop_left]

theorem Tracked.accounted (tracked : Tracked current) :
    Accounted current.1 current.2 current.2.pending := by
  obtain ⟨queue, accounted⟩ := tracked
  rw [accounted.pending_eq]
  exact accounted

theorem Tracked.accepted_length (tracked : Tracked current) :
    current.2.accepted.length = current.2.dequeued.length + current.2.pending.length := by
  have accepted := tracked.accounted.accepted
  rw [accepted, List.length_append, List.length_map]

theorem Tracked.pending_length (tracked : Tracked current) :
    current.2.pending.length < maxPendingEvents :=
  tracked.accounted.ring.length_lt

theorem Tracked.step (tracked : Tracked current) (call : DispatchCall) :
    Tracked (tracker.step current call).2 :=
  tracked.accounted.step call

theorem Tracked.run (tracked : Tracked current) (calls : List DispatchCall) :
    Tracked (tracker.run current calls) :=
  tracker.run_preserves tracked (fun _ call held => held.step call) calls

theorem Tracked.advance (tracked : Tracked current) (handlers : Handlers) :
    Tracked (advance handlers current) :=
  (tracked.step .processEvents).run _

end Step

/-- What publishing changes: some of the events are accepted, in order, and nothing else that the
dispatch loop looks at is touched. -/
structure Publishes (before after : Dispatching) (extra : List SoaEvent) : Prop where
  control : after.1.control = before.1.control
  subscribers : after.1.manager.subscribers = before.1.manager.subscribers
  audience : after.2.audience = before.2.audience
  handled : after.2.handled = before.2.handled
  dequeued : after.2.dequeued = before.2.dequeued
  accepted : after.2.accepted = before.2.accepted ++ extra

theorem Publishes.refl (current : Dispatching) : Publishes current current [] :=
  ⟨rfl, rfl, rfl, rfl, rfl, (List.append_nil _).symm⟩

theorem Publishes.trans {first second third : Dispatching} {early late : List SoaEvent}
    (publishes : Publishes first second early) (further : Publishes second third late) :
    Publishes first third (early ++ late) where
  control := further.control.trans publishes.control
  subscribers := further.subscribers.trans publishes.subscribers
  audience := further.audience.trans publishes.audience
  handled := further.handled.trans publishes.handled
  dequeued := further.dequeued.trans publishes.dequeued
  accepted := by rw [further.accepted, publishes.accepted, List.append_assoc]

section Publishing

variable {current : Dispatching}

theorem Publishes.pending_eq (tracked : Tracked current) {after : Dispatching}
    {extra : List SoaEvent} (publishes : Publishes current after extra) :
    after.2.pending = current.2.pending ++ extra := by
  have within : current.2.dequeued.length ≤ current.2.accepted.length := by
    rw [tracked.accepted_length]
    exact Nat.le_add_right _ _
  rw [DispatchHistory.pending, publishes.accepted, publishes.dequeued,
    List.drop_append_of_le_length within, DispatchHistory.pending]

/-- A full queue refuses an event, and any other queue takes it. -/
theorem publishEvent_publishes (tracked : Tracked current) (event : SoaEvent) :
    ∃ extra, Publishes current (tracker.step current (.publishEvent event)).2 extra ∧
      (extra = [event] ∨ extra = [] ∧ current.2.pending.length = maxPendingEvents - 1) := by
  rcases current with ⟨state, history⟩
  have accounted := tracked.accounted
  obtain ⟨full, refused⟩ | ⟨room, taken⟩ :=
    SoaServiceManager.publishEvent_cases accounted.initialised accounted.ring event
  · refine ⟨[], ?_, .inr ⟨rfl, full⟩⟩
    rw [tracker_step]
    simp only [DispatchState.step, DispatchHistory.record, refused, isOk_error,
      Bool.false_eq_true, ↓reduceIte]
    exact .refl _
  · refine ⟨[event], ?_, .inl rfl⟩
    rw [tracker_step]
    simp only [DispatchState.step, DispatchHistory.record, taken, isOk_ok, ↓reduceIte]
    exact ⟨rfl, rfl, rfl, rfl, rfl, rfl⟩

/-- Of the events published one after the other, the first is accepted if there is room. -/
theorem run_publishes (tracked : Tracked current) (events : List SoaEvent) :
    ∃ extra, Publishes current (tracker.run current (events.map .publishEvent)) extra ∧
      extra.Sublist events ∧
      (events ≠ [] → extra = [] → current.2.pending.length = maxPendingEvents - 1) := by
  induction events generalizing current with
  | nil => exact ⟨[], .refl current, List.Sublist.refl _, fun some_event => absurd rfl some_event⟩
  | cons event events ih =>
      obtain ⟨first, publishes, accepted⟩ := publishEvent_publishes tracked event
      obtain ⟨later, further, sublist, -⟩ := ih (tracked.step (.publishEvent event))
      refine ⟨first ++ later, publishes.trans further, ?_, fun _ none => ?_⟩
      · rcases accepted with rfl | ⟨rfl, -⟩
        · exact sublist.cons_cons event
        · exact sublist.cons event
      · rcases accepted with rfl | ⟨-, full⟩
        · cases none
        · exact full

end Publishing

section Pass

variable {current : Dispatching}

/-- What a step of the loop does between two handlers: it leaves the loop, takes the front event,
tests one subscriber for it, or releases its slot. -/
theorem pass_cases (tracked : Tracked current) (busy : ¬ Idle current) :
    let pass := tracker.step current .processEvents
    (∃ subCount, current.1.control = .polling subCount ∧ current.2.pending = [] ∧
        pass.1.handled = none ∧ Idle pass.2 ∧ pass.2.2 = current.2) ∨
    (∃ subCount, current.1.control = .polling subCount ∧ current.2.pending ≠ [] ∧
        pass.1.handled = none ∧ pass.2.1.control = .matching subCount current.1.manager.queueTail 0 ∧
        pass.2.1.manager = current.1.manager ∧ pass.2.2 = current.2) ∨
    (∃ subCount tail index event rest, current.1.control = .matching subCount tail index ∧
        index < subCount ∧ current.2.pending = event :: rest ∧
        pass.1.handled = (current.1.manager.subscribers[index]?.filter fun entry =>
          entry.receives event).map (fun entry => (entry, event)) ∧
        pass.2.1.control = .matching subCount tail (index + 1) ∧
        pass.2.1.manager = current.1.manager ∧ pass.2.2.accepted = current.2.accepted ∧
        pass.2.2.dequeued = current.2.dequeued) ∨
    (∃ subCount tail event rest, current.1.control = .matching subCount tail subCount ∧
        current.2.pending = event :: rest ∧ pass.1.handled = none ∧
        pass.2.1.control = .polling subCount ∧
        pass.2.1.manager.subscribers = current.1.manager.subscribers ∧
        pass.2.2.accepted = current.2.accepted ∧
        pass.2.2.dequeued = current.2.dequeued ++ [(event, current.2.audience)]) := by
  rcases current with ⟨state, history⟩
  have accounted := tracked.accounted
  have consistent := accounted.consistent
  cases control : state.control with
  | idle => exact absurd control busy
  | polling subCount =>
      by_cases drained : history.pending = []
      · have meets : state.manager.queueTail = state.manager.queueHead :=
          accounted.ring.empty_iff.2 drained
        refine .inl ⟨subCount, rfl, drained, ?_⟩
        simp [tracker, Machine.withGhost, DispatchState.dispatcher, DispatchState.step,
          DispatchState.processEvents, DispatchHistory.record, control, meets, Idle]
      · have apart : state.manager.queueTail ≠ state.manager.queueHead :=
          mt accounted.ring.empty_iff.1 drained
        refine .inr (.inl ⟨subCount, rfl, drained, ?_⟩)
        simp [tracker, Machine.withGhost, DispatchState.dispatcher, DispatchState.step,
          DispatchState.processEvents, DispatchHistory.record, control, apart]
  | matching subCount tail index =>
      rw [control] at consistent
      obtain ⟨-, -, slot, passed, waiting⟩ := consistent
      obtain ⟨event, rest, pending⟩ := List.exists_cons_of_ne_nil waiting
      have front : state.manager.eventQueue tail = event := by
        rw [slot]
        exact (pending ▸ accounted.ring).pop.1
      by_cases more : index < subCount
      · refine .inr (.inr (.inl ⟨subCount, tail, index, event, rest, rfl, more, pending, ?_⟩))
        simp [tracker, Machine.withGhost, DispatchState.dispatcher, DispatchState.step,
          DispatchState.processEvents, DispatchHistory.record, control, more, front]
      · obtain rfl : index = subCount := by omega
        refine .inr (.inr (.inr ⟨index, tail, event, rest, rfl, pending, ?_⟩))
        simp [tracker, Machine.withGhost, DispatchState.dispatcher, DispatchState.step,
          DispatchState.processEvents, DispatchHistory.record, control, front]

theorem publications_none (handlers : Handlers) (history : DispatchHistory) {reply : DispatchReply}
    (none : reply.handled = none) : publications handlers history reply = [] := by
  unfold publications
  rw [none]

/-- A step publishes what its handler publishes and leaves the loop where it is. -/
theorem advance_publishes (tracked : Tracked current) (handlers : Handlers) :
    let pass := tracker.step current .processEvents
    ∃ extra, Publishes pass.2 (advance handlers current) extra ∧
      extra.Sublist (publications handlers pass.2.2 pass.1) ∧
      (publications handlers pass.2.2 pass.1 ≠ [] → extra = [] →
        pass.2.2.pending.length = maxPendingEvents - 1) :=
  run_publishes (tracked.step .processEvents) _

theorem pass_accepted (tracked : Tracked current) (busy : ¬ Idle current) :
    (tracker.step current .processEvents).2.2.accepted = current.2.accepted := by
  rcases pass_cases tracked busy with ⟨_, -, -, -, -, same⟩ | ⟨_, -, -, -, -, -, same⟩ |
    ⟨_, _, _, _, _, -, -, -, -, -, -, accepted, -⟩ | ⟨_, _, _, _, -, -, -, -, -, accepted, -⟩
  · exact congrArg DispatchHistory.accepted same
  · exact congrArg DispatchHistory.accepted same
  · exact accepted
  · exact accepted

/-- The loop is left with an empty queue. -/
theorem advance_drained (tracked : Tracked current) (busy : ¬ Idle current) (handlers : Handlers)
    (left : Idle (advance handlers current)) : (advance handlers current).2.pending = [] := by
  have next_tracked := tracked.step .processEvents
  obtain ⟨extra, publishes, sublist, -⟩ := advance_publishes tracked handlers
  have control := publishes.control.symm.trans left
  rcases pass_cases tracked busy with ⟨subCount, -, drained, none, -, same⟩ |
    ⟨subCount, -, -, -, taken, -⟩ | ⟨subCount, tail, index, event, rest, -, -, -, -, tested, -⟩ |
    ⟨subCount, tail, event, rest, -, -, -, released, -⟩
  · rw [publications_none handlers _ none] at sublist
    rw [publishes.pending_eq next_tracked, same, drained, List.sublist_nil.1 sublist]
    rfl
  · cases control.symm.trans taken
  · cases control.symm.trans tested
  · cases control.symm.trans released

end Pass

/-- What a call leaves behind when it returns: everything accepted is dispatched. -/
theorem returned_drained {handlers : Handlers} {begun : Dispatching} {passes : Nat}
    (tracked : Tracked begun) (busy : ¬ Idle begun)
    (leaves : Leaves (advance handlers) Idle begun passes) :
    ((advance handlers)^[passes] begun).2.dequeued.length =
      ((advance handlers)^[passes] begun).2.accepted.length := by
  let law := fun current : Dispatching => Tracked current ∧ (Idle current → current.2.pending = [])
  have kept : law ((advance handlers)^[passes] begun) := by
    refine leaves.preserves ⟨tracked, fun idle => absurd idle busy⟩ ?_
    intro current held unmet
    exact ⟨held.1.advance handlers, advance_drained held.1 unmet handlers⟩
  have counted := kept.1.accepted_length
  rw [kept.2 leaves.stopped] at counted
  exact counted.symm

/-- The steps a call still takes when so many events are waiting and no other is accepted. -/
def DispatchControl.remaining (control : DispatchControl) (waiting : Nat) : Nat :=
  match control with
  | .idle => 0
  | .polling subCount => waiting * (subCount + 2) + 1
  | .matching subCount _ index => waiting * (subCount + 2) - index

/-- A history that the call begun in `current` may come to. -/
structure DispatchHistory.Extends (history : DispatchHistory) (current : Dispatching) : Prop where
  genuine : ∃ state, Tracked (state, history)
  audience : history.audience = current.1.manager.subscribers
  accepted : current.2.accepted <+: history.accepted
  dequeued : current.2.dequeued <+: history.dequeued
  handled : current.2.handled <+: history.handled

/-- The run of a handler that the call begun in `current` may come to, after the runs `earlier`. -/
structure Turn (current : Dispatching) (history : DispatchHistory)
    (earlier : List (SubscriberEntry × SoaEvent)) (entry : SubscriberEntry)
    (handler : EventHandler) (event : SoaEvent) : Prop where
  extended : history.Extends current
  subscribed : entry ∈ current.1.manager.subscribers
  armed : entry.handler = some handler
  addressed : entry.addressedBy event = true
  begun : current.2.handled <+: earlier
  handled : history.handled = earlier ++ [(entry, event)]

/-- The handlers that a call begun in `current` may run keep to a budget: while what was accepted
is paid for, each run is paid for out of what is allowed after the runs before it, and the queued
events and the whole budget fit into as many cells as the queue has. The events that may come up
are among those queued and published. -/
structure Budgeted (handlers : Handlers) (current : Dispatching) (among : SoaEvent → Prop)
    (allowance : List (SubscriberEntry × SoaEvent) → Nat) : Prop where
  queued : ∀ event ∈ current.2.pending, among event
  paid : ∀ history earlier entry handler event, Turn current history earlier entry handler event →
    among event →
    history.accepted.length + allowance earlier ≤
      current.2.accepted.length + allowance current.2.handled →
    (∀ published ∈ handlers history handler event, among published) ∧
      (handlers history handler event).length + allowance history.handled ≤ allowance earlier
  affordable : current.2.pending.length + allowance current.2.handled ≤ maxPendingEvents

/-- The handlers that a call can run publish, over the whole call, no more than fits. -/
def Frugal (handlers : Handlers) (current : Dispatching) : Prop :=
  ∃ among allowance, Budgeted handlers current among allowance

/-- No handler subscribed to a queued event publishes on it when its turn comes. -/
def Silent (handlers : Handlers) (current : Dispatching) : Prop :=
  ∀ history earlier entry handler event, Turn current history earlier entry handler event →
    event ∈ current.2.pending → history.accepted = current.2.accepted →
    handlers history handler event = []

theorem Silent.frugal {handlers : Handlers} {current : Dispatching}
    (silent : Silent handlers current) (tracked : Tracked current) : Frugal handlers current := by
  refine ⟨(· ∈ current.2.pending), fun _ => 0, fun _ queued => queued, ?_, ?_⟩
  · intro history earlier entry handler event turn queued spent
    have same : history.accepted = current.2.accepted :=
      (turn.extended.accepted.eq_of_length_le spent).symm
    rw [silent history earlier entry handler event turn queued same]
    exact ⟨fun _ member => absurd member List.not_mem_nil, Nat.le_refl 0⟩
  · exact Nat.le_of_lt tracked.pending_length

section Budget

variable {handlers : Handlers} {start current : Dispatching} {among : SoaEvent → Prop}
  {allowance : List (SubscriberEntry × SoaEvent) → Nat}

/-- A call on its way: what it has accepted is paid for. -/
structure Paced (start : Dispatching) (among : SoaEvent → Prop)
    (allowance : List (SubscriberEntry × SoaEvent) → Nat) (current : Dispatching) : Prop where
  tracked : Tracked current
  extended : current.2.Extends start
  subscribers : current.1.manager.subscribers = start.1.manager.subscribers
  waiting : ∀ event ∈ current.2.pending, among event
  paid : current.2.accepted.length + allowance current.2.handled ≤
    start.2.accepted.length + allowance start.2.handled

theorem processEvents_subscribers (current : Dispatching) :
    (tracker.step current .processEvents).2.1.manager.subscribers =
      current.1.manager.subscribers := by
  change current.1.processEvents.2.manager.subscribers = _
  unfold DispatchState.processEvents
  split <;> split <;> rfl

theorem pass_handled (current : Dispatching) :
    (tracker.step current .processEvents).2.2.handled =
      current.2.handled ++ (tracker.step current .processEvents).1.handled.toList :=
  record_handled current.1 .processEvents current.2

theorem pass_extends (paced : Paced start among allowance current) (busy : ¬ Idle current) :
    (tracker.step current .processEvents).2.2.Extends start := by
  obtain ⟨-, audience, accepted, dequeued, handled⟩ := paced.extended
  have genuine : ∃ state, Tracked (state, (tracker.step current .processEvents).2.2) :=
    ⟨_, paced.tracked.step .processEvents⟩
  have further : current.2.handled <+: (tracker.step current .processEvents).2.2.handled := by
    rw [pass_handled]
    exact List.prefix_append _ _
  have same : (tracker.step current .processEvents).2.2.audience = current.2.audience :=
    record_audience current.1 .processEvents current.2 fun _ => busy
  rcases pass_cases paced.tracked busy with ⟨_, -, -, -, -, kept⟩ | ⟨_, -, -, -, -, -, kept⟩ |
    ⟨_, _, _, _, _, -, -, -, -, -, -, took, left⟩ | ⟨_, _, _, _, -, -, -, -, -, took, left⟩
  · rw [kept]
    exact paced.extended
  · rw [kept]
    exact paced.extended
  · exact ⟨genuine, same.trans audience, took ▸ accepted, left ▸ dequeued, handled.trans further⟩
  · refine ⟨genuine, same.trans audience, took ▸ accepted, ?_, handled.trans further⟩
    rw [left]
    exact dequeued.trans (List.prefix_append _ _)

/-- What the handler of a step publishes is paid for. -/
theorem publications_paid (budgeted : Budgeted handlers start among allowance)
    (paced : Paced start among allowance current) (busy : ¬ Idle current) :
    let pass := tracker.step current .processEvents
    let published := publications handlers pass.2.2 pass.1
    (∀ event ∈ published, among event) ∧
      published.length + allowance pass.2.2.handled ≤ allowance current.2.handled := by
  intro pass published
  have extended : pass.2.2.Extends start := pass_extends paced busy
  have handled : pass.2.2.handled = current.2.handled ++ pass.1.handled.toList :=
    pass_handled current
  have unhandled : pass.1.handled = none → (∀ event ∈ published, among event) ∧
      published.length + allowance pass.2.2.handled ≤ allowance current.2.handled := by
    intro none
    have silent : published = [] := publications_none handlers _ none
    rw [silent, handled, none]
    exact ⟨by simp, by simp⟩
  rcases pass_cases paced.tracked busy with ⟨_, -, -, none, -⟩ | ⟨_, -, -, none, -⟩ |
    ⟨subCount, tail, index, event, rest, -, -, pending, tested, -⟩ |
    ⟨_, _, _, _, -, -, none, -⟩
  · exact unhandled none
  · exact unhandled none
  · cases run : pass.1.handled with
    | none => exact unhandled run
    | some subscriber =>
        rw [show pass.1.handled = _ from tested] at run
        obtain ⟨entry, found, rfl⟩ := Option.map_eq_some_iff.1 run
        obtain ⟨listed, receives⟩ := Option.filter_eq_some_iff.1 found
        obtain ⟨addressed, present⟩ := (Bool.and_eq_true _ _).mp receives
        obtain ⟨handler, armed⟩ := Option.isSome_iff_exists.1 present
        have subscribed := List.mem_of_getElem? listed
        rw [paced.subscribers] at subscribed
        have comes : among event := paced.waiting event (by rw [pending]; exact .head _)
        have answered : pass.1.handled = some (entry, event) := tested.trans run
        have issued : published = handlers pass.2.2 handler event := by
          simp [published, publications, answered, armed]
        rw [issued]
        have turn : Turn start pass.2.2 current.2.handled entry handler event := by
          refine ⟨extended, subscribed, armed, addressed, paced.extended.handled, ?_⟩
          rw [handled, answered]
          rfl
        refine budgeted.paid _ _ entry handler event turn comes ?_
        rw [pass_accepted paced.tracked busy]
        exact paced.paid
  · exact unhandled none

/-- Between two handlers the loop leaves nothing new behind and comes closer to its end, whatever
is spent. -/
theorem pass_lowers (tracked : Tracked current) (busy : ¬ Idle current) {left spare : Nat}
    (spent : left ≤ spare) :
    let pass := tracker.step current .processEvents
    pass.2.2.pending ⊆ current.2.pending ∧
      pass.2.1.control.remaining (pass.2.2.pending.length + left) <
        current.1.control.remaining (current.2.pending.length + spare) := by
  rcases pass_cases tracked busy with ⟨subCount, control, drained, -, idle, same⟩ |
    ⟨subCount, control, -, -, taken, -, same⟩ |
    ⟨subCount, tail, index, event, rest, control, more, pending, -, tested, -, accepted, kept⟩ |
    ⟨subCount, tail, event, rest, control, pending, -, released, -, accepted, dequeued⟩
  · refine ⟨by rw [same]; exact List.Subset.refl _, ?_⟩
    rw [control, show (tracker.step current .processEvents).2.1.control = .idle from idle]
    exact Nat.succ_pos _
  · refine ⟨by rw [same]; exact List.Subset.refl _, ?_⟩
    rw [control, taken, same]
    exact Nat.lt_succ_of_le (Nat.mul_le_mul_right _ (Nat.add_le_add_left spent _))
  · have waits : (tracker.step current .processEvents).2.2.pending = current.2.pending := by
      rw [DispatchHistory.pending, accepted, kept, DispatchHistory.pending]
    refine ⟨by rw [waits]; exact List.Subset.refl _, ?_⟩
    have bound := Nat.mul_le_mul_right (subCount + 2)
      (Nat.add_le_add_left spent current.2.pending.length)
    have positive : subCount + 2 ≤ (current.2.pending.length + spare) * (subCount + 2) := by
      rw [pending, List.length_cons]
      exact Nat.le_mul_of_pos_left _ (by omega)
    rw [control, tested, waits]
    simp only [DispatchControl.remaining]
    omega
  · have waits := DispatchHistory.pending_released pending accepted dequeued
    refine ⟨by rw [waits, pending]; exact List.subset_cons_self _ _, ?_⟩
    have bound := Nat.mul_le_mul_right (subCount + 2) (Nat.add_le_add_left spent rest.length)
    rw [control, released, pending, waits]
    simp only [DispatchControl.remaining, List.length_cons, Nat.add_right_comm _ 1 spare,
      Nat.succ_mul]
    omega

theorem advance_paced (budgeted : Budgeted handlers start among allowance)
    (paced : Paced start among allowance current) (busy : ¬ Idle current) :
    let next := advance handlers current
    Paced start among allowance next ∧
      next.1.control.remaining (next.2.pending.length + allowance next.2.handled) <
        current.1.control.remaining (current.2.pending.length + allowance current.2.handled) := by
  intro next
  obtain ⟨extra, publishes, sublist, -⟩ := advance_publishes paced.tracked handlers
  obtain ⟨comes, paid⟩ := publications_paid budgeted paced busy
  have few := sublist.length_le
  have grown := publishes.pending_eq (paced.tracked.step .processEvents)
  have spent : extra.length + allowance next.2.handled ≤ allowance current.2.handled := by
    rw [publishes.handled]
    exact Nat.le_trans (Nat.add_le_add_right few _) paid
  have accepted := pass_accepted paced.tracked busy
  obtain ⟨kept, lower⟩ := pass_lowers paced.tracked busy spent
  refine ⟨⟨paced.tracked.advance handlers, ?_, ?_, fun event member => ?_, ?_⟩, ?_⟩
  · obtain ⟨-, audience, earlier, dequeued, handled⟩ := pass_extends paced busy
    refine ⟨⟨_, paced.tracked.advance handlers⟩, publishes.audience.trans audience, ?_,
      publishes.dequeued ▸ dequeued, publishes.handled ▸ handled⟩
    rw [publishes.accepted]
    exact earlier.trans (List.prefix_append _ _)
  · rw [publishes.subscribers, processEvents_subscribers, paced.subscribers]
  · rw [grown] at member
    rcases List.mem_append.1 member with old | new
    · exact paced.waiting event (kept old)
    · exact comes event (sublist.subset new)
  · have total := paced.paid
    rw [publishes.accepted, accepted, List.length_append]
    omega
  · rw [publishes.control, grown, List.length_append, Nat.add_assoc]
    exact lower

end Budget

/-- Taking the call itself begins the loop, or leaves it at once. -/
theorem begin_call {current : Dispatching} (tracked : Tracked current) (idle : Idle current) :
    let begun := (tracker.step current .processEvents).2
    begun.1.control = .polling current.1.manager.subscribers.length ∧
      begun.1.manager = current.1.manager ∧
      begun.2 = { current.2 with audience := current.1.manager.subscribers } := by
  rcases current with ⟨state, history⟩
  have ready : state.manager.initialised = true := tracked.accounted.initialised
  have subscribed : state.manager.subscribers = history.subscribed := tracked.accounted.subscribed
  have control : state.control = .idle := idle
  simp [tracker, Machine.withGhost, DispatchState.dispatcher, DispatchState.step,
    DispatchState.processEvents, DispatchHistory.record, control, ready, subscribed]

/-- Handlers that keep to a budget let the call return, with no more dispatched than fits. -/
theorem Frugal.returns {handlers : Handlers} {current : Dispatching}
    (frugal : Frugal handlers current) (tracked : Tracked current) (idle : Idle current) :
    ReturnsInTime handlers current := by
  obtain ⟨among, allowance, budgeted⟩ := frugal
  obtain ⟨control, manager, history⟩ := begin_call tracked idle
  have begun_tracked := tracked.step .processEvents
  have busy : ¬ Idle (tracker.step current .processEvents).2 := by
    intro left
    cases control.symm.trans left
  have start : Paced current among allowance (tracker.step current .processEvents).2 := by
    refine ⟨begun_tracked, ?_, congrArg _ manager, ?_, ?_⟩
    · have genuine : ∃ state, Tracked (state, (tracker.step current .processEvents).2.2) :=
        ⟨_, begun_tracked⟩
      rw [history] at genuine ⊢
      exact ⟨genuine, rfl, List.prefix_refl _, List.prefix_refl _, List.prefix_refl _⟩
    · rw [history]
      exact budgeted.queued
    · exact Nat.le_of_eq (by rw [history])
  have kept := fun state (paced : Paced current among allowance state) (unmet : ¬ Idle state) =>
    advance_paced budgeted paced unmet
  obtain ⟨passes, leaves⟩ := exists_leaves (fun state : Dispatching =>
    state.1.control.remaining (state.2.pending.length + allowance state.2.handled)) start kept
  have ended := leaves.preserves start fun state paced unmet => (kept state paced unmet).1
  have total := ended.paid
  have queued := budgeted.affordable
  refine ⟨passes, leaves, ?_⟩
  rw [tracked.accepted_length] at total
  rw [returned_drained begun_tracked busy leaves]
  omega

end SoaGateway.Services
