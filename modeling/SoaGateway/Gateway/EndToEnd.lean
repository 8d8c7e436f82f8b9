import SoaGateway.Gateway.Adaptor
import SoaGateway.Safety.Detection
import SoaGateway.Safety.DomainHistory
import SoaGateway.Services.DispatchBound

/-! From a published sensor failure to the command of the next cycle. The report is in the
queue, with a subscription of the adaptor still ahead of it, or it has been taken in and
nothing behind it in the queue clears it. -/

set_option autoImplicit false

namespace SoaGateway.Gateway

open Foundation Services Safety

/-- The event is a report of the domain's failure, as the decoder reads it. -/
def ReportsFailure (index : Fin maxSensorDomains) (event : SoaEvent) : Prop :=
  ¬ event.payloadLen < 12 ∧ (SafetyArbitrator.decodeFault event).domain.index? = some index ∧
    (SafetyArbitrator.decodeFault event).health = .failed

/-- The call leaves a reported failure standing, and the report on its way. -/
def Spares (index : Fin maxSensorDomains) : GatewayCall → Prop
  | .inl (.setGlobalArbitrator _) => False
  | .inl (.dispatch (.publishEvent event) nowMs) => ¬ Clears index (.ingestSoaEvent event nowMs)
  | .inl (.dispatch _ _) => True
  | .inr call => ¬ Clears index call

def Hearer (adaptor : EventHandler) (event : SoaEvent) (entry : SubscriberEntry) : Prop :=
  entry.addressedBy event = true ∧ entry.handler = some adaptor

/-- The subscribers that an event published now is tested against at least. -/
def audienceNow (state : DispatchState) : List SubscriberEntry :=
  match state.control with
  | .idle => state.manager.subscribers
  | .polling subCount | .matching subCount _ _ => state.manager.subscribers.take subCount

section Domain

variable {index : Fin maxSensorDomains} {event : SoaEvent} {entry : DomainState}

theorem ingest_reports_iff {health : SensorHealth} (nowMs : Nat) :
    (ArbitratorCall.ingestSoaEvent event nowMs).Reports index health ↔
      ¬ event.payloadLen < 12 ∧ (SafetyArbitrator.decodeFault event).domain.index? = some index ∧
        (SafetyArbitrator.decodeFault event).health = health := by
  have read : (ArbitratorCall.ingestSoaEvent event nowMs).report? =
      if event.payloadLen < 12 then none
      else some (SafetyArbitrator.decodeFault event, nowMs) := rfl
  rw [ArbitratorCall.Reports, read]
  split
  · next short => exact iff_of_false (by simp) fun long => long.1 short
  · next long =>
      constructor
      · intro reports
        obtain ⟨fault, readingMs, same, here, named⟩ := reports
        cases same
        exact ⟨long, here, named⟩
      · intro decoded
        obtain ⟨-, here, named⟩ := decoded
        exact ⟨_, nowMs, rfl, here, named⟩

theorem ingest_clears_iff (nowMs : Nat) :
    Clears index (.ingestSoaEvent event nowMs) ↔ Clears index (.ingestSoaEvent event 0) := by
  have quiet : ∀ now, ¬ (ArbitratorCall.ingestSoaEvent event now).Beats index := by
    intro now beating
    obtain ⟨domain, nowMs, same, -⟩ := beating
    cases same
  simp only [Clears, quiet, ingest_reports_iff, false_or]

theorem ReportsFailure.spared (failure : ReportsFailure index event) (nowMs : Nat) :
    ¬ Clears index (.ingestSoaEvent event nowMs) := by
  intro clears
  rcases clears with beating | ⟨health, reported, other⟩
  · obtain ⟨domain, nowMs, same, -⟩ := beating
    cases same
  · obtain ⟨-, -, health_eq⟩ := (ingest_reports_iff nowMs).1 reported
    exact other (health_eq.symm.trans failure.2.2)

theorem ReportsFailure.touch (failure : ReportsFailure index event) (nowMs : Nat) :
    ((ArbitratorCall.ingestSoaEvent event nowMs).touch index entry).health = .failed := by
  obtain ⟨long, here, failed⟩ := failure
  have carried : (ArbitratorCall.ingestSoaEvent event nowMs).report? =
      some (SafetyArbitrator.decodeFault event, nowMs) := if_neg long
  rw [ArbitratorCall.touch_of_report carried here, DomainState.report_health, failed]

/-- A call that clears nothing keeps a failure. -/
theorem touch_failed {call : ArbitratorCall} (spared : ¬ Clears index call)
    (failed : entry.health = .failed) : (call.touch index entry).health = .failed := by
  obtain same | ⟨clock, -, scanned⟩ | ⟨domain, nowMs, rfl, here, -⟩ |
    ⟨fault, nowMs, carried, here, reported⟩ := call.touch_cases index entry
  · rw [same, failed]
  · rw [scanned, DomainState.scan_failed failed, failed]
  · exact absurd (.inl ⟨domain, nowMs, rfl, here⟩) spared
  · rw [reported, DomainState.report_health]
    by_contra other
    exact spared (.inr ⟨fault.health, ⟨fault, nowMs, carried, here, rfl⟩, other⟩)

end Domain

section Queue

variable (adaptor : EventHandler) (event : SoaEvent)

/-- A subscription of the adaptor is still to be tested for the event, which stands behind the
given ones. -/
def Ahead (current : Dispatching) (earlier : List SoaEvent) : Prop :=
  match current.1.control with
  | .idle => ∃ entry ∈ current.1.manager.subscribers, Hearer adaptor event entry
  | .polling _ => ∃ entry ∈ current.2.audience, Hearer adaptor event entry
  | .matching _ _ place =>
      ∃ entry ∈ (if earlier = [] then current.2.audience.drop place else current.2.audience),
        Hearer adaptor event entry

inductive Underway (index : Fin maxSensorDomains) (current : Dispatching) (entry : DomainState) :
    Prop
  | queued (earlier later : List SoaEvent)
      (pending : current.2.pending = earlier ++ event :: later)
      (ahead : Ahead adaptor event current earlier)
      (spared : ∀ other ∈ later, ¬ Clears index (.ingestSoaEvent other 0))
  | reported (failed : entry.health = .failed)
      (spared : ∀ other ∈ current.2.pending, ¬ Clears index (.ingestSoaEvent other 0))

/-- What the handler run by a step does to the entry of one domain. -/
def handledEntry (index : Fin maxSensorDomains) (nowMs : Nat)
    (handled : Option (SubscriberEntry × SoaEvent)) (entry : DomainState) : DomainState :=
  match handled with
  | none => entry
  | some (subscriber, event) =>
      if subscriber.handler = some adaptor then
        (ArbitratorCall.ingestSoaEvent event nowMs).touch index entry
      else entry

theorem handledEntry_failed {index : Fin maxSensorDomains} {nowMs : Nat}
    {handled : Option (SubscriberEntry × SoaEvent)} {entry : DomainState}
    (failed : entry.health = .failed)
    (spared : ∀ run ∈ handled, ¬ Clears index (.ingestSoaEvent run.2 0)) :
    (handledEntry adaptor index nowMs handled entry).health = .failed := by
  unfold handledEntry
  split
  · exact failed
  · next subscriber event =>
      split
      · exact touch_failed (mt (ingest_clears_iff nowMs).1 (spared _ rfl)) failed
      · exact failed

/-- The step that begins a call takes the subscribers registered so far as its audience. -/
theorem begin_facts {current : Dispatching} (tracked : Tracked current) (idle : Idle current) :
    let begun := tracker.step current .processEvents
    begun.1.handled = none ∧ begun.2.2.pending = current.2.pending ∧
      begun.2.2.audience = current.1.manager.subscribers ∧
      begun.2.1.control = .polling current.1.manager.subscribers.length := by
  obtain ⟨state, history⟩ := current
  have ready : state.manager.initialised = true := tracked.accounted.initialised
  have control : state.control = .idle := idle
  have subscribed : state.manager.subscribers = history.subscribed := tracked.accounted.subscribed
  simp [tracker, Machine.withGhost, DispatchState.dispatcher, DispatchState.step,
    DispatchState.processEvents, DispatchHistory.record, control, ready, subscribed,
    DispatchHistory.pending]

end Queue

section Steps

variable {adaptor : EventHandler} {event : SoaEvent} {index : Fin maxSensorDomains}
  {current : Dispatching} {entry : DomainState}

/-- The loop takes the report a step nearer, or to the arbitrator. -/
theorem queued_processEvents (failure : ReportsFailure index event) (tracked : Tracked current)
    {earlier later : List SoaEvent} (pending : current.2.pending = earlier ++ event :: later)
    (ahead : Ahead adaptor event current earlier)
    (spared : ∀ other ∈ later, ¬ Clears index (.ingestSoaEvent other 0)) (nowMs : Nat) :
    let pass := tracker.step current .processEvents
    Underway adaptor event index pass.2 (handledEntry adaptor index nowMs pass.1.handled entry) := by
  intro pass
  by_cases idle : Idle current
  · obtain ⟨-, same, audience, control⟩ := begin_facts tracked idle
    refine .queued earlier later (same.trans pending) ?_ spared
    rw [Ahead, show current.1.control = .idle from idle] at ahead
    rw [Ahead, control, audience]
    exact ahead
  · have kept : pass.2.2.audience = current.2.audience :=
      record_audience current.1 .processEvents current.2 fun _ => idle
    rcases pass_cases tracked idle with ⟨_, -, drained, -⟩ |
      ⟨subCount, control, -, -, taken, -, same⟩ |
      ⟨subCount, tail, place, front, rest, control, more, head, run, tested, -, accepted, dequeued⟩ |
      ⟨subCount, tail, front, rest, control, head, -, released, -, accepted, dequeued⟩
    · rw [drained] at pending
      exact absurd pending.symm (by simp)
    · refine .queued earlier later ((congrArg DispatchHistory.pending same).trans pending) ?_ spared
      rw [Ahead, control] at ahead
      rw [Ahead, taken, kept]
      simpa only [List.drop_zero, ite_self] using ahead
    · have unchanged : pass.2.2.pending = current.2.pending := by
        rw [DispatchHistory.pending, accepted, dequeued, DispatchHistory.pending]
      have consistent := tracked.accounted.consistent
      rw [control] at consistent
      obtain ⟨registered, count, -⟩ := consistent
      rw [Ahead, control] at ahead
      cases earlier with
      | cons first others =>
          refine .queued (first :: others) later (unchanged.trans pending) ?_ spared
          rw [Ahead, tested, kept]
          exact ahead
      | nil =>
          have inside : place < current.2.audience.length := count ▸ more
          have entryAt : current.1.manager.subscribers[place]? = some current.2.audience[place] :=
            List.prefix_iff_getElem?.1 registered place inside
          obtain ⟨rfl, rfl⟩ := List.cons.inj (head.symm.trans pending)
          simp only [↓reduceIte, List.drop_eq_getElem_cons inside] at ahead
          obtain ⟨hearer, member, addressed, armed⟩ := ahead
          rcases List.mem_cons.1 member with rfl | further
          · have delivered : pass.1.handled = some (current.2.audience[place], front) := by
              rw [run, entryAt, Option.filter_some, SubscriberEntry.receives, addressed, armed]
              rfl
            refine .reported ?_ ?_
            · rw [delivered, handledEntry, if_pos armed]
              exact failure.touch nowMs
            · rw [unchanged, pending]
              intro other among
              rcases List.mem_cons.1 among with rfl | behind
              · exact failure.spared 0
              · exact spared other behind
          · refine .queued [] rest (unchanged.trans pending) ?_ spared
            rw [Ahead, tested, kept]
            exact ⟨hearer, further, addressed, armed⟩
    · have consistent := tracked.accounted.consistent
      rw [control] at consistent
      obtain ⟨-, count, -⟩ := consistent
      rw [Ahead, control] at ahead
      cases earlier with
      | nil =>
          obtain ⟨hearer, member, -⟩ := ahead
          rw [if_pos rfl, count, List.drop_length] at member
          exact absurd member List.not_mem_nil
      | cons first others =>
          obtain ⟨rfl, rfl⟩ := List.cons.inj (head.symm.trans pending)
          refine .queued others later (DispatchHistory.pending_released head accepted dequeued)
            ?_ spared
          rw [Ahead, released, kept]
          exact ahead

/-- Once the report is in, what the loop still delivers keeps the failure. -/
theorem reported_processEvents (tracked : Tracked current) (failed : entry.health = .failed)
    (spared : ∀ other ∈ current.2.pending, ¬ Clears index (.ingestSoaEvent other 0))
    (nowMs : Nat) :
    let pass := tracker.step current .processEvents
    Underway adaptor event index pass.2 (handledEntry adaptor index nowMs pass.1.handled entry) := by
  intro pass
  have unhandled : pass.1.handled = none →
      (handledEntry adaptor index nowMs pass.1.handled entry).health = .failed := by
    intro none_run
    rw [none_run]
    exact failed
  by_cases idle : Idle current
  · obtain ⟨none_run, same, -⟩ := begin_facts tracked idle
    exact .reported (unhandled none_run) (same.symm ▸ spared)
  · rcases pass_cases tracked idle with ⟨_, -, -, none_run, -, same⟩ |
      ⟨_, -, -, none_run, -, -, same⟩ |
      ⟨subCount, tail, place, front, rest, -, -, head, run, -, -, accepted, dequeued⟩ |
      ⟨subCount, tail, front, rest, -, head, none_run, -, -, accepted, dequeued⟩
    · exact .reported (unhandled none_run) (congrArg DispatchHistory.pending same ▸ spared)
    · exact .reported (unhandled none_run) (congrArg DispatchHistory.pending same ▸ spared)
    · have unchanged : pass.2.2.pending = current.2.pending := by
        rw [DispatchHistory.pending, accepted, dequeued, DispatchHistory.pending]
      refine .reported (handledEntry_failed adaptor failed fun delivery delivered => ?_)
        (unchanged.symm ▸ spared)
      rw [show pass.1.handled = _ from run] at delivered
      obtain ⟨subscriber, -, rfl⟩ := Option.map_eq_some_iff.1 delivered
      exact spared front (head ▸ List.mem_cons_self)
    · refine .reported (unhandled none_run) fun other behind => ?_
      rw [DispatchHistory.pending_released head accepted dequeued] at behind
      exact spared other (head ▸ .tail front behind)

theorem underway_publishEvent (tracked : Tracked current)
    (underway : Underway adaptor event index current entry) {other : SoaEvent}
    (spares : ¬ Clears index (.ingestSoaEvent other 0)) :
    Underway adaptor event index (tracker.step current (.publishEvent other)).2 entry := by
  obtain ⟨extra, publishes, taken⟩ := publishEvent_publishes tracked other
  have appended := publishes.pending_eq tracked
  have kept : (tracker.step current (.publishEvent other)).2.2.audience = current.2.audience :=
    record_audience current.1 (.publishEvent other) current.2 fun impossible =>
      DispatchCall.noConfusion impossible
  have harmless : ∀ added ∈ extra, ¬ Clears index (.ingestSoaEvent added 0) := by
    intro added member
    rcases taken with rfl | ⟨rfl, -⟩
    · obtain rfl := List.mem_singleton.1 member
      exact spares
    · exact absurd member List.not_mem_nil
  cases underway with
  | queued earlier later pending ahead spared =>
      refine .queued earlier (later ++ extra) ?_ ?_ fun added member => ?_
      · rw [appended, pending, List.append_assoc, List.cons_append]
      · rw [Ahead, publishes.control, publishes.subscribers, kept]
        exact ahead
      · rcases List.mem_append.1 member with old | new
        · exact spared added old
        · exact harmless added new
  | reported failed spared =>
      refine .reported failed fun added member => ?_
      rw [appended] at member
      rcases List.mem_append.1 member with old | new
      · exact spared added old
      · exact harmless added new

theorem underway_subscribe (tracked : Tracked current)
    (underway : Underway adaptor event index current entry) (serviceId eventId : BitVec 16)
    (handler : Option EventHandler) :
    Underway adaptor event index (tracker.step current (.subscribe serviceId eventId handler)).2
      entry := by
  let after := (tracker.step current (.subscribe serviceId eventId handler)).2
  have more : current.1.manager.subscribers ⊆ after.1.manager.subscribers := by
    rcases SoaServiceManager.subscribe_cases tracked.accounted.initialised serviceId eventId
      handler with ⟨code, refused⟩ | ⟨-, added⟩
    · rw [show after.1.manager = _ from congrArg Prod.snd refused]
      exact List.Subset.refl _
    · rw [show after.1.manager = _ from congrArg Prod.snd added]
      exact List.subset_append_left _ _
  have audience : after.2.audience = current.2.audience :=
    record_audience current.1 _ current.2 fun impossible => DispatchCall.noConfusion impossible
  have queue : after.2.pending = current.2.pending := by
    change (DispatchHistory.record current.1 (.subscribe serviceId eventId handler)
      current.2).pending = _
    simp only [DispatchHistory.record]
    split <;> rfl
  cases underway with
  | queued earlier later pending ahead spared =>
      refine .queued earlier later (queue.trans pending) ?_ spared
      have place : after.1.control = current.1.control := rfl
      rw [Ahead, place, audience]
      unfold Ahead at ahead
      cases control : current.1.control with
      | idle =>
          rw [control] at ahead
          obtain ⟨hearer, member, hears⟩ := ahead
          exact ⟨hearer, more member, hears⟩
      | polling subCount =>
          rw [control] at ahead
          exact ahead
      | matching subCount tail progress =>
          rw [control] at ahead
          exact ahead
  | reported failed spared => exact .reported failed (queue ▸ spared)

/-- Every step that spares the report keeps it under way. -/
theorem underway_dispatch (failure : ReportsFailure index event) (tracked : Tracked current)
    (underway : Underway adaptor event index current entry) {call : DispatchCall} {nowMs : Nat}
    (spares : Spares index (.inl (.dispatch call nowMs))) :
    let pass := tracker.step current call
    Underway adaptor event index pass.2 (handledEntry adaptor index nowMs pass.1.handled entry) := by
  cases call with
  | publishEvent other =>
      exact underway_publishEvent tracked underway (mt (ingest_clears_iff nowMs).2 spares)
  | subscribe serviceId eventId handler =>
      exact underway_subscribe tracked underway serviceId eventId handler
  | processEvents =>
      cases underway with
      | queued earlier later pending ahead spared =>
          exact queued_processEvents failure tracked pending ahead spared nowMs
      | reported failed spared => exact reported_processEvents tracked failed spared nowMs

theorem underway_arbitrator (underway : Underway adaptor event index current entry)
    {call : ArbitratorCall} (spares : ¬ Clears index call) :
    Underway adaptor event index current (call.touch index entry) := by
  cases underway with
  | queued earlier later pending ahead spared => exact .queued earlier later pending ahead spared
  | reported failed spared => exact .reported (touch_failed spares failed) spared

/-- A new event finds the audience ahead of it: whoever is subscribed by now, or the whole
audience of the call that is running, since another event is then in front. -/
theorem ahead_published (tracked : Tracked current)
    (hears : ∃ entry ∈ audienceNow current.1, Hearer adaptor event entry) :
    Ahead adaptor event (tracker.step current (.publishEvent event)).2 current.2.pending := by
  obtain ⟨extra, publishes, -⟩ := publishEvent_publishes tracked event
  have kept : (tracker.step current (.publishEvent event)).2.2.audience = current.2.audience :=
    record_audience current.1 (.publishEvent event) current.2 fun impossible =>
      DispatchCall.noConfusion impossible
  have consistent := tracked.accounted.consistent
  rw [Ahead, publishes.control, publishes.subscribers, kept]
  unfold audienceNow at hears
  cases control : current.1.control with
  | idle =>
      rw [control] at hears
      exact hears
  | polling subCount =>
      rw [control] at hears consistent
      obtain ⟨registered, rfl⟩ := consistent
      simp only [← List.prefix_iff_eq_take.1 registered] at hears
      exact hears
  | matching subCount tail place =>
      rw [control] at hears consistent
      obtain ⟨registered, rfl, -, -, waiting⟩ := consistent
      simp only [← List.prefix_iff_eq_take.1 registered] at hears
      simp only [waiting, ↓reduceIte]
      exact hears

end Steps

section Runs

variable {adaptor : EventHandler} {event : SoaEvent} {index : Fin maxSensorDomains}

theorem handlerCalls_domain (adaptor : EventHandler) (index : Fin maxSensorDomains)
    {front : Front} {arbitrator : SafetyArbitrator}
    (present : front.arbitratorInstance = true) (ready : arbitrator.initialised = true)
    (call : DispatchCall) (nowMs : Nat) :
    (SafetyArbitrator.machine.run arbitrator
        (front.handlerCalls adaptor (.dispatch call nowMs))).domains index =
      handledEntry adaptor index nowMs (front.dispatch.step call).1.handled
        (arbitrator.domains index) := by
  simp only [Front.handlerCalls, handledEntry]
  cases (front.dispatch.step call).1.handled with
  | none => rfl
  | some delivery =>
      obtain ⟨subscriber, delivered⟩ := delivery
      simp only
      split
      · rw [soaArbitratorEventHandler, present, if_pos rfl]
        exact SafetyArbitrator.step_domains ready (.ingestSoaEvent delivered nowMs) index
      · rfl

/-- The whole gateway with the report under way. -/
structure OnItsWay (adaptor : EventHandler) (event : SoaEvent) (index : Fin maxSensorDomains)
    (gateway : Front × SafetyArbitrator) (history : DispatchHistory) : Prop where
  tracked : Tracked (gateway.1.dispatch, history)
  present : gateway.1.arbitratorInstance = true
  ready : gateway.2.initialised = true
  underway : Underway adaptor event index (gateway.1.dispatch, history) (gateway.2.domains index)

theorem run_onItsWay (failure : ReportsFailure index event) {start : Front × SafetyArbitrator}
    {history : DispatchHistory} (onItsWay : OnItsWay adaptor event index start history)
    {calls : List GatewayCall} (spared : ∀ call ∈ calls, Spares index call) :
    OnItsWay adaptor event index ((gateway adaptor).run start calls)
      (tracker.run (start.1.dispatch, history) (dispatchCalls calls)).2 := by
  induction calls generalizing start history with
  | nil => exact onItsWay
  | cons call rest ih =>
      obtain ⟨front, arbitrator⟩ := start
      have spares := spared call List.mem_cons_self
      have later := fun following member => spared following (.tail call member)
      cases call with
      | inr call =>
          have next : OnItsWay adaptor event index (front, (arbitrator.step call).2) history := by
            refine ⟨onItsWay.tracked, onItsWay.present,
              SafetyArbitrator.step_initialised onItsWay.ready call, ?_⟩
            rw [SafetyArbitrator.step_domains onItsWay.ready]
            exact underway_arbitrator onItsWay.underway spares
          exact ih next later
      | inl call =>
          cases call with
          | setGlobalArbitrator present => exact absurd spares id
          | dispatch call nowMs =>
              have next : OnItsWay adaptor event index
                  ((gateway adaptor).step (front, arbitrator) (.inl (.dispatch call nowMs))).2
                  (DispatchHistory.record front.dispatch call history) := by
                refine ⟨onItsWay.tracked.step call, onItsWay.present,
                  SafetyArbitrator.run_initialised onItsWay.ready _, ?_⟩
                have moved := handlerCalls_domain adaptor index onItsWay.present onItsWay.ready
                  call nowMs
                exact moved ▸ underway_dispatch failure onItsWay.tracked onItsWay.underway spares
              exact ih next later

/-- An accepted event joins the end of the queue, ahead of every subscriber that counts. -/
theorem published_onItsWay (index : Fin maxSensorDomains) {start : Front × SafetyArbitrator}
    {history : DispatchHistory}
    (tracked : Tracked (start.1.dispatch, history)) (present : start.1.arbitratorInstance = true)
    (ready : start.2.initialised = true)
    (hears : ∃ entry ∈ audienceNow start.1.dispatch, Hearer adaptor event entry)
    (accepted : (start.1.dispatch.manager.publishEvent event).1 = .ok ()) (nowMs : Nat) :
    OnItsWay adaptor event index
      ((gateway adaptor).step start (.inl (.dispatch (.publishEvent event) nowMs))).2
      (DispatchHistory.record start.1.dispatch (.publishEvent event) history) := by
  obtain ⟨front, arbitrator⟩ := start
  have accounted := tracked.accounted
  obtain ⟨extra, publishes, taken⟩ := publishEvent_publishes tracked event
  have appended := publishes.pending_eq tracked
  have joined : extra = [event] := by
    rcases taken with joined | ⟨-, full⟩
    · exact joined
    · rcases SoaServiceManager.publishEvent_cases accounted.initialised accounted.ring event with
        ⟨-, refused⟩ | ⟨room, -⟩
      · rw [refused] at accepted
        cases accepted
      · exact absurd full (Nat.ne_of_lt room)
  refine ⟨tracked.step (.publishEvent event), present, ready, ?_⟩
  exact .queued history.pending [] (joined ▸ appended) (ahead_published tracked hears)
    fun other member => absurd member List.not_mem_nil

end Runs

section Cycle

/-- A sensor failure that was accepted for publication while the adaptor is set up and subscribed,
and was so before the call of `ProcessEvents` that may be running began, and that nothing
published or called later clears, is in force in the first cycle that runs once the queue is
empty, whatever else the run does: the fault bit is set, and for one of the five driving sensors
the arbitrator is out of full operation with at most 100 km/h. -/
theorem published_failure_in_force (adaptor : EventHandler) (ipc : Option Ipc.IpcBridge)
    (before during : List GatewayCall) (event : SoaEvent) (index : Fin maxSensorDomains)
    (nowMs : Nat) (clock : CycleClock) :
    let first := (gateway adaptor).run (Front.started false, .construct ipc) before
    let reached := (gateway adaptor).run first
      (.inl (.dispatch (.publishEvent event) nowMs) :: during)
    first.1.arbitratorInstance = true → first.2.initialised = true →
    (∃ entry ∈ audienceNow first.1.dispatch, Hearer adaptor event entry) →
    (first.1.dispatch.manager.publishEvent event).1 = .ok () →
    ReportsFailure index event → (∀ call ∈ during, Spares index call) →
    reached.1.dispatch.manager.queueTail = reached.1.dispatch.manager.queueHead →
    let after := (reached.2.arbitrate clock).2
    after.faultBitmask.getLsbD index.val = true ∧
      (index.val ≤ 4 → after.currentState ≠ .fullOperation ∧
        after.lastCommand.state = after.currentState ∧
        after.lastCommand.maxSpeedKph.toRat ≤ 100) := by
  intro first reached present ready hears accepted failure spared drained after
  let history := (tracker.run (.started, .empty) (dispatchCalls before)).2
  have split := Front.machine.driving_run SafetyArbitrator.machine (Front.handlerCalls adaptor)
    (Front.started false) (.construct ipc)
  have front : (tracker.run (.started, .empty) (dispatchCalls before)).1 = first.1.dispatch :=
    (gateway_run_dispatch adaptor false (.construct ipc) before).symm
  have tracked : Tracked (first.1.dispatch, history) := front ▸ run_accounted (dispatchCalls before)
  have published := published_onItsWay index tracked present ready hears accepted nowMs
  have arrived := run_onItsWay failure published spared
  have failed : (reached.2.domains index).health = .failed := by
    have empty := arrived.tracked.accounted.ring.empty_iff.1 drained
    cases arrived.underway with
    | queued earlier later pending ahead behind => exact absurd (empty.symm.trans pending) (by simp)
    | reported failed behind => exact failed
  have whole : ∃ calls, reached.2 = SafetyArbitrator.machine.run (.construct ipc) calls := by
    have joined : reached = (gateway adaptor).run (Front.started false, .construct ipc)
        (before ++ .inl (.dispatch (.publishEvent event) nowMs) :: during) :=
      ((gateway adaptor).run_append _ _ _).symm
    exact ⟨_, joined ▸ congrArg Prod.snd (split _)⟩
  obtain ⟨calls, run⟩ := whole
  have settles : reached.2.Settles clock after :=
    SafetyArbitrator.arbitrate_settles arrived.ready clock
  have bit : after.faultBitmask.getLsbD index.val = true := by
    rw [settles.faultBitmask]
    exact (SafetyArbitrator.observe_fault_bit clock.scanMs index).2 (.inl failed)
  refine ⟨bit, fun driving => ?_⟩
  have unlatched : reached.2.currentState ≠ .emergencyStop := by
    rw [run]
    exact SafetyArbitrator.run_unlatched ipc calls
  have restricted : after.currentState ≠ .fullOperation := by
    rw [settles.currentState unlatched]
    exact SafetyArbitrator.computeRequiredState_ne_full driving (settles.faultBitmask ▸ bit)
  have commanding : after.Commanding := by
    have commanded := (SafetyArbitrator.run_commanding ipc (calls ++ [.arbitrate clock])).1
    rw [SafetyArbitrator.run_step, ← run] at commanded
    exact commanded
  exact ⟨restricted, commanding.state, commanding.speed_restricted restricted⟩

def lidarFailureEvent : SoaEvent where
  serviceId := 1
  eventId := 2
  sessionId := 0
  payloadLen := 12
  payload place := if place.val = 1 then 2 else 0

/-- An arbitrator that is set up and subscribed. -/
def lidarWatch : List GatewayCall :=
  [.inr (.init 0 0), .inl (.setGlobalArbitrator true), .inl (.dispatch (.subscribe 1 2 (some 7)) 0)]

def dispatchRound : List GatewayCall := List.replicate 4 (.inl (.dispatch .processEvents 0))

theorem lidar_failure_in_force :
    let ipc := (SafetyArbitrator.overBridge SafetyArbitrator.blankSram).ipc
    let first := (gateway 7).run (Front.started false, .construct ipc) lidarWatch
    let reached := (gateway 7).run first
      (.inl (.dispatch (.publishEvent lidarFailureEvent) 0) :: dispatchRound)
    let after := (reached.2.arbitrate SafetyArbitrator.instantly).2
    after.faultBitmask.getLsbD lidarIndex.val = true ∧ after.currentState ≠ .fullOperation ∧
      after.lastCommand.state = after.currentState ∧
      after.lastCommand.maxSpeedKph.toRat ≤ 100 := by
  intro ipc first reached after
  have spared : ∀ call ∈ dispatchRound, Spares lidarIndex call := by
    intro call member
    rw [List.eq_of_mem_replicate member]
    trivial
  have acts := published_failure_in_force 7 ipc lidarWatch dispatchRound
    lidarFailureEvent lidarIndex 0 SafetyArbitrator.instantly rfl rfl
    ⟨_, List.mem_cons_self, by decide, rfl⟩ rfl ⟨by decide, by decide, by decide⟩ spared rfl
  exact ⟨acts.1, acts.2 (by decide)⟩

end Cycle

end SoaGateway.Gateway
