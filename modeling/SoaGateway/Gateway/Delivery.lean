import SoaGateway.Gateway.Adaptor

/-! What the arbitrator gets to see of the events published: the reports the dispatched events
owe to the adaptor's subscriptions, in the order of publication, in between its direct calls. -/

set_option autoImplicit false

namespace SoaGateway.Gateway

open Foundation Services Safety

section Handlers

variable (adaptor : EventHandler)

theorem handlerCalls_reports (front : Front) (call : DispatchCall) (nowMs : Nat) :
    List.Forall₂ IsReportOf (front.handlerCalls adaptor (.dispatch call nowMs))
      (if front.arbitratorInstance then
        reportsOf adaptor (front.dispatch.step call).1.handled.toList else []) := by
  simp only [Front.handlerCalls]
  cases handled : (front.dispatch.step call).1.handled with
  | none =>
      cases front.arbitratorInstance
      · exact .nil
      · exact .nil
  | some run =>
      obtain ⟨entry, event⟩ := run
      by_cases armed : entry.handler = some adaptor
      · cases present : front.arbitratorInstance with
        | false => simp [soaArbitratorEventHandler, armed]
        | true =>
            simp only [soaArbitratorEventHandler, armed, ↓reduceIte, Option.toList_some,
              reportsOf, List.filter_cons, beq_self_eq_true, List.filter_nil, List.map_cons,
              List.map_nil]
            exact .cons ⟨nowMs, rfl⟩ .nil
      · simp [armed, reportsOf]

/-- Along a run that leaves the pointer alone, the handlers hand on what they are run with. -/
theorem handedOn_reports (front : Front) (history : DispatchHistory) {calls : List FrontCall}
    (untouched : ∀ present, .setGlobalArbitrator present ∉ calls) :
    ∃ handled,
      (tracker.run (front.dispatch, history) (calls.filterMap FrontCall.dispatched?)).2.handled =
        history.handled ++ handled ∧
      List.Forall₂ IsReportOf (Front.machine.handedOn (Front.handlerCalls adaptor) front calls)
        (if front.arbitratorInstance then reportsOf adaptor handled else []) := by
  induction calls generalizing front history with
  | nil =>
      refine ⟨[], (List.append_nil _).symm, ?_⟩
      cases front.arbitratorInstance
      · exact .nil
      · exact .nil
  | cons call rest ih =>
      have later : ∀ present, .setGlobalArbitrator present ∉ rest :=
        fun present member => untouched present (.tail call member)
      cases call with
      | setGlobalArbitrator present => exact absurd List.mem_cons_self (untouched present)
      | dispatch call nowMs =>
          let next : Front := { front with dispatch := (front.dispatch.step call).2 }
          obtain ⟨handled, noted, reports⟩ :=
            ih next (DispatchHistory.record front.dispatch call history) later
          refine ⟨(front.dispatch.step call).1.handled.toList ++ handled, ?_, ?_⟩
          · rw [← List.append_assoc, ← record_handled]
            exact noted
          · have first := handlerCalls_reports adaptor front call nowMs
            rw [Machine.handedOn]
            cases present : front.arbitratorInstance with
            | false =>
                rw [present] at first
                rw [show next.arbitratorInstance = false from present] at reports
                exact List.rel_append first reports
            | true =>
                rw [present] at first
                rw [show next.arbitratorInstance = true from present] at reports
                rw [if_pos rfl, reportsOf_append]
                exact List.rel_append first reports

end Handlers

/-- Over every run that leaves the global pointer alone, the arbitrator is where its own calls
and the reports of the dispatched events take it, each report once and in the order in which
the events were accepted. Without an arbitrator behind the pointer there are no reports. -/
theorem reports_delivered_once (adaptor : EventHandler) (present : Bool)
    (arbitrator : SafetyArbitrator) (calls : List GatewayCall)
    (untouched : ∀ change, .setGlobalArbitrator change ∉ frontCalls calls) :
    let reached := (gateway adaptor).run (Front.started present, arbitrator) calls
    let history := (tracker.run (.started, .empty) (dispatchCalls calls)).2
    ∃ received queue,
      reached.2 = SafetyArbitrator.machine.run arbitrator (Machine.commands received) ∧
      Machine.direct received = arbitratorCalls calls ∧
      history.accepted = history.dequeued.map Prod.fst ++ queue ∧
      Ring.Holds maxPendingEvents reached.1.dispatch.manager.eventQueue
        reached.1.dispatch.manager.queueHead reached.1.dispatch.manager.queueTail queue ∧
      List.Forall₂ IsReportOf (Machine.forwarded received)
        (if present then
          history.dequeued.flatMap (fun event => reportsOwed adaptor event.2 event.1) ++
            queue.head?.toList.flatMap
              (reportsOwed adaptor (history.audience.take reached.1.dispatch.control.progress))
        else []) := by
  intro reached history
  have split := Front.machine.driving_run SafetyArbitrator.machine (Front.handlerCalls adaptor)
    (Front.started present) arbitrator calls
  have front : reached.1.dispatch = (tracker.run (.started, .empty) (dispatchCalls calls)).1 :=
    gateway_run_dispatch adaptor present arbitrator calls
  obtain ⟨queue, accounted⟩ := run_accounted (dispatchCalls calls)
  obtain ⟨handled, noted, reports⟩ :=
    handedOn_reports adaptor (Front.started present) .empty untouched
  refine ⟨Front.machine.received (Front.handlerCalls adaptor) (Front.started present) calls,
    queue, congrArg Prod.snd split, Machine.received_direct _ _ _ _, accounted.accepted, ?_, ?_⟩
  · rw [front]
    exact accounted.ring
  · have owed : reportsOf adaptor handled =
        history.dequeued.flatMap (fun event => reportsOwed adaptor event.2 event.1) ++
          queue.head?.toList.flatMap
            (reportsOwed adaptor (history.audience.take reached.1.dispatch.control.progress)) := by
      have same : history.handled = handled := noted
      rw [← same, front, accounted.handled, reportsOf_append, reportsOf_flatMap,
        reportsOf_flatMap]
      simp only [reportsOf_deliveries]
      rfl
    rw [Machine.received_forwarded, ← owed]
    exact reports

def quietEvent : SoaEvent where
  serviceId := 1
  eventId := 2
  sessionId := 0
  payloadLen := 0
  payload _ := 0

/-- One event for an adaptor that is subscribed twice, half way through its dispatch. -/
def twiceSubscribed : List GatewayCall :=
  [.inl (.dispatch (.subscribe 1 2 (some 7)) 0), .inl (.dispatch (.subscribe 1 2 (some 7)) 0),
    .inl (.dispatch (.publishEvent quietEvent) 0)] ++
    List.replicate 3 (.inl (.dispatch .processEvents 0))

theorem one_of_two_reports_delivered :
    let reached := (gateway 7).run (Front.started true, .construct none) twiceSubscribed
    let history := (tracker.run (.started, .empty) (dispatchCalls twiceSubscribed)).2
    ∃ received queue,
      reached.2 = SafetyArbitrator.machine.run (.construct none) (Machine.commands received) ∧
      Machine.direct received = arbitratorCalls twiceSubscribed ∧
      history.accepted = history.dequeued.map Prod.fst ++ queue ∧
      Ring.Holds maxPendingEvents reached.1.dispatch.manager.eventQueue
        reached.1.dispatch.manager.queueHead reached.1.dispatch.manager.queueTail queue ∧
      List.Forall₂ IsReportOf (Machine.forwarded received)
        (history.dequeued.flatMap (fun event => reportsOwed 7 event.2 event.1) ++
          queue.head?.toList.flatMap
            (reportsOwed 7 (history.audience.take reached.1.dispatch.control.progress))) :=
  reports_delivered_once 7 true (.construct none) twiceSubscribed
    (fun change member => by simp [frontCalls, twiceSubscribed] at member)

end SoaGateway.Gateway
