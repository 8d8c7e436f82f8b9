import SoaGateway.Foundation.Driving
import SoaGateway.Safety.ArbitratorMachine
import SoaGateway.Services.Dispatch

/-! The service manager in front of the safety arbitrator. The adaptor is a handler like any
other; it hands the event it is run with to whatever the global pointer names. -/

set_option autoImplicit false

namespace SoaGateway.Gateway

open Foundation Services Safety

/-- The pointer names the one arbitrator of the gateway or nothing. -/
structure Front where
  dispatch : DispatchState
  arbitratorInstance : Bool

/-- The reading is the one the clock shows while the call runs. -/
inductive FrontCall where
  | setGlobalArbitrator (present : Bool)
  | dispatch (call : DispatchCall) (nowMs : Nat)

def soaArbitratorEventHandler (arbitratorInstance : Bool) (event : SoaEvent) (nowMs : Nat) :
    List ArbitratorCall :=
  if arbitratorInstance then [.ingestSoaEvent event nowMs] else []

namespace Front

def started (arbitratorInstance : Bool) : Front := { dispatch := .started, arbitratorInstance }

def step (front : Front) (call : FrontCall) : Option DispatchReply × Front :=
  match call with
  | .setGlobalArbitrator present => (none, { front with arbitratorInstance := present })
  | .dispatch call _ =>
      (some (front.dispatch.step call).1, { front with dispatch := (front.dispatch.step call).2 })

def machine : Machine Front FrontCall (Option DispatchReply) := ⟨step⟩

/-- The calls that the handler run by a step makes to the arbitrator, for the adaptor at the
given address. -/
def handlerCalls (adaptor : EventHandler) (front : Front) (call : FrontCall) :
    List ArbitratorCall :=
  match call with
  | .setGlobalArbitrator _ => []
  | .dispatch call nowMs =>
      match (front.dispatch.step call).1.handled with
      | none => []
      | some (entry, event) =>
          if entry.handler = some adaptor then
            soaArbitratorEventHandler front.arbitratorInstance event nowMs
          else []

end Front

abbrev GatewayCall := FrontCall ⊕ ArbitratorCall

def gateway (adaptor : EventHandler) :
    Machine (Front × SafetyArbitrator) GatewayCall (Option DispatchReply ⊕ Reply) :=
  Front.machine.driving SafetyArbitrator.machine (Front.handlerCalls adaptor)

def FrontCall.dispatched? : FrontCall → Option DispatchCall
  | .setGlobalArbitrator _ => none
  | .dispatch call _ => some call

def frontCalls (calls : List GatewayCall) : List FrontCall := calls.filterMap Sum.getLeft?

def dispatchCalls (calls : List GatewayCall) : List DispatchCall :=
  (frontCalls calls).filterMap FrontCall.dispatched?

def arbitratorCalls (calls : List GatewayCall) : List ArbitratorCall :=
  calls.filterMap Sum.getRight?

/-- The reports an event owes to the arbitrator: one for each subscription of the adaptor that
it is addressed to. -/
def reportsOwed (adaptor : EventHandler) (audience : List SubscriberEntry) (event : SoaEvent) :
    List SoaEvent :=
  List.replicate
    (audience.countP fun entry => entry.addressedBy event && entry.handler == some adaptor) event

def IsReportOf (call : ArbitratorCall) (event : SoaEvent) : Prop :=
  ∃ nowMs, call = .ingestSoaEvent event nowMs

section Dispatcher

theorem front_run_dispatch (front : Front) (calls : List FrontCall) :
    (Front.machine.run front calls).dispatch =
      DispatchState.dispatcher.run front.dispatch (calls.filterMap FrontCall.dispatched?) := by
  induction calls generalizing front with
  | nil => rfl
  | cons call rest ih =>
      cases call with
      | setGlobalArbitrator present => exact ih _
      | dispatch call nowMs => exact ih _

/-- The dispatcher runs as it would alone. -/
theorem gateway_run_dispatch (adaptor : EventHandler) (present : Bool)
    (arbitrator : SafetyArbitrator) (calls : List GatewayCall) :
    ((gateway adaptor).run (Front.started present, arbitrator) calls).1.dispatch =
      (tracker.run (.started, .empty) (dispatchCalls calls)).1 := by
  have split := Front.machine.driving_run SafetyArbitrator.machine (Front.handlerCalls adaptor)
    (Front.started present) arbitrator calls
  rw [gateway, split, front_run_dispatch]
  exact (DispatchState.dispatcher.withGhost_run_fst DispatchHistory.record (.started, .empty)
    (dispatchCalls calls)).symm

end Dispatcher

section Reports

variable (adaptor : EventHandler)

/-- The events the adaptor was run with. -/
def reportsOf (handled : List (SubscriberEntry × SoaEvent)) : List SoaEvent :=
  (handled.filter fun pair => pair.1.handler == some adaptor).map Prod.snd

theorem reportsOf_append (early late : List (SubscriberEntry × SoaEvent)) :
    reportsOf adaptor (early ++ late) = reportsOf adaptor early ++ reportsOf adaptor late := by
  simp [reportsOf]

theorem reportsOf_deliveries (audience : List SubscriberEntry) (event : SoaEvent) :
    reportsOf adaptor (deliveries audience event) = reportsOwed adaptor audience event := by
  refine List.eq_replicate_iff.2 ⟨?_, fun value member => ?_⟩
  · rw [reportsOf, deliveries, List.filter_map, List.filter_filter, List.map_map,
      List.length_map, ← List.countP_eq_length_filter]
    refine List.countP_congr fun entry _ => ?_
    simp [and_comm]
  · obtain ⟨pair, run, rfl⟩ := List.mem_map.1 member
    obtain ⟨entry, -, rfl⟩ := List.mem_map.1 (List.mem_filter.1 run).1
    rfl

theorem reportsOf_flatMap {Source : Type} (sources : List Source)
    (handled : Source → List (SubscriberEntry × SoaEvent)) :
    reportsOf adaptor (sources.flatMap handled) =
      sources.flatMap fun source => reportsOf adaptor (handled source) := by
  induction sources with
  | nil => rfl
  | cons source rest ih => rw [List.flatMap_cons, reportsOf_append, ih, List.flatMap_cons]

end Reports

end SoaGateway.Gateway
