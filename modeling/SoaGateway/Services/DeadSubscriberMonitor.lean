import Mathlib.Data.List.FinRange
import Mathlib.Logic.Function.Basic
import SoaGateway.Foundation.Machine
import SoaGateway.Services.Manager

/-! The liveness table of the subscribers. A scan is taken one slot at a time, and stands
still while a callback runs, so that the callback may use the table. Every reading of the
monotonic clock, in milliseconds, is a parameter of the call that makes it. -/

set_option autoImplicit false

namespace SoaGateway.Services

open Foundation

def maxMonitoredSubs : Nat := 32
def heartbeatIntervalMs : Nat := 500
def deadTimeoutMs : Nat := 2000

inductive SubscriberHealth where
  | alive
  | warning
  | dead
deriving DecidableEq, Repr

abbrev DeadCallback := BitVec 64

structure LivenessEntry where
  serviceId : BitVec 16
  eventId : BitVec 16
  lastBeatMs : Nat
  health : SubscriberHealth
  onDead : Option DeadCallback
  active : Bool
deriving DecidableEq, Repr

structure DeadSubscriberMonitor where
  entries : Fin maxMonitoredSubs → LivenessEntry
  evictedTotal : BitVec 32
  initialised : Bool

namespace LivenessEntry

def free (entry : LivenessEntry) : LivenessEntry :=
  { entry with serviceId := invalidServiceId, eventId := 0, onDead := none, active := false }

/-- A beat after the reading never counts. -/
def Silent (entry : LivenessEntry) (nowMs limitMs : Nat) : Prop :=
  entry.active = true ∧ entry.lastBeatMs ≤ nowMs ∧ limitMs < nowMs - entry.lastBeatMs

instance (entry : LivenessEntry) (nowMs limitMs : Nat) : Decidable (entry.Silent nowMs limitMs) :=
  inferInstanceAs (Decidable (_ ∧ _))

/-- A scan warns of a subscriber that missed one interval. -/
def aged (entry : LivenessEntry) (nowMs : Nat) : LivenessEntry :=
  if entry.Silent nowMs heartbeatIntervalMs then { entry with health := .warning } else entry

end LivenessEntry

namespace DeadSubscriberMonitor

def construct : DeadSubscriberMonitor where
  entries _ := {
    serviceId := invalidServiceId, eventId := 0, lastBeatMs := 0, health := .alive, onDead := none
    active := false }
  evictedTotal := 0
  initialised := false

def init (monitor : DeadSubscriberMonitor) (nowMs : Nat) : VoidResult × DeadSubscriberMonitor :=
  if monitor.initialised then (.error .alreadyRegistered, monitor)
  else
    (.ok (), {
      entries := fun _ => {
        serviceId := invalidServiceId, eventId := 0, lastBeatMs := nowMs, health := .alive
        onDead := none, active := false }
      evictedTotal := 0
      initialised := true })

def store (monitor : DeadSubscriberMonitor) (index : Fin maxMonitoredSubs)
    (entry : LivenessEntry) : DeadSubscriberMonitor :=
  { monitor with entries := Function.update monitor.entries index entry }

def findIndex (monitor : DeadSubscriberMonitor) (serviceId eventId : BitVec 16) :
    Option (Fin maxMonitoredSubs) :=
  (List.finRange maxMonitoredSubs).find? fun index =>
    (monitor.entries index).active && (monitor.entries index).serviceId == serviceId &&
      (monitor.entries index).eventId == eventId

def freeIndex (monitor : DeadSubscriberMonitor) : Option (Fin maxMonitoredSubs) :=
  (List.finRange maxMonitoredSubs).find? fun index => !(monitor.entries index).active

def register (monitor : DeadSubscriberMonitor) (serviceId eventId : BitVec 16)
    (onDead : Option DeadCallback) (nowMs : Nat) : VoidResult × DeadSubscriberMonitor :=
  if !monitor.initialised then (.error .notInitialized, monitor)
  else if onDead.isNone then (.error .nullPointer, monitor)
  else if (monitor.findIndex serviceId eventId).isSome then (.error .alreadyRegistered, monitor)
  else match monitor.freeIndex with
    | none => (.error .registryFull, monitor)
    | some index =>
        (.ok (), monitor.store index
          { serviceId, eventId, lastBeatMs := nowMs, health := .alive, onDead, active := true })

def recordHeartbeat (monitor : DeadSubscriberMonitor) (serviceId eventId : BitVec 16)
    (nowMs : Nat) : VoidResult × DeadSubscriberMonitor :=
  if !monitor.initialised then (.error .notInitialized, monitor)
  else match monitor.findIndex serviceId eventId with
    | none => (.error .serviceNotFound, monitor)
    | some index =>
        (.ok (), monitor.store index
          { monitor.entries index with lastBeatMs := nowMs, health := .alive })

def deregister (monitor : DeadSubscriberMonitor) (serviceId eventId : BitVec 16) :
    VoidResult × DeadSubscriberMonitor :=
  if !monitor.initialised then (.error .notInitialized, monitor)
  else match monitor.findIndex serviceId eventId with
    | none => (.error .serviceNotFound, monitor)
    | some index => (.ok (), monitor.store index (monitor.entries index).free)

end DeadSubscriberMonitor

/-- Where a scan stands: before the slot at `index`, or in the callback of that slot. -/
inductive ScanControl where
  | idle
  | scanning (nowMs index : Nat) (evictedThisCycle : Byte)
  | inCallback (nowMs index : Nat) (evictedThisCycle : Byte)
deriving DecidableEq, Repr

structure Invocation where
  callback : DeadCallback
  serviceId : BitVec 16
  eventId : BitVec 16
deriving DecidableEq, Repr

structure MonitorState where
  monitor : DeadSubscriberMonitor
  control : ScanControl

/-- The callback a step invokes, and the count a finished scan returns. -/
structure MonitorReply where
  result : VoidResult
  invoked : Option Invocation
  finished : Option Byte

def MonitorReply.plain (result : VoidResult) : MonitorReply :=
  { result, invoked := none, finished := none }

/-- A reading that a call does not make constrains nothing: it may be taken equal to the
reading before it. A scan makes its reading when it begins. -/
inductive MonitorCall where
  | register (serviceId eventId : BitVec 16) (onDead : Option DeadCallback) (nowMs : Nat)
  | recordHeartbeat (serviceId eventId : BitVec 16) (nowMs : Nat)
  | deregister (serviceId eventId : BitVec 16)
  | scanAndEvict (nowMs : Nat)

def MonitorCall.readings : MonitorCall → List Nat
  | .register _ _ _ nowMs => [nowMs]
  | .recordHeartbeat _ _ nowMs => [nowMs]
  | .deregister _ _ => []
  | .scanAndEvict nowMs => [nowMs]

namespace MonitorState

/-- The visit of one slot; a dead subscriber loses its slot before its callback runs. -/
def visit (state : MonitorState) (nowMs : Nat) (index : Fin maxMonitoredSubs)
    (evictedThisCycle : Byte) : MonitorReply × MonitorState :=
  let entry := state.monitor.entries index
  if entry.Silent nowMs deadTimeoutMs then
    let freed := state.monitor.store index { entry.free with health := .dead }
    match entry.onDead with
    | some callback =>
        ({ result := .ok ()
           invoked := some { callback, serviceId := entry.serviceId, eventId := entry.eventId }
           finished := none },
          { monitor := freed, control := .inCallback nowMs index.val evictedThisCycle })
    | none =>
        (.plain (.ok ()), {
          monitor := { freed with evictedTotal := freed.evictedTotal + 1 }
          control := .scanning nowMs (index.val + 1) (evictedThisCycle + 1) })
  else
    (.plain (.ok ()), {
      monitor := state.monitor.store index (entry.aged nowMs)
      control := .scanning nowMs (index.val + 1) evictedThisCycle })

/-- `ScanAndEvict`, up to its next slot, callback or return. -/
def scanAndEvict (state : MonitorState) (clockMs : Nat) : MonitorReply × MonitorState :=
  match state.control with
  | .idle =>
      if !state.monitor.initialised then
        ({ result := .ok (), invoked := none, finished := some 0 }, state)
      else (.plain (.ok ()), { state with control := .scanning clockMs 0 0 })
  | .scanning nowMs index evictedThisCycle =>
      if inside : index < maxMonitoredSubs then
        state.visit nowMs ⟨index, inside⟩ evictedThisCycle
      else
        ({ result := .ok (), invoked := none, finished := some evictedThisCycle },
          { state with control := .idle })
  | .inCallback nowMs index evictedThisCycle =>
      (.plain (.ok ()), {
        monitor := { state.monitor with evictedTotal := state.monitor.evictedTotal + 1 }
        control := .scanning nowMs (index + 1) (evictedThisCycle + 1) })

def step (state : MonitorState) (call : MonitorCall) : MonitorReply × MonitorState :=
  match call with
  | .register serviceId eventId onDead nowMs =>
      let (result, monitor) := state.monitor.register serviceId eventId onDead nowMs
      (.plain result, { state with monitor })
  | .recordHeartbeat serviceId eventId nowMs =>
      let (result, monitor) := state.monitor.recordHeartbeat serviceId eventId nowMs
      (.plain result, { state with monitor })
  | .deregister serviceId eventId =>
      let (result, monitor) := state.monitor.deregister serviceId eventId
      (.plain result, { state with monitor })
  | .scanAndEvict nowMs => state.scanAndEvict nowMs

def machine : Machine MonitorState MonitorCall MonitorReply := ⟨step⟩

end MonitorState

end SoaGateway.Services
