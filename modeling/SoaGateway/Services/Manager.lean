import SoaGateway.Common
import SoaGateway.Foundation.Machine
import SoaGateway.Foundation.Ring

/-! The service manager: the registry of services, the subscribers and the queue of
pending events. The registry and the subscriber table are the entries below their counts,
in order; a handler is known by its address. -/

set_option autoImplicit false

namespace SoaGateway.Services

open Foundation

def maxServices : Nat := 32
def maxSubscribers : Nat := 16
def maxPendingEvents : Nat := 64
def invalidServiceId : BitVec 16 := 0xFFFF#16

inductive ServiceState where
  | down
  | requested
  | available
  | stopping
deriving DecidableEq, Repr

structure ServiceDescriptor where
  serviceId : BitVec 16
  instanceId : BitVec 16
  majorVersion : Byte
  minorVersion : Byte
  state : ServiceState
  name : Fin 32 → Byte

abbrev EventHandler := BitVec 64

structure SubscriberEntry where
  serviceId : BitVec 16
  eventId : BitVec 16
  handler : Option EventHandler
deriving DecidableEq, Repr

structure SoaServiceManager where
  registry : List ServiceDescriptor
  subscribers : List SubscriberEntry
  eventQueue : Nat → SoaEvent
  queueHead : Nat
  queueTail : Nat
  initialised : Bool

namespace SoaServiceManager

def construct : SoaServiceManager where
  registry := []
  subscribers := []
  eventQueue _ := {
    serviceId := invalidServiceId, eventId := 0, sessionId := 0, payloadLen := 0
    payload := fun _ => 0 }
  queueHead := 0
  queueTail := 0
  initialised := false

def init (manager : SoaServiceManager) : VoidResult × SoaServiceManager :=
  if manager.initialised then (.error .alreadyRegistered, manager)
  else
    (.ok (), {
      manager with
      registry := []
      subscribers := []
      queueHead := 0
      queueTail := 0
      initialised := true })

def findServiceIndex (manager : SoaServiceManager) (serviceId instanceId : BitVec 16) :
    Option Nat :=
  manager.registry.findIdx? fun entry =>
    entry.serviceId == serviceId && entry.instanceId == instanceId

def registerService (manager : SoaServiceManager) (desc : ServiceDescriptor) :
    VoidResult × SoaServiceManager :=
  if !manager.initialised then (.error .notInitialized, manager)
  else if (manager.findServiceIndex desc.serviceId desc.instanceId).isSome then
    (.error .alreadyRegistered, manager)
  else if maxServices ≤ manager.registry.length then (.error .registryFull, manager)
  else (.ok (), { manager with registry := manager.registry ++ [{ desc with state := .down }] })

def offered : ServiceState → ServiceState
  | .down | .requested => .available
  | state => state

/-- The first stop announces the end of the offer, and the second completes it. -/
def stopped : ServiceState → ServiceState
  | .available => .stopping
  | .stopping => .down
  | state => state

def setState (manager : SoaServiceManager) (index : Nat) (move : ServiceState → ServiceState) :
    SoaServiceManager :=
  { manager with
    registry := manager.registry.modify index fun entry => { entry with state := move entry.state } }

def offerService (manager : SoaServiceManager) (serviceId instanceId : BitVec 16) :
    VoidResult × SoaServiceManager :=
  if !manager.initialised then (.error .notInitialized, manager)
  else match manager.findServiceIndex serviceId instanceId with
    | none => (.error .serviceNotFound, manager)
    | some index => (.ok (), manager.setState index offered)

def stopService (manager : SoaServiceManager) (serviceId instanceId : BitVec 16) :
    VoidResult × SoaServiceManager :=
  if !manager.initialised then (.error .notInitialized, manager)
  else match manager.findServiceIndex serviceId instanceId with
    | none => (.error .serviceNotFound, manager)
    | some index => (.ok (), manager.setState index stopped)

/-- The descriptor found, by its place in the registry. -/
def findService (manager : SoaServiceManager) (serviceId instanceId : BitVec 16) :
    Except ErrorCode Nat :=
  match manager.findServiceIndex serviceId instanceId with
  | none => .error .serviceNotFound
  | some index => .ok index

def subscribe (manager : SoaServiceManager) (serviceId eventId : BitVec 16)
    (handler : Option EventHandler) : VoidResult × SoaServiceManager :=
  if !manager.initialised then (.error .notInitialized, manager)
  else if handler.isNone then (.error .nullPointer, manager)
  else if maxSubscribers ≤ manager.subscribers.length then (.error .subscriberFull, manager)
  else
    (.ok (), { manager with
      subscribers := manager.subscribers ++ [{ serviceId, eventId, handler }] })

def publishEvent (manager : SoaServiceManager) (event : SoaEvent) :
    VoidResult × SoaServiceManager :=
  if !manager.initialised then (.error .notInitialized, manager)
  else
    let nextHead := (manager.queueHead + 1) % maxPendingEvents
    if nextHead = manager.queueTail then (.error .queueFull, manager)
    else
      (.ok (), {
        manager with
        eventQueue := Function.update manager.eventQueue manager.queueHead event
        queueHead := nextHead })

end SoaServiceManager

end SoaGateway.Services
