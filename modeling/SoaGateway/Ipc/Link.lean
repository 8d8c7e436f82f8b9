import SoaGateway.Foundation.Machine
import SoaGateway.Ipc.Bridge

/-! The bridge and its consumer as one machine. A `Send` call is cut at each of its stores to
shared memory, so that the consumer may act between its checks, any two stores to the slot and
the head store; the consumer is cut between its read and its tail store. -/

set_option autoImplicit false

namespace SoaGateway.Ipc

open Foundation

/-- Where the producer stands inside a `Send` call: past its checks with some of the slot's
stores done, or past all of them. -/
inductive Producer where
  | idle
  | writing (event : SoaEvent) (head done : Nat)
  | written (event : SoaEvent) (head : Nat)

/-- Both cores, with the events `Send` accepted and the slots the consumer read, oldest first. -/
structure Link where
  bridge : IpcBridge
  producer : Producer
  reading : Bool
  accepted : List SoaEvent
  consumed : List IpcSlot

inductive LinkAction where
  | sendCheck (event : SoaEvent)
  | sendWrite
  | sendStore
  | consumerRead
  | consumerRelease

namespace Link

def start (sramBase : IpcRingBuffer) : Link where
  bridge := (IpcBridge.init (IpcBridge.construct (some sramBase))).2
  producer := .idle
  reading := false
  accepted := []
  consumed := []

def produce (link : Link) : LinkAction → Option VoidResult × Link
  | .sendCheck event =>
      match link.producer with
      | .idle =>
          match link.bridge.sendCheck event with
          | .error code => (some (.error code), link)
          | .ok head => (none, { link with producer := .writing event head 0 })
      | _ => (none, link)
  | .sendWrite =>
      match link.producer with
      | .writing event head done =>
          match (IpcBridge.slotStores link.bridge.seqCounter event)[done]? with
          | some store =>
              (none, {
                link with
                bridge := link.bridge.storeSlot head store
                producer := .writing event head (done + 1) })
          | none =>
              (none, {
                link with
                bridge := { link.bridge with seqCounter := link.bridge.seqCounter + 1 }
                producer := .written event head })
      | _ => (none, link)
  | .sendStore =>
      match link.producer with
      | .written event head =>
          (some (.ok ()), {
            link with
            bridge := link.bridge.storeHead head
            producer := .idle
            accepted := link.accepted ++ [event] })
      | _ => (none, link)
  | _ => (none, link)

/-- The consumer reads the tail slot of a non-empty ring and then moves the tail on. -/
def consume (link : Link) : LinkAction → Link
  | .consumerRead =>
      match link.bridge.ring with
      | none => link
      | some ring =>
          if link.reading ∨ ring.tail = ring.head then link
          else { link with reading := true, consumed := link.consumed ++ [ring.slots ring.tail] }
  | .consumerRelease =>
      if link.reading then {
        link with
        bridge := { link.bridge with
          ring := link.bridge.ring.map fun ring =>
            { ring with tail := (ring.tail + 1) % ipcRingSlots } }
        reading := false }
      else link
  | _ => link

def step (link : Link) (action : LinkAction) : Option VoidResult × Link :=
  match action with
  | .sendCheck _ | .sendWrite | .sendStore => link.produce action
  | .consumerRead | .consumerRelease => (none, link.consume action)

def machine : Machine Link LinkAction (Option VoidResult) := ⟨step⟩

def released (link : Link) : Nat :=
  if link.reading then link.consumed.length - 1 else link.consumed.length

end Link

end SoaGateway.Ipc
