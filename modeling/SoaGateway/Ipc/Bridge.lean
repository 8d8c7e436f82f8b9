import Mathlib.Data.List.FinRange
import Mathlib.Data.List.OfFn
import SoaGateway.Foundation.Ring
import SoaGateway.Ipc.Crc

/-! The cross-core bridge: slots with their E2E header, the ring in shared SRAM, and
the producer side of the ring. Slot fields are laid out little-endian, as on both
cores. Ring cells are addressed by number; the ring laws keep every address used
below `ipcRingSlots`. -/

set_option autoImplicit false

namespace SoaGateway.Ipc

open Foundation

def ipcRingSlots : Nat := 32
def ipcPayloadBytes : Nat := 128
def ipcRingSlotMask : Nat := ipcRingSlots - 1
def ipcMagic : BitVec 32 := 0xA53CA53C#32

structure E2eProfile5Header where
  crc : BitVec 16
  counter : Byte
  dataId : Byte
  length : BitVec 16
  reserved : BitVec 16

structure IpcSlot where
  e2eHeader : E2eProfile5Header
  serviceId : BitVec 16
  eventId : BitVec 16
  sessionId : BitVec 32
  payloadLen : Byte
  reserved : Fin 3 → Byte
  payload : Fin ipcPayloadBytes → Byte

/-- `sizeof(IpcSlot)`. -/
def ipcSlotBytes : Nat := 8 + 4 + 4 + 4 + ipcPayloadBytes

/-- The protected region: everything after the checksum field. -/
def IpcSlot.protectedBytes (slot : IpcSlot) : List Byte :=
  [slot.e2eHeader.counter, slot.e2eHeader.dataId] ++
    littleEndian16 slot.e2eHeader.length ++ littleEndian16 slot.e2eHeader.reserved ++
    littleEndian16 slot.serviceId ++ littleEndian16 slot.eventId ++
    littleEndian32 slot.sessionId ++ [slot.payloadLen] ++
    List.ofFn slot.reserved ++ List.ofFn slot.payload

def IpcSlot.bytes (slot : IpcSlot) : List Byte :=
  littleEndian16 slot.e2eHeader.crc ++ slot.protectedBytes

def crcOffset : Nat := 2
def protectedLen : BitVec 16 := BitVec.ofNat 16 (ipcSlotBytes - crcOffset)

structure IpcRingBuffer where
  head : Nat
  tail : Nat
  magic : BitVec 32
  pad : BitVec 32
  slots : Nat → IpcSlot

/-- The bridge object with the ring its pointer leads to, if any. -/
structure IpcBridge where
  ring : Option IpcRingBuffer
  seqCounter : Byte
  initialised : Bool

namespace IpcBridge

def construct (sramBase : Option IpcRingBuffer) : IpcBridge :=
  { ring := sramBase, seqCounter := 0, initialised := false }

def zeroSlot : IpcSlot where
  e2eHeader := { crc := 0, counter := 0, dataId := 0, length := 0, reserved := 0 }
  serviceId := 0
  eventId := 0
  sessionId := 0
  payloadLen := 0
  reserved := fun _ => 0
  payload := fun _ => 0

def init (bridge : IpcBridge) : VoidResult × IpcBridge :=
  match bridge.ring with
  | none => (.error .nullPointer, bridge)
  | some _ =>
      if bridge.initialised then (.error .alreadyRegistered, bridge)
      else
        (.ok (), {
          ring := some { head := 0, tail := 0, magic := ipcMagic, pad := 0, slots := fun _ => zeroSlot }
          seqCounter := 0
          initialised := true })

def verifyE2e (slot : IpcSlot) (expectedCounter : Byte) : VoidResult :=
  let computed := computeE2eCrc (some (slot.bytes.drop crcOffset)) protectedLen
  if computed ≠ slot.e2eHeader.crc then .error .checksumMismatch
  else if slot.e2eHeader.counter ≠ expectedCounter then .error .sequenceError
  else .ok ()

/-- Stamps header fields and checksum, and advances the wrapping sequence counter. -/
def applyE2eHeader (seqCounter : Byte) (slot : IpcSlot) : IpcSlot × Byte :=
  let stamped := { slot with e2eHeader := {
    crc := 0, counter := seqCounter, dataId := 0x01, length := BitVec.ofNat 16 ipcSlotBytes,
    reserved := 0 } }
  ({ stamped with e2eHeader := { stamped.e2eHeader with
    crc := computeE2eCrc (some (stamped.bytes.drop crcOffset)) protectedLen } }, seqCounter + 1)

def populateSlot (slot : IpcSlot) (event : SoaEvent) : IpcSlot :=
  { slot with
    serviceId := event.serviceId
    eventId := event.eventId
    sessionId := event.sessionId
    payloadLen := event.payloadLen
    reserved := fun _ => 0
    payload := fun index =>
      if index.val < event.payloadLen.toNat then
        event.payload (index.castLE (by decide))
      else 0 }

def storeReserved (place : Fin 3) (slot : IpcSlot) : IpcSlot :=
  { slot with reserved := Function.update slot.reserved place 0 }

def storePayload (place : Fin ipcPayloadBytes) (byte : Byte) (slot : IpcSlot) : IpcSlot :=
  { slot with payload := Function.update slot.payload place byte }

/-- The stores that populate a slot, one field or byte at a time. -/
def populateStores (event : SoaEvent) : List (IpcSlot → IpcSlot) :=
  [fun slot => { slot with serviceId := event.serviceId },
    fun slot => { slot with eventId := event.eventId },
    fun slot => { slot with sessionId := event.sessionId },
    fun slot => { slot with payloadLen := event.payloadLen },
    storeReserved 0, storeReserved 1, storeReserved 2] ++
    (List.finRange ipcPayloadBytes).map (fun place => storePayload place 0) ++
    ((List.finRange ipcPayloadBytes).filter fun place =>
      place.val < event.payloadLen.toNat).map fun place =>
        storePayload place (event.payload (place.castLE (by decide)))

/-- The stores of `ApplyE2eHeader`; the last one reads the slot for its checksum. -/
def headerStores (seqCounter : Byte) : List (IpcSlot → IpcSlot) :=
  [fun slot => { slot with e2eHeader := { slot.e2eHeader with counter := seqCounter } },
    fun slot => { slot with e2eHeader := { slot.e2eHeader with dataId := 0x01 } },
    fun slot => { slot with
      e2eHeader := { slot.e2eHeader with length := BitVec.ofNat 16 ipcSlotBytes } },
    fun slot => { slot with e2eHeader := { slot.e2eHeader with reserved := 0 } },
    fun slot => { slot with e2eHeader := { slot.e2eHeader with crc := 0 } },
    fun slot => { slot with e2eHeader := { slot.e2eHeader with
      crc := computeE2eCrc (some (slot.bytes.drop crcOffset)) protectedLen } }]

def slotStores (seqCounter : Byte) (event : SoaEvent) : List (IpcSlot → IpcSlot) :=
  populateStores event ++ headerStores seqCounter

/-- A slot after some stores. -/
def stored (stores : List (IpcSlot → IpcSlot)) (slot : IpcSlot) : IpcSlot :=
  stores.foldl (fun held store => store held) slot

def nextHead (head : Nat) : Nat := (head + 1) &&& ipcRingSlotMask

/-- The checks `Send` makes before it touches the ring; success yields the head index
it has read. -/
def sendCheck (bridge : IpcBridge) (event : SoaEvent) : Except ErrorCode Nat :=
  if !bridge.initialised then .error .notInitialized
  else match bridge.ring with
    | none => .error .nullPointer
    | some ring =>
        if BitVec.ofNat 8 ipcPayloadBytes < event.payloadLen then .error .invalidArgument
        else if nextHead ring.head = ring.tail then .error .ipcBufferFull
        else .ok ring.head

def writeSlot (bridge : IpcBridge) (head : Nat) (event : SoaEvent) : IpcBridge :=
  match bridge.ring with
  | none => bridge
  | some ring =>
      let stamped := applyE2eHeader bridge.seqCounter (populateSlot (ring.slots head) event)
      { bridge with
        ring := some { ring with slots := Function.update ring.slots head stamped.1 }
        seqCounter := stamped.2 }

/-- A single store to the slot at the head. -/
def storeSlot (bridge : IpcBridge) (head : Nat) (store : IpcSlot → IpcSlot) : IpcBridge :=
  { bridge with
    ring := bridge.ring.map fun ring =>
      { ring with slots := Function.update ring.slots head (store (ring.slots head)) } }

def storeHead (bridge : IpcBridge) (head : Nat) : IpcBridge :=
  { bridge with ring := bridge.ring.map fun ring => { ring with head := nextHead head } }

def send (bridge : IpcBridge) (event : SoaEvent) : VoidResult × IpcBridge :=
  match bridge.sendCheck event with
  | .error code => (.error code, bridge)
  | .ok head => (.ok (), (bridge.writeSlot head event).storeHead head)

end IpcBridge

end SoaGateway.Ipc
