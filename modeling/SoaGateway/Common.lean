import Mathlib.Tactic.Common

/-! Types shared by every module of the gateway. -/

set_option autoImplicit false

namespace SoaGateway

abbrev Byte := BitVec 8

inductive ErrorCode where
  | nullPointer
  | registryFull
  | serviceNotFound
  | subscriberFull
  | queueFull
  | unauthorized
  | invalidArgument
  | e2eViolation
  | ipcBufferFull
  | alreadyRegistered
  | notInitialized
  | checksumMismatch
  | sequenceError
  | timeout
  | unknown
deriving DecidableEq, Repr

/-- `Result<void*>`: success carries no value. -/
abbrev VoidResult := Except ErrorCode Unit

@[simp] theorem isOk_ok {Value : Type} (value : Value) :
    (.ok value : Except ErrorCode Value).isOk = true := rfl

@[simp] theorem isOk_error {Value : Type} (code : ErrorCode) :
    (.error code : Except ErrorCode Value).isOk = false := rfl

def maxPayloadBytes : Nat := 256

/-- Event payload, a fixed-size wire frame of which `payloadLen` bytes are in use. -/
structure SoaEvent where
  serviceId : BitVec 16
  eventId : BitVec 16
  sessionId : BitVec 32
  payloadLen : Byte
  payload : Fin maxPayloadBytes → Byte

def littleEndian16 (field : BitVec 16) : List Byte :=
  [field.setWidth 8, (field >>> 8).setWidth 8]

def littleEndian32 (field : BitVec 32) : List Byte :=
  [field.setWidth 8, (field >>> 8).setWidth 8, (field >>> 16).setWidth 8,
    (field >>> 24).setWidth 8]

@[simp] theorem littleEndian16_length (field : BitVec 16) :
    (littleEndian16 field).length = 2 := rfl

@[simp] theorem littleEndian32_length (field : BitVec 32) :
    (littleEndian32 field).length = 4 := rfl

end SoaGateway
