import SoaGateway.Common

/-! The adapter of the security engine. The engine itself is a parameter: what it answers to
the registers written, over the memory both sides share. -/

set_option autoImplicit false

namespace SoaGateway.Hse

def hseMacLengthBytes : Nat := 16
def hsePollTimeoutUs : Nat := 5000
def hseCertMaxBytes : Nat := 4 * 1024

abbrev Pointer := BitVec 64

/-- Physical memory, one byte an address. -/
abbrev Memory := BitVec 32 → Byte

abbrev HseMacBuffer := Fin hseMacLengthBytes → Byte

inductive HseKeySlot where
  | secOcSymmetricKey
  | tlsRootCaKey
  | ecdhEphemeralKey
  | invalid
deriving DecidableEq, Repr

def HseKeySlot.code : HseKeySlot → BitVec 32
  | .secOcSymmetricKey => 0x00010001
  | .tlsRootCaKey => 0x00020001
  | .ecdhEphemeralKey => 0x00030001
  | .invalid => 0xFFFFFFFF

inductive HseServiceId where
  | macGenerate
  | macVerify
  | hashCompute
  | certVerify
  | rngGenerate
deriving DecidableEq, Repr

def HseServiceId.code : HseServiceId → BitVec 32
  | .macGenerate => 0x00A50001
  | .macVerify => 0x00A50002
  | .hashCompute => 0x00A50010
  | .certVerify => 0x00A50020
  | .rngGenerate => 0x00A50030

/-- A status is whatever word the receive register held. -/
structure HseStatus where
  code : BitVec 32
deriving DecidableEq, Repr

namespace HseStatus

def ok : HseStatus := ⟨0x00000000⟩
def busy : HseStatus := ⟨0x00000001⟩
def timeout : HseStatus := ⟨0x00000002⟩
def macMismatch : HseStatus := ⟨0x00000020⟩
def certInvalid : HseStatus := ⟨0x00000030⟩

end HseStatus

structure HseServiceDescriptor where
  serviceId : HseServiceId
  keySlot : HseKeySlot
  inputAddr : BitVec 32
  inputLen : BitVec 32
  outputAddr : BitVec 32
  outputLen : BitVec 32
deriving DecidableEq, Repr

structure MuWrite where
  address : Pointer
  value : BitVec 32
deriving DecidableEq, Repr

def hseMuBaseAddr : Pointer := 0x40210000
def muTrReg : Pointer := 0x00
def muSrRdy : BitVec 32 := 0x00000008

def physAddr (ptr : Pointer) : BitVec 32 := (ptr &&& 0xFFFFFFFF).setWidth 32

/-- The `length` bytes from `base`, modulo the address space. -/
def InArea (base : BitVec 32) (length : Nat) (address : BitVec 32) : Prop :=
  (address - base).toNat < length

instance (base : BitVec 32) (length : Nat) (address : BitVec 32) :
    Decidable (InArea base length address) :=
  inferInstanceAs (Decidable (_ < _))

def Memory.store {length : Nat} (memory : Memory) (base : BitVec 32)
    (bytes : Fin length → Byte) : Memory := fun address =>
  if inside : InArea base length address then bytes ⟨(address - base).toNat, inside⟩
  else memory address

/-- What the receive register reads at each poll, and the memory the engine leaves. -/
structure HseAnswer where
  receive : Nat → BitVec 32
  memory : Memory

abbrev HseFirmware := List MuWrite → Memory → HseAnswer

/-- At most `remaining` reads from the read number `index` on. -/
def poll (read : Nat → BitVec 32) (accepts : BitVec 32 → Bool) (index : Nat) :
    Nat → Option (BitVec 32)
  | 0 => none
  | remaining + 1 =>
      if accepts (read index) then some (read index) else poll read accepts (index + 1) remaining

/-- The registers `SubmitAndPoll` writes, in order. -/
def muWrites (desc : HseServiceDescriptor) : List MuWrite := [
  ⟨hseMuBaseAddr + muTrReg + 0x00, desc.serviceId.code⟩,
  ⟨hseMuBaseAddr + muTrReg + 0x04, desc.keySlot.code⟩,
  ⟨hseMuBaseAddr + muTrReg + 0x08, desc.inputAddr⟩,
  ⟨hseMuBaseAddr + muTrReg + 0x0C, desc.inputLen⟩]

def submitAndPoll (firmware : HseFirmware) (memory : Memory) (desc : HseServiceDescriptor) :
    HseStatus × Memory :=
  let answer := firmware (muWrites desc) memory
  match poll answer.receive (fun rr => rr != HseStatus.busy.code) 0 hsePollTimeoutUs with
  | some rr => (⟨rr⟩, answer.memory)
  | none => (.timeout, answer.memory)

/-- `rxMacBuf` is where the bytes of the scratch buffer lie. -/
structure HseAdapter where
  initialised : Bool
  rxMacBuf : Pointer
deriving DecidableEq, Repr

namespace HseAdapter

def init (adapter : HseAdapter) (status : Nat → BitVec 32) : VoidResult × HseAdapter :=
  if adapter.initialised then (.error .alreadyRegistered, adapter)
  else match poll status (fun sr => (sr &&& muSrRdy) != 0) 0 hsePollTimeoutUs with
    | some _ => (.ok (), { adapter with initialised := true })
    | none => (.error .timeout, { adapter with initialised := false })

def generateMacRequest (adapter : HseAdapter) (data : Pointer) (dataLen : BitVec 16)
    (keySlot : HseKeySlot) (mac : Pointer) : Except ErrorCode HseServiceDescriptor :=
  if !adapter.initialised then .error .notInitialized
  else if data = 0 then .error .nullPointer
  else if dataLen = 0 then .error .invalidArgument
  else .ok {
    serviceId := .macGenerate
    keySlot
    inputAddr := physAddr data
    inputLen := dataLen.setWidth 32
    outputAddr := physAddr mac
    outputLen := BitVec.ofNat 32 hseMacLengthBytes }

def generateMac (adapter : HseAdapter) (firmware : HseFirmware) (memory : Memory)
    (data : Pointer) (dataLen : BitVec 16) (keySlot : HseKeySlot) (mac : Pointer) :
    VoidResult × Memory :=
  match adapter.generateMacRequest data dataLen keySlot mac with
  | .error code => (.error code, memory)
  | .ok desc =>
      let zeroed := memory.store (physAddr mac) (fun _ : Fin hseMacLengthBytes => 0)
      let (status, memory) := submitAndPoll firmware zeroed desc
      (if status ≠ .ok then .error .e2eViolation else .ok (), memory)

def verifyMacRequest (adapter : HseAdapter) (data : Pointer) (dataLen : BitVec 16)
    (keySlot : HseKeySlot) : Except ErrorCode HseServiceDescriptor :=
  if !adapter.initialised then .error .notInitialized
  else if data = 0 then .error .nullPointer
  else .ok {
    serviceId := .macVerify
    keySlot
    inputAddr := physAddr data
    inputLen := dataLen.setWidth 32
    outputAddr := physAddr adapter.rxMacBuf
    outputLen := BitVec.ofNat 32 hseMacLengthBytes }

def verifyMac (adapter : HseAdapter) (firmware : HseFirmware) (memory : Memory)
    (data : Pointer) (dataLen : BitVec 16) (keySlot : HseKeySlot) (mac : HseMacBuffer) :
    VoidResult × Memory :=
  match adapter.verifyMacRequest data dataLen keySlot with
  | .error code => (.error code, memory)
  | .ok desc =>
      let copied := memory.store (physAddr adapter.rxMacBuf) mac
      let (status, memory) := submitAndPoll firmware copied desc
      (if status = .macMismatch then .error .checksumMismatch
        else if status ≠ .ok then .error .e2eViolation
        else .ok (), memory)

def verifyCertificateRequest (adapter : HseAdapter) (certDer : Pointer) (certLen : BitVec 16) :
    Except ErrorCode HseServiceDescriptor :=
  if !adapter.initialised then .error .notInitialized
  else if certDer = 0 then .error .nullPointer
  else if certLen = 0 ∨ hseCertMaxBytes < certLen.toNat then .error .invalidArgument
  else .ok {
    serviceId := .certVerify
    keySlot := .tlsRootCaKey
    inputAddr := physAddr certDer
    inputLen := certLen.setWidth 32
    outputAddr := 0
    outputLen := 0 }

def verifyCertificate (adapter : HseAdapter) (firmware : HseFirmware) (memory : Memory)
    (certDer : Pointer) (certLen : BitVec 16) : VoidResult × Memory :=
  match adapter.verifyCertificateRequest certDer certLen with
  | .error code => (.error code, memory)
  | .ok desc =>
      let (status, memory) := submitAndPoll firmware memory desc
      (if status = .certInvalid then .error .unauthorized
        else if status ≠ .ok then .error .e2eViolation
        else .ok (), memory)

def generateRandomRequest (adapter : HseAdapter) (buffer : Pointer) (length : Byte) :
    Except ErrorCode HseServiceDescriptor :=
  if !adapter.initialised then .error .notInitialized
  else if buffer = 0 then .error .nullPointer
  else if length = 0 ∨ 64 < length.toNat then .error .invalidArgument
  else .ok {
    serviceId := .rngGenerate
    keySlot := .invalid
    inputAddr := 0
    inputLen := length.setWidth 32
    outputAddr := physAddr buffer
    outputLen := length.setWidth 32 }

def generateRandom (adapter : HseAdapter) (firmware : HseFirmware) (memory : Memory)
    (buffer : Pointer) (length : Byte) : VoidResult × Memory :=
  match adapter.generateRandomRequest buffer length with
  | .error code => (.error code, memory)
  | .ok desc =>
      let (status, memory) := submitAndPoll firmware memory desc
      (if status ≠ .ok then .error .timeout else .ok (), memory)

end HseAdapter

/-- The four operations with their arguments; a verification holds the tag by value. -/
inductive HseRequest where
  | generateMac (data : Pointer) (dataLen : BitVec 16) (keySlot : HseKeySlot) (mac : Pointer)
  | verifyMac (data : Pointer) (dataLen : BitVec 16) (keySlot : HseKeySlot) (mac : HseMacBuffer)
  | verifyCertificate (certDer : Pointer) (certLen : BitVec 16)
  | generateRandom (buffer : Pointer) (length : Byte)

/-- The descriptor an operation submits. -/
def HseAdapter.request (adapter : HseAdapter) : HseRequest → Except ErrorCode HseServiceDescriptor
  | .generateMac data dataLen keySlot mac => adapter.generateMacRequest data dataLen keySlot mac
  | .verifyMac data dataLen keySlot _ => adapter.verifyMacRequest data dataLen keySlot
  | .verifyCertificate certDer certLen => adapter.verifyCertificateRequest certDer certLen
  | .generateRandom buffer length => adapter.generateRandomRequest buffer length

end SoaGateway.Hse
