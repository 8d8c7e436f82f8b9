import SoaGateway.Hse.Adapter

/-! What the engine is told of a request: the registers hold its service, key slot and input,
and no more. -/

set_option autoImplicit false

namespace SoaGateway.Hse

theorem HseServiceId.code_inj {left right : HseServiceId} (same : left.code = right.code) :
    left = right := by
  cases left <;> cases right <;> first | rfl | exact absurd same (by decide)

theorem HseKeySlot.code_inj {left right : HseKeySlot} (same : left.code = right.code) :
    left = right := by
  cases left <;> cases right <;> first | rfl | exact absurd same (by decide)

theorem muWrites_eq_iff {desc desc' : HseServiceDescriptor} :
    muWrites desc = muWrites desc' ↔
      desc.serviceId = desc'.serviceId ∧ desc.keySlot = desc'.keySlot ∧
        desc.inputAddr = desc'.inputAddr ∧ desc.inputLen = desc'.inputLen := by
  constructor
  · intro written
    simp only [muWrites, List.cons.injEq, MuWrite.mk.injEq, true_and, and_true] at written
    obtain ⟨service, slot, addr, len⟩ := written
    exact ⟨HseServiceId.code_inj service, HseKeySlot.code_inj slot, addr, len⟩
  · intro ⟨service, slot, addr, len⟩
    simp only [muWrites, service, slot, addr, len]

theorem setWidth32_inj {width : Nat} (narrow : width ≤ 32) {left right : BitVec width} :
    left.setWidth 32 = right.setWidth 32 ↔ left = right := by
  rw [← BitVec.toNat_inj, BitVec.toNat_setWidth_of_le narrow, BitVec.toNat_setWidth_of_le narrow,
    BitVec.toNat_inj]

namespace HseRequest

/-- The same service, asked of the same input with the same key. -/
def SameInput : HseRequest → HseRequest → Prop
  | .generateMac data dataLen keySlot _, .generateMac data' dataLen' keySlot' _ =>
      keySlot = keySlot' ∧ physAddr data = physAddr data' ∧ dataLen = dataLen'
  | .verifyMac data dataLen keySlot _, .verifyMac data' dataLen' keySlot' _ =>
      keySlot = keySlot' ∧ physAddr data = physAddr data' ∧ dataLen = dataLen'
  | .verifyCertificate certDer certLen, .verifyCertificate certDer' certLen' =>
      physAddr certDer = physAddr certDer' ∧ certLen = certLen'
  | .generateRandom _ length, .generateRandom _ length' => length = length'
  | _, _ => False

end HseRequest

theorem refusal_passed {α : Type} {refused : Prop} [Decidable refused] {code : ErrorCode}
    {rest : Except ErrorCode α} {built : α} :
    (if refused then .error code else rest) = .ok built ↔ ¬ refused ∧ rest = .ok built := by
  by_cases holds : refused
  · simp [holds]
  · simp [holds]

namespace HseAdapter

variable {adapter left right : HseAdapter} {request request' : HseRequest}
  {desc desc' : HseServiceDescriptor}

/-- Where a request wants its result, or holds the tag to verify. -/
def buffer (adapter : HseAdapter) : HseRequest → Option (BitVec 32)
  | .generateMac _ _ _ mac => some (physAddr mac)
  | .verifyMac _ _ _ _ => some (physAddr adapter.rxMacBuf)
  | .verifyCertificate _ _ => none
  | .generateRandom buffer _ => some (physAddr buffer)

/-- The descriptor of a request that passes its checks. -/
def descriptor (adapter : HseAdapter) : HseRequest → HseServiceDescriptor
  | .generateMac data dataLen keySlot mac =>
      ⟨.macGenerate, keySlot, physAddr data, dataLen.setWidth 32, physAddr mac, 16⟩
  | .verifyMac data dataLen keySlot _ =>
      ⟨.macVerify, keySlot, physAddr data, dataLen.setWidth 32, physAddr adapter.rxMacBuf, 16⟩
  | .verifyCertificate certDer certLen =>
      ⟨.certVerify, .tlsRootCaKey, physAddr certDer, certLen.setWidth 32, 0, 0⟩
  | .generateRandom buffer length =>
      ⟨.rngGenerate, .invalid, 0, length.setWidth 32, physAddr buffer, length.setWidth 32⟩

theorem request_descriptor (built : adapter.request request = .ok desc) :
    adapter.descriptor request = desc := by
  cases request with
  | generateMac data dataLen keySlot mac =>
      simp only [HseAdapter.request, generateMacRequest, refusal_passed] at built
      exact Except.ok.inj built.2.2.2
  | verifyMac data dataLen keySlot mac =>
      simp only [HseAdapter.request, verifyMacRequest, refusal_passed] at built
      exact Except.ok.inj built.2.2
  | verifyCertificate certDer certLen =>
      simp only [HseAdapter.request, verifyCertificateRequest, refusal_passed] at built
      exact Except.ok.inj built.2.2.2
  | generateRandom buffer length =>
      simp only [HseAdapter.request, generateRandomRequest, refusal_passed] at built
      exact Except.ok.inj built.2.2.2

/-- The registers tell two requests apart by their input alone. -/
theorem written_iff_sameInput :
    muWrites (left.descriptor request) = muWrites (right.descriptor request') ↔
      request.SameInput request' := by
  rw [muWrites_eq_iff]
  cases request <;> cases request' <;>
    simp [descriptor, HseRequest.SameInput, setWidth32_inj]

theorem descriptor_eq_iff_buffer (same : request.SameInput request') :
    left.descriptor request = right.descriptor request' ↔
      left.buffer request = right.buffer request' := by
  cases request with
  | generateMac data dataLen keySlot mac =>
      cases request' with
      | generateMac data' dataLen' keySlot' mac' =>
          obtain ⟨slot, addr, len⟩ := same
          simp [descriptor, buffer, slot, addr, len]
      | _ => exact same.elim
  | verifyMac data dataLen keySlot mac =>
      cases request' with
      | verifyMac data' dataLen' keySlot' mac' =>
          obtain ⟨slot, addr, len⟩ := same
          simp [descriptor, buffer, slot, addr, len]
      | _ => exact same.elim
  | verifyCertificate certDer certLen =>
      cases request' with
      | verifyCertificate certDer' certLen' =>
          obtain ⟨addr, len⟩ := same
          simp [descriptor, buffer, addr, len]
      | _ => exact same.elim
  | generateRandom target length =>
      cases request' with
      | generateRandom target' length' =>
          obtain rfl : length = length' := same
          simp [descriptor, buffer]
      | _ => exact same.elim

end HseAdapter

theorem Memory.store_outside {length : Nat} {memory : Memory} {base address : BitVec 32}
    {bytes : Fin length → Byte} (outside : ¬ InArea base length address) :
    memory.store base bytes address = memory address := by
  rw [Memory.store, dif_neg outside]

/-- An engine that reads no memory but the input it is told of. -/
def HseFirmware.ReadsInput (firmware : HseFirmware) : Prop :=
  ∀ (desc : HseServiceDescriptor) (memory memory' : Memory),
    (∀ address, InArea desc.inputAddr desc.inputLen.toNat address →
      memory address = memory' address) →
    (firmware (muWrites desc) memory).receive = (firmware (muWrites desc) memory').receive

theorem submitAndPoll_status {firmware : HseFirmware} (reads : firmware.ReadsInput)
    {desc : HseServiceDescriptor} {memory memory' : Memory}
    (agree : ∀ address, InArea desc.inputAddr desc.inputLen.toNat address →
      memory address = memory' address) :
    (submitAndPoll firmware memory desc).1 = (submitAndPoll firmware memory' desc).1 := by
  simp only [submitAndPoll, reads desc memory memory' agree]
  split
  · rfl
  · rfl

namespace HseAdapter

variable {adapter left right : HseAdapter} {request request' : HseRequest}
  {desc desc' : HseServiceDescriptor}

theorem verifyMacRequest_input {data : Pointer} {dataLen : BitVec 16} {keySlot : HseKeySlot}
    (built : adapter.verifyMacRequest data dataLen keySlot = .ok desc) :
    desc.inputAddr = physAddr data ∧ desc.inputLen.toNat = dataLen.toNat := by
  simp only [verifyMacRequest, refusal_passed] at built
  cases built.2.2
  exact ⟨rfl, BitVec.toNat_setWidth_of_le (by decide)⟩

/-- The tag lies where no request says, so the verdict is the same for every tag. -/
theorem verifyMac_ignores_mac {firmware : HseFirmware} (reads : firmware.ReadsInput)
    {data : Pointer} {dataLen : BitVec 16}
    (apart : ∀ address, InArea (physAddr data) dataLen.toNat address →
      ¬ InArea (physAddr adapter.rxMacBuf) hseMacLengthBytes address)
    (memory : Memory) (keySlot : HseKeySlot) (mac mac' : HseMacBuffer) :
    (adapter.verifyMac firmware memory data dataLen keySlot mac).1 =
      (adapter.verifyMac firmware memory data dataLen keySlot mac').1 := by
  unfold verifyMac
  cases built : adapter.verifyMacRequest data dataLen keySlot with
  | error code => rfl
  | ok desc =>
      obtain ⟨addr, len⟩ := verifyMacRequest_input built
      have agree : ∀ address, InArea desc.inputAddr desc.inputLen.toNat address →
          memory.store (physAddr adapter.rxMacBuf) mac address =
            memory.store (physAddr adapter.rxMacBuf) mac' address := by
        intro address inside
        rw [addr, len] at inside
        rw [Memory.store_outside (apart address inside),
          Memory.store_outside (apart address inside)]
      have status := submitAndPoll_status reads agree
      simp only [status]

/-- The engine is not told where to put the random bytes: every buffer has the same outcome. -/
theorem generateRandom_ignores_buffer (firmware : HseFirmware) (memory : Memory)
    {buffer buffer' : Pointer} (given : buffer ≠ 0) (given' : buffer' ≠ 0) (length : Byte) :
    adapter.generateRandom firmware memory buffer length =
      adapter.generateRandom firmware memory buffer' length := by
  simp only [generateRandom, generateRandomRequest, if_neg given, if_neg given']
  by_cases ready : (!adapter.initialised) = true
  · simp only [if_pos ready]
  · by_cases unfit : length = 0 ∨ 64 < length.toNat
    · simp only [if_neg ready, if_pos unfit]
    · simp only [if_neg ready, if_neg unfit]
      -- the two descriptors write the same registers
      rfl

/-- The registers tell all of a request exactly when no other request on the same input wants
another buffer; the tag to verify and the buffer for random bytes are never told. -/
theorem whole_request_iff (built : left.request request = .ok desc)
    (built' : right.request request' = .ok desc') :
    ((muWrites desc = muWrites desc' → desc = desc') ↔
      (request.SameInput request' → left.buffer request = right.buffer request')) ∧
    (∀ (firmware : HseFirmware) (memory : Memory) (data : Pointer) (dataLen : BitVec 16)
      (keySlot : HseKeySlot) (mac mac' : HseMacBuffer), firmware.ReadsInput →
      (∀ address, InArea (physAddr data) dataLen.toNat address →
        ¬ InArea (physAddr left.rxMacBuf) hseMacLengthBytes address) →
      (left.verifyMac firmware memory data dataLen keySlot mac).1 =
        (left.verifyMac firmware memory data dataLen keySlot mac').1) ∧
    ∀ (firmware : HseFirmware) (memory : Memory) (buffer buffer' : Pointer) (length : Byte),
      buffer ≠ 0 → buffer' ≠ 0 →
      left.generateRandom firmware memory buffer length =
        left.generateRandom firmware memory buffer' length := by
  refine ⟨?_, fun firmware memory data dataLen keySlot mac mac' reads apart =>
    verifyMac_ignores_mac reads apart memory keySlot mac mac',
    fun firmware memory buffer buffer' length given given' =>
      generateRandom_ignores_buffer firmware memory given given' length⟩
  cases request_descriptor built
  cases request_descriptor built'
  rw [written_iff_sameInput]
  exact forall_congr' descriptor_eq_iff_buffer

def readyAdapter : HseAdapter where
  initialised := true
  rxMacBuf := 0x20008000

/-- An engine that does not find the tag. -/
def mismatching : HseFirmware := fun _ memory =>
  { receive := fun _ => HseStatus.macMismatch.code, memory }

theorem mismatching_readsInput : mismatching.ReadsInput := fun _ _ _ _ => rfl

/-- Nonces of two lengths are told apart, wherever they go, and two tags for one message
are both turned down. -/
theorem two_nonces_told :
    let short := readyAdapter.descriptor (.generateRandom 0x20001000 16)
    let long := readyAdapter.descriptor (.generateRandom 0x20002000 32)
    (muWrites short = muWrites long → short = long) ∧
      (readyAdapter.verifyMac mismatching (fun _ => 0) 0x20001000 64 .secOcSymmetricKey
          fun _ => 0).1 =
        (readyAdapter.verifyMac mismatching (fun _ => 0) 0x20001000 64 .secOcSymmetricKey
          fun _ => 1).1 := by
  have built : readyAdapter.request (.generateRandom 0x20001000 16) =
    .ok (readyAdapter.descriptor (.generateRandom 0x20001000 16)) := rfl
  have built' : readyAdapter.request (.generateRandom 0x20002000 32) =
    .ok (readyAdapter.descriptor (.generateRandom 0x20002000 32)) := rfl
  have apart : ∀ address, InArea (physAddr 0x20001000) (64#16).toNat address →
      ¬ InArea (physAddr readyAdapter.rxMacBuf) hseMacLengthBytes address := by
    intro address inside
    have data : physAddr 0x20001000 = 0x20001000#32 := by decide
    have scratch : physAddr readyAdapter.rxMacBuf = 0x20008000#32 := by decide
    rw [data, InArea] at inside
    rw [scratch, InArea, hseMacLengthBytes]
    bv_omega
  obtain ⟨told, verified, -⟩ := whole_request_iff built built'
  exact ⟨told.2 fun same => absurd (show (16 : Byte) = 32 from same) (by decide),
    verified mismatching _ _ _ _ _ _ mismatching_readsInput apart⟩

/-- One message is stamped into two buffers: the engine is told the same twice. -/
theorem two_buffers_confused :
    ¬ ∀ (left right : HseAdapter) (request request' : HseRequest)
      (desc desc' : HseServiceDescriptor), left.request request = .ok desc →
      right.request request' = .ok desc' → muWrites desc = muWrites desc' → desc = desc' := by
  intro told
  have same := told readyAdapter readyAdapter
    (.generateMac 0x20001000 64 .secOcSymmetricKey 0x20002000)
    (.generateMac 0x20001000 64 .secOcSymmetricKey 0x20003000) _ _ rfl rfl rfl
  exact absurd (congrArg HseServiceDescriptor.outputAddr same) (by decide)

end HseAdapter

end SoaGateway.Hse
