import Mathlib.Data.List.Induction
import SoaGateway.Ipc.Bridge

/-! What one stamped slot and one send guarantee, before any interleaving. -/

set_option autoImplicit false

namespace SoaGateway.Ipc

open Foundation

@[simp] theorem IpcSlot.bytes_drop (slot : IpcSlot) :
    slot.bytes.drop crcOffset = slot.protectedBytes := rfl

theorem IpcSlot.bytes_length (slot : IpcSlot) : slot.bytes.length = ipcSlotBytes := by
  simp only [IpcSlot.bytes, IpcSlot.protectedBytes, List.length_append, List.length_ofFn,
    List.length_cons, List.length_nil, littleEndian16_length, littleEndian32_length]
  rfl

/-- A slot carries an event as the `count`-th message: the event's fields, its payload
bytes with zero padding, and a header accepted under that count alone. -/
structure IpcSlot.Carries (slot : IpcSlot) (event : SoaEvent) (count : Nat) : Prop where
  serviceId : slot.serviceId = event.serviceId
  eventId : slot.eventId = event.eventId
  sessionId : slot.sessionId = event.sessionId
  payloadLen : slot.payloadLen = event.payloadLen
  payload : ∀ index : Fin ipcPayloadBytes, index.val < event.payloadLen.toNat →
    slot.payload index = event.payload (index.castLE (by decide))
  padding : ∀ index : Fin ipcPayloadBytes, event.payloadLen.toNat ≤ index.val →
    slot.payload index = 0
  accepted : IpcBridge.verifyE2e slot (BitVec.ofNat 8 count) = .ok ()
  rejected : ∀ counter, counter ≠ BitVec.ofNat 8 count →
    IpcBridge.verifyE2e slot counter = .error .sequenceError

namespace IpcBridge

/-- The stamped checksum is the one recomputed on verification, since the checksum
field lies outside the protected region. -/
theorem verifyE2e_applyE2eHeader (seqCounter expectedCounter : Byte) (slot : IpcSlot) :
    verifyE2e (applyE2eHeader seqCounter slot).1 expectedCounter =
      if seqCounter = expectedCounter then .ok () else .error .sequenceError := by
  have recomputed : computeE2eCrc
      (some ((applyE2eHeader seqCounter slot).1.bytes.drop crcOffset)) protectedLen =
        (applyE2eHeader seqCounter slot).1.e2eHeader.crc := rfl
  have stamped : (applyE2eHeader seqCounter slot).1.e2eHeader.counter = seqCounter := rfl
  simp only [verifyE2e, recomputed, stamped, ne_eq, not_true_eq_false, ↓reduceIte, ite_not]

theorem counter_of_verifyE2e {slot : IpcSlot} {counter : Byte}
    (passed : verifyE2e slot counter = .ok ()) : slot.e2eHeader.counter = counter := by
  unfold verifyE2e at passed
  grind

theorem populated_carries (slot : IpcSlot) (event : SoaEvent) (count : Nat) :
    (applyE2eHeader (BitVec.ofNat 8 count) (populateSlot slot event)).1.Carries event count where
  serviceId := rfl
  eventId := rfl
  sessionId := rfl
  payloadLen := rfl
  payload index inside := if_pos inside
  padding index outside := if_neg (Nat.not_lt.2 outside)
  accepted := by rw [verifyE2e_applyE2eHeader, if_pos rfl]
  rejected counter different := by
    rw [verifyE2e_applyE2eHeader, if_neg fun same => different same.symm]

theorem nextHead_eq_next (head : Nat) : nextHead head = Ring.next ipcRingSlots head :=
  Nat.and_two_pow_sub_one_eq_mod (head + 1) 5

/-- The send checks pass exactly on an initialised bridge with a ring that has room,
for an event whose payload fits. -/
theorem sendCheck_ok_iff {bridge : IpcBridge} {event : SoaEvent} {head : Nat} :
    bridge.sendCheck event = .ok head ↔
      bridge.initialised = true ∧ ∃ ring, bridge.ring = some ring ∧ ring.head = head ∧
        event.payloadLen.toNat ≤ ipcPayloadBytes ∧ nextHead head ≠ ring.tail := by
  unfold sendCheck
  cases bridge.initialised with
  | false => simp
  | true =>
      cases bridge.ring with
      | none => simp
      | some ring =>
          have fits : BitVec.ofNat 8 ipcPayloadBytes < event.payloadLen ↔
              ¬ event.payloadLen.toNat ≤ ipcPayloadBytes := by
            rw [Nat.not_le]
            exact Iff.rfl
          by_cases tooLong : BitVec.ofNat 8 ipcPayloadBytes < event.payloadLen
          · have := fits.1 tooLong
            simp [tooLong, this]
          · have short : event.payloadLen.toNat ≤ ipcPayloadBytes :=
              Classical.not_not.1 fun long => tooLong (fits.2 long)
            by_cases full : nextHead ring.head = ring.tail
            · constructor
              · intro passed
                simp [tooLong, full] at passed
              · rintro ⟨-, other, same, rfl, -, room⟩
                cases same
                exact absurd full room
            · simp only [tooLong, full, ↓reduceIte, Bool.not_true, Bool.false_eq_true,
                Except.ok.injEq, Option.some.injEq, true_and]
              constructor
              · rintro rfl
                exact ⟨ring, rfl, rfl, short, full⟩
              · rintro ⟨other, rfl, same, -⟩
                exact same

theorem stored_append (first second : List (IpcSlot → IpcSlot)) (slot : IpcSlot) :
    stored (first ++ second) slot = stored second (stored first slot) :=
  List.foldl_append

theorem stored_take_succ {stores : List (IpcSlot → IpcSlot)} {done : Nat}
    {store : IpcSlot → IpcSlot} (next : stores[done]? = some store) (slot : IpcSlot) :
    stored (stores.take (done + 1)) slot = store (stored (stores.take done) slot) := by
  rw [List.take_add_one, next, stored_append]
  rfl

theorem stored_payload (places : List (Fin ipcPayloadBytes)) (byte : Fin ipcPayloadBytes → Byte)
    (slot : IpcSlot) :
    stored (places.map fun place => storePayload place (byte place)) slot =
      { slot with
        payload := fun index => if index ∈ places then byte index else slot.payload index } := by
  induction places using List.reverseRecOn with
  | nil => simp [stored]
  | append_singleton places place ih =>
      rw [List.map_append, stored_append, ih]
      simp only [List.map_cons, List.map_nil, stored, List.foldl_cons, List.foldl_nil, storePayload]
      congr 1
      funext index
      rcases eq_or_ne index place with rfl | apart
      · simp
      · simp [apart]

theorem stored_populateStores (event : SoaEvent) (slot : IpcSlot) :
    stored (populateStores event) slot = populateSlot slot event := by
  rw [populateStores, stored_append, stored_append, stored_payload, stored_payload]
  simp only [stored, List.foldl_cons, List.foldl_nil, storeReserved, populateSlot,
    List.mem_filter, List.mem_finRange, true_and, ↓reduceIte, decide_eq_true_eq]
  congr 1
  funext place
  match place with
  | ⟨0, _⟩ | ⟨1, _⟩ | ⟨2, _⟩ => rfl

/-- The stores make the slot that is written as a whole. -/
theorem stored_slotStores (seqCounter : Byte) (event : SoaEvent) (slot : IpcSlot) :
    stored (slotStores seqCounter event) slot =
      (applyE2eHeader seqCounter (populateSlot slot event)).1 := by
  rw [slotStores, stored_append, stored_populateStores]
  rfl

theorem populateStores_header (event : SoaEvent) {store : IpcSlot → IpcSlot}
    (listed : store ∈ populateStores event) (slot : IpcSlot) :
    (store slot).e2eHeader = slot.e2eHeader := by
  simp only [populateStores, List.mem_append, List.mem_map, List.mem_cons, List.not_mem_nil,
    or_false] at listed
  rcases listed with ((rfl | rfl | rfl | rfl | rfl | rfl | rfl) | ⟨place, -, rfl⟩) |
    ⟨place, -, rfl⟩ <;> rfl

theorem headerStores_counter (seqCounter : Byte) {store : IpcSlot → IpcSlot}
    (listed : store ∈ headerStores seqCounter) (slot : IpcSlot) :
    (store slot).e2eHeader.counter = slot.e2eHeader.counter ∨
      (store slot).e2eHeader.counter = seqCounter := by
  simp only [headerStores, List.mem_cons, List.not_mem_nil, or_false] at listed
  rcases listed with rfl | rfl | rfl | rfl | rfl | rfl
  · exact .inr rfl
  all_goals exact .inl rfl

/-- A slot that is being written carries its old number or its new one. -/
theorem stored_counter {seqCounter : Byte} {event : SoaEvent} {stores : List (IpcSlot → IpcSlot)}
    (some_of : stores ⊆ slotStores seqCounter event) (slot : IpcSlot) :
    (stored stores slot).e2eHeader.counter = slot.e2eHeader.counter ∨
      (stored stores slot).e2eHeader.counter = seqCounter := by
  induction stores using List.reverseRecOn with
  | nil => exact .inl rfl
  | append_singleton stores store ih =>
      have earlier := ih fun other member => some_of (List.mem_append_left [store] member)
      have listed : store ∈ slotStores seqCounter event := some_of (by simp)
      have kept : (store (stored stores slot)).e2eHeader.counter =
          (stored stores slot).e2eHeader.counter ∨
            (store (stored stores slot)).e2eHeader.counter = seqCounter := by
        rcases List.mem_append.1 listed with populates | stamps
        · exact .inl (congrArg _ (populateStores_header event populates _))
        · exact headerStores_counter seqCounter stamps _
      rw [stored_append]
      rcases kept with same | stamped
      · exact earlier.imp same.trans same.trans
      · exact .inr stamped

end IpcBridge

end SoaGateway.Ipc
