import Mathlib.Tactic.IntervalCases
import SoaGateway.Foundation.ErrorDetection
import SoaGateway.Ipc.BridgeProperties

/-! The slot as a code word. Read with its checksum field last, a stamped slot is a
message the register takes to zero, so a corrupted slot is rejected exactly when the
register does not take the flipped bits to zero. -/

set_option autoImplicit false

namespace SoaGateway.Ipc

open Foundation Foundation.ShiftRegister

/-- The bits of the slot in the order the register consumes them. -/
def IpcSlot.codeWord (slot : IpcSlot) : List Bool :=
  messageBits (slot.protectedBytes ++ littleEndian16 slot.e2eHeader.crc)

theorem word_littleEndian16 (field : BitVec 16) :
    word 16 (messageBits (littleEndian16 field)) = field := by
  apply BitVec.eq_of_getLsbD_eq
  intro position inside
  rw [getLsbD_word, decide_eq_true inside, Bool.true_and]
  interval_cases position <;> simp [messageBits, byteBits, littleEndian16]

theorem IpcSlot.protectedBytes_length (slot : IpcSlot) :
    slot.protectedBytes.length = protectedLen.toNat := by
  have whole := slot.bytes_length
  rw [IpcSlot.bytes, List.length_append, littleEndian16_length] at whole
  exact Nat.add_left_cancel whole

theorem crcFeedback_top : crcFeedback.getLsbD (16 - 1) = true := rfl

theorem crcFeedback_odd : parity crcFeedback = 1 := by
  decide

/-- The register does not come back to a single bit within the length of a slot. -/
theorem crcFeedback_aperiodic {count : Nat} (positive : 0 < count)
    (inside : count < 8 * ipcSlotBytes) :
    (shift crcFeedback)^[count] 1#16 ≠ 1#16 := by
  have avoided : avoids crcFeedback 1#16 1183 1#16 = true := by decide +kernel
  exact iterate_ne_of_avoids avoided positive (Nat.le_of_lt_succ inside)

theorem IpcSlot.codeWord_length (slot : IpcSlot) : slot.codeWord.length = 8 * ipcSlotBytes := by
  rw [codeWord, messageBits_length, List.length_append, slot.protectedBytes_length]
  rfl

/-- The checksum of a slot is right exactly when the register takes its code word to zero. -/
theorem codeWord_cleared_iff (slot : IpcSlot) :
    feed crcFeedback 0#16 slot.codeWord = 0#16 ↔
      computeE2eCrc (some (slot.bytes.drop crcOffset)) protectedLen = slot.e2eHeader.crc := by
  have length : protectedLen = BitVec.ofNat 16 slot.protectedBytes.length := by
    rw [slot.protectedBytes_length, BitVec.ofNat_toNat]
    rfl
  have computed : computeE2eCrc (some (slot.bytes.drop crcOffset)) protectedLen =
      feed crcFeedback 0#16 (messageBits slot.protectedBytes) := by
    rw [IpcSlot.bytes_drop, length, computeE2eCrc_some]
    rw [slot.protectedBytes_length]
    decide
  have fits : (messageBits (littleEndian16 slot.e2eHeader.crc)).length ≤ 16 := le_refl _
  rw [computed, IpcSlot.codeWord, messageBits_append, feed_append, feed_eq_iterate _ _ _ fits,
    word_littleEndian16]
  constructor
  · intro cleared
    by_contra other
    have nonzero := mt BitVec.xor_eq_zero_iff.1 other
    exact iterate_shift_ne_zero crcFeedback_top _ nonzero cleared
  · intro same
    rw [same, BitVec.xor_self, Function.iterate_fixed (shift_zero crcFeedback)]

theorem messageBits_injective {first second : List Byte}
    (same : messageBits first = messageBits second) : first = second := by
  induction first generalizing second with
  | nil =>
      cases second with
      | nil => rfl
      | cons byte rest => cases same
  | cons byte rest ih =>
      cases second with
      | nil => cases same
      | cons other others =>
          obtain ⟨bits, restBits⟩ : byteBits byte = byteBits other ∧
              messageBits rest = messageBits others := List.append_inj same rfl
          have equal : byte.setWidth 8 = other.setWidth 8 := by
            rw [← word_byteBits byte, ← word_byteBits other, bits]
          rw [BitVec.setWidth_eq, BitVec.setWidth_eq] at equal
          rw [equal, ih restBits]

namespace IpcBridge

theorem verifyE2e_checksum_iff (slot : IpcSlot) (expectedCounter : Byte) :
    verifyE2e slot expectedCounter = .error .checksumMismatch ↔
      feed crcFeedback 0#16 slot.codeWord ≠ 0#16 := by
  rw [Ne, codeWord_cleared_iff]
  unfold verifyE2e
  by_cases right : computeE2eCrc (some (slot.bytes.drop crcOffset)) protectedLen =
      slot.e2eHeader.crc
  · simp only [right, ne_eq, not_true_eq_false, ↓reduceIte, iff_false]
    split <;> simp
  · simp only [ne_eq, right, not_false_eq_true, ↓reduceIte]

theorem stamped_cleared (seqCounter : Byte) (slot : IpcSlot) :
    feed crcFeedback 0#16 (applyE2eHeader seqCounter slot).1.codeWord = 0#16 :=
  (codeWord_cleared_iff _).2 rfl

/-- A corrupted slot is rejected for its checksum exactly when the register does not take
the flipped bits to zero. -/
theorem corruption_detected_iff (seqCounter expectedCounter : Byte) (slot corrupted : IpcSlot) :
    verifyE2e corrupted expectedCounter = .error .checksumMismatch ↔
      feed crcFeedback 0#16
        (errors (applyE2eHeader seqCounter slot).1.codeWord corrupted.codeWord) ≠ 0#16 := by
  have lengths : (applyE2eHeader seqCounter slot).1.codeWord.length =
      corrupted.codeWord.length := by
    rw [IpcSlot.codeWord_length, IpcSlot.codeWord_length]
  have linear := feed_errors crcFeedback 0#16 0#16 lengths
  rw [stamped_cleared, BitVec.xor_self, BitVec.zero_xor] at linear
  rw [verifyE2e_checksum_iff, linear]

/-- A corruption of the protected bytes that stays within sixteen consecutive bits is
rejected. -/
theorem burst_corruption_rejected (seqCounter expectedCounter : Byte) (slot corrupted : IpcSlot)
    (sameCrc : corrupted.e2eHeader.crc = (applyE2eHeader seqCounter slot).1.e2eHeader.crc)
    (changed : corrupted.protectedBytes ≠ (applyE2eHeader seqCounter slot).1.protectedBytes)
    (burst : Burst 16 (errors
      (messageBits (applyE2eHeader seqCounter slot).1.protectedBytes)
      (messageBits corrupted.protectedBytes))) :
    verifyE2e corrupted expectedCounter = .error .checksumMismatch := by
  have lengths : (messageBits (applyE2eHeader seqCounter slot).1.protectedBytes).length =
      (messageBits corrupted.protectedBytes).length := by
    rw [messageBits_length, messageBits_length, IpcSlot.protectedBytes_length,
      IpcSlot.protectedBytes_length]
  have flipped : true ∈ errors (messageBits (applyE2eHeader seqCounter slot).1.protectedBytes)
      (messageBits corrupted.protectedBytes) := by
    by_contra clear
    exact changed (messageBits_injective (eq_of_errors_clear lengths clear)).symm
  rw [corruption_detected_iff seqCounter expectedCounter slot, IpcSlot.codeWord, IpcSlot.codeWord,
    messageBits_append, messageBits_append, errors_append lengths, sameCrc]
  exact burst_detected crcFeedback_top (List.mem_append_left _ flipped)
    (burst_append_clear burst (errors_self _))

/-- A stamped empty slot whose counter byte has lost a bit on its way. -/
def miscountedSlot : IpcSlot :=
  let stamped := (applyE2eHeader 3 zeroSlot).1
  { stamped with e2eHeader := { stamped.e2eHeader with counter := 1 } }

theorem miscounted_slot_rejected :
    verifyE2e miscountedSlot 1 = .error .checksumMismatch := by
  refine burst_corruption_rejected 3 1 zeroSlot miscountedSlot rfl (by decide) ?_
  obtain ⟨rest, sent, received⟩ : ∃ rest,
      (applyE2eHeader 3 zeroSlot).1.protectedBytes = [3#8] ++ rest ∧
        miscountedSlot.protectedBytes = [1#8] ++ rest := ⟨_, rfl, rfl⟩
  have sameLength : (messageBits [3#8]).length = (messageBits [1#8]).length := rfl
  rw [sent, received, messageBits_append, messageBits_append, errors_append sameLength]
  refine burst_append_clear ⟨0, fun position flipped => ?_⟩ (errors_self _)
  obtain ⟨inside, -⟩ := List.getElem?_eq_some_iff.1 flipped
  have short : position < 8 := inside
  omega

/-- The bits in which two slots differ, checksum field included. -/
def flippedBits (sent received : IpcSlot) : Nat :=
  (errors (messageBits sent.bytes) (messageBits received.bytes)).count true

theorem flippedBits_eq (sent received : IpcSlot) :
    flippedBits sent received = (errors sent.codeWord received.codeWord).count true := by
  have protectedLengths : (messageBits sent.protectedBytes).length =
      (messageBits received.protectedBytes).length := by
    rw [messageBits_length, messageBits_length, IpcSlot.protectedBytes_length,
      IpcSlot.protectedBytes_length]
  have crcLengths : (messageBits (littleEndian16 sent.e2eHeader.crc)).length =
      (messageBits (littleEndian16 received.e2eHeader.crc)).length := rfl
  rw [flippedBits, IpcSlot.codeWord, IpcSlot.codeWord, IpcSlot.bytes, IpcSlot.bytes,
    messageBits_append, messageBits_append, messageBits_append, messageBits_append,
    errors_append protectedLengths, errors_append crcLengths, List.count_append,
    List.count_append, Nat.add_comm]

/-- One, two or three flipped bits anywhere in the slot are rejected. -/
theorem few_flips_rejected (seqCounter expectedCounter : Byte) (slot corrupted : IpcSlot)
    (flipped : 0 < flippedBits (applyE2eHeader seqCounter slot).1 corrupted)
    (few : flippedBits (applyE2eHeader seqCounter slot).1 corrupted ≤ 3) :
    verifyE2e corrupted expectedCounter = .error .checksumMismatch := by
  rw [corruption_detected_iff seqCounter expectedCounter slot]
  rw [flippedBits_eq] at flipped few
  by_cases pair : (errors (applyE2eHeader seqCounter slot).1.codeWord
      corrupted.codeWord).count true = 2
  · refine pair_detected crcFeedback_top pair fun count positive inside => ?_
    refine crcFeedback_aperiodic positive (Nat.lt_of_lt_of_le inside ?_)
    rw [errors, List.length_zipWith, IpcSlot.codeWord_length, IpcSlot.codeWord_length, Nat.min_self]
  · refine odd_detected crcFeedback_odd (Nat.odd_iff.2 ?_)
    omega

theorem single_flip_rejected : verifyE2e miscountedSlot 3 = .error .checksumMismatch :=
  few_flips_rejected 3 3 zeroSlot miscountedSlot (by decide +kernel) (by decide +kernel)

end IpcBridge

end SoaGateway.Ipc
