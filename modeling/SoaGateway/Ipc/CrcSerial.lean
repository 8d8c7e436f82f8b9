import SoaGateway.Foundation.ErrorDetection
import SoaGateway.Ipc.Crc

/-! The checksum without its table: one bit a step, by the round that fills the table. -/

set_option autoImplicit false

namespace SoaGateway.Ipc

open Foundation Foundation.ShiftRegister

/-- One round of the loop of `GenerateCrcEntry`. -/
def crcRound (crc : BitVec 16) : BitVec 16 :=
  if crc &&& 0x0001#16 ≠ 0 then (crc >>> 1) ^^^ 0x8005#16 else crc >>> 1

def crcFeedBit (crc : BitVec 16) (bit : Bool) : BitVec 16 :=
  crcRound (crc ^^^ (BitVec.ofBool bit).setWidth 16)

/-- Every bit of every byte, the least significant of a byte first. -/
def bitSerialCrc (bytes : List Byte) : BitVec 16 :=
  (messageBits bytes).foldl crcFeedBit 0x0000#16

/-- The bytewise XOR of two strings. -/
def xorBytes (left right : List Byte) : List Byte := List.zipWith (· ^^^ ·) left right

theorem crcRound_eq_shift (crc : BitVec 16) : crcRound crc = shift crcFeedback crc := by
  simp only [crcRound, low_bit_ne_zero_iff]
  rfl

theorem crcFeedBit_eq_feedBit : crcFeedBit = feedBit crcFeedback := by
  funext crc bit
  rw [crcFeedBit, crcRound_eq_shift]
  rfl

theorem bitSerialCrc_eq_feed (bytes : List Byte) :
    bitSerialCrc bytes = feed crcFeedback 0#16 (messageBits bytes) := by
  rw [bitSerialCrc, crcFeedBit_eq_feedBit]
  rfl

theorem bitSerialCrc_xorBytes {left right : List Byte} (same : left.length = right.length) :
    bitSerialCrc (xorBytes left right) = bitSerialCrc left ^^^ bitSerialCrc right := by
  have bits : (messageBits left).length = (messageBits right).length := by
    rw [messageBits_length, messageBits_length, same]
  have zero : 0#16 ^^^ 0#16 = 0#16 := BitVec.xor_self
  simp only [bitSerialCrc_eq_feed]
  rw [xorBytes, messageBits_zipWith_xor same, ← feed_errors crcFeedback _ _ bits, zero]

theorem computeE2eCrc_eq_bitSerialCrc (bytes : List Byte) (length : BitVec 16) :
    computeE2eCrc (some bytes) length = bitSerialCrc (bytes.take length.toNat) := by
  rw [computeE2eCrc, foldl_crcStep_eq_feed, bitSerialCrc_eq_feed]

theorem take_xorBytes (left right : List Byte) (count : Nat) :
    (xorBytes left right).take count = xorBytes (left.take count) (right.take count) :=
  List.take_zipWith

/-- The table-driven checksum is the bit-serial one, and it is linear: the checksum of the
XOR of two strings is the XOR of their checksums. -/
theorem crc_serial_and_linear :
    (∀ (bytes : List Byte) (length : BitVec 16),
      computeE2eCrc (some bytes) length = bitSerialCrc (bytes.take length.toNat)) ∧
    ∀ (left right : List Byte) (length : BitVec 16), left.length = right.length →
      computeE2eCrc (some (xorBytes left right)) length =
        computeE2eCrc (some left) length ^^^ computeE2eCrc (some right) length := by
  refine ⟨computeE2eCrc_eq_bitSerialCrc, fun left right length same => ?_⟩
  have cut : (left.take length.toNat).length = (right.take length.toNat).length := by
    rw [List.length_take, List.length_take, same]
  rw [computeE2eCrc_eq_bitSerialCrc, computeE2eCrc_eq_bitSerialCrc, computeE2eCrc_eq_bitSerialCrc,
    take_xorBytes, bitSerialCrc_xorBytes cut]

theorem two_bytes_linear :
    computeE2eCrc (some (xorBytes [0x12#8, 0x34#8] [0xA5#8, 0x01#8])) 2 =
      computeE2eCrc (some [0x12#8, 0x34#8]) 2 ^^^ computeE2eCrc (some [0xA5#8, 0x01#8]) 2 :=
  crc_serial_and_linear.2 _ _ 2 rfl

end SoaGateway.Ipc
