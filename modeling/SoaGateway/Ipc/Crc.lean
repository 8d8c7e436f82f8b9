import SoaGateway.Common
import SoaGateway.Foundation.ShiftRegister

/-! The checksum of the E2E header: the lookup table generated at compile time and
the table-driven byte loop. -/

set_option autoImplicit false

namespace SoaGateway.Ipc

open Foundation

def generateCrcEntry (idx : Byte) : BitVec 16 :=
  (List.range 8).foldl
    (fun crc _ => if crc &&& 0x0001#16 ≠ 0 then (crc >>> 1) ^^^ 0x8005#16 else crc >>> 1)
    (idx.setWidth 16)

/-- The 256-entry array, read as the function from index to entry. -/
def crcTable (idx : Byte) : BitVec 16 := generateCrcEntry idx

def crcStep (crc : BitVec 16) (byte : Byte) : BitVec 16 :=
  (crc >>> 8) ^^^ crcTable ((crc ^^^ byte.setWidth 16).setWidth 8)

/-- `none` is the null pointer. -/
def computeE2eCrc (data : Option (List Byte)) (length : BitVec 16) : BitVec 16 :=
  match data with
  | none => 0
  | some bytes => (bytes.take length.toNat).foldl crcStep 0x0000#16

def crcFeedback : BitVec 16 := 0x8005#16

theorem low_bit_ne_zero_iff (crc : BitVec 16) :
    crc &&& 0x0001#16 ≠ 0 ↔ crc.getLsbD 0 = true := by
  rw [show (0x0001#16) = 1#16 from rfl, BitVec.and_one_eq_setWidth_ofBool_getLsbD]
  cases crc.getLsbD 0 <;> decide

theorem generateCrcEntry_eq_shifts (idx : Byte) :
    generateCrcEntry idx = (ShiftRegister.shift crcFeedback)^[8] (idx.setWidth 16) := by
  simp only [generateCrcEntry, low_bit_ne_zero_iff]
  rfl

/-- One table lookup consumes the eight bits of a byte, lowest first. -/
theorem crcStep_eq_feed (crc : BitVec 16) (byte : Byte) :
    crcStep crc byte = ShiftRegister.feed crcFeedback crc (ShiftRegister.byteBits byte) := by
  rw [ShiftRegister.feed_byteBits crcFeedback (by decide), crcStep, crcTable,
    generateCrcEntry_eq_shifts]

theorem foldl_crcStep_eq_feed (crc : BitVec 16) (bytes : List Byte) :
    bytes.foldl crcStep crc =
      ShiftRegister.feed crcFeedback crc (ShiftRegister.messageBits bytes) := by
  induction bytes generalizing crc with
  | nil => rfl
  | cons byte rest ih =>
      rw [List.foldl_cons, ih, crcStep_eq_feed, ← ShiftRegister.feed_append]
      rfl

theorem computeE2eCrc_some (bytes : List Byte) (bound : bytes.length < 65536) :
    computeE2eCrc (some bytes) (BitVec.ofNat 16 bytes.length) =
      ShiftRegister.feed crcFeedback 0#16 (ShiftRegister.messageBits bytes) := by
  have length : (BitVec.ofNat 16 bytes.length).toNat = bytes.length := by
    simpa using Nat.mod_eq_of_lt bound
  rw [computeE2eCrc, length, List.take_length, foldl_crcStep_eq_feed]

end SoaGateway.Ipc
