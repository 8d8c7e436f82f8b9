import Mathlib.RingTheory.Coprime.Lemmas
import Mathlib.Tactic.ComputeDegree
import SoaGateway.Foundation.ShiftRegisterPolynomial
import SoaGateway.Ipc.Crc

/-! The checksum against the CRC-16/ARC it is documented to be. The bit loop moves
towards the low bit, where the feedback word of that standard is `0xA001`; with the
unreflected `0x8005` it divides by another polynomial. -/

set_option autoImplicit false

namespace SoaGateway.Ipc

open Foundation Foundation.ShiftRegister Polynomial

/-- One step of the standard's register, most significant bit first. -/
def arcShift (register : BitVec 16) : BitVec 16 :=
  if register.msb then (register <<< 1) ^^^ 0x8005#16 else register <<< 1

/-- Reflected input: the byte enters mirrored at the high end. -/
def arcByte (register : BitVec 16) (byte : Byte) : BitVec 16 :=
  arcShift^[8] (register ^^^ (byte.reverse.setWidth 16 <<< 8))

/-- CRC-16/ARC: polynomial `0x8005`, initial value 0, reflected input, reflected
output, no final XOR. -/
def crc16Arc (bytes : List Byte) : BitVec 16 :=
  (bytes.foldl arcByte 0x0000#16).reverse

def arcFeedback : BitVec 16 := 0xA001#16

private theorem reverse_xor (left right : BitVec 16) :
    (left ^^^ right).reverse = left.reverse ^^^ right.reverse := by
  apply BitVec.eq_of_getLsbD_eq
  intro position _
  simp [BitVec.getLsbD_reverse]

private theorem reverse_shiftLeft_one (register : BitVec 16) :
    (register <<< 1).reverse = register.reverse >>> 1 := by
  apply BitVec.eq_of_getLsbD_eq
  intro position _
  rw [BitVec.getLsbD_reverse, BitVec.getLsbD_ushiftRight, BitVec.getLsbD_reverse,
    BitVec.getMsbD_shiftLeft, Nat.add_comm]

private theorem reverse_arcShift (register : BitVec 16) :
    (arcShift register).reverse = shift arcFeedback register.reverse := by
  have low : register.reverse.getLsbD 0 = register.msb := by
    rw [BitVec.getLsbD_reverse, BitVec.msb]
  rw [arcShift, shift, low]
  cases register.msb
  · exact reverse_shiftLeft_one register
  · simp only [↓reduceIte, reverse_xor, reverse_shiftLeft_one]
    rfl

private theorem reverse_iterate_arcShift (count : Nat) (register : BitVec 16) :
    (arcShift^[count] register).reverse = (shift arcFeedback)^[count] register.reverse := by
  induction count generalizing register with
  | zero => rfl
  | succ count ih => rw [Function.iterate_succ_apply, ih, reverse_arcShift]; rfl

private theorem reverse_entry (byte : Byte) :
    (byte.reverse.setWidth 16 <<< 8).reverse = byte.setWidth 16 := by
  apply BitVec.eq_of_getLsbD_eq
  intro position bound
  have shifted : position + 8 + 8 - 16 = position := by omega
  rw [BitVec.getLsbD_reverse, BitVec.getMsbD_shiftLeft, BitVec.getMsbD_setWidth,
    BitVec.getLsbD_setWidth, BitVec.getMsbD_reverse]
  simp [bound, shifted]

theorem crc16Arc_eq_feed (bytes : List Byte) :
    crc16Arc bytes = feed arcFeedback 0#16 (messageBits bytes) := by
  have mirrored (register : BitVec 16) : (bytes.foldl arcByte register).reverse =
      feed arcFeedback register.reverse (messageBits bytes) := by
    induction bytes generalizing register with
    | nil => rfl
    | cons byte rest ih =>
        have entered : (arcByte register byte).reverse =
            feed arcFeedback register.reverse (byteBits byte) := by
          rw [arcByte, reverse_iterate_arcShift, reverse_xor, reverse_entry,
            feed_eq_iterate arcFeedback _ _ (by simp [byteBits]), word_byteBits]
          rfl
        rw [List.foldl_cons, ih, entered, ← feed_append]
        rfl
  exact mirrored 0#16

theorem generator_crcFeedback : generator crcFeedback = X ^ 16 + X ^ 15 + X ^ 13 + 1 := by
  simp [generator, polynomial, Finset.sum_range_succ, crcFeedback, coefficient,
    ← X_pow_eq_monomial, BitVec.getMsbD]
  ring

theorem generator_arcFeedback : generator arcFeedback = X ^ 16 + X ^ 15 + X ^ 2 + 1 := by
  simp [generator, polynomial, Finset.sum_range_succ, arcFeedback, coefficient,
    ← X_pow_eq_monomial, BitVec.getMsbD]
  ring

/-- The cofactor of `X + 1` in the polynomial of the standard. -/
noncomputable def arcCofactor : (ZMod 2)[X] := X ^ 15 + X + 1

/-- The least common multiple of the two polynomials, of degree 31. -/
noncomputable def agreementModulus : (ZMod 2)[X] := generator crcFeedback * arcCofactor

private theorem two_eq_zero : (2 : (ZMod 2)[X]) = 0 := by
  rw [← C_ofNat 2, show (OfNat.ofNat 2 : ZMod 2) = 0 from by decide, C_0]

private theorem arcCofactor_degree : arcCofactor.degree = 15 := by
  rw [arcCofactor]
  compute_degree!

private theorem arcCofactor_monic : arcCofactor.Monic := by
  rw [arcCofactor]
  monicity!

private theorem arcCofactor_dvd : generator arcFeedback = (X + 1) * arcCofactor := by
  rw [generator_arcFeedback, arcCofactor]
  linear_combination - X * two_eq_zero

private theorem crc_cofactor_dvd :
    generator crcFeedback = (X + 1) * (X ^ 15 + X ^ 12 + X ^ 11 + X ^ 10 + X ^ 9 + X ^ 8 +
      X ^ 7 + X ^ 6 + X ^ 5 + X ^ 4 + X ^ 3 + X ^ 2 + X + 1) := by
  rw [generator_crcFeedback]
  linear_combination - (X ^ 12 + X ^ 11 + X ^ 10 + X ^ 9 + X ^ 8 + X ^ 7 + X ^ 6 + X ^ 5 +
    X ^ 4 + X ^ 3 + X ^ 2 + X) * two_eq_zero

private theorem crc_coprime_arcCofactor : IsCoprime (generator crcFeedback) arcCofactor := by
  refine ⟨X ^ 12 + X ^ 9 + X ^ 8 + X ^ 6 + X ^ 4 + X ^ 3 + X ^ 2 + X,
    X ^ 13 + X ^ 12 + X ^ 8 + X ^ 5 + X ^ 4 + X ^ 2 + 1, ?_⟩
  rw [generator_crcFeedback, arcCofactor]
  linear_combination (X + X ^ 2 + X ^ 3 + X ^ 4 + X ^ 5 + X ^ 6 + X ^ 8 + X ^ 9 + X ^ 12 +
    X ^ 13 + X ^ 14 + X ^ 15 + X ^ 16 + 2 * X ^ 17 + X ^ 18 + 2 * X ^ 19 + X ^ 20 + X ^ 21 +
    X ^ 22 + X ^ 23 + X ^ 24 + X ^ 25 + X ^ 27 + X ^ 28) * two_eq_zero

private theorem agreementModulus_dvd_iff (p : (ZMod 2)[X]) :
    agreementModulus ∣ p ↔ generator crcFeedback ∣ p ∧ generator arcFeedback ∣ p := by
  constructor
  · intro divides
    refine ⟨(Dvd.intro _ rfl).trans divides, Dvd.dvd.trans ?_ divides⟩
    rw [agreementModulus, arcCofactor_dvd, crc_cofactor_dvd]
    exact mul_dvd_mul_right (Dvd.intro _ rfl) _
  · intro both
    obtain ⟨byCode, byStandard⟩ := both
    refine crc_coprime_arcCofactor.mul_dvd byCode ?_
    exact (arcCofactor_dvd ▸ Dvd.intro_left _ rfl).trans byStandard

/-- The code's checksum is the standard's exactly on the strings whose message
polynomial, moved up by 16, leaves a remainder of degree below 16 modulo the least
common multiple of the two polynomials. -/
theorem computeE2eCrc_eq_crc16Arc_iff (bytes : List Byte) (bound : bytes.length < 65536) :
    computeE2eCrc (some bytes) (BitVec.ofNat 16 bytes.length) = crc16Arc bytes ↔
      ((X ^ 16 * messagePolynomial (messageBits bytes)) %ₘ agreementModulus).degree < 16 := by
  have monic : agreementModulus.Monic := (generator_monic crcFeedback).mul arcCofactor_monic
  have degree : agreementModulus.degree = 31 := by
    rw [agreementModulus, degree_mul, degree_generator, arcCofactor_degree]
    rfl
  rw [computeE2eCrc_some bytes bound, crc16Arc_eq_feed, ← polynomial_injective.eq_iff,
    polynomial_feed (by decide), polynomial_feed (by decide),
    modByMonic_eq_iff _ (generator_monic _) (generator_monic _) monic
      (by rw [degree_generator, degree_generator]) (by rw [degree, degree_generator]; decide)
      agreementModulus_dvd_iff, degree_generator]
  rfl

/-- The string "123456789", whose CRC-16/ARC is the published check value. -/
def checkString : List Byte :=
  [0x31#8, 0x32#8, 0x33#8, 0x34#8, 0x35#8, 0x36#8, 0x37#8, 0x38#8, 0x39#8]

example : crc16Arc checkString = 0xBB3D#16 := by decide +kernel

theorem checkString_remainder_degree :
    ¬ ((X ^ 16 * messagePolynomial (messageBits checkString)) %ₘ agreementModulus).degree < 16 :=
  fun small => absurd ((computeE2eCrc_eq_crc16Arc_iff checkString (by decide)).2 small)
    (by decide +kernel)

theorem checkString_checksums_differ :
    ¬ ∀ bytes : List Byte, bytes.length < 65536 →
      computeE2eCrc (some bytes) (BitVec.ofNat 16 bytes.length) = crc16Arc bytes := by
  intro agree
  have same := agree checkString (by decide)
  exact absurd same (by decide +kernel)

end SoaGateway.Ipc
