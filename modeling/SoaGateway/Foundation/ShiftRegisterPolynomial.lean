import Mathlib.Algebra.Field.ZMod
import Mathlib.Algebra.Polynomial.Div
import Mathlib.Data.ZMod.Basic
import Mathlib.Tactic.LinearCombination
import SoaGateway.Foundation.ShiftRegister

/-! Shift registers as remainders over the two-element field. The low bit of a
register is its highest coefficient, so stepping down is multiplying by `X`. -/

set_option autoImplicit false

namespace SoaGateway.Foundation.ShiftRegister

open Polynomial

variable {width : Nat}

def coefficient (bit : Bool) : ZMod 2 := if bit then 1 else 0

theorem coefficient_xor (left right : Bool) :
    coefficient (left ^^ right) = coefficient left + coefficient right := by
  cases left <;> cases right <;> decide

theorem coefficient_injective : Function.Injective coefficient := by
  intro left right same
  cases left <;> cases right <;> first | rfl | exact absurd same (by decide)

noncomputable def polynomial (register : BitVec width) : (ZMod 2)[X] :=
  ∑ power ∈ Finset.range width, monomial power (coefficient (register.getMsbD power))

/-- The modulus of a feedback word, with its leading power of `X`. -/
noncomputable def generator (feedback : BitVec width) : (ZMod 2)[X] :=
  X ^ width + polynomial feedback

/-- The first bit fed is the highest coefficient. -/
noncomputable def messagePolynomial (bits : List Bool) : (ZMod 2)[X] :=
  bits.foldl (fun message bit => X * message + C (coefficient bit)) 0

@[simp] theorem coeff_polynomial (register : BitVec width) (power : Nat) :
    (polynomial register).coeff power = coefficient (register.getMsbD power) := by
  simp only [polynomial, finsetSum_coeff, coeff_monomial, Finset.sum_ite_eq', Finset.mem_range]
  split
  · rfl
  · next outside =>
      rw [BitVec.getMsbD_of_ge register power (Nat.not_lt.1 outside)]
      rfl

theorem polynomial_xor (left right : BitVec width) :
    polynomial (left ^^^ right) = polynomial left + polynomial right := by
  ext power
  simp [coefficient_xor]

@[simp] theorem polynomial_zero : polynomial (0#(width)) = 0 := by
  ext power
  simp [coefficient]

theorem polynomial_injective : Function.Injective (@polynomial width) := by
  intro left right same
  apply BitVec.eq_of_getMsbD_eq
  intro power _
  have coefficients := congrArg (fun p => p.coeff power) same
  simp only [coeff_polynomial] at coefficients
  exact coefficient_injective coefficients

theorem degree_polynomial_lt (register : BitVec width) :
    (polynomial register).degree < width := by
  rw [degree_lt_iff_coeff_zero]
  intro power beyond
  rw [coeff_polynomial, BitVec.getMsbD_of_ge register power beyond]
  rfl

theorem generator_monic (feedback : BitVec width) : (generator feedback).Monic :=
  monic_X_pow_add (degree_polynomial_lt feedback)

theorem degree_generator (feedback : BitVec width) : (generator feedback).degree = width := by
  rw [generator, degree_add_eq_left_of_degree_lt, degree_X_pow]
  rw [degree_X_pow]
  exact degree_polynomial_lt feedback

private theorem getMsbD_shift (feedback register : BitVec width) (power : Nat) :
    (shift feedback register).getMsbD power =
      ((decide (power < width) && (!decide (power < 1) && register.getMsbD (power - 1))) ^^
        (register.getLsbD 0 && feedback.getMsbD power)) := by
  unfold shift
  cases register.getLsbD 0 <;> simp [BitVec.getMsbD_ushiftRight]

private theorem coefficient_cancel (carried low tap : Bool) (top : ZMod 2) :
    coefficient (carried ^^ (low && tap)) + coefficient low * (top + coefficient tap) =
      coefficient carried + coefficient low * top := by
  revert top
  cases carried <;> cases low <;> cases tap <;> decide

/-- One step multiplies by `X` and removes the leading power, if it appeared. -/
theorem polynomial_shift (feedback register : BitVec width) :
    polynomial (shift feedback register) +
        C (coefficient (register.getLsbD 0)) * generator feedback =
      X * polynomial register := by
  ext power
  rw [coeff_add, coeff_C_mul, generator, coeff_add, coeff_X_pow, coeff_polynomial,
    coeff_polynomial, getMsbD_shift, coefficient_cancel]
  cases power with
  | zero =>
      rcases Nat.eq_zero_or_pos width with rfl | positive
      · simp [coefficient]
      · simp [coefficient, Nat.ne_of_lt positive]
  | succ power =>
      rw [coeff_X_mul, coeff_polynomial]
      rcases Nat.lt_trichotomy (power + 1) width with inside | rfl | outside
      · simp [inside, Nat.ne_of_lt inside, coefficient]
      · simp [coefficient, BitVec.getMsbD_eq_getLsbD]
      · have beyond : width ≤ power := Nat.lt_succ_iff.1 outside
        simp [Nat.not_lt.2 (Nat.le_of_lt outside), Nat.ne_of_gt outside, coefficient,
          BitVec.getMsbD_of_ge register power beyond]

private theorem polynomial_bit (positive : 0 < width) (bit : Bool) :
    X * polynomial ((BitVec.ofBool bit).setWidth width) = C (coefficient bit) * X ^ width := by
  ext power
  rw [coeff_C_mul, coeff_X_pow]
  cases power with
  | zero => simp [Nat.ne_of_lt positive]
  | succ power =>
      rw [coeff_X_mul, coeff_polynomial, BitVec.getMsbD_eq_getLsbD, BitVec.getLsbD_setWidth]
      rcases Nat.lt_trichotomy (power + 1) width with inside | rfl | outside
      · have away : width - 1 - power ≠ 0 := by omega
        simp [Nat.ne_of_lt inside, away, coefficient]
      · simp
      · have beyond : ¬ power < width := by omega
        simp [beyond, Nat.ne_of_gt outside, coefficient]

/-- Feeding a message into the zero register divides it by the generator: some
quotient accounts for every leading power removed on the way. -/
theorem exists_quotient (positive : 0 < width) (feedback : BitVec width) (bits : List Bool) :
    ∃ quotient, polynomial (feed feedback 0#(width) bits) + generator feedback * quotient =
      X ^ width * messagePolynomial bits := by
  induction bits using List.reverseRecOn with
  | nil => exact ⟨0, by simp [feed, messagePolynomial]⟩
  | append_singleton bits last ih =>
      obtain ⟨quotient, divided⟩ := ih
      have fed : feed feedback 0#(width) (bits ++ [last]) =
          shift feedback (feed feedback 0#(width) bits ^^^ (BitVec.ofBool last).setWidth width) := by
        rw [feed_append]
        rfl
      have message : messagePolynomial (bits ++ [last]) =
          X * messagePolynomial bits + C (coefficient last) := by
        simp [messagePolynomial]
      have stepped := polynomial_shift feedback
        (feed feedback 0#(width) bits ^^^ (BitVec.ofBool last).setWidth width)
      rw [← fed, polynomial_xor, mul_add, polynomial_bit positive] at stepped
      rw [message]
      refine ⟨X * quotient + C (coefficient ((feed feedback 0#(width) bits ^^^
        (BitVec.ofBool last).setWidth width).getLsbD 0)), ?_⟩
      linear_combination stepped + X * divided

theorem polynomial_feed (positive : 0 < width) (feedback : BitVec width) (bits : List Bool) :
    polynomial (feed feedback 0#(width) bits) =
      (X ^ width * messagePolynomial bits) %ₘ generator feedback := by
  obtain ⟨quotient, divided⟩ := exists_quotient positive feedback bits
  refine ((div_modByMonic_unique quotient _ (generator_monic feedback) ⟨divided, ?_⟩).2).symm
  rw [degree_generator]
  exact degree_polynomial_lt _

/-- Two remainders of one dividend agree exactly when the remainder modulo a least
common multiple is already small enough to be both. -/
theorem modByMonic_eq_iff {first second multiple : (ZMod 2)[X]} (dividend : (ZMod 2)[X])
    (firstMonic : first.Monic) (secondMonic : second.Monic) (multipleMonic : multiple.Monic)
    (sameDegree : first.degree = second.degree) (larger : first.degree ≤ multiple.degree)
    (least : ∀ p, multiple ∣ p ↔ first ∣ p ∧ second ∣ p) :
    dividend %ₘ first = dividend %ₘ second ↔
      (dividend %ₘ multiple).degree < first.degree := by
  have divides (modulus : (ZMod 2)[X]) : modulus ∣ dividend - dividend %ₘ modulus :=
    ⟨dividend /ₘ modulus, by linear_combination - modByMonic_add_div dividend modulus⟩
  constructor
  · intro agree
    have both : multiple ∣ dividend - dividend %ₘ first :=
      (least _).2 ⟨divides first, agree ▸ divides second⟩
    have small := degree_modByMonic_lt dividend firstMonic
    rw [modByMonic_eq_of_dvd_sub multipleMonic both,
      (modByMonic_eq_self_iff multipleMonic).2 (lt_of_lt_of_le small larger)]
    exact small
  · intro small
    obtain ⟨byFirst, bySecond⟩ := (least _).1 (divides multiple)
    rw [modByMonic_eq_of_dvd_sub firstMonic byFirst,
      modByMonic_eq_of_dvd_sub secondMonic bySecond,
      (modByMonic_eq_self_iff firstMonic).2 small,
      (modByMonic_eq_self_iff secondMonic).2 (sameDegree ▸ small)]

end SoaGateway.Foundation.ShiftRegister
