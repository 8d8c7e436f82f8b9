import Mathlib.Algebra.Order.Group.Abs
import Mathlib.Tactic.Linarith
import SoaGateway.Foundation.Binary32

/-! Comparison of single-precision numbers, on bit patterns of either sign. A comparison with
a NaN is false; otherwise the patterns are ordered as the numbers they stand for. -/

set_option autoImplicit false

namespace SoaGateway.Foundation

namespace Binary32

/-- The pattern without its sign bit. -/
def magnitude (x : Binary32) : Nat := x.bits.toNat % 2 ^ 31

def negative (x : Binary32) : Bool := decide (2 ^ 31 ≤ x.bits.toNat)

def isNaN (x : Binary32) : Bool := decide (255 * 2 ^ 23 < x.magnitude)

def isFinite (x : Binary32) : Bool := decide (x.magnitude < 255 * 2 ^ 23)

/-- Both zeros have the same key. -/
def key (x : Binary32) : Int := if x.negative then -x.magnitude else x.magnitude

def less (x y : Binary32) : Bool := !x.isNaN && !y.isNaN && decide (x.key < y.key)

def neg (x : Binary32) : Binary32 :=
  ⟨BitVec.ofNat 32 (if x.negative then x.magnitude else 2 ^ 31 + x.magnitude)⟩

/-- The number a finite pattern stands for. -/
def value (x : Binary32) : ℚ := if x.negative then -x.toRat else x.toRat

variable (x y : Binary32)

theorem exponent_eq : x.exponent = x.magnitude / 2 ^ 23 := by
  have bound := x.bits.isLt
  rw [exponent, magnitude, BitVec.toNat_ushiftRight, Nat.shiftRight_eq_div_pow]
  omega

theorem fraction_eq : x.bits.toNat % 2 ^ 23 = x.magnitude % 2 ^ 23 := by
  rw [magnitude]
  omega

/-- The number doubles when the exponent grows by one, and a larger fraction never catches up
with a larger exponent. -/
theorem numerator_lt_of_magnitude_lt (smaller : x.magnitude < y.magnitude) :
    x.numerator < y.numerator := by
  have quotients : x.exponent ≤ y.exponent := by
    rw [exponent_eq, exponent_eq]
    exact Nat.div_le_div_right (Nat.le_of_lt smaller)
  have fraction_lt := Nat.mod_lt x.magnitude (Nat.two_pow_pos 23)
  have split_left := Nat.div_add_mod x.magnitude (2 ^ 23)
  have split_right := Nat.div_add_mod y.magnitude (2 ^ 23)
  rw [← exponent_eq] at split_left split_right
  simp only [numerator, significand, fraction_eq]
  rcases Nat.lt_or_eq_of_le quotients with gap | same
  · have top : y.exponent ≠ 0 := by omega
    rw [if_neg top, Nat.max_eq_left (by omega : 1 ≤ y.exponent)]
    have high : 2 ^ 23 * 2 ^ y.exponent ≤
        (y.magnitude % 2 ^ 23 + 2 ^ 23) * 2 ^ y.exponent :=
      Nat.mul_le_mul_right _ (Nat.le_add_left _ _)
    refine Nat.lt_of_lt_of_le ?_ high
    by_cases low : x.exponent = 0
    · rw [if_pos low, low, Nat.add_zero]
      exact Nat.mul_lt_mul_of_lt_of_le fraction_lt
        (Nat.pow_le_pow_right Nat.two_pos (by omega)) (Nat.two_pow_pos _)
    · rw [if_neg low, Nat.max_eq_left (by omega : 1 ≤ x.exponent)]
      have scale : 2 ^ (x.exponent + 1) ≤ 2 ^ y.exponent :=
        Nat.pow_le_pow_right Nat.two_pos gap
      calc (x.magnitude % 2 ^ 23 + 2 ^ 23) * 2 ^ x.exponent
          < 2 ^ 24 * 2 ^ x.exponent :=
            Nat.mul_lt_mul_of_pos_right (by omega) (Nat.two_pow_pos _)
        _ = 2 ^ 23 * 2 ^ (x.exponent + 1) := by rw [Nat.pow_succ 2 x.exponent]; omega
        _ ≤ 2 ^ 23 * 2 ^ y.exponent := Nat.mul_le_mul_left _ scale
  · rw [same] at split_left ⊢
    refine Nat.mul_lt_mul_of_pos_right ?_ (Nat.two_pow_pos _)
    omega

theorem numerator_lt_iff : x.numerator < y.numerator ↔ x.magnitude < y.magnitude := by
  refine ⟨fun smaller => ?_, numerator_lt_of_magnitude_lt x y⟩
  by_contra larger
  rcases Nat.lt_or_eq_of_le (Nat.le_of_not_lt larger) with above | same
  · exact Nat.lt_asymm smaller (numerator_lt_of_magnitude_lt y x above)
  · refine Nat.ne_of_lt smaller ?_
    simp only [numerator, significand, fraction_eq, exponent_eq, same]

theorem toRat_lt_iff : x.toRat < y.toRat ↔ x.magnitude < y.magnitude := by
  rw [← numerator_lt_iff, ← not_le, toRat_le_toRat_iff, Nat.not_le]

theorem toRat_le_iff : x.toRat ≤ y.toRat ↔ x.magnitude ≤ y.magnitude := by
  rw [← not_lt, toRat_lt_iff, Nat.not_lt]

theorem toRat_nonneg : 0 ≤ x.toRat := by
  unfold toRat
  positivity

def zero : Binary32 := ⟨0⟩

@[simp] theorem toRat_zero : zero.toRat = 0 := by
  rw [toRat, show zero.numerator = 0 by decide, Nat.cast_zero, zero_div]

@[simp] theorem value_zero : zero.value = 0 := toRat_zero

theorem toRat_eq_zero_iff : x.toRat = 0 ↔ x.magnitude = 0 := by
  rw [← toRat_zero, le_antisymm_iff, toRat_le_iff, toRat_le_iff,
    show zero.magnitude = 0 by decide]
  omega

variable {x y : Binary32}

theorem not_nan_of_finite (finite : x.isFinite = true) : x.isNaN = false := by
  simp only [isFinite, isNaN, decide_eq_true_eq, decide_eq_false_iff_not] at *
  omega

/-- On numbers the comparison of keys is the comparison of values. -/
theorem key_lt_iff : x.key < y.key ↔ x.value < y.value := by
  have left := toRat_nonneg x
  have right := toRat_nonneg y
  have order := toRat_lt_iff x y
  have reversed := toRat_lt_iff y x
  have zero_left := toRat_eq_zero_iff x
  have zero_right := toRat_eq_zero_iff y
  unfold key value
  cases x.negative <;> cases y.negative <;> simp only [Bool.false_eq_true, ↓reduceIte]
  · rw [order]
    omega
  · refine iff_of_false (by omega) (not_lt.2 ?_)
    linarith
  · constructor
    · intro smaller
      by_cases vanishes : x.magnitude = 0
      · have larger : y.magnitude ≠ 0 := by omega
        have positive := lt_of_le_of_ne right (Ne.symm (mt zero_right.1 larger))
        linarith
      · have positive := lt_of_le_of_ne left (Ne.symm (mt zero_left.1 vanishes))
        linarith
    · intro smaller
      by_contra larger
      have both : x.magnitude = 0 ∧ y.magnitude = 0 := by omega
      rw [zero_left.2 both.1, zero_right.2 both.2, neg_zero] at smaller
      exact lt_irrefl _ smaller
  · rw [neg_lt_neg_iff, neg_lt_neg_iff, reversed]
    omega

theorem less_iff (left : x.isNaN = false) (right : y.isNaN = false) :
    x.less y = true ↔ x.value < y.value := by
  rw [less, left, right, ← key_lt_iff]
  simp

theorem magnitude_lt (x : Binary32) : x.magnitude < 2 ^ 31 := Nat.mod_lt _ (Nat.two_pow_pos 31)

theorem neg_fields (x : Binary32) :
    x.neg.magnitude = x.magnitude ∧ x.neg.negative = !x.negative := by
  have bound := magnitude_lt x
  have bits : x.neg.bits.toNat = if x.negative then x.magnitude else 2 ^ 31 + x.magnitude := by
    rw [neg, BitVec.toNat_ofNat, Nat.mod_eq_of_lt]
    split <;> omega
  rw [show x.neg.magnitude = x.neg.bits.toNat % 2 ^ 31 from rfl,
    show x.neg.negative = decide (2 ^ 31 ≤ x.neg.bits.toNat) from rfl, bits]
  cases x.negative with
  | true => exact ⟨Nat.mod_eq_of_lt bound, decide_eq_false (Nat.not_le.2 bound)⟩
  | false =>
      refine ⟨?_, decide_eq_true (Nat.le_add_right _ _)⟩
      rw [if_neg Bool.false_ne_true, Nat.add_mod_left, Nat.mod_eq_of_lt bound]

/-- The absolute value as it is computed with one comparison: a NaN and a negative zero are
left as they are. -/
def absolute (x : Binary32) : Binary32 := if x.less zero then x.neg else x

theorem absolute_magnitude (x : Binary32) : x.absolute.magnitude = x.magnitude := by
  unfold absolute
  split
  · exact (neg_fields x).1
  · rfl

theorem toRat_congr (same : x.magnitude = y.magnitude) : x.toRat = y.toRat :=
  le_antisymm ((toRat_le_iff x y).2 (Nat.le_of_eq same))
    ((toRat_le_iff y x).2 (Nat.le_of_eq same.symm))

theorem absolute_value (number : x.isNaN = false) : x.absolute.value = |x.value| := by
  have below := less_iff number (by decide : zero.isNaN = false)
  rw [value_zero] at below
  unfold absolute
  split
  · next smaller =>
      rw [abs_of_neg (below.1 smaller), value, value, (neg_fields x).2,
        toRat_congr (neg_fields x).1]
      cases x.negative <;> simp
  · next larger =>
      rw [abs_of_nonneg (not_lt.1 (mt below.2 larger))]

theorem abs_value (x : Binary32) : |x.value| = x.toRat := by
  unfold value
  split
  · rw [abs_neg, abs_of_nonneg (toRat_nonneg x)]
  · exact abs_of_nonneg (toRat_nonneg x)

/-- No infinity lies between numbers. -/
theorem finite_of_abs_le (bound : y.isFinite = true) (within : |x.value| ≤ |y.value|) :
    x.isFinite = true := by
  rw [abs_value, abs_value, toRat_le_iff] at within
  simp only [isFinite, decide_eq_true_eq] at *
  omega

theorem less_nan (lost : x.isNaN = true) : x.less y = false ∧ y.less x = false := by
  simp [less, lost]

theorem absolute_nan (x : Binary32) : x.absolute.isNaN = x.isNaN := by
  rw [isNaN, isNaN, absolute_magnitude]

/-- What a check against an upper limit lets through. -/
theorem not_less_absolute_iff {limit : Binary32} (bound : limit.isFinite = true)
    (positive : limit.negative = false) :
    limit.less x.absolute = false ↔
      x.isNaN = true ∨ x.isFinite = true ∧ |x.value| ≤ limit.value := by
  have limit_value : |limit.value| = limit.value := by
    rw [abs_value, value, if_neg (by simp [positive])]
  cases lost : x.isNaN with
  | true =>
      exact iff_of_true (less_nan ((absolute_nan x).trans lost)).2 (.inl rfl)
  | false =>
      have order := less_iff (not_nan_of_finite bound) ((absolute_nan x).trans lost)
      rw [absolute_value lost] at order
      rw [← Bool.not_eq_true, order, not_lt]
      constructor
      · intro within
        exact .inr ⟨finite_of_abs_le bound (limit_value.symm ▸ within), within⟩
      · intro accepted
        rcases accepted with impossible | within
        · cases impossible
        · exact within.2

/-- What a check against two limits lets through. -/
theorem not_outside_iff {low high : Binary32} (lower : low.isFinite = true)
    (upper : high.isFinite = true) :
    (x.less low || high.less x) = false ↔
      x.isNaN = true ∨ x.isFinite = true ∧ low.value ≤ x.value ∧ x.value ≤ high.value := by
  cases lost : x.isNaN with
  | true =>
      refine iff_of_true ?_ (.inl rfl)
      rw [(less_nan lost).1, (less_nan lost).2, Bool.or_false]
  | false =>
      rw [Bool.or_eq_false_iff, ← Bool.not_eq_true, ← Bool.not_eq_true,
        less_iff lost (not_nan_of_finite lower), less_iff (not_nan_of_finite upper) lost,
        not_lt, not_lt]
      constructor
      · intro within
        refine .inr ⟨?_, within⟩
        rcases le_max_iff.1 (abs_le_max_abs_abs within.1 within.2) with near_low | near_high
        · exact finite_of_abs_le lower near_low
        · exact finite_of_abs_le upper near_high
      · intro accepted
        rcases accepted with impossible | within
        · cases impossible
        · exact within.2

end Binary32

end SoaGateway.Foundation
