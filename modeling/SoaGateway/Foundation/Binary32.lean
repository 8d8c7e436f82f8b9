import Mathlib.Algebra.Order.Field.Rat
import Mathlib.Tactic.NormNum
import Mathlib.Tactic.Positivity

/-! Single-precision numbers as bit patterns. Only non-negative normal numbers and
zero are produced here; rounding is to nearest, ties to even. -/

set_option autoImplicit false

namespace SoaGateway.Foundation

structure Binary32 where
  bits : BitVec 32
deriving DecidableEq, Repr

namespace Binary32

def exponent (x : Binary32) : Nat := (x.bits >>> 23).toNat % 256

def significand (x : Binary32) : Nat :=
  x.bits.toNat % 2 ^ 23 + if x.exponent = 0 then 0 else 2 ^ 23

/-- The number a non-negative pattern stands for, over the denominator `2 ^ 150`. -/
def numerator (x : Binary32) : Nat := x.significand * 2 ^ max x.exponent 1

def toRat (x : Binary32) : ℚ := x.numerator / 2 ^ 150

/-- The nearest number to `num / den`. -/
def ofFraction (num den : Nat) : Binary32 :=
  if num = 0 then ⟨0⟩
  else
    let guess := 127 + num.log2 - den.log2
    let exponent := if num * 2 ^ 150 < den * 2 ^ guess * 2 ^ 23 then guess - 1 else guess
    let unit := den * 2 ^ exponent
    let quotient := num * 2 ^ 150 / unit
    let rest := num * 2 ^ 150 % unit
    let rounded :=
      if unit < 2 * rest ∨ (2 * rest = unit ∧ quotient % 2 = 1) then quotient + 1 else quotient
    ⟨BitVec.ofNat 32 ((exponent - 1) * 2 ^ 23 + rounded)⟩

def mul (x y : Binary32) : Binary32 :=
  ofFraction (x.numerator * y.numerator) (2 ^ 300)

/-- Order is decided on numerators, without division. -/
theorem toRat_le_toRat_iff (x y : Binary32) : x.toRat ≤ y.toRat ↔ x.numerator ≤ y.numerator := by
  have positive : (0 : ℚ) < 2 ^ 150 := by positivity
  rw [toRat, toRat, div_le_div_iff_of_pos_right positive, Nat.cast_le]

end Binary32

end SoaGateway.Foundation
