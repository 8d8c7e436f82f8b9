import Mathlib.Data.Nat.Init
import Mathlib.Logic.Function.Iterate
import Mathlib.Tactic.Common

/-! Linear feedback shift registers that move towards the least significant bit.
All laws hold for every width and every feedback word. -/

set_option autoImplicit false

namespace SoaGateway.Foundation.ShiftRegister

variable {width : Nat} (feedback : BitVec width)

/-- One bit step: the outgoing low bit decides whether the feedback is added. -/
def shift (register : BitVec width) : BitVec width :=
  if register.getLsbD 0 then (register >>> 1) ^^^ feedback else register >>> 1

/-- Adding one incoming bit to the low end before the step. -/
def feedBit (register : BitVec width) (bit : Bool) : BitVec width :=
  shift feedback (register ^^^ (BitVec.ofBool bit).setWidth width)

def feed (register : BitVec width) (bits : List Bool) : BitVec width :=
  bits.foldl (feedBit feedback) register

/-- The bits of a byte, least significant first. -/
def byteBits (byte : BitVec 8) : List Bool :=
  [byte.getLsbD 0, byte.getLsbD 1, byte.getLsbD 2, byte.getLsbD 3,
    byte.getLsbD 4, byte.getLsbD 5, byte.getLsbD 6, byte.getLsbD 7]

def messageBits (bytes : List (BitVec 8)) : List Bool := bytes.flatMap byteBits

theorem messageBits_append (first second : List (BitVec 8)) :
    messageBits (first ++ second) = messageBits first ++ messageBits second :=
  List.flatMap_append

theorem messageBits_length (bytes : List (BitVec 8)) :
    (messageBits bytes).length = 8 * bytes.length := by
  induction bytes with
  | nil => rfl
  | cons byte rest ih =>
      rw [List.length_cons, Nat.mul_add, ← ih]
      exact (List.length_append).trans (Nat.add_comm _ _)

theorem shift_xor (left right : BitVec width) :
    shift feedback (left ^^^ right) = shift feedback left ^^^ shift feedback right := by
  simp only [shift, BitVec.getLsbD_xor, BitVec.ushiftRight_xor_distrib]
  cases left.getLsbD 0 <;> cases right.getLsbD 0
  · rfl
  · simp [BitVec.xor_assoc]
  · simp only [Bool.xor_false, ↓reduceIte, Bool.false_eq_true]
    ac_rfl
  · simp only [Bool.xor_true, Bool.not_true, Bool.false_eq_true, ↓reduceIte]
    have cancelled : feedback ^^^ feedback = 0#(width) := BitVec.xor_self
    calc left >>> 1 ^^^ right >>> 1
        = (left >>> 1 ^^^ right >>> 1) ^^^ (feedback ^^^ feedback) := by
          rw [cancelled, BitVec.xor_zero]
      _ = _ := by ac_rfl

theorem iterate_shift_xor (count : Nat) (left right : BitVec width) :
    (shift feedback)^[count] (left ^^^ right) =
      (shift feedback)^[count] left ^^^ (shift feedback)^[count] right := by
  induction count generalizing left right with
  | zero => rfl
  | succ count ih => rw [Function.iterate_succ_apply, shift_xor, ih]; rfl

/-- A register whose low bits are clear is only moved down by that many steps. -/
theorem iterate_shift_of_low_clear (register : BitVec width) (count : Nat)
    (clear : ∀ position < count, register.getLsbD position = false) :
    (shift feedback)^[count] register = register >>> count := by
  induction count with
  | zero => simp
  | succ count ih =>
      have low : (register >>> count).getLsbD 0 = false := by
        simpa using clear count (Nat.lt_succ_self count)
      rw [Function.iterate_succ_apply',
        ih fun position bound => clear position (Nat.lt_succ_of_lt bound)]
      simp [shift, low, BitVec.shiftRight_add]

theorem split_low_byte (register : BitVec width) :
    register = ((register >>> 8) <<< 8) ^^^ (register.setWidth 8).setWidth width := by
  apply BitVec.eq_of_getLsbD_eq
  intro position bound
  rcases Nat.lt_or_ge position 8 with low | high
  · simp [low, bound]
  · simp [bound, Nat.not_lt.2 high, Nat.add_sub_cancel' high]

/-- The table identity: eight steps are one byte shift and one entry that depends
on the low byte alone. -/
theorem eight_shifts (register : BitVec width) :
    (shift feedback)^[8] register =
      (register >>> 8) ^^^ (shift feedback)^[8] ((register.setWidth 8).setWidth width) := by
  conv_lhs => rw [split_low_byte register]
  rw [iterate_shift_xor, iterate_shift_of_low_clear]
  · congr 1
    apply BitVec.eq_of_getLsbD_eq
    intro position bound
    rcases Nat.lt_or_ge (8 + position) width with inside | outside
    · simp [inside]
    · simp [BitVec.getLsbD_of_ge register _ outside]
  · intro position bound
    simp [bound]

def word (width : Nat) : List Bool → BitVec width
  | [] => 0#(width)
  | bit :: rest => (BitVec.ofBool bit).setWidth width ^^^ (word width rest <<< 1)

theorem getLsbD_word (bits : List Bool) (position : Nat) :
    (word width bits).getLsbD position =
      (decide (position < width) && bits.getD position false) := by
  induction bits generalizing position with
  | nil => simp [word]
  | cons bit rest ih =>
      cases position with
      | zero => simp [word]
      | succ position =>
          simp only [word, BitVec.getLsbD_xor, BitVec.getLsbD_shiftLeft, ih]
          by_cases bound : position + 1 < width
          · simp [bound, Nat.lt_of_succ_lt bound]
          · simp [bound]

theorem word_byteBits (byte : BitVec 8) : word width (byteBits byte) = byte.setWidth width := by
  apply BitVec.eq_of_getLsbD_eq
  intro position bound
  rw [getLsbD_word, BitVec.getLsbD_setWidth]
  simp only [bound, decide_true, Bool.true_and]
  match position with
  | 0 | 1 | 2 | 3 | 4 | 5 | 6 | 7 => simp [byteBits]
  | position + 8 => simp [byteBits]

/-- A word that leaves the top bit free comes back from one position up. -/
private theorem shift_word (bits : List Bool) (fits : bits.length < width) :
    shift feedback (word width bits <<< 1) = word width bits := by
  have low : (word width bits <<< 1).getLsbD 0 = false := by simp
  simp only [shift, low, Bool.false_eq_true, ↓reduceIte]
  apply BitVec.eq_of_getLsbD_eq
  intro position bound
  simp only [BitVec.getLsbD_ushiftRight, BitVec.getLsbD_shiftLeft, getLsbD_word]
  by_cases inside : 1 + position < width
  · simp [inside]
  · have beyond : bits.length ≤ position := by omega
    simp [inside, List.getElem?_eq_none beyond]

/-- Feeding bits one by one is adding them all and then stepping that often. -/
theorem feed_eq_iterate (register : BitVec width) (bits : List Bool)
    (fits : bits.length ≤ width) :
    feed feedback register bits =
      (shift feedback)^[bits.length] (register ^^^ word width bits) := by
  induction bits generalizing register with
  | nil => simp [feed, word]
  | cons bit rest ih =>
      have restFits : rest.length < width := fits
      have peeled := ih (feedBit feedback register bit) (Nat.le_of_lt restFits)
      have folded : feed feedback register (bit :: rest) =
          feed feedback (feedBit feedback register bit) rest := rfl
      rw [folded, peeled, List.length_cons, Function.iterate_succ_apply, word,
        ← BitVec.xor_assoc, shift_xor, shift_word feedback rest restFits]
      rfl

theorem feed_byteBits (wide : 8 ≤ width) (register : BitVec width) (byte : BitVec 8) :
    feed feedback register (byteBits byte) = (register >>> 8) ^^^
      (shift feedback)^[8] (((register ^^^ byte.setWidth width).setWidth 8).setWidth width) := by
  rw [feed_eq_iterate feedback register _ (by simpa [byteBits] using wide), word_byteBits]
  have cleared : byte.setWidth width >>> 8 = 0#(width) := by
    apply BitVec.eq_of_getLsbD_eq
    intro position _
    simp
  change (shift feedback)^[8] _ = _
  rw [eight_shifts, BitVec.ushiftRight_xor_distrib, cleared, BitVec.xor_zero]

theorem feed_append (register : BitVec width) (first second : List Bool) :
    feed feedback register (first ++ second) = feed feedback (feed feedback register first) second := by
  simp [feed]

end SoaGateway.Foundation.ShiftRegister
