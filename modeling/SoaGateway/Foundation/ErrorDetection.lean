import Mathlib.Algebra.BigOperators.Group.Finset.Basic
import Mathlib.Algebra.Field.ZMod
import Mathlib.Data.ZMod.Basic
import SoaGateway.Foundation.ShiftRegister

/-! What a shift register detects. A pattern of flipped message bits escapes exactly when
the register takes it to zero; bursts, odd numbers of flips and pairs of flips do not. -/

set_option autoImplicit false

namespace SoaGateway.Foundation.ShiftRegister

variable {width : Nat} (feedback : BitVec width)

@[simp] theorem shift_zero : shift feedback 0#(width) = 0#(width) := by
  simp [shift]

theorem feedBit_false (register : BitVec width) :
    feedBit feedback register false = shift feedback register := by
  simp [feedBit]

theorem feedBit_true (register : BitVec width) :
    feedBit feedback register true = shift feedback (register ^^^ 1#(width)) := by
  have one : (BitVec.ofBool true).setWidth width = 1#(width) := by
    apply BitVec.eq_of_toNat_eq
    simp
  rw [feedBit, one]

/-- The positions in which two messages of one length differ. -/
def errors (first second : List Bool) : List Bool := List.zipWith xor first second

/-- The register is linear in its start and in the message. -/
theorem feed_errors (left right : BitVec width) {first second : List Bool}
    (same : first.length = second.length) :
    feed feedback (left ^^^ right) (errors first second) =
      feed feedback left first ^^^ feed feedback right second := by
  induction first generalizing left right second with
  | nil =>
      cases second with
      | nil => rfl
      | cons bit rest => cases same
  | cons bit rest ih =>
      cases second with
      | nil => cases same
      | cons other others =>
          have stepped : feedBit feedback (left ^^^ right) (bit ^^ other) =
              feedBit feedback left bit ^^^ feedBit feedback right other := by
            have split : (BitVec.ofBool (bit ^^ other)).setWidth width =
                (BitVec.ofBool bit).setWidth width ^^^ (BitVec.ofBool other).setWidth width := by
              cases bit <;> cases other <;> simp
            rw [feedBit, feedBit, feedBit, ← shift_xor, split]
            congr 1
            ac_rfl
          have rest_same : rest.length = others.length := Nat.succ.inj same
          change feed feedback (feedBit feedback (left ^^^ right) (bit ^^ other))
            (errors rest others) = _
          rw [stepped, ih _ _ rest_same]
          rfl

theorem errors_append {first second third fourth : List Bool}
    (same : first.length = third.length) :
    errors (first ++ second) (third ++ fourth) = errors first third ++ errors second fourth :=
  List.zipWith_append same

theorem byteBits_xor (left right : BitVec 8) :
    byteBits (left ^^^ right) = errors (byteBits left) (byteBits right) := by
  simp [byteBits, errors]

/-- Two strings differ in the bits of their XOR, by induction on the bytes of both. -/
theorem messageBits_zipWith_xor {left right : List (BitVec 8)}
    (same : left.length = right.length) :
    messageBits (List.zipWith (· ^^^ ·) left right) =
      errors (messageBits left) (messageBits right) := by
  induction left generalizing right with
  | nil =>
      cases right with
      | nil => rfl
      | cons byte rest => cases same
  | cons byte rest ih =>
      cases right with
      | nil => cases same
      | cons other others =>
          have tails := ih (Nat.succ.inj same)
          have heads : (byteBits byte).length = (byteBits other).length := rfl
          change byteBits (byte ^^^ other) ++ messageBits (List.zipWith (· ^^^ ·) rest others) =
            errors (byteBits byte ++ messageBits rest) (byteBits other ++ messageBits others)
          rw [byteBits_xor, tails, errors_append heads]

theorem errors_self (bits : List Bool) : ∀ bit ∈ errors bits bits, bit = false := by
  induction bits with
  | nil => exact nofun
  | cons bit rest ih =>
      intro other member
      obtain rfl | later := List.mem_cons.1 member
      · exact Bool.xor_self bit
      · exact ih other later

/-- Messages of one length with no flip between them are equal. -/
theorem eq_of_errors_clear {first second : List Bool} (same : first.length = second.length)
    (clear : true ∉ errors first second) : first = second := by
  induction first generalizing second with
  | nil => exact (List.length_eq_zero_iff.1 same.symm).symm
  | cons bit rest ih =>
      cases second with
      | nil => cases same
      | cons other others =>
          have apart : (bit ^^ other) ≠ true := fun flipped =>
            clear (List.mem_cons.2 (.inl flipped.symm))
          have equal : bit = other := by
            revert apart
            cases bit <;> cases other <;> decide
          rw [equal, ih (Nat.succ.inj same) fun member => clear (.tail _ member)]

theorem feed_clear (register : BitVec width) {bits : List Bool}
    (clear : ∀ bit ∈ bits, bit = false) :
    feed feedback register bits = (shift feedback)^[bits.length] register := by
  induction bits generalizing register with
  | nil => rfl
  | cons bit rest ih =>
      obtain rfl : bit = false := clear bit List.mem_cons_self
      change feed feedback (feedBit feedback register false) rest = _
      rw [feedBit_false, ih _ fun other member => clear other (.tail false member)]
      rfl

section Invertible

variable {feedback} (top : feedback.getLsbD (width - 1) = true)

include top

/-- With the top bit in the feedback no step loses information. -/
theorem shift_ne_zero {register : BitVec width} (nonzero : register ≠ 0#(width)) :
    shift feedback register ≠ 0#(width) := by
  intro cleared
  unfold shift at cleared
  split at cleared
  · have same : register >>> 1 = feedback := by
      have cancelled := congrArg (· ^^^ feedback) cleared
      simpa [BitVec.xor_assoc] using cancelled
    rw [← same, BitVec.getLsbD_ushiftRight, BitVec.getLsbD_of_ge register _ (by omega)] at top
    cases top
  · next low =>
      refine nonzero (BitVec.eq_of_getLsbD_eq fun position inside => ?_)
      rw [BitVec.getLsbD_zero]
      cases position with
      | zero => simpa using low
      | succ position =>
          have bit := congrArg (fun word => word.getLsbD position) cleared
          simpa [Nat.add_comm] using bit

theorem iterate_shift_ne_zero (count : Nat) {register : BitVec width}
    (nonzero : register ≠ 0#(width)) : (shift feedback)^[count] register ≠ 0#(width) := by
  induction count generalizing register with
  | zero => exact nonzero
  | succ count ih => exact ih (shift_ne_zero top nonzero)

/-- All flips of the pattern lie in a window of that many consecutive positions. -/
def Burst (span : Nat) (pattern : List Bool) : Prop :=
  ∃ start, ∀ position, pattern[position]? = some true →
    start ≤ position ∧ position < start + span

omit top in
theorem burst_append_clear {span : Nat} {pattern tail : List Bool} (burst : Burst span pattern)
    (clear : ∀ bit ∈ tail, bit = false) : Burst span (pattern ++ tail) := by
  obtain ⟨start, confined⟩ := burst
  refine ⟨start, fun position flipped => ?_⟩
  cases Nat.lt_or_ge position pattern.length with
  | inl inside =>
      rw [List.getElem?_append_left inside] at flipped
      exact confined position flipped
  | inr beyond =>
      rw [List.getElem?_append_right beyond] at flipped
      exact absurd (clear true (List.mem_of_getElem? flipped)) (by decide)

omit top in
theorem word_ne_zero {bits : List Bool} (fits : bits.length ≤ width) (flipped : true ∈ bits) :
    word width bits ≠ 0#(width) := by
  obtain ⟨position, inside, set⟩ := List.mem_iff_getElem.1 flipped
  intro cleared
  have bit : (word width bits).getLsbD position = _ := getLsbD_word bits position
  rw [cleared, BitVec.getLsbD_zero] at bit
  simp [List.getD_eq_getElem?_getD, inside, set, Nat.lt_of_lt_of_le inside fits] at bit

/-- No burst up to the width of the register escapes. -/
theorem burst_detected {pattern : List Bool} (flipped : true ∈ pattern)
    (burst : Burst width pattern) : feed feedback 0#(width) pattern ≠ 0#(width) := by
  obtain ⟨start, confined⟩ := burst
  have whole : pattern = pattern.take start ++
      ((pattern.drop start).take width ++ (pattern.drop start).drop width) := by
    rw [List.take_append_drop, List.take_append_drop]
  have front : ∀ bit ∈ pattern.take start, bit = false := by
    intro bit member
    obtain ⟨position, inside, same⟩ := List.mem_iff_getElem.1 member
    rw [List.getElem_take] at same
    cases bit with
    | false => rfl
    | true =>
        have low := (confined position (List.getElem?_eq_some_iff.2 ⟨_, same⟩)).1
        rw [List.length_take] at inside
        omega
  have back : ∀ bit ∈ (pattern.drop start).drop width, bit = false := by
    intro bit member
    obtain ⟨position, inside, same⟩ := List.mem_iff_getElem.1 member
    rw [List.getElem_drop, List.getElem_drop] at same
    cases bit with
    | false => rfl
    | true =>
        have high := (confined _ (List.getElem?_eq_some_iff.2 ⟨_, same⟩)).2
        omega
  have inner : true ∈ (pattern.drop start).take width := by
    rw [whole] at flipped
    obtain early | middle | late := by simpa only [List.mem_append] using flipped
    · exact absurd (front true early) (by decide)
    · exact middle
    · exact absurd (back true late) (by decide)
  have fits : ((pattern.drop start).take width).length ≤ width := List.length_take_le _ _
  rw [whole, feed_append, feed_append, feed_clear _ _ front, feed_clear _ _ back,
    Function.iterate_fixed (shift_zero feedback), feed_eq_iterate _ _ _ fits, BitVec.zero_xor]
  exact iterate_shift_ne_zero top _ (iterate_shift_ne_zero top _ (word_ne_zero fits inner))

omit top in
theorem exists_flip {pattern : List Bool} {flips : Nat}
    (counted : pattern.count true = flips + 1) :
    ∃ clear rest, pattern = clear ++ true :: rest ∧ (∀ bit ∈ clear, bit = false) ∧
      rest.count true = flips := by
  induction pattern with
  | nil => cases counted
  | cons bit rest ih =>
      cases bit with
      | true =>
          rw [List.count_cons_self] at counted
          exact ⟨[], rest, rfl, nofun, Nat.succ.inj counted⟩
      | false =>
          rw [List.count_cons_of_ne Bool.false_ne_true] at counted
          obtain ⟨clear, others, rfl, allClear, left⟩ := ih counted
          refine ⟨false :: clear, others, rfl, fun bit member => ?_, left⟩
          obtain rfl | later := List.mem_cons.1 member
          · rfl
          · exact allClear bit later

omit top in
theorem clear_of_count {pattern : List Bool} (counted : pattern.count true = 0) :
    ∀ bit ∈ pattern, bit = false := by
  intro bit member
  cases bit with
  | false => rfl
  | true => exact absurd member (List.count_eq_zero.1 counted)

omit top in
variable (feedback) in
/-- The register does not come back to a word within that many steps. -/
def avoids (target : BitVec width) : Nat → BitVec width → Bool
  | 0, _ => true
  | count + 1, register =>
      shift feedback register != target && avoids target count (shift feedback register)

omit top in
theorem iterate_ne_of_avoids {target register : BitVec width} {bound : Nat}
    (avoided : avoids feedback target bound register = true) {count : Nat} (positive : 0 < count)
    (inside : count ≤ bound) : (shift feedback)^[count] register ≠ target := by
  induction bound generalizing register count with
  | zero => exact absurd (Nat.lt_of_lt_of_le positive inside) (Nat.lt_irrefl 0)
  | succ bound ih =>
      rw [avoids, Bool.and_eq_true, bne_iff_ne] at avoided
      cases count with
      | zero => cases positive
      | succ count =>
          rw [Function.iterate_succ_apply]
          cases Nat.eq_zero_or_pos count with
          | inl last =>
              subst last
              exact avoided.1
          | inr more => exact ih avoided.2 more (Nat.le_of_succ_le_succ inside)

/-- No pair of flips escapes in a message shorter than the period of the register. -/
theorem pair_detected {pattern : List Bool} (counted : pattern.count true = 2)
    (aperiodic : ∀ count, 0 < count → count < pattern.length →
      (shift feedback)^[count] 1#(width) ≠ 1#(width)) :
    feed feedback 0#(width) pattern ≠ 0#(width) := by
  obtain ⟨front, rest, rfl, frontClear, one_left⟩ := exists_flip counted
  obtain ⟨middle, back, rfl, middleClear, none_left⟩ := exists_flip one_left
  have reached : feed feedback 0#(width) (front ++ true :: (middle ++ true :: back)) =
      (shift feedback)^[back.length] (shift feedback
        ((shift feedback)^[middle.length + 1] 1#(width) ^^^ 1#(width))) := by
    rw [feed_append, feed_clear _ _ frontClear, Function.iterate_fixed (shift_zero feedback)]
    change feed feedback (feedBit feedback 0#(width) true) (middle ++ true :: back) = _
    rw [feedBit_true, BitVec.zero_xor, feed_append, feed_clear _ _ middleClear]
    change feed feedback (feedBit feedback _ true) back = _
    rw [feedBit_true, feed_clear _ _ (clear_of_count none_left), Function.iterate_succ_apply]
  rw [reached]
  refine iterate_shift_ne_zero top _ (shift_ne_zero top fun cancelled => ?_)
  refine aperiodic (middle.length + 1) (Nat.succ_pos _) ?_ (BitVec.xor_eq_zero_iff.1 cancelled)
  simp only [List.length_append, List.length_cons]
  omega

end Invertible

section Parity

/-- The number of set bits of a register, modulo two. -/
def parity (register : BitVec width) : ZMod 2 :=
  ∑ position ∈ Finset.range width, ((register.getLsbD position).toNat : ZMod 2)

theorem parity_xor (left right : BitVec width) :
    parity (left ^^^ right) = parity left + parity right := by
  unfold parity
  rw [← Finset.sum_add_distrib]
  refine Finset.sum_congr rfl fun position _ => ?_
  rw [BitVec.getLsbD_xor]
  cases left.getLsbD position <;> cases right.getLsbD position <;> decide

theorem parity_shiftRight (register : BitVec width) :
    parity (register >>> 1) + ((register.getLsbD 0).toNat : ZMod 2) = parity register := by
  have beyond : register.getLsbD width = false := BitVec.getLsbD_of_ge register width (le_refl _)
  have moved : parity (register >>> 1) = ∑ position ∈ Finset.range width,
      ((register.getLsbD (position + 1)).toNat : ZMod 2) := by
    refine Finset.sum_congr rfl fun position _ => ?_
    rw [BitVec.getLsbD_ushiftRight, Nat.add_comm]
  rw [moved, ← Finset.sum_range_succ' (fun position =>
    ((register.getLsbD position).toNat : ZMod 2)), Finset.sum_range_succ, beyond]
  simp [parity]

variable {feedback} (odd : parity feedback = 1)

include odd

/-- With an odd feedback word a step keeps the parity: what falls out is put back. -/
theorem parity_shift (register : BitVec width) :
    parity (shift feedback register) = parity register := by
  have split := parity_shiftRight register
  unfold shift
  cases low : register.getLsbD 0 with
  | false =>
      rw [low] at split
      simpa using split
  | true =>
      rw [low] at split
      simpa [parity_xor, odd] using split

theorem parity_feed (register : BitVec width) (pattern : List Bool) :
    parity (feed feedback register pattern) =
      parity register + (pattern.count true : ZMod 2) := by
  have one : parity (1#(width)) = 1 := by
    cases width with
    | zero => exact absurd odd (by decide +revert)
    | succ width =>
        unfold parity
        rw [Finset.sum_range_succ']
        simp [BitVec.getLsbD_one]
  induction pattern generalizing register with
  | nil => simp [feed]
  | cons bit rest ih =>
      change parity (feed feedback (feedBit feedback register bit) rest) = _
      rw [ih]
      cases bit with
      | false =>
          rw [feedBit_false, parity_shift odd, List.count_cons_of_ne Bool.false_ne_true]
      | true =>
          rw [feedBit_true, parity_shift odd, parity_xor, one, List.count_cons_self, Nat.cast_add,
            Nat.cast_one, add_assoc, add_comm 1]

/-- No odd number of flips escapes. -/
theorem odd_detected {pattern : List Bool} (flips : Odd (pattern.count true)) :
    feed feedback 0#(width) pattern ≠ 0#(width) := by
  intro cleared
  have counted := parity_feed odd 0#(width) pattern
  rw [cleared] at counted
  have zero : parity (0#(width)) = 0 := by simp [parity]
  rw [zero, zero_add, ZMod.natCast_eq_one_iff_odd.2 flips] at counted
  exact absurd counted (by decide)

end Parity

end SoaGateway.Foundation.ShiftRegister
