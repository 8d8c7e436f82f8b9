import Mathlib.Data.List.Basic
import Mathlib.Logic.Function.Basic
import Mathlib.Tactic.Common

/-! Circular buffers read from a tail index and written at a head index. One cell is
always kept free, so equal indices mean an empty buffer. The laws relate the raw
cells to the queue of entries between tail and head, for every number of cells. -/

set_option autoImplicit false

namespace SoaGateway.Foundation.Ring

variable {α β : Type} {size : Nat} {cells : Nat → α} {head tail : Nat} {queue : List α}

def next (size index : Nat) : Nat := (index + 1) % size

/-- The buffer holds exactly `queue` between its tail and its head. -/
structure Holds (size : Nat) (cells : Nat → α) (head tail : Nat) (queue : List α) : Prop where
  tail_lt : tail < size
  length_lt : queue.length < size
  head_eq : head = (tail + queue.length) % size
  content : ∀ offset (inside : offset < queue.length),
    cells ((tail + offset) % size) = queue[offset]

/-- An offset below the size crosses the end of the buffer at most once. -/
theorem wrap_eq (tailBound : tail < size) {offset : Nat} (bound : offset < size) :
    (tail + offset) % size =
      if tail + offset < size then tail + offset else tail + offset - size := by
  split
  · next inside => exact Nat.mod_eq_of_lt inside
  · next outside =>
      rw [Nat.mod_eq_sub_mod (by omega), Nat.mod_eq_of_lt (by omega)]

theorem next_lt (positive : 0 < size) (index : Nat) : next size index < size :=
  Nat.mod_lt _ positive

theorem wrap_next {offset : Nat} :
    (next size tail + offset) % size = (tail + (offset + 1)) % size := by
  simp only [next, Nat.mod_add_mod]
  congr 1
  omega

theorem next_wrap {offset : Nat} :
    next size ((tail + offset) % size) = (tail + (offset + 1)) % size := by
  simp only [next, Nat.mod_add_mod, Nat.add_assoc]

theorem holds_empty (cells : Nat → α) {index : Nat} (bound : index < size) :
    Holds size cells index index [] where
  tail_lt := bound
  length_lt := by simpa using Nat.zero_lt_of_lt bound
  head_eq := by simp [Nat.mod_eq_of_lt bound]
  content := by simp

theorem Holds.head_lt (holds : Holds size cells head tail queue) : head < size := by
  rw [holds.head_eq]
  exact Nat.mod_lt _ (Nat.zero_lt_of_lt holds.tail_lt)

theorem Holds.full_iff (holds : Holds size cells head tail queue) :
    next size head = tail ↔ queue.length + 1 = size := by
  have tailBound := holds.tail_lt
  have lengthBound := holds.length_lt
  rw [holds.head_eq, next_wrap]
  rcases Nat.lt_or_ge (queue.length + 1) size with room | full
  · rw [wrap_eq tailBound room]
    split <;> omega
  · have exact_size : queue.length + 1 = size := by omega
    rw [exact_size, Nat.add_mod_right, Nat.mod_eq_of_lt tailBound]
    simp

theorem Holds.empty_iff (holds : Holds size cells head tail queue) :
    tail = head ↔ queue = [] := by
  have tailBound := holds.tail_lt
  have lengthBound := holds.length_lt
  rw [holds.head_eq, wrap_eq tailBound lengthBound, ← List.length_eq_zero_iff]
  split <;> omega

theorem Holds.unread_ne_head (holds : Holds size cells head tail queue) {offset : Nat}
    (inside : offset < queue.length) : (tail + offset) % size ≠ head := by
  have tailBound := holds.tail_lt
  have lengthBound := holds.length_lt
  rw [holds.head_eq, wrap_eq tailBound lengthBound,
    wrap_eq tailBound (Nat.lt_trans inside lengthBound)]
  split <;> split <;> omega

theorem Holds.content_write (holds : Holds size cells head tail queue) (value : α)
    {offset : Nat} (inside : offset < queue.length) :
    Function.update cells head value ((tail + offset) % size) = queue[offset] := by
  rw [Function.update_of_ne (holds.unread_ne_head inside)]
  exact holds.content offset inside

theorem Holds.write (holds : Holds size cells head tail queue) (value : α) :
    Holds size (Function.update cells head value) head tail queue where
  tail_lt := holds.tail_lt
  length_lt := holds.length_lt
  head_eq := holds.head_eq
  content _ inside := holds.content_write value inside

theorem Holds.advance_head (holds : Holds size cells head tail queue)
    (room : queue.length + 1 < size) :
    Holds size cells (next size head) tail (queue ++ [cells head]) where
  tail_lt := holds.tail_lt
  length_lt := by simpa using room
  head_eq := by rw [holds.head_eq, next_wrap]; simp
  content offset inside := by
    simp only [List.length_append, List.length_singleton] at inside
    rcases Nat.lt_or_ge offset queue.length with old | new
    · rw [List.getElem_append_left old]
      exact holds.content offset old
    · have position : offset = queue.length := by omega
      subst offset
      rw [← holds.head_eq]
      simp

theorem Holds.push (holds : Holds size cells head tail queue) (value : α)
    (room : queue.length + 1 < size) :
    Holds size (Function.update cells head value) (next size head) tail (queue ++ [value]) := by
  simpa using (holds.write value).advance_head room

/-- Writing and advancing into a full buffer makes the head meet the tail: the
buffer then reads as empty, whatever it held. -/
theorem Holds.lap (holds : Holds size cells head tail queue) (value : α)
    (full : queue.length + 1 = size) :
    Holds size (Function.update cells head value) (next size head) tail [] := by
  rw [holds.full_iff.2 full]
  exact holds_empty _ holds.tail_lt

theorem Holds.pop {value : α} (holds : Holds size cells head tail (value :: queue)) :
    cells tail = value ∧ Holds size cells head (next size tail) queue := by
  have lengthBound := holds.length_lt
  simp only [List.length_cons] at lengthBound
  refine ⟨?_, ?_⟩
  · have front := holds.content 0 (by simp)
    rwa [Nat.add_zero, Nat.mod_eq_of_lt holds.tail_lt, List.getElem_cons_zero] at front
  · refine ⟨next_lt (by omega) _, by omega, ?_, fun offset inside => ?_⟩
    · rw [holds.head_eq, wrap_next, List.length_cons]
    · rw [wrap_next, holds.content (offset + 1) (by simpa using inside)]
      simp

/-- The indices alone determine how many entries are unread. -/
theorem Holds.length_eq (holds : Holds size cells head tail queue) :
    (head + size - tail) % size = queue.length := by
  have tailBound := holds.tail_lt
  have lengthBound := holds.length_lt
  rw [holds.head_eq, wrap_eq tailBound lengthBound]
  split
  · rw [show tail + queue.length + size - tail = queue.length + size by omega,
      Nat.add_mod_right, Nat.mod_eq_of_lt lengthBound]
  · rw [show tail + queue.length - size + size - tail = queue.length by omega,
      Nat.mod_eq_of_lt lengthBound]

/-- Reading cells one by one until `budget` are read or the tail meets the head: the
cells read, and the tail left behind. -/
def consume (size : Nat) (cells : Nat → α) (head : Nat) : Nat → Nat → List α × Nat
  | 0, tail => ([], tail)
  | budget + 1, tail =>
      if tail = head then ([], tail)
      else
        let rest := consume size cells head budget (next size tail)
        (cells tail :: rest.1, rest.2)

theorem consume_empty (cells : Nat → α) (budget index : Nat) :
    consume size cells index budget index = ([], index) := by
  cases budget with
  | zero => rfl
  | succ budget => simp [consume]

theorem Holds.consume (holds : Holds size cells head tail queue) (budget : Nat) :
    (consume size cells head budget tail).1 = queue.take budget ∧
      Holds size cells head (Ring.consume size cells head budget tail).2 (queue.drop budget) := by
  induction budget generalizing tail queue with
  | zero => exact ⟨rfl, holds⟩
  | succ budget ih =>
      cases queue with
      | nil =>
          have empty : tail = head := holds.empty_iff.2 rfl
          simp only [Ring.consume, empty, ↓reduceIte, List.take_nil, List.drop_nil, true_and]
          exact empty ▸ holds
      | cons value rest =>
          have unequal : tail ≠ head := fun same => List.cons_ne_nil _ _ (holds.empty_iff.1 same)
          obtain ⟨front, moved⟩ := holds.pop
          obtain ⟨taken, left⟩ := ih moved
          simp only [Ring.consume, unequal, ↓reduceIte, front, taken, List.take_succ_cons,
            List.drop_succ_cons]
          exact ⟨trivial, left⟩

theorem consume_map (f : α → β) (budget tail : Nat) :
    Ring.consume size (f ∘ cells) head budget tail =
      ((Ring.consume size cells head budget tail).1.map f,
        (Ring.consume size cells head budget tail).2) := by
  induction budget generalizing tail with
  | zero => rfl
  | succ budget ih =>
      simp only [Ring.consume]
      split
      · rfl
      · rw [ih]
        rfl

/-- A buffer that is written over and over keeps the newest `size` entries of its history. -/
structure Recent (size : Nat) (cells : Nat → α) (head : Nat) (history : List α) : Prop where
  positive : 0 < size
  head_eq : head = history.length % size
  content : ∀ position (inside : position < history.length),
    history.length ≤ position + size → cells (position % size) = history[position]

theorem recent_nil (positive : 0 < size) (cells : Nat → α) : Recent size cells 0 [] where
  positive := positive
  head_eq := (Nat.zero_mod size).symm
  content position inside := absurd inside (Nat.not_lt_zero position)

theorem Recent.push {history : List α} (recent : Recent size cells head history) (value : α) :
    Recent size (Function.update cells head value) (next size head) (history ++ [value]) where
  positive := recent.positive
  head_eq := by
    rw [recent.head_eq, next, Nat.mod_add_mod, List.length_append, List.length_singleton]
  content position inside kept := by
    rw [List.length_append, List.length_singleton] at inside kept
    rcases Nat.lt_or_ge position history.length with old | new
    · have apart : position % size ≠ head := by
        intro same
        have multiple : size ∣ history.length - position :=
          Nat.dvd_of_mod_eq_zero
            (Nat.sub_mod_eq_zero_of_mod_eq (same.trans recent.head_eq).symm)
        have far := Nat.le_of_dvd (by omega) multiple
        omega
      rw [Function.update_of_ne apart, List.getElem_append_left old]
      exact recent.content position old (by omega)
    · have newest : position = history.length := by omega
      subst newest
      rw [← recent.head_eq]
      simp

/-- Reading backwards from the head yields the history, newest first. -/
theorem Recent.newest {history : List α} (recent : Recent size cells head history) {back : Nat}
    (inside : back < history.length) (kept : back < size) :
    cells ((head + size - 1 - back) % size) =
      history[history.length - 1 - back] := by
  have index : (head + size - 1 - back) % size = (history.length - 1 - back) % size := by
    rw [recent.head_eq, show history.length % size + size - 1 - back =
      history.length % size + (size - 1 - back) by omega, Nat.mod_add_mod,
      show history.length + (size - 1 - back) = history.length - 1 - back + size by omega,
      Nat.add_mod_right]
  rw [index]
  exact recent.content _ (by omega) (by omega)

end SoaGateway.Foundation.Ring
