import Mathlib.Data.List.FinRange
import Mathlib.Tactic.Common

/-! A loop that looks at one cell after the other and stops at its first find, while others write
the cells. As long as no write turns a cell that the loop has passed into one with a find, the
loop ends with what a look at all cells at once would find at that moment. -/

set_option autoImplicit false

namespace SoaGateway.Foundation

variable {Cells Found : Type} {size : Nat} {look : Cells → Fin size → Option Found}
  {before after : Cells} {position : Nat}

/-- No find before a position. -/
def Swept (look : Cells → Fin size → Option Found) (cells : Cells) (position : Nat) : Prop :=
  ∀ index : Fin size, index.val < position → look cells index = none

theorem swept_zero (look : Cells → Fin size → Option Found) (cells : Cells) :
    Swept look cells 0 :=
  fun index early => absurd early (Nat.not_lt_zero index.val)

theorem Swept.step {cells : Cells} (swept : Swept look cells position)
    (inside : position < size) (nothing : look cells ⟨position, inside⟩ = none) :
    Swept look cells (position + 1) := by
  intro index early
  rcases Nat.lt_succ_iff_lt_or_eq.1 early with earlier | here
  · exact swept index earlier
  · rw [show index = ⟨position, inside⟩ from Fin.ext here]
    exact nothing

/-- The write rule. -/
theorem Swept.kept (swept : Swept look before position)
    (quiet : ∀ index : Fin size, index.val < position → look before index = none →
      look after index = none) :
    Swept look after position :=
  fun index early => quiet index early (swept index early)

/-- Where the loop stops at a find, that is the first of all. -/
theorem Swept.findSome?_eq_some {cells : Cells} (swept : Swept look cells position)
    (inside : position < size) {found : Found}
    (finds : look cells ⟨position, inside⟩ = some found) :
    (List.finRange size).findSome? (look cells) = some found := by
  have split : List.finRange size =
      (List.finRange size).take position ++ (List.finRange size).drop position :=
    (List.take_append_drop position _).symm
  have front : ((List.finRange size).take position).findSome? (look cells) = none := by
    refine List.findSome?_eq_none_iff.2 fun index member => swept index ?_
    obtain ⟨place, early, rfl⟩ := List.mem_take_iff_getElem.1 member
    simp only [List.getElem_finRange]
    exact (Nat.lt_min.1 early).1
  have next : (List.finRange size).drop position =
      ⟨position, inside⟩ :: (List.finRange size).drop (position + 1) := by
    rw [List.drop_eq_getElem_cons (by rwa [List.length_finRange]), List.getElem_finRange]
    rfl
  rw [split, List.findSome?_append, front, next, List.findSome?_cons, finds]
  rfl

/-- Where it passes the last cell that could have a find, there is none. -/
theorem Swept.findSome?_eq_none {cells : Cells} (swept : Swept look cells position)
    (rest : ∀ index : Fin size, position ≤ index.val → look cells index = none) :
    (List.finRange size).findSome? (look cells) = none := by
  refine List.findSome?_eq_none_iff.2 fun index _ => ?_
  rcases Nat.lt_or_ge index.val position with early | late
  · exact swept index early
  · exact rest index late

end SoaGateway.Foundation
