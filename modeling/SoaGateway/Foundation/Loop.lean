import Mathlib.Logic.Function.Iterate
import Mathlib.Tactic.Common

/-! Loops that run until a test holds. A loop is left by a measure that every pass lowers, and is
never left when the passes of one round lead back to where another round starts. -/

set_option autoImplicit false

namespace SoaGateway.Foundation

variable {State : Type}

/-- The loop is left after a number of passes, the first time its test holds. -/
structure Leaves (advance : State → State) (done : State → Prop) (start : State)
    (passes : Nat) : Prop where
  stopped : done (advance^[passes] start)
  running : ∀ earlier < passes, ¬ done (advance^[earlier] start)

variable {advance : State → State} {done law : State → Prop} {start : State} {passes : Nat}

theorem leaves_zero (already : done start) : Leaves advance done start 0 where
  stopped := already
  running _ before := absurd before (Nat.not_lt_zero _)

theorem Leaves.step (leaves : Leaves advance done (advance start) passes)
    (unmet : ¬ done start) : Leaves advance done start (passes + 1) where
  stopped := leaves.stopped
  running earlier before := by
    cases earlier with
    | zero => exact unmet
    | succ earlier => exact leaves.running earlier (Nat.lt_of_succ_lt_succ before)

/-- A loop that has not been left yet is left from where it stands. -/
theorem Leaves.after (leaves : Leaves advance done start passes) {first : Nat}
    (unmet : ∀ earlier < first, ¬ done (advance^[earlier] start)) :
    first ≤ passes ∧ Leaves advance done (advance^[first] start) (passes - first) := by
  have reached : first ≤ passes := Nat.not_lt.1 fun early => unmet passes early leaves.stopped
  refine ⟨reached, ?_, fun earlier before => ?_⟩
  · rw [← Function.iterate_add_apply, Nat.sub_add_cancel reached]
    exact leaves.stopped
  · rw [← Function.iterate_add_apply]
    exact leaves.running _ (by omega)

/-- What every pass preserves holds where the loop is left. -/
theorem Leaves.preserves (leaves : Leaves advance done start passes) (holds : law start)
    (kept : ∀ state, law state → ¬ done state → law (advance state)) :
    law (advance^[passes] start) := by
  induction passes generalizing start with
  | zero => exact holds
  | succ passes ih =>
      have unmet := leaves.running 0 (Nat.succ_pos passes)
      have rest : Leaves advance done (advance start) passes :=
        ⟨leaves.stopped, fun earlier before =>
          leaves.running (earlier + 1) (Nat.succ_lt_succ before)⟩
      exact ih rest (kept start holds unmet)

/-- A loop whose passes lower a measure is left. -/
theorem exists_leaves (measure : State → Nat) (holds : law start)
    (kept : ∀ state, law state → ¬ done state →
      law (advance state) ∧ measure (advance state) < measure state) :
    ∃ passes, Leaves advance done start passes := by
  induction remaining : measure start using Nat.strongRecOn generalizing start with
  | ind remaining ih =>
      by_cases already : done start
      · exact ⟨0, leaves_zero already⟩
      · obtain ⟨next, lower⟩ := kept start holds already
        obtain ⟨passes, leaves⟩ := ih _ (remaining ▸ lower) next rfl
        exact ⟨passes + 1, leaves.step already⟩

end SoaGateway.Foundation
