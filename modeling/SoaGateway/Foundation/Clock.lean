import Mathlib.Data.List.Basic
import Mathlib.Tactic.Common
import SoaGateway.Foundation.Machine

/-! Histories whose entries read a clock. A filter picks the readings that count, the latest
one is what a component keeps, and under a clock that never goes back it bounds them all. Steps
that compose along such a clock may be taken at any of its readings. -/

set_option autoImplicit false

namespace SoaGateway.Foundation

variable {Entry : Type}

/-- The last reading that `pick` takes from a history. -/
def latest (pick : Entry → Option Nat) (history : List Entry) : Option Nat :=
  (history.filterMap pick).getLast?

/-- The clock never goes back along the history. -/
def Ordered (readings : Entry → List Nat) (history : List Entry) : Prop :=
  (history.flatMap readings).Pairwise (· ≤ ·)

section Latest

variable {pick : Entry → Option Nat} {history : List Entry} {last : Nat}

@[simp] theorem latest_nil : latest pick [] = none := rfl

@[simp] theorem latest_concat (entry : Entry) :
    latest pick (history ++ [entry]) = (pick entry).or (latest pick history) := by
  cases found : pick entry <;> simp [latest, found]

theorem picked_of_latest (found : latest pick history = some last) :
    ∃ entry ∈ history, pick entry = some last :=
  List.mem_filterMap.1 (List.mem_of_getLast? found)

end Latest

section Ordered

variable {readings : Entry → List Nat} {history : List Entry}

theorem Ordered.earlier {entry : Entry} (ordered : Ordered readings (history ++ [entry])) :
    Ordered readings history := by
  rw [Ordered, List.flatMap_append] at ordered
  exact (List.pairwise_append.1 ordered).1

theorem Ordered.le_last {entry : Entry} (ordered : Ordered readings (history ++ [entry]))
    {before : Entry} (member : before ∈ history) {first second : Nat}
    (reads : first ∈ readings before) (reads' : second ∈ readings entry) : first ≤ second := by
  rw [Ordered, List.flatMap_append] at ordered
  refine (List.pairwise_append.1 ordered).2.2 first ?_ second ?_
  · exact List.mem_flatMap.2 ⟨before, member, reads⟩
  · exact List.mem_flatMap.2 ⟨entry, List.mem_singleton_self entry, reads'⟩

/-- Where every pick is a reading of its entry, the latest one bounds them all. -/
theorem picks_le_latest {pick : Entry → Option Nat} {last : Nat}
    (reads : ∀ entry reading, pick entry = some reading → reading ∈ readings entry)
    (ordered : Ordered readings history) (found : latest pick history = some last) :
    ∀ entry ∈ history, ∀ reading, pick entry = some reading → reading ≤ last := by
  induction history using List.reverseRecOn with
  | nil => cases found
  | append_singleton history final ih =>
      rw [latest_concat] at found
      intro entry member reading picked
      cases chosen : pick final with
      | some here =>
          rw [chosen] at found
          cases found
          rcases List.mem_append.1 member with before | now
          · exact ordered.le_last before (reads entry reading picked) (reads final _ chosen)
          · rw [List.mem_singleton.1 now, chosen] at picked
            cases picked
            exact Nat.le_refl _
      | none =>
          rw [chosen] at found
          rcases List.mem_append.1 member with before | now
          · exact ih ordered.earlier found entry before reading picked
          · rw [List.mem_singleton.1 now, chosen] at picked
            cases picked

end Ordered

/-- The trace of a run reads the clocks of its inputs. -/
theorem ordered_trace_iff {State Input Output : Type} (machine : Machine State Input Output)
    (readings : Input → List Nat) (state : State) (inputs : List Input) :
    Ordered (fun entry => readings entry.1) (machine.trace state inputs) ↔
      Ordered readings inputs := by
  have inputs_of : (machine.trace state inputs).map Prod.fst = inputs :=
    List.map_fst_zip (Nat.le_of_eq (machine.outputs_length state inputs).symm)
  have same : (machine.trace state inputs).flatMap (fun entry => readings entry.1) =
      inputs.flatMap readings := by
    conv => rhs; rw [← inputs_of, List.flatMap_map]
  rw [Ordered, Ordered, same]

/-- Steps that compose along an ordered clock depend on the last reading alone. -/
theorem foldl_eq_last {State : Type} {step : State → Nat → State} (law : State → Prop)
    (kept : ∀ state reading, law state → law (step state reading))
    (compose : ∀ state earlier later, law state → earlier ≤ later →
      step (step state earlier) later = step state later)
    {start : State} (holds : law start) {schedule : List Nat} {last : Nat}
    (ordered : (schedule ++ [last]).Pairwise (· ≤ ·)) :
    (schedule ++ [last]).foldl step start = step start last := by
  induction schedule generalizing start with
  | nil => rfl
  | cons reading rest ih =>
      obtain ⟨first, remaining⟩ := List.pairwise_cons.1 ordered
      rw [List.cons_append, List.foldl_cons, ih (kept start reading holds) remaining]
      exact compose start reading last holds (first last List.mem_concat_self)

end SoaGateway.Foundation
