import Mathlib.Data.List.Basic
import Mathlib.Data.List.Induction
import Mathlib.Tactic.Common

/-! Deterministic machines that answer every input, their runs and their traces.
Nothing here names a component: a machine is a step function, a run is a list of
inputs, and a law about runs is one step lemma followed by one induction. -/

set_option autoImplicit false

namespace SoaGateway.Foundation

/-- A component seen from outside: each input is answered and moves the state. -/
structure Machine (State Input Output : Type) where
  step : State → Input → Output × State

namespace Machine

variable {State Input Output : Type} (machine : Machine State Input Output)

def run (state : State) : List Input → State
  | [] => state
  | input :: rest => run (machine.step state input).2 rest

/-- The answers given along a list of inputs, oldest first. -/
def outputs (state : State) : List Input → List Output
  | [] => []
  | input :: rest => (machine.step state input).1 :: outputs (machine.step state input).2 rest

@[simp] theorem run_nil (state : State) : machine.run state [] = state := rfl

@[simp] theorem run_cons (state : State) (input : Input) (rest : List Input) :
    machine.run state (input :: rest) = machine.run (machine.step state input).2 rest := rfl

@[simp] theorem outputs_nil (state : State) : machine.outputs state [] = [] := rfl

@[simp] theorem outputs_cons (state : State) (input : Input) (rest : List Input) :
    machine.outputs state (input :: rest) =
      (machine.step state input).1 :: machine.outputs (machine.step state input).2 rest := rfl

theorem run_append (state : State) (first second : List Input) :
    machine.run state (first ++ second) = machine.run (machine.run state first) second := by
  induction first generalizing state with
  | nil => rfl
  | cons input rest ih => exact ih (machine.step state input).2

theorem outputs_append (state : State) (first second : List Input) :
    machine.outputs state (first ++ second) =
      machine.outputs state first ++ machine.outputs (machine.run state first) second := by
  induction first generalizing state with
  | nil => rfl
  | cons input rest ih =>
      simp only [List.cons_append, outputs_cons, run_cons, ih]

@[simp] theorem run_concat (state : State) (inputs : List Input) (input : Input) :
    machine.run state (inputs ++ [input]) = (machine.step (machine.run state inputs) input).2 := by
  rw [run_append]
  rfl

@[simp] theorem outputs_concat (state : State) (inputs : List Input) (input : Input) :
    machine.outputs state (inputs ++ [input]) =
      machine.outputs state inputs ++ [(machine.step (machine.run state inputs) input).1] := by
  rw [outputs_append]
  rfl

theorem outputs_length (state : State) (inputs : List Input) :
    (machine.outputs state inputs).length = inputs.length := by
  induction inputs generalizing state with
  | nil => rfl
  | cons input rest ih => exact congrArg Nat.succ (ih _)

/-- The inputs of a run, each with its answer. -/
def trace (state : State) (inputs : List Input) : List (Input × Output) :=
  inputs.zip (machine.outputs state inputs)

@[simp] theorem trace_nil (state : State) : machine.trace state [] = [] := rfl

@[simp] theorem trace_concat (state : State) (inputs : List Input) (input : Input) :
    machine.trace state (inputs ++ [input]) =
      machine.trace state inputs ++
        [(input, (machine.step (machine.run state inputs) input).1)] := by
  rw [trace, outputs_concat, List.zip_append (machine.outputs_length state inputs).symm]
  rfl

/-- A condition on the steps of a run: each input meets it in the state it finds. -/
def EveryStep (allowed : State → Input → Prop) (state : State) (inputs : List Input) : Prop :=
  ∀ before input after, inputs = before ++ input :: after →
    allowed (machine.run state before) input

theorem everyStep_nil (allowed : State → Input → Prop) (state : State) :
    machine.EveryStep allowed state [] := by
  intro before input after split
  simp at split

theorem everyStep_cons_iff (allowed : State → Input → Prop) (state : State) (first : Input)
    (rest : List Input) :
    machine.EveryStep allowed state (first :: rest) ↔
      allowed state first ∧ machine.EveryStep allowed (machine.step state first).2 rest := by
  constructor
  · intro every
    refine ⟨every [] first rest rfl, fun before input after split => ?_⟩
    exact every (first :: before) input after (congrArg _ split)
  · rintro ⟨start, later⟩ before input after split
    cases before with
    | nil =>
        cases split
        exact start
    | cons front before =>
        cases split
        exact later before input after rfl

/-- A condition that can be tested at every step can be tested along a run. -/
instance decidableEveryStep (allowed : State → Input → Prop)
    [testable : ∀ state input, Decidable (allowed state input)] (state : State) :
    (inputs : List Input) → Decidable (machine.EveryStep allowed state inputs)
  | [] => .isTrue (machine.everyStep_nil allowed state)
  | first :: rest =>
      have := decidableEveryStep allowed (machine.step state first).2 rest
      decidable_of_iff _ (machine.everyStep_cons_iff allowed state first rest).symm

theorem everyStep_concat_iff (allowed : State → Input → Prop) (state : State)
    (inputs : List Input) (last : Input) :
    machine.EveryStep allowed state (inputs ++ [last]) ↔
      machine.EveryStep allowed state inputs ∧ allowed (machine.run state inputs) last := by
  constructor
  · intro every
    refine ⟨fun before input after split => ?_, every inputs last [] rfl⟩
    exact every before input (after ++ [last]) (by simp [split])
  · rintro ⟨every, final⟩ before input after split
    rcases List.eq_nil_or_concat after with rfl | ⟨front, back, rfl⟩
    · obtain ⟨rfl, same⟩ := List.append_inj' split rfl
      cases same
      exact final
    · have shape : inputs ++ [last] = (before ++ input :: front) ++ [back] := by
        simpa using split
      obtain ⟨rfl, -⟩ := List.append_inj' shape rfl
      exact every before input front rfl

theorem everyStep_prefix {allowed : State → Input → Prop} {state : State}
    {front inputs : List Input} (every : machine.EveryStep allowed state inputs)
    (isPrefix : front <+: inputs) : machine.EveryStep allowed state front := by
  obtain ⟨rest, rfl⟩ := isPrefix
  intro before input after split
  exact every before input (after ++ rest) (by simp [split])

theorem everyStep_suffix {allowed : State → Input → Prop} {state : State}
    {front back : List Input} (every : machine.EveryStep allowed state (front ++ back)) :
    machine.EveryStep allowed (machine.run state front) back := by
  intro before input after split
  rw [← machine.run_append]
  exact every (front ++ before) input after (by simp [split])

theorem everyStep_and {first second : State → Input → Prop} {state : State}
    {inputs : List Input} (left : machine.EveryStep first state inputs)
    (right : machine.EveryStep second state inputs) :
    machine.EveryStep (fun current input => first current input ∧ second current input)
      state inputs :=
  fun before input after split =>
    ⟨left before input after split, right before input after split⟩

theorem everyStep_of_mem {allowed : State → Input → Prop} {state : State} {inputs : List Input}
    (each : ∀ input ∈ inputs, ∀ current, allowed current input) :
    machine.EveryStep allowed state inputs := by
  intro before input after split
  exact each input (by simp [split]) _

/-- The run rule for laws that also speak of the answers given so far, over steps
that meet a condition. -/
theorem trace_preserves {allowed : State → Input → Prop} {law : List Output → State → Prop}
    {state : State} (start : law [] state)
    (preserved : ∀ answers current input, law answers current → allowed current input →
      law (answers ++ [(machine.step current input).1]) (machine.step current input).2)
    {inputs : List Input} (every : machine.EveryStep allowed state inputs) :
    law (machine.outputs state inputs) (machine.run state inputs) := by
  induction inputs using List.reverseRecOn with
  | nil => exact start
  | append_singleton inputs last ih =>
      obtain ⟨earlier, final⟩ := (machine.everyStep_concat_iff allowed state inputs last).1 every
      rw [machine.outputs_concat, machine.run_concat]
      exact preserved _ _ _ (ih earlier) final

theorem trace_invariant {law : List Output → State → Prop} {state : State} (start : law [] state)
    (preserved : ∀ answers current input, law answers current →
      law (answers ++ [(machine.step current input).1]) (machine.step current input).2)
    (inputs : List Input) : law (machine.outputs state inputs) (machine.run state inputs) := by
  induction inputs using List.reverseRecOn with
  | nil => exact start
  | append_singleton inputs last ih =>
      rw [machine.outputs_concat, machine.run_concat]
      exact preserved _ _ _ ih

theorem run_preserves {invariant : State → Prop} {state : State} (start : invariant state)
    (preserved : ∀ current input, invariant current →
      invariant (machine.step current input).2)
    (inputs : List Input) : invariant (machine.run state inputs) := by
  induction inputs generalizing state with
  | nil => exact start
  | cons input rest ih => exact ih (preserved state input start)

/-- The run rule for state invariants of restricted runs. -/
theorem everyStep_preserves {allowed : State → Input → Prop} {invariant : State → Prop}
    {state : State} {inputs : List Input} (every : machine.EveryStep allowed state inputs)
    (start : invariant state)
    (preserved : ∀ current input, invariant current → allowed current input →
      invariant (machine.step current input).2) :
    invariant (machine.run state inputs) := by
  induction inputs using List.reverseRecOn with
  | nil => exact start
  | append_singleton inputs last ih =>
      obtain ⟨earlier, final⟩ := (machine.everyStep_concat_iff allowed state inputs last).1 every
      rw [machine.run_concat]
      exact preserved _ _ (ih earlier) final

/-- A run that breaks a step condition has a first step that does. -/
theorem exists_first_failure {allowed : State → Input → Prop} {state : State}
    {inputs : List Input} (failed : ¬ machine.EveryStep allowed state inputs) :
    ∃ before input after, inputs = before ++ input :: after ∧
      machine.EveryStep allowed state before ∧ ¬ allowed (machine.run state before) input := by
  induction inputs using List.reverseRecOn with
  | nil => exact absurd (machine.everyStep_nil allowed state) failed
  | append_singleton inputs last ih =>
      by_cases earlier : machine.EveryStep allowed state inputs
      · refine ⟨inputs, last, [], rfl, earlier, fun final => failed ?_⟩
        exact (machine.everyStep_concat_iff allowed state inputs last).2 ⟨earlier, final⟩
      · obtain ⟨before, input, after, rfl, every, broken⟩ := ih earlier
        exact ⟨before, input, after ++ [last], by simp, every, broken⟩

/-- Where the steps that keep a law are known exactly, a run is lawful in every state it
reaches when its steps are all of that kind. -/
theorem forall_prefix_iff {allowed : State → Input → Prop} {lawful : State → Prop}
    {state : State} (start : lawful state)
    (kept_iff : ∀ current input, lawful current →
      (lawful (machine.step current input).2 ↔ allowed current input))
    (inputs : List Input) :
    (∀ front, front <+: inputs → lawful (machine.run state front)) ↔
      machine.EveryStep allowed state inputs := by
  induction inputs using List.reverseRecOn with
  | nil =>
      refine iff_of_true (fun front isPrefix => ?_) (machine.everyStep_nil allowed state)
      rw [List.prefix_nil.1 isPrefix]
      exact start
  | append_singleton inputs last ih =>
      rw [everyStep_concat_iff, ← ih]
      constructor
      · intro lawful_at
        have earlier := fun front isPrefix =>
          lawful_at front (List.IsPrefix.trans isPrefix (List.prefix_append inputs [last]))
        have final := lawful_at _ (List.prefix_refl _)
        rw [run_concat] at final
        exact ⟨earlier, (kept_iff _ _ (earlier inputs (List.prefix_refl _))).1 final⟩
      · rintro ⟨earlier, allowed_last⟩ front isPrefix
        cases List.prefix_concat_iff.1 isPrefix with
        | inl whole =>
            rw [whole, run_concat]
            exact (kept_iff _ _ (earlier inputs (List.prefix_refl _))).2 allowed_last
        | inr shorter => exact earlier front shorter

section Ghost

variable {Ghost : Type} (update : State → Input → Ghost → Ghost)

/-- The machine with a history variable beside its state; the machine never reads it. -/
def withGhost : Machine (State × Ghost) Input Output where
  step current input :=
    ((machine.step current.1 input).1, (machine.step current.1 input).2,
      update current.1 input current.2)

@[simp] theorem withGhost_run_fst (current : State × Ghost) (inputs : List Input) :
    ((machine.withGhost update).run current inputs).1 = machine.run current.1 inputs := by
  induction inputs generalizing current with
  | nil => rfl
  | cons input rest ih => exact ih _

@[simp] theorem withGhost_outputs (current : State × Ghost) (inputs : List Input) :
    (machine.withGhost update).outputs current inputs = machine.outputs current.1 inputs := by
  induction inputs generalizing current with
  | nil => rfl
  | cons input rest ih => exact congrArg ((machine.step current.1 input).1 :: ·) (ih _)

theorem withGhost_everyStep_iff (allowed : State → Input → Prop) (current : State × Ghost)
    (inputs : List Input) :
    (machine.withGhost update).EveryStep (fun reached input => allowed reached.1 input) current
        inputs ↔
      machine.EveryStep allowed current.1 inputs := by
  simp only [EveryStep, withGhost_run_fst]

end Ghost

end Machine

end SoaGateway.Foundation
