import SoaGateway.Foundation.Driving

/-! Operations that take several steps and seem to take one. The fine machine answers an
operation when it completes; a relation to the coarse machine that every other step leaves alone,
and every completion moves along, makes the two give the same answers over every run. -/

set_option autoImplicit false

namespace SoaGateway.Foundation

variable {State Input Output Other Command : Type}

/-- The operation that a step of the fine machine completes, if it completes one. -/
abbrev Completion (State Input Command : Type) := State → Input → Option Command

namespace Machine

/-- The operations completed along a run, in the order of their completion. -/
def completed (fine : Machine State Input (Option Output))
    (completes : Completion State Input Command) (state : State) (inputs : List Input) :
    List Command :=
  fine.handedOn (fun current input => (completes current input).toList) state inputs

/-- What the answers carry reaches the callers in order, but for what is still on its way, when
each step keeps it so. -/
theorem handedOn_conserves {Caller Carried : Type} (fine : Machine State Input (Option Output))
    {returns : State → Input → List Caller} {received : Caller → List Carried}
    {carried : Output → List Carried} (pending : State → List Carried)
    (kept : ∀ state input, (returns state input).flatMap received ++
        pending (fine.step state input).2 =
      pending state ++ (fine.step state input).1.toList.flatMap carried)
    (state : State) (inputs : List Input) :
    (fine.handedOn returns state inputs).flatMap received ++ pending (fine.run state inputs) =
      pending state ++ ((fine.outputs state inputs).filterMap id).flatMap carried := by
  induction inputs generalizing state with
  | nil => exact (List.append_nil _).symm
  | cons input rest ih =>
      have answered : (fine.outputs state (input :: rest)).filterMap id =
          (fine.step state input).1.toList ++
            (fine.outputs (fine.step state input).2 rest).filterMap id := by
        rw [outputs_cons]
        cases answer : (fine.step state input).1 with
        | none => exact List.filterMap_cons_none rfl
        | some output => exact List.filterMap_cons_some rfl
      rw [answered, handedOn, run_cons, List.flatMap_append, List.flatMap_append,
        ← List.append_assoc (pending state), ← kept, List.append_assoc, List.append_assoc]
      exact congrArg _ (ih (fine.step state input).2)

end Machine

/-- A weak compare-exchange may fail although it finds what it expects. It returns whether it
wrote, what it found, and the value of the cell behind it. -/
def compareExchangeWeak {Value : Type} [DecidableEq Value] (cell expected desired : Value)
    (spurious : Bool) : Bool × Value × Value :=
  if cell = expected ∧ spurious = false then (true, expected, desired) else (false, cell, cell)

theorem compareExchangeWeak_cases {Value : Type} [DecidableEq Value]
    (cell expected desired : Value) (spurious : Bool) :
    (cell = expected ∧ spurious = false ∧
        compareExchangeWeak cell expected desired spurious = (true, cell, desired)) ∨
      (¬ (cell = expected ∧ spurious = false) ∧
        compareExchangeWeak cell expected desired spurious = (false, cell, cell)) := by
  by_cases wrote : cell = expected ∧ spurious = false
  · obtain ⟨rfl, genuine⟩ := wrote
    exact .inl ⟨rfl, genuine, if_pos ⟨rfl, genuine⟩⟩
  · exact .inr ⟨wrote, if_neg wrote⟩

/-- The relation need only survive the steps that are allowed. -/
structure Linearises (fine : Machine State Input (Option Output))
    (coarse : Machine Other Command Output) (completes : Completion State Input Command)
    (allowed : State → Input → Prop) (related : State → Other → Prop) : Prop where
  silent : ∀ {state other input}, related state other → completes state input = none →
    (fine.step state input).1 = none ∧ related (fine.step state input).2 other
  answers : ∀ {state other input command}, related state other → allowed state input →
    completes state input = some command →
    (fine.step state input).1 = some (coarse.step other command).1 ∧
      related (fine.step state input).2 (coarse.step other command).2

namespace Linearises

variable {fine : Machine State Input (Option Output)} {coarse : Machine Other Command Output}
  {completes : Completion State Input Command} {allowed : State → Input → Prop}
  {related : State → Other → Prop}

/-- The run rule: the answers given are those of the coarse run of the completed operations. -/
theorem run (linearises : Linearises fine coarse completes allowed related) {state : State}
    {other : Other} (start : related state other) {inputs : List Input}
    (every : fine.EveryStep allowed state inputs) :
    (fine.outputs state inputs).filterMap id =
        coarse.outputs other (fine.completed completes state inputs) ∧
      related (fine.run state inputs)
        (coarse.run other (fine.completed completes state inputs)) := by
  induction inputs generalizing state other with
  | nil => exact ⟨rfl, start⟩
  | cons input rest ih =>
      obtain ⟨fits, later⟩ := (fine.everyStep_cons_iff allowed state input rest).1 every
      cases operation : completes state input with
      | none =>
          obtain ⟨unanswered, kept⟩ := linearises.silent start operation
          have passed : fine.completed completes state (input :: rest) =
              fine.completed completes (fine.step state input).2 rest := by
            rw [Machine.completed, Machine.handedOn, operation]
            rfl
          rw [passed, Machine.outputs_cons, unanswered]
          exact ih kept later
      | some command =>
          obtain ⟨answered, moved⟩ := linearises.answers start fits operation
          have taken : fine.completed completes state (input :: rest) =
              command :: fine.completed completes (fine.step state input).2 rest := by
            rw [Machine.completed, Machine.handedOn, operation]
            rfl
          rw [taken, Machine.outputs_cons, answered, Machine.outputs_cons]
          obtain ⟨same, reached⟩ := ih moved later
          exact ⟨congrArg _ same, reached⟩

end Linearises

end SoaGateway.Foundation
