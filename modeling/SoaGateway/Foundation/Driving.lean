import SoaGateway.Foundation.Machine

/-! A machine that drives another: some of its steps hand commands on, and the second
machine takes them in between commands of its own. Each machine runs as it would alone, the
second on an interleaving that keeps the order of both sources. -/

set_option autoImplicit false

namespace SoaGateway.Foundation

namespace Machine

variable {State Input Output Other Command Answer : Type}

/-- The first machine answers before its commands are carried out. -/
def driving (first : Machine State Input Output) (second : Machine Other Command Answer)
    (forward : State → Input → List Command) :
    Machine (State × Other) (Input ⊕ Command) (Output ⊕ Answer) where
  step := fun (state, other) input =>
    match input with
    | .inl input =>
        (.inl (first.step state input).1,
          ((first.step state input).2, second.run other (forward state input)))
    | .inr command =>
        (.inr (second.step other command).1, (state, (second.step other command).2))

/-- What a driven machine is given: a command handed on, or one of its own. -/
abbrev Received (Command : Type) := Command ⊕ Command

def commands (received : List (Received Command)) : List Command :=
  received.map (Sum.elim id id)

def forwarded (received : List (Received Command)) : List Command :=
  received.filterMap Sum.getLeft?

def direct (received : List (Received Command)) : List Command :=
  received.filterMap Sum.getRight?

variable (first : Machine State Input Output) (second : Machine Other Command Answer)
  (forward : State → Input → List Command)

def received (state : State) : List (Input ⊕ Command) → List (Received Command)
  | [] => []
  | .inl input :: rest =>
      (forward state input).map .inl ++ received (first.step state input).2 rest
  | .inr command :: rest => .inr command :: received state rest

/-- The commands handed on along a run of the first machine alone. -/
def handedOn (state : State) : List Input → List Command
  | [] => []
  | input :: rest => forward state input ++ handedOn (first.step state input).2 rest

theorem commands_append (front back : List (Received Command)) :
    commands (front ++ back) = commands front ++ commands back :=
  List.map_append

@[simp] theorem commands_inl (given : List Command) :
    commands (given.map Sum.inl) = given := by
  simp [commands]

theorem driving_run (state : State) (other : Other) (inputs : List (Input ⊕ Command)) :
    (first.driving second forward).run (state, other) inputs =
      (first.run state (inputs.filterMap Sum.getLeft?),
        second.run other (commands (first.received forward state inputs))) := by
  induction inputs generalizing state other with
  | nil => rfl
  | cons input rest ih =>
      rw [run_cons]
      cases input with
      | inl input =>
          rw [received, commands_append, commands_inl, run_append]
          exact ih _ _
      | inr command => exact ih _ _

/-- The second machine loses none of its own commands, and keeps their order. -/
theorem received_direct (state : State) (inputs : List (Input ⊕ Command)) :
    direct (first.received forward state inputs) = inputs.filterMap Sum.getRight? := by
  induction inputs generalizing state with
  | nil => rfl
  | cons input rest ih =>
      cases input with
      | inl input =>
          have none_own : (forward state input).filterMap
              (Sum.getRight? ∘ (Sum.inl : Command → Received Command)) = [] := by
            simp
          rw [received, direct, List.filterMap_append, List.filterMap_map, none_own]
          exact ih _
      | inr command => exact congrArg (command :: ·) (ih state)

/-- What is handed on depends on the first machine alone. -/
theorem received_forwarded (state : State) (inputs : List (Input ⊕ Command)) :
    forwarded (first.received forward state inputs) =
      first.handedOn forward state (inputs.filterMap Sum.getLeft?) := by
  induction inputs generalizing state with
  | nil => rfl
  | cons input rest ih =>
      cases input with
      | inl input =>
          have all_handed : (forward state input).filterMap
              (Sum.getLeft? ∘ (Sum.inl : Command → Received Command)) = forward state input := by
            simp [Function.comp_def]
          rw [received, forwarded, List.filterMap_append, List.filterMap_map, all_handed]
          exact congrArg (forward state input ++ ·) (ih _)
      | inr command => exact ih state

end Machine

end SoaGateway.Foundation
