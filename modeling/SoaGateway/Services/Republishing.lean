import SoaGateway.Services.DispatchBound

/-! Handlers that publish from inside the dispatch loop. Each release makes room for what the next
handler publishes, so that a full queue dispatches more events than it has cells, and a handler
that publishes its own event again keeps the loop running forever. -/

set_option autoImplicit false

namespace SoaGateway.Services

open Foundation

/-- The loop with one subscriber, at a point of its round. -/
structure Stage (current : Dispatching) (entry : SubscriberEntry) (control : DispatchControl)
    (waiting : List SoaEvent) (total : Nat) : Prop where
  tracked : Tracked current
  control_eq : current.1.control = control
  subscribers_eq : current.1.manager.subscribers = [entry]
  pending_eq : current.2.pending = waiting
  accepted_length : current.2.accepted.length = total

section Round

variable {handlers : Handlers} {current : Dispatching} {entry : SubscriberEntry} {event : SoaEvent}
  {handler : EventHandler} {rest : List SoaEvent} {tail total : Nat}

theorem Stage.busy {control : DispatchControl} {waiting : List SoaEvent}
    (stage : Stage current entry control waiting total) (inside : control ≠ .idle) :
    ¬ Idle current :=
  fun idle => inside (stage.control_eq.symm.trans idle)

/-- A pass between two stages, with what its handler gets accepted. -/
theorem Stage.pass (handlers : Handlers) {control next : DispatchControl} {waiting left : List SoaEvent}
    (stage : Stage current entry control waiting total)
    (moved : (tracker.step current .processEvents).2.1.control = next)
    (kept : (tracker.step current .processEvents).2.1.manager.subscribers = [entry])
    (accepted : (tracker.step current .processEvents).2.2.accepted = current.2.accepted)
    (pending : (tracker.step current .processEvents).2.2.pending = left) :
    let published := publications handlers (tracker.step current .processEvents).2.2
      (tracker.step current .processEvents).1
    ∃ extra, Stage (advance handlers current) entry next (left ++ extra) (total + extra.length) ∧
      extra.Sublist published ∧
      (published ≠ [] → extra = [] → left.length = maxPendingEvents - 1) := by
  obtain ⟨extra, publishes, sublist, first⟩ := advance_publishes stage.tracked handlers
  refine ⟨extra, ?_, sublist, fun some_event none => ?_⟩
  · refine ⟨stage.tracked.advance handlers, publishes.control.trans moved,
      publishes.subscribers.trans kept, ?_, ?_⟩
    · rw [publishes.pending_eq (stage.tracked.step .processEvents), pending]
    · rw [publishes.accepted, accepted, List.length_append, stage.accepted_length]
  · rw [← pending]
    exact first some_event none

theorem Stage.take (handlers : Handlers)
    (stage : Stage current entry (.polling 1) (event :: rest) total) :
    ∃ tail, Stage (advance handlers current) entry (.matching 1 tail 0) (event :: rest) total := by
  rcases pass_cases stage.tracked (stage.busy nofun) with ⟨subCount, -, drained, -⟩ |
    ⟨subCount, control, -, none, taken, same, history⟩ | ⟨_, _, _, _, _, control, -⟩ |
    ⟨_, _, _, _, control, -⟩
  · rw [stage.pending_eq] at drained
    cases drained
  · cases control.symm.trans stage.control_eq
    have stays := congrArg SoaServiceManager.subscribers same
    obtain ⟨extra, reached, sublist, -⟩ := stage.pass handlers taken
      (stays.trans stage.subscribers_eq) (congrArg DispatchHistory.accepted history)
      ((congrArg DispatchHistory.pending history).trans stage.pending_eq)
    rw [publications_none handlers _ none] at sublist
    obtain rfl := List.sublist_nil.1 sublist
    exact ⟨_, by simpa using reached⟩
  · cases control.symm.trans stage.control_eq
  · cases control.symm.trans stage.control_eq

/-- The handler of the subscriber runs, and the event stays queued behind it. -/
theorem Stage.test (stage : Stage current entry (.matching 1 tail 0) (event :: rest) total)
    (addressed : entry.addressedBy event = true) (armed : entry.handler = some handler) :
    ∃ history extra,
      Stage (advance handlers current) entry (.matching 1 tail 1) (event :: rest ++ extra)
        (total + extra.length) ∧
      extra.Sublist (handlers history handler event) ∧
      (handlers history handler event ≠ [] → extra = [] →
        (event :: rest).length = maxPendingEvents - 1) := by
  rcases pass_cases stage.tracked (stage.busy nofun) with ⟨_, control, -⟩ | ⟨_, control, -⟩ |
    ⟨subCount, slot, index, front, back, control, -, pending, handled, tested, same, accepted,
      dequeued⟩ | ⟨_, _, _, _, control, -⟩
  · cases control.symm.trans stage.control_eq
  · cases control.symm.trans stage.control_eq
  · cases control.symm.trans stage.control_eq
    cases pending.symm.trans stage.pending_eq
    have stays := congrArg SoaServiceManager.subscribers same
    have waits : (tracker.step current .processEvents).2.2.pending = event :: rest := by
      rw [DispatchHistory.pending, accepted, dequeued, ← DispatchHistory.pending, stage.pending_eq]
    have run : (tracker.step current .processEvents).1.handled = some (entry, event) := by
      rw [handled, stage.subscribers_eq]
      simp [SubscriberEntry.receives, addressed, armed]
    have published : publications handlers (tracker.step current .processEvents).2.2
        (tracker.step current .processEvents).1 =
          handlers (tracker.step current .processEvents).2.2 handler event := by
      simp [publications, run, armed]
    obtain ⟨extra, reached, sublist, first⟩ :=
      stage.pass handlers tested (stays.trans stage.subscribers_eq) accepted waits
    rw [published] at sublist first
    exact ⟨_, extra, reached, sublist, first⟩
  · cases control.symm.trans stage.control_eq

theorem Stage.release (handlers : Handlers)
    (stage : Stage current entry (.matching 1 tail 1) (event :: rest) total) :
    Stage (advance handlers current) entry (.polling 1) rest total := by
  rcases pass_cases stage.tracked (stage.busy nofun) with ⟨_, control, -⟩ | ⟨_, control, -⟩ |
    ⟨_, _, _, _, _, control, more, -⟩ |
    ⟨subCount, slot, front, back, control, pending, none, released, stays, accepted, dequeued⟩
  · cases control.symm.trans stage.control_eq
  · cases control.symm.trans stage.control_eq
  · cases control.symm.trans stage.control_eq
    exact absurd more (Nat.lt_irrefl _)
  · cases control.symm.trans stage.control_eq
    cases pending.symm.trans stage.pending_eq
    obtain ⟨extra, reached, sublist, -⟩ :=
      stage.pass handlers released (stays.trans stage.subscribers_eq) accepted
        (DispatchHistory.pending_released stage.pending_eq accepted dequeued)
    rw [publications_none handlers _ none] at sublist
    obtain rfl := List.sublist_nil.1 sublist
    simpa using reached

end Round

theorem Reached.tracked {current : Dispatching} (reached : Reached current) : Tracked current := by
  obtain ⟨-, calls, registry, rfl⟩ := reached
  obtain ⟨queue, accounted⟩ := run_accounted calls
  exact ⟨queue, accounted.initialised, accounted.subscribed, accounted.handlers, accounted.ring,
    accounted.consistent, accounted.accepted, accounted.handled⟩

/-- A handler that publishes the first time it runs, and never again. -/
def publishOnce (only : EventHandler) (news : SoaEvent) : Handlers := fun history handler _ =>
  if handler = only ∧ history.handled.countP (fun run => run.1.handler == some only) = 1 then [news]
  else []

/-- A handler that publishes once keeps within the budget of every queue. -/
theorem publishOnce_frugal (only : EventHandler) (news : SoaEvent) {current : Dispatching}
    (tracked : Tracked current) : Frugal (publishOnce only news) current := by
  let runs := fun handled : List (SubscriberEntry × SoaEvent) =>
    handled.countP fun run => run.1.handler == some only
  refine ⟨fun _ => True, fun handled => if runs handled = 0 then 1 else 0, fun _ _ => trivial,
    ?_, ?_⟩
  · intro history earlier entry handler event turn _ _
    have counted : runs history.handled = runs earlier + if handler = only then 1 else 0 := by
      simp only [runs, turn.handled, List.countP_append, List.countP_singleton, turn.armed,
        beq_iff_eq, Option.some.injEq]
    refine ⟨fun _ _ => trivial, ?_⟩
    by_cases same : handler = only
    · rw [if_pos same] at counted
      simp only [publishOnce, same, true_and, show history.handled.countP _ = _ from counted]
      split <;> split <;> simp_all
    · rw [if_neg same, Nat.add_zero] at counted
      simp [publishOnce, same, counted]
  · have few := tracked.pending_length
    split <;> omega

end SoaGateway.Services
