import SoaGateway.Services.ScanCycle

/-! One slot of the liveness table, with any number of threads inside `Register`,
`RecordHeartbeat` and `ScanAndEvict`, each stopped at any of its accesses to the slot. A scan
loads the beat long before it frees the slot, and a beat is read from the clock before it is
stored. -/

set_option autoImplicit false

namespace SoaGateway.Services

open Foundation

/-- Where a thread stands: inside `Register` with the slot claimed and some fields stored; inside
`FindIndex` with the slot seen active, or one of its numbers matched; with the slot found, the
clock read, or the beat stored; inside the scan with its own reading, the slot seen active, a
warning or a death decided, the death stored, or some fields freed. -/
inductive SlotControl where
  | idle
  | claimed (serviceId eventId : BitVec 16) (onDead : Option DeadCallback) (stores : Nat)
  | searching (serviceId eventId : BitVec 16)
  | matching (eventId : BitVec 16)
  | found
  | stamping (nowMs : Nat)
  | reviving
  | scanning (nowMs : Nat)
  | visiting (nowMs : Nat)
  | warning
  | condemned
  | dying
  | freeing (invoked : Option Invocation) (stores : Nat)

structure SharedSlot (Thread : Type) where
  entry : LivenessEntry
  control : Thread → SlotControl

/-- The first access of a call, or the next access of the call a thread is inside. A reading of
the clock is made by the scan when it begins, and by the other calls between their accesses. -/
inductive SlotAccess (Thread : Type) where
  | register (thread : Thread) (serviceId eventId : BitVec 16) (onDead : Option DeadCallback)
  | recordHeartbeat (thread : Thread) (serviceId eventId : BitVec 16)
  | scanAndEvict (thread : Thread) (nowMs : Nat)
  | proceed (thread : Thread) (nowMs : Nat)

namespace SlotControl

/-- What a scan decides from the beat it loads. -/
def verdict (nowMs lastBeatMs : Nat) : SlotControl :=
  if nowMs < lastBeatMs then .idle
  else if nowMs - lastBeatMs > deadTimeoutMs then .condemned
  else if nowMs - lastBeatMs > heartbeatIntervalMs then .warning
  else .idle

/-- The next access of a thread, and where it stands then. -/
def next (control : SlotControl) (entry : LivenessEntry) (nowMs : Nat) :
    LivenessEntry × SlotControl :=
  match control with
  | .idle => (entry, .idle)
  | .claimed serviceId eventId onDead 0 =>
      ({ entry with serviceId }, .claimed serviceId eventId onDead 1)
  | .claimed serviceId eventId onDead 1 =>
      ({ entry with eventId }, .claimed serviceId eventId onDead 2)
  | .claimed _ _ onDead _ => ({ entry with onDead }, .found)
  | .searching serviceId eventId =>
      (entry, if entry.serviceId = serviceId then .matching eventId else .idle)
  | .matching eventId => (entry, if entry.eventId = eventId then .found else .idle)
  | .found => (entry, .stamping nowMs)
  | .stamping readMs => ({ entry with lastBeatMs := readMs }, .reviving)
  | .reviving => ({ entry with health := .alive }, .idle)
  | .scanning scanMs => (entry, if entry.active then .visiting scanMs else .idle)
  | .visiting scanMs => (entry, verdict scanMs entry.lastBeatMs)
  | .warning => ({ entry with health := .warning }, .idle)
  | .condemned => ({ entry with health := .dead }, .dying)
  | .dying => (entry, .freeing entry.invocation? 0)
  | .freeing invoked 0 => ({ entry with serviceId := invalidServiceId }, .freeing invoked 1)
  | .freeing invoked 1 => ({ entry with eventId := 0 }, .freeing invoked 2)
  | .freeing invoked 2 => ({ entry with onDead := none }, .freeing invoked 3)
  | .freeing _ _ => ({ entry with active := false }, .idle)

/-- The callback that follows when the slot is free. -/
def invokes : SlotControl → Option Invocation
  | .freeing invoked (_ + 3) => invoked
  | _ => none

/-- The thread will store an older beat, or free the slot. -/
def Exposing (beatMs : Nat) : SlotControl → Prop
  | .stamping readMs => readMs < beatMs
  | .scanning scanMs | .visiting scanMs => beatMs + deadTimeoutMs < scanMs
  | .condemned | .dying | .freeing _ _ => True
  | _ => False

end SlotControl

namespace SharedSlot

variable {Thread : Type} [DecidableEq Thread]

def store (state : SharedSlot Thread) (thread : Thread) (entry : LivenessEntry)
    (control : SlotControl) : SharedSlot Thread :=
  { entry, control := Function.update state.control thread control }

/-- A call begins only on a thread that is inside no other. -/
def access (state : SharedSlot Thread) (input : SlotAccess Thread) :
    Option Invocation × SharedSlot Thread :=
  match input with
  | .register thread serviceId eventId onDead =>
      match state.control thread, state.entry.active with
      | .idle, false =>
          (none, state.store thread { state.entry with active := true }
            (.claimed serviceId eventId onDead 0))
      | _, _ => (none, state)
  | .recordHeartbeat thread serviceId eventId =>
      match state.control thread, state.entry.active with
      | .idle, true => (none, state.store thread state.entry (.searching serviceId eventId))
      | _, _ => (none, state)
  | .scanAndEvict thread nowMs =>
      match state.control thread with
      | .idle => (none, state.store thread state.entry (.scanning nowMs))
      | _ => (none, state)
  | .proceed thread nowMs =>
      let (entry, control) := (state.control thread).next state.entry nowMs
      ((state.control thread).invokes, state.store thread entry control)

def machine : Machine (SharedSlot Thread) (SlotAccess Thread) (Option Invocation) := ⟨access⟩

section Uninterrupted

variable {state : SharedSlot Thread} {thread : Thread}

theorem update_idle (idle : state.control thread = .idle) :
    Function.update state.control thread .idle = state.control := by
  rw [← idle]
  exact Function.update_eq_self thread state.control

/-- A call that nothing comes between does what the whole call does. -/
theorem register_uninterrupted (idle : state.control thread = .idle)
    (free : state.entry.active = false) (serviceId eventId : BitVec 16)
    (onDead : Option DeadCallback) (nowMs : Nat) :
    machine.run state (.register thread serviceId eventId onDead ::
        List.replicate 6 (.proceed thread nowMs)) =
      { state with entry := {
          serviceId, eventId, lastBeatMs := nowMs, health := .alive, onDead, active := true } } := by
  have back := update_idle idle
  simp [machine, access, idle, free, store, SlotControl.next, List.replicate, back]

theorem beat_uninterrupted (idle : state.control thread = .idle)
    (active : state.entry.active = true) (nowMs : Nat) :
    machine.run state (.recordHeartbeat thread state.entry.serviceId state.entry.eventId ::
        List.replicate 5 (.proceed thread nowMs)) =
      { state with entry := { state.entry with lastBeatMs := nowMs, health := .alive } } := by
  have back := update_idle idle
  simp [machine, access, idle, active, store, SlotControl.next, List.replicate, back]

theorem scan_uninterrupted (idle : state.control thread = .idle)
    (active : state.entry.active = true) (nowMs : Nat) :
    machine.run state (.scanAndEvict thread nowMs ::
        List.replicate 8 (.proceed thread nowMs)) =
      { state with entry := state.entry.scanned nowMs } := by
  have back := update_idle idle
  by_cases dead : state.entry.Silent nowMs deadTimeoutMs
  · obtain ⟨-, ordered, old⟩ := dead
    simp [machine, access, idle, active, store, SlotControl.next, SlotControl.verdict,
      List.replicate, back, LivenessEntry.scanned, LivenessEntry.Silent, LivenessEntry.free,
      ordered, old, Nat.not_lt.2 ordered]
  · by_cases late : state.entry.Silent nowMs heartbeatIntervalMs
    · have young : ¬ nowMs - state.entry.lastBeatMs > deadTimeoutMs :=
        fun old => dead ⟨active, late.2.1, old⟩
      simp [machine, access, idle, active, store, SlotControl.next, SlotControl.verdict,
        List.replicate, back, LivenessEntry.scanned, LivenessEntry.aged, dead, late,
        Nat.not_lt.2 late.2.1, young, late.2.2]
    · have passed : SlotControl.verdict nowMs state.entry.lastBeatMs = .idle := by
        simp only [LivenessEntry.Silent, active, true_and, not_and] at dead late
        unfold SlotControl.verdict
        split
        · rfl
        · next ordered =>
            rw [if_neg (dead (Nat.not_lt.1 ordered)), if_neg (late (Nat.not_lt.1 ordered))]
      simp [machine, access, idle, active, store, SlotControl.next, List.replicate, back, passed,
        LivenessEntry.scanned, LivenessEntry.aged, dead, late]

end Uninterrupted

/-- What may come: no reading before the beat, and no scan too long after it. -/
def Timely (beatMs : Nat) (_ : SharedSlot Thread) : SlotAccess Thread → Prop
  | .scanAndEvict _ nowMs => nowMs ≤ beatMs + deadTimeoutMs
  | .proceed _ nowMs => beatMs ≤ nowMs
  | _ => True

/-- The slot is held, by a beat as young as this one, and nobody is about to undo that. -/
structure Held (beatMs : Nat) (state : SharedSlot Thread) : Prop where
  active : state.entry.active = true
  young : beatMs ≤ state.entry.lastBeatMs
  covered : ∀ thread, ¬ (state.control thread).Exposing beatMs

namespace Held

variable {beatMs : Nat} {state : SharedSlot Thread}

theorem store (held : state.Held beatMs) {thread : Thread} {entry : LivenessEntry}
    {control : SlotControl} (active : entry.active = true) (young : beatMs ≤ entry.lastBeatMs)
    (covered : ¬ control.Exposing beatMs) : (state.store thread entry control).Held beatMs where
  active := active
  young := young
  covered :=
    (Function.forall_update_iff _ fun _ (control : SlotControl) => ¬ control.Exposing beatMs).2
      ⟨covered, fun other _ => held.covered other⟩

/-- A scan that reads the clock in time finds the beat young enough. -/
theorem verdict_safe {scanMs lastBeatMs : Nat} (young : beatMs ≤ lastBeatMs)
    (early : ¬ beatMs + deadTimeoutMs < scanMs) :
    ¬ (SlotControl.verdict scanMs lastBeatMs).Exposing beatMs := by
  have alive : ¬ scanMs - lastBeatMs > deadTimeoutMs := by omega
  simp only [SlotControl.verdict, alive, ↓reduceIte]
  split
  · exact id
  · split
    · exact id
    · exact id

theorem proceed (held : state.Held beatMs) (thread : Thread) {nowMs : Nat}
    (timely : beatMs ≤ nowMs) : (state.access (.proceed thread nowMs)).2.Held beatMs := by
  have covered := held.covered thread
  simp only [access]
  cases control : state.control thread with
  | idle => exact held.store held.active held.young id
  | claimed serviceId eventId onDead stores =>
      match stores with
      | 0 => exact held.store held.active held.young id
      | 1 => exact held.store held.active held.young id
      | stores + 2 => exact held.store held.active held.young id
  | searching serviceId eventId =>
      refine held.store held.active held.young ?_
      simp only [SlotControl.next]
      split
      · exact id
      · exact id
  | matching eventId =>
      refine held.store held.active held.young ?_
      simp only [SlotControl.next]
      split
      · exact id
      · exact id
  | found => exact held.store held.active held.young (Nat.not_lt.2 timely)
  | stamping readMs =>
      rw [control] at covered
      exact held.store held.active (Nat.not_lt.1 covered) id
  | reviving => exact held.store held.active held.young id
  | scanning scanMs =>
      rw [control] at covered
      refine held.store held.active held.young ?_
      simp only [SlotControl.next, held.active, ↓reduceIte]
      exact covered
  | visiting scanMs =>
      rw [control] at covered
      exact held.store held.active held.young (verdict_safe held.young covered)
  | warning => exact held.store held.active held.young id
  | condemned =>
      rw [control] at covered
      exact absurd trivial covered
  | dying =>
      rw [control] at covered
      exact absurd trivial covered
  | freeing invoked stores =>
      rw [control] at covered
      exact absurd trivial covered

theorem step (held : state.Held beatMs) (input : SlotAccess Thread)
    (timely : Timely beatMs state input) : (state.access input).2.Held beatMs := by
  cases input with
  | register thread serviceId eventId onDead =>
      simp only [access, held.active]
      split
      · next free => cases free
      · exact held
  | recordHeartbeat thread serviceId eventId =>
      simp only [access, held.active]
      split
      · exact held.store held.active held.young id
      · exact held
  | scanAndEvict thread nowMs =>
      simp only [access]
      split
      · exact held.store held.active held.young (Nat.not_lt.2 timely)
      · exact held
  | proceed thread nowMs => exact held.proceed thread timely

theorem run (held : state.Held beatMs) {inputs : List (SlotAccess Thread)}
    (timely : machine.EveryStep (Timely beatMs) state inputs) :
    (machine.run state inputs).Held beatMs :=
  machine.everyStep_preserves timely held fun _ input kept allowed => kept.step input allowed

end Held

/-- Some timely interleaving frees the slot. -/
def Freed (beatMs : Nat) (state : SharedSlot Thread) : Prop :=
  ∃ inputs, machine.EveryStep (Timely beatMs) state inputs ∧
    (machine.run state inputs).entry.active = false

namespace Freed

variable {beatMs : Nat} {state : SharedSlot Thread} {thread : Thread}

theorem first (input : SlotAccess Thread) (timely : Timely beatMs state input)
    (later : (state.access input).2.Freed beatMs) : state.Freed beatMs := by
  obtain ⟨inputs, rest, freed⟩ := later
  exact ⟨input :: inputs, (machine.everyStep_cons_iff _ _ _ _).2 ⟨timely, rest⟩, freed⟩

theorem proceed {entry : LivenessEntry} {before after : SlotControl}
    (control : state.control thread = before) (moves : before.next state.entry beatMs = (entry, after))
    (later : (state.store thread entry after).Freed beatMs) : state.Freed beatMs := by
  refine first (.proceed thread beatMs) (Nat.le_refl beatMs) ?_
  simp only [access, control, moves]
  exact later

end Freed

end SharedSlot

end SoaGateway.Services
