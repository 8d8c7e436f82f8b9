import Mathlib.Data.List.Nodup
import SoaGateway.Services.Manager

/-! The registry over whole runs: entries are only added, each under its own pair of
identifiers, and each moves through the states of an offer. -/

set_option autoImplicit false

namespace SoaGateway.Services

open Foundation

inductive ServiceCall where
  | registerService (desc : ServiceDescriptor)
  | offerService (serviceId instanceId : BitVec 16)
  | stopService (serviceId instanceId : BitVec 16)
  | findService (serviceId instanceId : BitVec 16)

namespace ServiceDescriptor

def key (desc : ServiceDescriptor) : BitVec 16 × BitVec 16 := (desc.serviceId, desc.instanceId)

end ServiceDescriptor

/-- The moves of one entry that a call can make. -/
inductive StateMove : ServiceCall → ServiceDescriptor → ServiceState → Prop where
  | keep (call : ServiceCall) (entry : ServiceDescriptor) : StateMove call entry entry.state
  | offer (entry : ServiceDescriptor) (down : entry.state = .down) :
      StateMove (.offerService entry.serviceId entry.instanceId) entry .available
  | announce (entry : ServiceDescriptor) (available : entry.state = .available) :
      StateMove (.stopService entry.serviceId entry.instanceId) entry .stopping
  | complete (entry : ServiceDescriptor) (stopping : entry.state = .stopping) :
      StateMove (.stopService entry.serviceId entry.instanceId) entry .down

namespace StateMove

variable {call : ServiceCall} {entry : ServiceDescriptor} {state : ServiceState}

theorem stay (call : ServiceCall) (same : entry.state = state) : StateMove call entry state := by
  rw [← same]
  exact .keep call entry

theorem unrequested (move : StateMove call entry state) (before : entry.state ≠ .requested) :
    state ≠ .requested := by
  cases move with
  | keep => exact before
  | offer => exact nofun
  | announce => exact nofun
  | complete => exact nofun

end StateMove

namespace SoaServiceManager

variable {manager : SoaServiceManager}

/-- A successful lookup answers with the place of the descriptor. -/
def serve (manager : SoaServiceManager) (call : ServiceCall) :
    Except ErrorCode (Option Nat) × SoaServiceManager :=
  match call with
  | .registerService desc =>
      let (result, after) := manager.registerService desc
      (result.map fun _ => none, after)
  | .offerService serviceId instanceId =>
      let (result, after) := manager.offerService serviceId instanceId
      (result.map fun _ => none, after)
  | .stopService serviceId instanceId =>
      let (result, after) := manager.stopService serviceId instanceId
      (result.map fun _ => none, after)
  | .findService serviceId instanceId =>
      ((manager.findService serviceId instanceId).map some, manager)

def services : Machine SoaServiceManager ServiceCall (Except ErrorCode (Option Nat)) := ⟨serve⟩

def started : SoaServiceManager := construct.init.2

structure Registered (manager : SoaServiceManager) : Prop where
  initialised : manager.initialised = true
  bounded : manager.registry.length ≤ maxServices
  distinct : (manager.registry.map ServiceDescriptor.key).Nodup
  unrequested : ∀ entry ∈ manager.registry, entry.state ≠ .requested

/-- What one call may do: nothing if it fails, one state move of the entry it addresses,
or a new entry, down, behind the others. -/
structure Conforms (manager : SoaServiceManager) (call : ServiceCall) : Prop where
  failed : ∀ code, (manager.serve call).1 = .error code → (manager.serve call).2 = manager
  framed : (manager.serve call).2 = { manager with registry := (manager.serve call).2.registry }
  kept : ∀ (index : Nat) (entry : ServiceDescriptor), manager.registry[index]? = some entry →
    ∃ state, (manager.serve call).2.registry[index]? = some { entry with state } ∧
      StateMove call entry state
  added : ∀ (index : Nat) (entry : ServiceDescriptor), manager.registry.length ≤ index →
    (manager.serve call).2.registry[index]? = some entry →
    ∃ desc, call = .registerService desc ∧ index = manager.registry.length ∧
      entry = { desc with state := .down }

theorem findServiceIndex_some {serviceId instanceId : BitVec 16} {index : Nat}
    (found : manager.findServiceIndex serviceId instanceId = some index) :
    ∃ entry, manager.registry[index]? = some entry ∧ entry.serviceId = serviceId ∧
      entry.instanceId = instanceId := by
  obtain ⟨inside, met, -⟩ := List.findIdx?_eq_some_iff_getElem.1 found
  rw [Bool.and_eq_true, beq_iff_eq, beq_iff_eq] at met
  exact ⟨_, List.getElem?_eq_getElem inside, met⟩

theorem findServiceIndex_none {serviceId instanceId : BitVec 16}
    (missing : manager.findServiceIndex serviceId instanceId = none) :
    (serviceId, instanceId) ∉ manager.registry.map ServiceDescriptor.key := by
  intro member
  obtain ⟨entry, listed, same⟩ := List.mem_map.1 member
  have unmet := List.findIdx?_eq_none_iff.1 missing entry listed
  cases same
  simp at unmet

theorem conforms_unchanged {call : ServiceCall} (same : (manager.serve call).2 = manager) :
    manager.Conforms call where
  failed _ _ := same
  framed := by rw [same]
  kept index entry found := ⟨entry.state, by rw [same]; exact found, .keep call entry⟩
  added index entry outside found := by
    rw [same, List.getElem?_eq_none outside] at found
    cases found

/-- The frame of a state change: only the entry at `index` moves. -/
theorem conforms_setState {call : ServiceCall} {index : Nat} {move : ServiceState → ServiceState}
    (succeeds : (manager.serve call).1 = .ok none)
    (changed : (manager.serve call).2 = manager.setState index move)
    (allowed : ∀ entry, manager.registry[index]? = some entry →
      StateMove call entry (move entry.state)) :
    manager.Conforms call where
  failed code failure := by
    rw [succeeds] at failure
    cases failure
  framed := by
    rw [changed]
    rfl
  kept place entry found := by
    rw [changed, setState, List.getElem?_modify, found]
    by_cases here : index = place
    · subst here
      exact ⟨move entry.state, by simp, allowed entry found⟩
    · exact ⟨entry.state, by simp [here], .keep call entry⟩
  added place entry outside found := by
    rw [changed, setState, List.getElem?_modify, List.getElem?_eq_none outside] at found
    cases found

/-- Everything a call can do to an initialised manager. -/
theorem serve_cases (ready : manager.initialised = true) (call : ServiceCall) :
    ((manager.serve call).2 = manager ∧ ((∃ code, (manager.serve call).1 = .error code) ∨
        ∃ serviceId instanceId, call = .findService serviceId instanceId)) ∨
      (∃ index entry move, manager.registry[index]? = some entry ∧
        (manager.serve call).1 = .ok none ∧ (manager.serve call).2 = manager.setState index move ∧
        (call = .offerService entry.serviceId entry.instanceId ∧ move = offered ∨
          call = .stopService entry.serviceId entry.instanceId ∧ move = stopped)) ∨
      ∃ desc, call = .registerService desc ∧
        desc.key ∉ manager.registry.map ServiceDescriptor.key ∧
        manager.registry.length < maxServices ∧ (manager.serve call).1 = .ok none ∧
        (manager.serve call).2 =
          { manager with registry := manager.registry ++ [{ desc with state := .down }] } := by
  cases call with
  | registerService desc =>
      simp only [serve, registerService, ready, Bool.not_true, Bool.false_eq_true, ↓reduceIte]
      cases found : manager.findServiceIndex desc.serviceId desc.instanceId with
      | some index => exact .inl ⟨rfl, .inl ⟨_, rfl⟩⟩
      | none =>
          by_cases full : maxServices ≤ manager.registry.length
          · simp only [full, Option.isSome_none, Bool.false_eq_true, ↓reduceIte]
            exact .inl ⟨trivial, .inl ⟨_, rfl⟩⟩
          · simp only [full, Option.isSome_none, Bool.false_eq_true, ↓reduceIte]
            exact .inr (.inr ⟨desc, rfl, findServiceIndex_none found, Nat.lt_of_not_le full, rfl,
              rfl⟩)
  | offerService serviceId instanceId =>
      simp only [serve, offerService, ready, Bool.not_true, Bool.false_eq_true, ↓reduceIte]
      cases found : manager.findServiceIndex serviceId instanceId with
      | none => exact .inl ⟨rfl, .inl ⟨_, rfl⟩⟩
      | some index =>
          obtain ⟨entry, listed, rfl, rfl⟩ := findServiceIndex_some found
          exact .inr (.inl ⟨index, entry, offered, listed, rfl, rfl, .inl ⟨rfl, rfl⟩⟩)
  | stopService serviceId instanceId =>
      simp only [serve, stopService, ready, Bool.not_true, Bool.false_eq_true, ↓reduceIte]
      cases found : manager.findServiceIndex serviceId instanceId with
      | none => exact .inl ⟨rfl, .inl ⟨_, rfl⟩⟩
      | some index =>
          obtain ⟨entry, listed, rfl, rfl⟩ := findServiceIndex_some found
          exact .inr (.inl ⟨index, entry, stopped, listed, rfl, rfl, .inr ⟨rfl, rfl⟩⟩)
  | findService serviceId instanceId => exact .inl ⟨rfl, .inr ⟨_, _, rfl⟩⟩

theorem offered_move {entry : ServiceDescriptor} (unrequested : entry.state ≠ .requested) :
    StateMove (.offerService entry.serviceId entry.instanceId) entry (offered entry.state) := by
  cases state : entry.state with
  | down => exact .offer entry state
  | requested => exact absurd state unrequested
  | available => exact .stay _ state
  | stopping => exact .stay _ state

theorem stopped_move (entry : ServiceDescriptor) :
    StateMove (.stopService entry.serviceId entry.instanceId) entry (stopped entry.state) := by
  cases state : entry.state with
  | down => exact .stay _ state
  | requested => exact .stay _ state
  | available => exact .announce entry state
  | stopping => exact .complete entry state

theorem Registered.move (registered : Registered manager) {call : ServiceCall} {index : Nat}
    {entry : ServiceDescriptor} {move : ServiceState → ServiceState}
    (listed : manager.registry[index]? = some entry)
    (addressed : call = .offerService entry.serviceId entry.instanceId ∧ move = offered ∨
      call = .stopService entry.serviceId entry.instanceId ∧ move = stopped) :
    StateMove call entry (move entry.state) := by
  have unrequested := registered.unrequested entry (List.mem_of_getElem? listed)
  obtain ⟨rfl, rfl⟩ | ⟨rfl, rfl⟩ := addressed
  · exact offered_move unrequested
  · exact stopped_move entry

theorem Registered.conforms (registered : Registered manager) (call : ServiceCall) :
    Conforms manager call := by
  obtain ⟨same, -⟩ | ⟨index, entry, move, listed, succeeds, changed, addressed⟩ |
    ⟨desc, rfl, fresh, room, succeeds, changed⟩ := serve_cases registered.initialised call
  · exact conforms_unchanged same
  · refine conforms_setState succeeds changed fun other found => ?_
    cases listed.symm.trans found
    exact registered.move listed addressed
  · refine ⟨fun code failure => ?_, ?_, fun index entry found => ?_,
      fun index entry outside found => ?_⟩
    · rw [succeeds] at failure
      cases failure
    · rw [changed]
    · rw [changed, List.getElem?_append_left (List.getElem?_eq_some_iff.1 found).1]
      exact ⟨entry.state, found, .keep _ entry⟩
    · rw [changed, List.getElem?_append_right outside] at found
      obtain ⟨here, same⟩ := List.getElem?_eq_some_iff.1 found
      simp only [List.length_singleton] at here
      refine ⟨desc, rfl, by omega, ?_⟩
      rw [← same]
      exact List.getElem_singleton _

theorem setState_keys (index : Nat) (move : ServiceState → ServiceState) :
    (manager.setState index move).registry.map ServiceDescriptor.key =
      manager.registry.map ServiceDescriptor.key := by
  refine List.ext_getElem? fun place => ?_
  simp only [setState, List.getElem?_map, List.getElem?_modify]
  split
  · cases manager.registry[place]? with
    | none => rfl
    | some entry => rfl
  · simp

theorem Registered.step (registered : Registered manager) (call : ServiceCall) :
    Registered (manager.serve call).2 := by
  have conforms := registered.conforms call
  have ready : (manager.serve call).2.initialised = true := by
    rw [conforms.framed]
    exact registered.initialised
  have unrequested : ∀ entry ∈ (manager.serve call).2.registry, entry.state ≠ .requested := by
    intro entry member
    obtain ⟨index, found⟩ := List.mem_iff_getElem?.1 member
    cases old : manager.registry[index]? with
    | some earlier =>
        obtain ⟨state, moved, move⟩ := conforms.kept index earlier old
        cases found.symm.trans moved
        exact move.unrequested (registered.unrequested earlier (List.mem_of_getElem? old))
    | none =>
        obtain ⟨desc, -, -, rfl⟩ := conforms.added index entry (List.getElem?_eq_none_iff.1 old) found
        exact nofun
  obtain ⟨same, -⟩ | ⟨index, entry, move, -, -, changed, -⟩ | ⟨desc, -, fresh, room, -, changed⟩ :=
    serve_cases registered.initialised call
  · rw [same]
    exact registered
  · refine ⟨ready, ?_, ?_, unrequested⟩
    · rw [changed, setState, List.length_modify]
      exact registered.bounded
    · rw [changed, setState_keys]
      exact registered.distinct
  · refine ⟨ready, ?_, ?_, unrequested⟩
    · rw [changed, List.length_append, List.length_singleton]
      exact room
    · rw [changed, List.map_append, List.map_singleton]
      refine List.nodup_append.2 ⟨registered.distinct, List.nodup_singleton _, ?_⟩
      intro key member other single same
      rw [List.mem_singleton.1 single] at same
      exact fresh (same ▸ member)

theorem started_registered : Registered started where
  initialised := rfl
  bounded := Nat.zero_le _
  distinct := List.nodup_nil
  unrequested _ member := absurd member List.not_mem_nil

theorem run_registered (calls : List ServiceCall) : Registered (services.run started calls) :=
  services.run_preserves started_registered (fun _ call registered => registered.step call) calls

/-- An entry keeps its place and its fields through a run; only its state may differ. -/
theorem run_keeps {index : Nat} {entry : ServiceDescriptor} (registered : Registered manager)
    (found : manager.registry[index]? = some entry) (calls : List ServiceCall) :
    ∃ state, (services.run manager calls).registry[index]? = some { entry with state } := by
  induction calls generalizing manager entry with
  | nil => exact ⟨entry.state, found⟩
  | cons call rest ih =>
      obtain ⟨state, moved, -⟩ := (registered.conforms call).kept index entry found
      have later := ih (registered.step call) moved
      exact later

/-- Every run of registry calls keeps the pairs of identifiers distinct and no service
requested, every call conforms, and every entry keeps its place. -/
theorem registry_invariant (calls : List ServiceCall) :
    let reached := services.run started calls
    (reached.registry.map ServiceDescriptor.key).Nodup ∧
      (∀ entry ∈ reached.registry, entry.state ≠ .requested) ∧
      services.EveryStep Conforms started calls ∧
      ∀ front, front <+: calls → ∀ (index : Nat) (entry : ServiceDescriptor),
        (services.run started front).registry[index]? = some entry →
          ∃ state, reached.registry[index]? = some { entry with state } := by
  intro reached
  have registered := run_registered calls
  refine ⟨registered.distinct, registered.unrequested, ?_, ?_⟩
  · intro before call after split
    exact (run_registered before).conforms call
  · rintro front ⟨back, rfl⟩ index entry found
    have later := run_keeps (run_registered front) found back
    rwa [← services.run_append] at later

end SoaServiceManager

end SoaGateway.Services
