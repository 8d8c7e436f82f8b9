import SoaGateway.Services.Registry

/-! Offers over whole runs. An offer that comes between the two calls of a stop is answered with
`Ok` and forgotten; every other successful offer makes its service available until it is stopped. -/

set_option autoImplicit false

namespace SoaGateway.Services

open Foundation

inductive Lifecycle where
  | registered
  | offered
  | stopped
deriving DecidableEq, Repr

abbrev ServiceTrace := List (ServiceCall × Except ErrorCode (Option Nat))

/-- What a call answered with `Ok` does in the life of a service. -/
def lifecycle? (key : BitVec 16 × BitVec 16) :
    ServiceCall × Except ErrorCode (Option Nat) → Option Lifecycle
  | (.registerService desc, reply) =>
      if reply.isOk = true ∧ desc.key = key then some .registered else none
  | (.offerService serviceId instanceId, reply) =>
      if reply.isOk = true ∧ (serviceId, instanceId) = key then some .offered else none
  | (.stopService serviceId instanceId, reply) =>
      if reply.isOk = true ∧ (serviceId, instanceId) = key then some .stopped else none
  | (.findService _ _, _) => none

def lastLifecycle (key : BitVec 16 × BitVec 16) (trace : ServiceTrace) : Option Lifecycle :=
  (trace.filterMap (lifecycle? key)).getLast?

@[simp] theorem lastLifecycle_concat (key : BitVec 16 × BitVec 16) (trace : ServiceTrace)
    (entry : ServiceCall × Except ErrorCode (Option Nat)) :
    lastLifecycle key (trace ++ [entry]) = (lifecycle? key entry).or (lastLifecycle key trace) := by
  cases found : lifecycle? key entry <;> simp [lastLifecycle, found]

namespace SoaServiceManager

variable {manager : SoaServiceManager} {trace : ServiceTrace} {call : ServiceCall}

/-- A service whose last successful call was an offer is found to be available. -/
def Effective (manager : SoaServiceManager) (trace : ServiceTrace) : Prop :=
  ∀ serviceId instanceId, lastLifecycle (serviceId, instanceId) trace = some .offered →
    ∃ index entry, manager.findService serviceId instanceId = .ok index ∧
      manager.registry[index]? = some entry ∧ entry.state = .available

/-- An offer to a service that is being stopped makes it available or is refused. -/
def HonoursOffer (manager : SoaServiceManager) (call : ServiceCall) : Prop :=
  ∀ (index : Nat) (entry : ServiceDescriptor), manager.registry[index]? = some entry →
    entry.state = .stopping → call = .offerService entry.serviceId entry.instanceId →
    (∃ code, (manager.serve call).1 = .error code) ∨
      ∃ after, (manager.serve call).2.registry[index]? = some after ∧ after.state = .available

/-- The call is no offer to a service that is being stopped. -/
def OffersOutsideStop (manager : SoaServiceManager) (call : ServiceCall) : Prop :=
  ∀ entry ∈ manager.registry, entry.state = .stopping →
    call ≠ .offerService entry.serviceId entry.instanceId

theorem lifecycle?_refused (key : BitVec 16 × BitVec 16) (call : ServiceCall) (code : ErrorCode) :
    lifecycle? key (call, .error code) = none := by
  cases call with
  | registerService desc => simp [lifecycle?]
  | offerService serviceId instanceId => simp [lifecycle?]
  | stopService serviceId instanceId => simp [lifecycle?]
  | findService serviceId instanceId => rfl

/-- The entries are told apart by their keys. -/
theorem Registered.same_place (registered : Registered manager) {index other : Nat}
    {entry entry' : ServiceDescriptor} (listed : manager.registry[index]? = some entry)
    (listed' : manager.registry[other]? = some entry') (same : entry.key = entry'.key) :
    index = other := by
  have keys : (manager.registry.map ServiceDescriptor.key)[index]? =
      (manager.registry.map ServiceDescriptor.key)[other]? := by
    rw [List.getElem?_map, List.getElem?_map, listed, listed']
    exact congrArg some same
  have inside : index < (manager.registry.map ServiceDescriptor.key).length := by
    rw [List.length_map]
    exact (List.getElem?_eq_some_iff.1 listed).1
  exact (List.getElem?_inj inside registered.distinct).1 keys

theorem Registered.findServiceIndex_of_listed (registered : Registered manager) {index : Nat}
    {entry : ServiceDescriptor} (listed : manager.registry[index]? = some entry) :
    manager.findServiceIndex entry.serviceId entry.instanceId = some index := by
  cases found : manager.findServiceIndex entry.serviceId entry.instanceId with
  | none =>
      have member := List.mem_map_of_mem (f := ServiceDescriptor.key) (List.mem_of_getElem? listed)
      exact absurd member (findServiceIndex_none found)
  | some place =>
      obtain ⟨other, listed', service, instanceSame⟩ := findServiceIndex_some found
      have same : other.key = entry.key := Prod.ext service instanceSame
      rw [registered.same_place listed' listed same]

/-- The last offers in the history hold in the table: what a run of well-timed offers keeps. -/
structure Offering (manager : SoaServiceManager) (trace : ServiceTrace) : Prop where
  registered : Registered manager
  available : ∀ key, lastLifecycle key trace = some .offered →
    ∃ (index : Nat) (entry : ServiceDescriptor), manager.registry[index]? = some entry ∧
      entry.key = key ∧ entry.state = .available

theorem Offering.effective (offering : Offering manager trace) : Effective manager trace := by
  intro serviceId instanceId last
  obtain ⟨index, entry, listed, same, available⟩ := offering.available _ last
  cases same
  refine ⟨index, entry, ?_, listed, available⟩
  rw [findService, offering.registered.findServiceIndex_of_listed listed]

/-- A move of one entry leaves the others where they were. -/
theorem setState_listed {index place : Nat} {entry : ServiceDescriptor}
    {move : ServiceState → ServiceState} (listed : manager.registry[place]? = some entry)
    (elsewhere : index ≠ place) : (manager.setState index move).registry[place]? = some entry := by
  rw [setState, List.getElem?_modify, listed]
  simp [elsewhere]

theorem setState_moved {index : Nat} {entry : ServiceDescriptor}
    {move : ServiceState → ServiceState} (listed : manager.registry[index]? = some entry) :
    (manager.setState index move).registry[index]? =
      some { entry with state := move entry.state } := by
  rw [setState, List.getElem?_modify, listed]
  simp

theorem Offering.unchanged (offering : Offering manager trace) {reply : Except ErrorCode (Option Nat)}
    (silent : ∀ key, lifecycle? key (call, reply) = none) :
    Offering manager (trace ++ [(call, reply)]) where
  registered := offering.registered
  available key last := by
    rw [lastLifecycle_concat, silent] at last
    exact offering.available key last

/-- A call on one entry: where it ends in an offer, it makes the entry available. -/
theorem Offering.moved (offering : Offering manager trace) (event : Lifecycle) {index : Nat}
    {entry : ServiceDescriptor} {move : ServiceState → ServiceState}
    {reply : Except ErrorCode (Option Nat)}
    (registered : Registered (manager.setState index move))
    (listed : manager.registry[index]? = some entry)
    (happens : ∀ key, lifecycle? key (call, reply) =
      if reply.isOk = true ∧ entry.key = key then some event else none)
    (succeeds : reply.isOk = true)
    (lands : event = .offered → move entry.state = .available) :
    Offering (manager.setState index move) (trace ++ [(call, reply)]) where
  registered := registered
  available key last := by
    rw [lastLifecycle_concat, happens] at last
    by_cases here : entry.key = key
    · rw [if_pos ⟨succeeds, here⟩, Option.some_or, Option.some.injEq] at last
      exact ⟨index, _, setState_moved listed, here, lands last⟩
    · rw [if_neg fun met => here met.2, Option.none_or] at last
      obtain ⟨place, other, found, same, available⟩ := offering.available key last
      have elsewhere : index ≠ place := by
        rintro rfl
        cases listed.symm.trans found
        exact here same
      exact ⟨place, other, setState_listed found elsewhere, same, available⟩

theorem Offering.step (offering : Offering manager trace) (timely : OffersOutsideStop manager call) :
    Offering (manager.serve call).2 (trace ++ [(call, (manager.serve call).1)]) := by
  have ready := offering.registered.initialised
  have after := offering.registered.step call
  rcases serve_cases ready call with ⟨same, silent⟩ |
    ⟨index, entry, move, listed, succeeds, changed, addressed⟩ |
    ⟨desc, rfl, fresh, room, succeeds, changed⟩
  · rw [same]
    refine offering.unchanged fun key => ?_
    rcases silent with ⟨code, refused⟩ | ⟨serviceId, instanceId, rfl⟩
    · rw [refused]
      exact lifecycle?_refused key call code
    · rfl
  · rw [changed] at after ⊢
    rw [succeeds]
    rcases addressed with ⟨rfl, rfl⟩ | ⟨rfl, rfl⟩
    · refine offering.moved .offered after listed (fun key => rfl) rfl fun _ => ?_
      have member := List.mem_of_getElem? listed
      cases state : entry.state with
      | down => rfl
      | requested => rfl
      | available => rfl
      | stopping => exact absurd rfl (timely entry member state)
    · exact offering.moved .stopped after listed (fun key => rfl) rfl nofun
  · rw [changed] at after ⊢
    rw [succeeds]
    refine ⟨after, fun key last => ?_⟩
    rw [lastLifecycle_concat] at last
    by_cases here : desc.key = key
    · simp [lifecycle?, here] at last
    · have unrelated : lifecycle? key (.registerService desc, .ok none) = none := by
        simp [lifecycle?, here]
      rw [unrelated, Option.none_or] at last
      obtain ⟨index, entry, listed, same, available⟩ := offering.available key last
      have inside := (List.getElem?_eq_some_iff.1 listed).1
      exact ⟨index, entry, by rw [List.getElem?_append_left inside, listed], same, available⟩

theorem started_offering : Offering started [] where
  registered := started_registered
  available _ last := by cases last

theorem run_offering {calls : List ServiceCall}
    (timely : services.EveryStep OffersOutsideStop started calls) :
    Offering (services.run started calls) (services.trace started calls) := by
  induction calls using List.reverseRecOn with
  | nil => exact started_offering
  | append_singleton calls call ih =>
      obtain ⟨earlier, last⟩ := (services.everyStep_concat_iff _ _ _ _).1 timely
      rw [services.run_concat, services.trace_concat]
      exact (ih earlier).step last

/-- An offer to a service that is being stopped is acknowledged and does nothing. -/
theorem offer_while_stopping (registered : Registered manager) {index : Nat}
    {entry : ServiceDescriptor} (listed : manager.registry[index]? = some entry)
    (stopping : entry.state = .stopping) :
    (manager.serve (.offerService entry.serviceId entry.instanceId)).1 = .ok none ∧
      (manager.serve (.offerService entry.serviceId entry.instanceId)).2.registry[index]? =
        some entry := by
  have found := registered.findServiceIndex_of_listed listed
  have served : manager.serve (.offerService entry.serviceId entry.instanceId) =
      (.ok none, manager.setState index offered) := by
    simp only [serve, offerService, registered.initialised, found, Bool.not_true,
      Bool.false_eq_true, ↓reduceIte]
    rfl
  refine ⟨congrArg Prod.fst served, ?_⟩
  have still : offered entry.state = entry.state := by
    rw [stopping]
    rfl
  rw [served, setState_moved listed, still]

/-- Over a run, every successful offer is effective and every offer during a stop is honoured or
refused exactly when no call offers a service that is being stopped. -/
theorem offers_effective_iff (calls : List ServiceCall) :
    (∀ front, front <+: calls →
        Effective (services.run started front) (services.trace started front)) ∧
      services.EveryStep HonoursOffer started calls ↔
    services.EveryStep OffersOutsideStop started calls := by
  constructor
  · rintro ⟨-, honours⟩ before call after split entry member stopping rfl
    obtain ⟨index, listed⟩ := List.mem_iff_getElem?.1 member
    obtain ⟨acknowledged, kept⟩ :=
      offer_while_stopping (run_registered before) listed stopping
    rcases honours before _ after split index entry listed stopping rfl with
      ⟨code, refused⟩ | ⟨moved, found, available⟩
    · cases acknowledged.symm.trans refused
    · cases kept.symm.trans found
      cases stopping.symm.trans available
  · intro timely
    refine ⟨fun front isPrefix => ?_, ?_⟩
    · exact (run_offering (services.everyStep_prefix timely isPrefix)).effective
    · intro before call after split index entry listed stopping offer
      exact absurd offer (timely before call after split entry (List.mem_of_getElem? listed) stopping)

def brakeService : ServiceDescriptor where
  serviceId := 0x0101
  instanceId := 1
  majorVersion := 1
  minorVersion := 0
  state := .down
  name _ := 0

/-- The last offer comes after the announcement of the stop and before its completion. -/
def offerDuringStop : List ServiceCall :=
  [.registerService brakeService, .offerService 0x0101 1, .stopService 0x0101 1,
    .offerService 0x0101 1]

theorem offer_during_stop_is_lost :
    (services.outputs started offerDuringStop).getLast? = some (.ok none) ∧
      ¬ Effective (services.run started offerDuringStop)
        (services.trace started offerDuringStop) ∧
      ¬ services.EveryStep HonoursOffer started offerDuringStop := by
  refine ⟨rfl, fun effective => ?_, fun honours => ?_⟩
  · obtain ⟨index, entry, found, listed, available⟩ := effective 0x0101 1 rfl
    cases found
    cases listed
    cases available
  · rcases honours [.registerService brakeService, .offerService 0x0101 1, .stopService 0x0101 1]
        (.offerService 0x0101 1) [] rfl 0 _ rfl rfl rfl with ⟨code, refused⟩ | ⟨after, found, moved⟩
    · cases refused
    · cases found
      cases moved

end SoaServiceManager

end SoaGateway.Services
