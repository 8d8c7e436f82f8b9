import SoaGateway.Foundation.Tenancy
import SoaGateway.Services.DeadSubscriberMonitor

/-! Registrations over whole runs of the monitor, as its callers see them: an accepted `Register`
makes one under its ids, an accepted `Deregister` or a callback ends the one that stands under
them. The table is a witness of what stands, never a source of it. -/

set_option autoImplicit false

namespace SoaGateway.Services

open Foundation

/-- Why a registration ended; an eviction notes how many registrations had been made when
its scan began. -/
inductive Ending where
  | deregistered
  | evicted (known : Nat)
deriving DecidableEq, Repr

def LivenessEntry.ids (entry : LivenessEntry) : BitVec 16 × BitVec 16 :=
  (entry.serviceId, entry.eventId)

def Invocation.ids (call : Invocation) : BitVec 16 × BitVec 16 := (call.serviceId, call.eventId)

/-- A registration is known by the invocation it asks for, and stands under its pair of ids. -/
structure MonitorHistory where
  tenancy : Tenancy (BitVec 16 × BitVec 16) Invocation Ending
  known : Nat
  deregistered : List (BitVec 16 × BitVec 16)
  invoked : List Invocation

def MonitorHistory.empty : MonitorHistory :=
  { tenancy := .vacant, known := 0, deregistered := [], invoked := [] }

namespace MonitorHistory

/-- What a call and its reply tell: accepted registrations enter, accepted deregistrations and
invoked callbacks end them, and a scan that begins notes how many there have been. -/
def record (state : MonitorState) (call : MonitorCall) (history : MonitorHistory) :
    MonitorHistory :=
  let reply := (state.step call).1
  match call, reply.result with
  | .register serviceId eventId (some callback) _, .ok () =>
      { history with
        tenancy := history.tenancy.enter (serviceId, eventId) { callback, serviceId, eventId } }
  | .deregister serviceId eventId, .ok () =>
      { history with
        tenancy := history.tenancy.leave (serviceId, eventId) .deregistered
        deregistered := history.deregistered ++ [(serviceId, eventId)] }
  | .scanAndEvict _, _ =>
      match reply.invoked with
      | some call =>
          { history with
            tenancy := history.tenancy.leave (call.serviceId, call.eventId) (.evicted history.known)
            invoked := history.invoked ++ [call] }
      | none =>
          if state.control = .idle then { history with known := history.tenancy.tenants.length }
          else history
  | _, _ => history

end MonitorHistory

/-- The registrations that were evicted, in order. -/
def evictions (departed : List (Nat × Ending)) : List Nat :=
  departed.filterMap fun ending =>
    match ending.2 with
    | .deregistered => none
    | .evicted _ => some ending.1

/-- The registrations that were deregistered, in order. -/
def deregistrations (departed : List (Nat × Ending)) : List Nat :=
  departed.filterMap fun ending =>
    match ending.2 with
    | .deregistered => some ending.1
    | .evicted _ => none

namespace ScanControl

def nowMs? : ScanControl → Option Nat
  | .idle => none
  | .scanning nowMs _ _ => some nowMs
  | .inCallback nowMs _ _ => some nowMs

/-- The callbacks invoked and not yet counted. -/
def running : ScanControl → BitVec 32
  | .inCallback _ _ _ => 1
  | _ => 0

end ScanControl

def monitorTracker : Machine (MonitorState × MonitorHistory) MonitorCall MonitorReply :=
  MonitorState.machine.withGhost MonitorHistory.record

theorem monitorTracker_step (state : MonitorState) (history : MonitorHistory) (call : MonitorCall) :
    (monitorTracker.step (state, history) call).2 =
      ((state.step call).2, MonitorHistory.record state call history) := rfl

namespace DeadSubscriberMonitor

variable {monitor : DeadSubscriberMonitor} {serviceId eventId : BitVec 16}
  {index : Fin maxMonitoredSubs}

theorem findIndex_some (found : monitor.findIndex serviceId eventId = some index) :
    (monitor.entries index).active = true ∧ (monitor.entries index).serviceId = serviceId ∧
      (monitor.entries index).eventId = eventId := by
  have met := List.find?_some found
  simpa [and_assoc] using met

theorem findIndex_none (none : monitor.findIndex serviceId eventId = none)
    (index : Fin maxMonitoredSubs) :
    ¬ ((monitor.entries index).active = true ∧ (monitor.entries index).serviceId = serviceId ∧
      (monitor.entries index).eventId = eventId) := by
  have unmet := List.find?_eq_none.1 none index (List.mem_finRange index)
  simpa [and_assoc] using unmet

theorem freeIndex_some (found : monitor.freeIndex = some index) :
    (monitor.entries index).active = false := by
  simpa using List.find?_some found

theorem freeIndex_none (none : monitor.freeIndex = none) (index : Fin maxMonitoredSubs) :
    (monitor.entries index).active = true := by
  simpa using List.find?_eq_none.1 none index (List.mem_finRange index)

@[simp] theorem store_here (index : Fin maxMonitoredSubs) (entry : LivenessEntry) :
    (monitor.store index entry).entries index = entry :=
  Function.update_self _ _ _

theorem store_elsewhere {other : Fin maxMonitoredSubs} (elsewhere : other ≠ index)
    (entry : LivenessEntry) : (monitor.store index entry).entries other = monitor.entries other :=
  Function.update_of_ne elsewhere _ _

/-- A field the stored entry has in common with the old one is the same in every slot. -/
theorem store_same {Value : Type} (field : LivenessEntry → Value) {entry : LivenessEntry}
    (same : field entry = field (monitor.entries index)) (other : Fin maxMonitoredSubs) :
    field ((monitor.store index entry).entries other) = field (monitor.entries other) := by
  by_cases here : other = index
  · subst here
    rw [store_here, same]
  · rw [store_elsewhere here]

theorem register_cases (ready : monitor.initialised = true) (serviceId eventId : BitVec 16)
    (onDead : Option DeadCallback) (nowMs : Nat) :
    (∃ code, monitor.register serviceId eventId onDead nowMs = (.error code, monitor)) ∨
      ∃ index callback, onDead = some callback ∧ (monitor.entries index).active = false ∧
        monitor.findIndex serviceId eventId = none ∧
        monitor.register serviceId eventId onDead nowMs = (.ok (), monitor.store index
          { serviceId, eventId, lastBeatMs := nowMs, health := .alive, onDead, active := true }) := by
  simp only [register, ready, Bool.not_true, Bool.false_eq_true, ↓reduceIte]
  cases onDead with
  | none => exact .inl ⟨_, rfl⟩
  | some callback =>
      simp only [Option.isNone_some, Bool.false_eq_true, ↓reduceIte]
      cases found : monitor.findIndex serviceId eventId with
      | some index => exact .inl ⟨_, rfl⟩
      | none =>
          simp only [Option.isSome_none, Bool.false_eq_true, ↓reduceIte]
          cases room : monitor.freeIndex with
          | none => exact .inl ⟨_, rfl⟩
          | some index => exact .inr ⟨index, callback, rfl, freeIndex_some room, trivial, rfl⟩

theorem recordHeartbeat_cases (ready : monitor.initialised = true) (serviceId eventId : BitVec 16)
    (nowMs : Nat) :
    (∃ code, monitor.recordHeartbeat serviceId eventId nowMs = (.error code, monitor)) ∨
      ∃ index, monitor.findIndex serviceId eventId = some index ∧
        monitor.recordHeartbeat serviceId eventId nowMs = (.ok (), monitor.store index
          { monitor.entries index with lastBeatMs := nowMs, health := .alive }) := by
  simp only [recordHeartbeat, ready, Bool.not_true, Bool.false_eq_true, ↓reduceIte]
  cases found : monitor.findIndex serviceId eventId with
  | none => exact .inl ⟨_, rfl⟩
  | some index => exact .inr ⟨index, rfl, rfl⟩

theorem deregister_cases (ready : monitor.initialised = true) (serviceId eventId : BitVec 16) :
    (∃ code, monitor.deregister serviceId eventId = (.error code, monitor)) ∨
      ∃ index, ((monitor.entries index).active = true ∧
          (monitor.entries index).serviceId = serviceId ∧
          (monitor.entries index).eventId = eventId) ∧
        monitor.deregister serviceId eventId =
          (.ok (), monitor.store index (monitor.entries index).free) := by
  simp only [deregister, ready, Bool.not_true, Bool.false_eq_true, ↓reduceIte]
  cases found : monitor.findIndex serviceId eventId with
  | none => exact .inl ⟨_, rfl⟩
  | some index => exact .inr ⟨index, findIndex_some found, rfl⟩

/-- Only a table without a free slot reports a full registry. -/
theorem register_full {onDead : Option DeadCallback} {nowMs : Nat}
    (full : (monitor.register serviceId eventId onDead nowMs).1 = .error .registryFull)
    (index : Fin maxMonitoredSubs) : (monitor.entries index).active = true := by
  unfold register at full
  split at full
  · cases full
  · split at full
    · cases full
    · split at full
      · cases full
      · cases room : monitor.freeIndex with
        | none => exact freeIndex_none room index
        | some free =>
            rw [room] at full
            cases full

/-- The table and the registrations agree: what is active stands under its ids, what stands has
an active slot with its ids and its callback, and no pair of ids is active twice. -/
structure Occupied (monitor : DeadSubscriberMonitor)
    (tenancy : Tenancy (BitVec 16 × BitVec 16) Invocation Ending) : Prop where
  initialised : monitor.initialised = true
  single : ∀ left right, (monitor.entries left).active = true →
    (monitor.entries right).active = true →
    (monitor.entries left).serviceId = (monitor.entries right).serviceId →
    (monitor.entries left).eventId = (monitor.entries right).eventId → left = right
  sound : tenancy.Sound
  standing : ∀ index, (monitor.entries index).active = true →
    ∃ number, tenancy.holder (monitor.entries index).ids = some number
  faithful : ∀ ids number, tenancy.holder ids = some number → ∃ index callback,
    (monitor.entries index).active = true ∧ (monitor.entries index).ids = ids ∧
      (monitor.entries index).onDead = some callback ∧
      tenancy.tenants[number]? = some { callback, serviceId := ids.1, eventId := ids.2 }

namespace Occupied

variable {tenancy : Tenancy (BitVec 16 × BitVec 16) Invocation Ending}

theorem alone (occupied : Occupied monitor tenancy) {left right : Fin maxMonitoredSubs}
    (onLeft : (monitor.entries left).active = true)
    (onRight : (monitor.entries right).active = true)
    (same : (monitor.entries left).ids = (monitor.entries right).ids) : left = right :=
  occupied.single left right onLeft onRight (congrArg Prod.fst same) (congrArg Prod.snd same)

theorem holder_unknown (occupied : Occupied monitor tenancy)
    (unknown : monitor.findIndex serviceId eventId = none) :
    tenancy.holder (serviceId, eventId) = none := by
  cases held : tenancy.holder (serviceId, eventId) with
  | none => rfl
  | some number =>
      obtain ⟨index, -, active, same, -⟩ := occupied.faithful _ number held
      exact absurd ⟨active, congrArg Prod.fst same, congrArg Prod.snd same⟩
        (findIndex_none unknown index)

/-- What an active slot stands for. -/
theorem registered (occupied : Occupied monitor tenancy)
    (active : (monitor.entries index).active = true) :
    ∃ number callback, tenancy.holder (monitor.entries index).ids = some number ∧
      (monitor.entries index).onDead = some callback ∧ tenancy.tenants[number]? = some {
        callback, serviceId := (monitor.entries index).serviceId,
        eventId := (monitor.entries index).eventId } := by
  obtain ⟨number, held⟩ := occupied.standing index active
  obtain ⟨other, callback, onOther, same, armed, made⟩ := occupied.faithful _ number held
  obtain rfl := occupied.alone onOther active same
  exact ⟨number, callback, held, armed, made⟩

theorem enter (occupied : Occupied monitor tenancy) (free : (monitor.entries index).active = false)
    (unknown : monitor.findIndex serviceId eventId = none) (callback : DeadCallback)
    (nowMs : Nat) (health : SubscriberHealth) :
    Occupied
      (monitor.store index
        { serviceId, eventId, lastBeatMs := nowMs, health, onDead := some callback, active := true })
      (tenancy.enter (serviceId, eventId) { callback, serviceId, eventId }) where
  initialised := occupied.initialised
  sound := occupied.sound.enter (occupied.holder_unknown unknown) _
  single left right onLeft onRight sameService sameEvent := by
    by_cases leftHere : left = index
    · by_cases rightHere : right = index
      · exact leftHere.trans rightHere.symm
      · subst leftHere
        rw [store_here] at sameService sameEvent
        rw [store_elsewhere rightHere] at onRight sameService sameEvent
        exact absurd ⟨onRight, sameService.symm, sameEvent.symm⟩ (findIndex_none unknown right)
    · rw [store_elsewhere leftHere] at onLeft sameService sameEvent
      by_cases rightHere : right = index
      · subst rightHere
        rw [store_here] at sameService sameEvent
        exact absurd ⟨onLeft, sameService, sameEvent⟩ (findIndex_none unknown left)
      · rw [store_elsewhere rightHere] at onRight sameService sameEvent
        exact occupied.single left right onLeft onRight sameService sameEvent
  standing other active := by
    by_cases here : other = index
    · subst here
      rw [store_here]
      exact ⟨_, Function.update_self _ _ _⟩
    · rw [store_elsewhere here] at active ⊢
      obtain ⟨number, held⟩ := occupied.standing other active
      have apart : (monitor.entries other).ids ≠ (serviceId, eventId) := fun same =>
        findIndex_none unknown other ⟨active, congrArg Prod.fst same, congrArg Prod.snd same⟩
      exact ⟨number, (Function.update_of_ne apart _ _).trans held⟩
  faithful ids number held := by
    obtain ⟨rfl, same⟩ | ⟨-, earlier⟩ := Tenancy.holder_update_cases held
    · cases same
      exact ⟨index, callback, by rw [store_here], by rw [store_here]; rfl, by rw [store_here],
        by simp [Tenancy.enter]⟩
    · have inside := occupied.sound.held_lt ids number earlier
      obtain ⟨other, promised, active, same, armed, made⟩ := occupied.faithful ids number earlier
      have elsewhere : other ≠ index := by
        rintro rfl
        cases free.symm.trans active
      rw [Tenancy.enter_tenants, List.getElem?_append_left inside]
      exact ⟨other, promised, by rw [store_elsewhere elsewhere, active],
        by rw [store_elsewhere elsewhere, same], by rw [store_elsewhere elsewhere, armed], made⟩

theorem leave (occupied : Occupied monitor tenancy) {number : Nat}
    (active : (monitor.entries index).active = true)
    (held : tenancy.holder (monitor.entries index).ids = some number) {entry : LivenessEntry}
    (free : entry.active = false) (reason : Ending) :
    Occupied (monitor.store index entry)
      (tenancy.leave (monitor.entries index).ids reason) where
  initialised := occupied.initialised
  sound := occupied.sound.leave held reason
  single left right onLeft onRight sameService sameEvent := by
    by_cases leftHere : left = index
    · subst leftHere
      rw [store_here, free] at onLeft
      cases onLeft
    · by_cases rightHere : right = index
      · subst rightHere
        rw [store_here, free] at onRight
        cases onRight
      · rw [store_elsewhere leftHere] at onLeft sameService sameEvent
        rw [store_elsewhere rightHere] at onRight sameService sameEvent
        exact occupied.single left right onLeft onRight sameService sameEvent
  standing other onOther := by
    rw [Tenancy.leave_holder held]
    by_cases here : other = index
    · subst here
      rw [store_here, free] at onOther
      cases onOther
    · rw [store_elsewhere here] at onOther ⊢
      obtain ⟨found, kept⟩ := occupied.standing other onOther
      have apart := fun same => here (occupied.alone onOther active same)
      exact ⟨found, (Function.update_of_ne apart _ _).trans kept⟩
  faithful ids found kept := by
    rw [Tenancy.leave_tenants]
    rw [Tenancy.leave_holder held] at kept
    obtain ⟨-, impossible⟩ | ⟨apart, earlier⟩ := Tenancy.holder_update_cases kept
    · cases impossible
    · obtain ⟨other, promised, onOther, same, armed, made⟩ := occupied.faithful ids found earlier
      have elsewhere : other ≠ index := by
        rintro rfl
        exact apart same.symm
      exact ⟨other, promised, by rw [store_elsewhere elsewhere, onOther],
        by rw [store_elsewhere elsewhere, same], by rw [store_elsewhere elsewhere, armed], made⟩

/-- A write that keeps activity, ids and callback of a slot keeps the agreement. -/
theorem touch (occupied : Occupied monitor tenancy) {entry : LivenessEntry}
    (active : entry.active = (monitor.entries index).active)
    (service : entry.serviceId = (monitor.entries index).serviceId)
    (event : entry.eventId = (monitor.entries index).eventId)
    (armed : entry.onDead = (monitor.entries index).onDead) :
    Occupied (monitor.store index entry) tenancy := by
  have activity := store_same LivenessEntry.active active
  have services := store_same LivenessEntry.serviceId service
  have events := store_same LivenessEntry.eventId event
  have both := store_same LivenessEntry.ids (Prod.ext service event)
  have callbacks := store_same LivenessEntry.onDead armed
  refine ⟨occupied.initialised, ?_, occupied.sound, ?_, ?_⟩
  · simpa only [activity, services, events] using occupied.single
  · simpa only [activity, both] using occupied.standing
  · simpa only [activity, both, callbacks] using occupied.faithful

end Occupied

end DeadSubscriberMonitor

theorem evictions_concat (departed : List (Nat × Ending)) (number : Nat) (ending : Ending) :
    evictions (departed ++ [(number, ending)]) =
      evictions departed ++ (match ending with
        | .deregistered => []
        | .evicted _ => [number]) := by
  cases ending <;> simp [evictions]

theorem deregistrations_concat (departed : List (Nat × Ending)) (number : Nat) (ending : Ending) :
    deregistrations (departed ++ [(number, ending)]) =
      deregistrations departed ++ (match ending with
        | .deregistered => [number]
        | .evicted _ => []) := by
  cases ending <;> simp [deregistrations]

theorem deregistrations_departed {departed : List (Nat × Ending)} {number : Nat}
    (member : number ∈ deregistrations departed) : number ∈ departed.map Prod.fst := by
  obtain ⟨⟨other, ending⟩, listed, same⟩ := List.mem_filterMap.1 member
  cases ending with
  | evicted known => cases same
  | deregistered =>
      cases same
      exact List.mem_map_of_mem listed

theorem evictions_departed {departed : List (Nat × Ending)} {number : Nat}
    (member : number ∈ evictions departed) : number ∈ departed.map Prod.fst := by
  obtain ⟨⟨other, ending⟩, listed, same⟩ := List.mem_filterMap.1 member
  cases ending with
  | deregistered => cases same
  | evicted known =>
      cases same
      exact List.mem_map_of_mem listed

/-- The invocations so far are those the evicted registrations asked for, every accepted
deregistration ended one of its ids, every eviction is of a registration made before its scan,
the registrations made since the scan began are younger than its reading, and the counter lags
by the callback that runs. -/
structure Tended (current : MonitorState × MonitorHistory) : Prop where
  occupied : current.1.monitor.Occupied current.2.tenancy
  invoked : current.2.invoked.map some =
    (evictions current.2.tenancy.departed).map fun number => current.2.tenancy.tenants[number]?
  deregistered : current.2.deregistered.map some =
    (deregistrations current.2.tenancy.departed).map fun number =>
      (current.2.tenancy.tenants[number]?).map Invocation.ids
  early : ∀ number known, (number, Ending.evicted known) ∈ current.2.tenancy.departed →
    number < known
  recent : ∀ nowMs, current.1.control.nowMs? = some nowMs →
    ∀ index number, (current.1.monitor.entries index).active = true →
      current.2.tenancy.holder (current.1.monitor.entries index).ids = some number →
      current.2.known ≤ number → nowMs ≤ (current.1.monitor.entries index).lastBeatMs
  counted : current.1.monitor.evictedTotal + current.1.control.running =
    BitVec.ofNat 32 current.2.invoked.length

/-- The call reads no clock before the reading of the scan in progress. -/
def Timely (state : MonitorState) (call : MonitorCall) : Prop :=
  ∀ scanMs, state.control.nowMs? = some scanMs → ∀ nowMs ∈ call.readings, scanMs ≤ nowMs

namespace Tended

open DeadSubscriberMonitor

variable {state : MonitorState} {history : MonitorHistory} {index : Fin maxMonitoredSubs}

theorem enter (tended : Tended (state, history))
    (free : (state.monitor.entries index).active = false)
    {serviceId eventId : BitVec 16} (unknown : state.monitor.findIndex serviceId eventId = none)
    (callback : DeadCallback) {nowMs : Nat} (health : SubscriberHealth)
    (timely : ∀ scanMs, state.control.nowMs? = some scanMs → scanMs ≤ nowMs) :
    let entry : LivenessEntry :=
      { serviceId, eventId, lastBeatMs := nowMs, health, onDead := some callback, active := true }
    Tended ({ state with monitor := state.monitor.store index entry },
      { history with
        tenancy := history.tenancy.enter (serviceId, eventId)
          { callback, serviceId, eventId } }) where
  occupied := tended.occupied.enter free unknown callback nowMs health
  invoked := by
    rw [Tenancy.enter_tenants]
    refine tended.invoked.trans (List.map_congr_left fun number member => ?_)
    have inside := tended.occupied.sound.departed_lt number (evictions_departed member)
    exact (List.getElem?_append_left inside).symm
  deregistered := by
    rw [Tenancy.enter_tenants]
    refine tended.deregistered.trans (List.map_congr_left fun number member => ?_)
    have inside := tended.occupied.sound.departed_lt number (deregistrations_departed member)
    rw [List.getElem?_append_left inside]
  early := tended.early
  recent scanMs scanning other number active held known := by
    by_cases here : other = index
    · rw [here, store_here]
      exact timely scanMs scanning
    · rw [store_elsewhere here] at active held ⊢
      have apart : (state.monitor.entries other).ids ≠ (serviceId, eventId) := fun same =>
        findIndex_none unknown other ⟨active, congrArg Prod.fst same, congrArg Prod.snd same⟩
      exact tended.recent scanMs scanning other number active
        ((Function.update_of_ne apart _ _).symm.trans held) known
  counted := tended.counted

theorem touch (tended : Tended (state, history)) {entry : LivenessEntry}
    (active : entry.active = (state.monitor.entries index).active)
    (service : entry.serviceId = (state.monitor.entries index).serviceId)
    (event : entry.eventId = (state.monitor.entries index).eventId)
    (armed : entry.onDead = (state.monitor.entries index).onDead)
    (fresher : ∀ scanMs, state.control.nowMs? = some scanMs →
      scanMs ≤ (state.monitor.entries index).lastBeatMs → scanMs ≤ entry.lastBeatMs) :
    Tended ({ state with monitor := state.monitor.store index entry }, history) where
  occupied := tended.occupied.touch active service event armed
  invoked := tended.invoked
  deregistered := tended.deregistered
  early := tended.early
  recent scanMs scanning other number onOther held known := by
    rw [store_same LivenessEntry.active active] at onOther
    rw [store_same LivenessEntry.ids (Prod.ext service event)] at held
    have recent := tended.recent scanMs scanning other number onOther held known
    by_cases here : other = index
    · subst here
      rw [store_here]
      exact fresher scanMs scanning recent
    · rw [store_elsewhere here]
      exact recent
  counted := tended.counted

theorem recent_leave (tended : Tended (state, history)) {number : Nat}
    (held : history.tenancy.holder (state.monitor.entries index).ids = some number)
    {entry : LivenessEntry} (free : entry.active = false) (reason : Ending) {scanMs : Nat}
    (scanning : state.control.nowMs? = some scanMs) (other : Fin maxMonitoredSubs) (found : Nat)
    (onOther : ((state.monitor.store index entry).entries other).active = true)
    (kept : (history.tenancy.leave (state.monitor.entries index).ids reason).holder
      ((state.monitor.store index entry).entries other).ids = some found)
    (known : history.known ≤ found) :
    scanMs ≤ ((state.monitor.store index entry).entries other).lastBeatMs := by
  rw [Tenancy.leave_holder held] at kept
  by_cases here : other = index
  · rw [here, store_here, free] at onOther
    cases onOther
  · rw [store_elsewhere here] at onOther kept ⊢
    obtain ⟨-, impossible⟩ | ⟨-, earlier⟩ := Tenancy.holder_update_cases kept
    · cases impossible
    · exact tended.recent scanMs scanning other found onOther earlier known

theorem leave (tended : Tended (state, history)) {number : Nat}
    (active : (state.monitor.entries index).active = true)
    (held : history.tenancy.holder (state.monitor.entries index).ids = some number)
    {entry : LivenessEntry} (free : entry.active = false) :
    Tended ({ state with monitor := state.monitor.store index entry },
      { history with
        tenancy := history.tenancy.leave (state.monitor.entries index).ids .deregistered
        deregistered := history.deregistered ++ [(state.monitor.entries index).ids] }) where
  occupied := tended.occupied.leave active held free .deregistered
  invoked := by
    rw [Tenancy.leave_tenants, Tenancy.leave_departed held, evictions_concat, List.append_nil]
    exact tended.invoked
  deregistered := by
    obtain ⟨same, callback, standing, -, made⟩ := tended.occupied.registered active
    cases held.symm.trans standing
    rw [Tenancy.leave_tenants, Tenancy.leave_departed held, deregistrations_concat,
      List.map_append, List.map_append, tended.deregistered, List.map_singleton,
      List.map_singleton, made]
    rfl
  early other known member := by
    rw [Tenancy.leave_departed held, List.mem_append] at member
    cases member with
    | inl earlier => exact tended.early other known earlier
    | inr newest => cases List.mem_singleton.1 newest
  recent _ scanning := tended.recent_leave held free _ scanning
  counted := tended.counted

/-- An eviction: the silent registration is older than the scan, and its own callback runs. -/
theorem evict (tended : Tended (state, history)) {nowMs : Nat} {count : Byte}
    (control : state.control = .scanning nowMs index.val count)
    (silent : (state.monitor.entries index).Silent nowMs deadTimeoutMs) {callback : DeadCallback}
    (armed : (state.monitor.entries index).onDead = some callback) {entry : LivenessEntry}
    (free : entry.active = false) :
    Tended (⟨state.monitor.store index entry, .inCallback nowMs index.val count⟩,
      { history with
        tenancy := history.tenancy.leave (state.monitor.entries index).ids (.evicted history.known)
        invoked := history.invoked ++ [{
          callback
          serviceId := (state.monitor.entries index).serviceId
          eventId := (state.monitor.entries index).eventId }] }) := by
  have scanning : state.control.nowMs? = some nowMs := by rw [control]; rfl
  obtain ⟨number, promised, held, sameCallback, registered⟩ :=
    tended.occupied.registered silent.1
  cases armed.symm.trans sameCallback
  have older : number < history.known := by
    by_contra younger
    have recent : nowMs ≤ (state.monitor.entries index).lastBeatMs :=
      tended.recent nowMs scanning index number silent.1 held (Nat.not_lt.1 younger)
    have age := silent.2.2
    omega
  refine ⟨tended.occupied.leave silent.1 held free _, ?_, ?_, fun other known member => ?_,
    fun scanMs later => ?_, ?_⟩
  · rw [Tenancy.leave_tenants, Tenancy.leave_departed held, evictions_concat, List.map_append,
      List.map_append, tended.invoked, List.map_singleton, List.map_singleton, registered]
  · rw [Tenancy.leave_tenants, Tenancy.leave_departed held, deregistrations_concat,
      List.append_nil]
    exact tended.deregistered
  · rw [Tenancy.leave_departed held, List.mem_append] at member
    cases member with
    | inl earlier => exact tended.early other known earlier
    | inr newest =>
        cases List.mem_singleton.1 newest
        exact older
  · exact tended.recent_leave held free _ (scanning.trans later)
  · have quiet : state.control.running = 0#32 := by rw [control]; rfl
    have counted : state.monitor.evictedTotal + state.control.running =
      BitVec.ofNat 32 history.invoked.length := tended.counted
    rw [quiet, BitVec.add_zero] at counted
    rw [List.length_append, List.length_singleton, BitVec.ofNat_add, ← counted]
    rfl

/-- A move of the scan that keeps its reading, the table and the count. -/
theorem advance (tended : Tended (state, history)) {control : ScanControl}
    (same : ∀ nowMs, control.nowMs? = some nowMs → state.control.nowMs? = some nowMs)
    {evictedTotal : BitVec 32}
    (counted : evictedTotal + control.running =
      state.monitor.evictedTotal + state.control.running) :
    Tended (⟨{ state.monitor with evictedTotal }, control⟩, history) where
  occupied := ⟨tended.occupied.initialised, tended.occupied.single, tended.occupied.sound,
    tended.occupied.standing, tended.occupied.faithful⟩
  invoked := tended.invoked
  deregistered := tended.deregistered
  early := tended.early
  recent nowMs scanning := tended.recent nowMs (same nowMs scanning)
  counted := counted.trans tended.counted

/-- When a scan begins, no registration is younger than it. -/
theorem begin_scan (tended : Tended (state, history)) (idle : state.control = .idle)
    (nowMs : Nat) :
    Tended ({ state with control := .scanning nowMs 0 0 },
      { history with known := history.tenancy.tenants.length }) where
  occupied := tended.occupied
  invoked := tended.invoked
  deregistered := tended.deregistered
  early := tended.early
  recent _ _ _ number _ held known :=
    absurd (tended.occupied.sound.held_lt _ number held) (Nat.not_lt.2 known)
  counted := by
    have counted := tended.counted
    rw [idle] at counted
    exact counted

theorem register (tended : Tended (state, history)) {serviceId eventId : BitVec 16}
    {onDead : Option DeadCallback} {nowMs : Nat}
    (timely : Timely state (.register serviceId eventId onDead nowMs)) :
    Tended (monitorTracker.step (state, history) (.register serviceId eventId onDead nowMs)).2 := by
  obtain ⟨code, refused⟩ | ⟨index, callback, rfl, free, unknown, taken⟩ :=
    register_cases tended.occupied.initialised serviceId eventId onDead nowMs
  · simp only [monitorTracker_step, MonitorState.step, MonitorHistory.record, refused,
      MonitorReply.plain]
    exact tended
  · simp only [monitorTracker_step, MonitorState.step, MonitorHistory.record, taken,
      MonitorReply.plain]
    exact tended.enter free unknown callback .alive fun scanMs scanning =>
      timely scanMs scanning nowMs (List.mem_singleton_self _)

theorem recordHeartbeat (tended : Tended (state, history)) {serviceId eventId : BitVec 16}
    {nowMs : Nat} (timely : Timely state (.recordHeartbeat serviceId eventId nowMs)) :
    Tended (monitorTracker.step (state, history) (.recordHeartbeat serviceId eventId nowMs)).2 := by
  obtain ⟨code, refused⟩ | ⟨index, -, beaten⟩ :=
    recordHeartbeat_cases tended.occupied.initialised serviceId eventId nowMs
  · simp only [monitorTracker_step, MonitorState.step, MonitorHistory.record, refused]
    exact tended
  · simp only [monitorTracker_step, MonitorState.step, MonitorHistory.record, beaten]
    refine tended.touch ?_ ?_ ?_ ?_ ?_
    · rfl
    · rfl
    · rfl
    · rfl
    · exact fun scanMs scanning _ => timely scanMs scanning nowMs (List.mem_singleton_self _)

theorem deregister (tended : Tended (state, history)) (serviceId eventId : BitVec 16) :
    Tended (monitorTracker.step (state, history) (.deregister serviceId eventId)).2 := by
  obtain ⟨code, refused⟩ | ⟨index, ⟨active, rfl, rfl⟩, freed⟩ :=
    deregister_cases tended.occupied.initialised serviceId eventId
  · simp only [monitorTracker_step, MonitorState.step, MonitorHistory.record, refused,
      MonitorReply.plain]
    exact tended
  · obtain ⟨number, held⟩ := tended.occupied.standing index active
    simp only [monitorTracker_step, MonitorState.step, MonitorHistory.record, freed,
      MonitorReply.plain]
    exact tended.leave active held rfl

theorem visit (tended : Tended (state, history)) (index : Fin maxMonitoredSubs)
    {nowMs clockMs : Nat} {count : Byte}
    (control : state.control = .scanning nowMs index.val count) :
    Tended (monitorTracker.step (state, history) (.scanAndEvict clockMs)).2 := by
  have steps : state.step (.scanAndEvict clockMs) = state.visit nowMs index count := by
    simp only [MonitorState.step, MonitorState.scanAndEvict, control, index.isLt, ↓reduceDIte]
  by_cases silent : (state.monitor.entries index).Silent nowMs deadTimeoutMs
  · obtain ⟨number, callback, -, same, -⟩ := tended.occupied.registered silent.1
    have armed : (state.monitor.entries index).onDead = some callback := same
    have free : { (state.monitor.entries index).free with health := .dead }.active = false := rfl
    simp only [monitorTracker_step, MonitorHistory.record, steps, MonitorState.visit, silent, armed,
      ↓reduceIte]
    exact tended.evict control silent armed free
  · simp only [monitorTracker_step, MonitorHistory.record, steps, MonitorState.visit, silent,
      ↓reduceIte, control, MonitorReply.plain, reduceCtorEq]
    have aged : Tended (⟨state.monitor.store index ((state.monitor.entries index).aged nowMs),
        state.control⟩, history) := by
      unfold LivenessEntry.aged
      split
      · exact tended.touch rfl rfl rfl rfl fun _ _ recent => recent
      · exact tended.touch rfl rfl rfl rfl fun _ _ recent => recent
    refine aged.advance (fun _ same => ?_) ?_
    · rw [control]
      exact same
    · rw [control]
      rfl

theorem scanAndEvict (tended : Tended (state, history)) (clockMs : Nat) :
    Tended (monitorTracker.step (state, history) (.scanAndEvict clockMs)).2 := by
  have ready : state.monitor.initialised = true := tended.occupied.initialised
  cases control : state.control with
  | idle =>
      simp only [monitorTracker_step, MonitorState.step, MonitorState.scanAndEvict,
        MonitorHistory.record, control, ready, Bool.not_true, Bool.false_eq_true, ↓reduceIte,
        MonitorReply.plain]
      exact tended.begin_scan control clockMs
  | scanning nowMs index count =>
      by_cases inside : index < maxMonitoredSubs
      · exact tended.visit ⟨index, inside⟩ control
      · simp only [monitorTracker_step, MonitorState.step, MonitorState.scanAndEvict,
          MonitorHistory.record, control, inside, ↓reduceDIte, reduceCtorEq, ↓reduceIte]
        refine tended.advance (fun _ same => ?_) ?_
        · cases same
        · rw [control]
          rfl
  | inCallback nowMs index count =>
      simp only [monitorTracker_step, MonitorState.step, MonitorState.scanAndEvict,
        MonitorHistory.record, control, MonitorReply.plain, reduceCtorEq, ↓reduceIte]
      refine tended.advance (fun _ same => ?_) ?_
      · rw [control]
        exact same
      · rw [control]
        exact BitVec.add_zero _

theorem step (tended : Tended (state, history)) {call : MonitorCall} (timely : Timely state call) :
    Tended (monitorTracker.step (state, history) call).2 := by
  cases call with
  | register serviceId eventId onDead nowMs => exact tended.register timely
  | recordHeartbeat serviceId eventId nowMs => exact tended.recordHeartbeat timely
  | deregister serviceId eventId => exact tended.deregister serviceId eventId
  | scanAndEvict clockMs => exact tended.scanAndEvict clockMs

end Tended

namespace MonitorState

theorem visit_nowMs (state : MonitorState) (nowMs : Nat) (index : Fin maxMonitoredSubs)
    (count : Byte) : (state.visit nowMs index count).2.control.nowMs? = some nowMs := by
  unfold visit
  simp only
  split
  · cases (state.monitor.entries index).onDead with
    | some callback => rfl
    | none => rfl
  · rfl

/-- The reading of a scan in progress is the one it had before, or one of this call. -/
theorem step_nowMs {state : MonitorState} {call : MonitorCall} {scanMs : Nat}
    (scanning : (state.step call).2.control.nowMs? = some scanMs) :
    state.control.nowMs? = some scanMs ∨ scanMs ∈ call.readings := by
  cases call with
  | register serviceId eventId onDead nowMs => exact .inl scanning
  | recordHeartbeat serviceId eventId nowMs => exact .inl scanning
  | deregister serviceId eventId => exact .inl scanning
  | scanAndEvict clockMs =>
      simp only [step, scanAndEvict] at scanning
      cases control : state.control with
      | idle =>
          rw [control] at scanning
          simp only at scanning
          split at scanning
          · rw [control] at scanning
            cases scanning
          · cases scanning
            exact .inr (List.mem_singleton_self _)
      | scanning nowMs index count =>
          rw [control] at scanning
          simp only at scanning
          split at scanning
          · rw [visit_nowMs] at scanning
            exact .inl scanning
          · cases scanning
      | inCallback nowMs index count =>
          rw [control] at scanning
          exact .inl scanning

def started (initMs : Nat) : MonitorState where
  monitor := (DeadSubscriberMonitor.construct.init initMs).2
  control := .idle

end MonitorState

theorem run_tended {current : MonitorState × MonitorHistory} (tended : Tended current)
    {calls : List MonitorCall}
    (ordered : (calls.flatMap MonitorCall.readings).Pairwise (· ≤ ·))
    (later : ∀ scanMs, current.1.control.nowMs? = some scanMs →
      ∀ nowMs ∈ calls.flatMap MonitorCall.readings, scanMs ≤ nowMs) :
    Tended (monitorTracker.run current calls) := by
  induction calls generalizing current with
  | nil => exact tended
  | cons call rest ih =>
      rw [List.flatMap_cons] at ordered later
      obtain ⟨-, remaining, across⟩ := List.pairwise_append.1 ordered
      have timely : Timely current.1 call := fun scanMs scanning nowMs member =>
        later scanMs scanning nowMs (List.mem_append_left _ member)
      refine ih (tended.step timely) remaining fun scanMs scanning nowMs member => ?_
      cases MonitorState.step_nowMs scanning with
      | inl before => exact later scanMs before nowMs (List.mem_append_right _ member)
      | inr read => exact across scanMs read nowMs member

theorem started_tended (initMs : Nat) : Tended (.started initMs, .empty) where
  occupied := {
    initialised := rfl
    single := fun _ _ inactive => absurd inactive Bool.false_ne_true
    sound := Tenancy.vacant_sound
    standing := fun _ inactive => absurd inactive Bool.false_ne_true
    faithful := fun _ _ held => by cases held }
  invoked := rfl
  deregistered := rfl
  early _ _ member := absurd member List.not_mem_nil
  recent _ scanning := by cases scanning
  counted := rfl

/-- Over every run with a non-decreasing clock, callbacks included: no pair of ids is
active twice, only a full table refuses a registration for want of room, the table holds
exactly the registrations that were accepted and have not ended, no registration ends twice,
every accepted deregistration ended one with its ids, every callback invoked is that of the
registration it ended, with its ids, no registration is evicted by a scan that began before it,
and the counter is the number of callbacks invoked, save the one that still runs. -/
theorem registrations_end_once (initMs : Nat) (calls : List MonitorCall)
    (ordered : (calls.flatMap MonitorCall.readings).Pairwise (· ≤ ·)) :
    let reached := monitorTracker.run (.started initMs, .empty) calls
    let monitor := reached.1.monitor
    let tenancy := reached.2.tenancy
    reached.1 = MonitorState.machine.run (.started initMs) calls ∧
      (∀ left right, (monitor.entries left).active = true →
        (monitor.entries right).active = true →
        (monitor.entries left).serviceId = (monitor.entries right).serviceId →
        (monitor.entries left).eventId = (monitor.entries right).eventId → left = right) ∧
      (∀ serviceId eventId onDead nowMs,
        (monitor.register serviceId eventId onDead nowMs).1 = .error .registryFull →
        ∀ index, (monitor.entries index).active = true) ∧
      (∀ index, (monitor.entries index).active = true →
        ∃ number, tenancy.holder (monitor.entries index).ids = some number) ∧
      (∀ ids number, tenancy.holder ids = some number → ∃ index callback,
        (monitor.entries index).active = true ∧ (monitor.entries index).ids = ids ∧
          (monitor.entries index).onDead = some callback ∧
          tenancy.tenants[number]? = some { callback, serviceId := ids.1, eventId := ids.2 }) ∧
      (tenancy.departed.map Prod.fst).Nodup ∧
      (∀ number, number < tenancy.tenants.length →
        number ∈ tenancy.departed.map Prod.fst ∨ ∃ ids, tenancy.holder ids = some number) ∧
      (∀ ids number, tenancy.holder ids = some number →
        number ∉ tenancy.departed.map Prod.fst) ∧
      reached.2.deregistered.map some = (deregistrations tenancy.departed).map (fun number =>
        (tenancy.tenants[number]?).map Invocation.ids) ∧
      reached.2.invoked.map some =
        (evictions tenancy.departed).map (fun number => tenancy.tenants[number]?) ∧
      (∀ number known, (number, Ending.evicted known) ∈ tenancy.departed → number < known) ∧
      monitor.evictedTotal + reached.1.control.running =
        BitVec.ofNat 32 reached.2.invoked.length := by
  intro reached monitor tenancy
  have tended : Tended reached :=
    run_tended (started_tended initMs) ordered fun _ scanning => by cases scanning
  have occupied := tended.occupied
  exact ⟨MonitorState.machine.withGhost_run_fst _ _ calls, occupied.single,
    fun serviceId eventId onDead nowMs => DeadSubscriberMonitor.register_full,
    occupied.standing, occupied.faithful, occupied.sound.once, occupied.sound.complete,
    occupied.sound.staying, tended.deregistered, tended.invoked, tended.early, tended.counted⟩

/-- A subscriber dies, and its callback registers it again: the scan goes on past it. -/
def rebirth : List MonitorCall :=
  [.register 1 1 (some 7) 0, .scanAndEvict 2001, .scanAndEvict 2001, .register 1 1 (some 8) 2001] ++
    List.replicate 33 (.scanAndEvict 2001)

theorem rebirth_once :
    let reached := monitorTracker.run (.started 0, .empty) rebirth
    reached.1.control = .idle ∧ (reached.1.monitor.entries ⟨0, by decide⟩).active = true ∧
      reached.2.invoked = [{ callback := 7, serviceId := 1, eventId := 1 }] ∧
      reached.1.monitor.evictedTotal + reached.1.control.running =
        BitVec.ofNat 32 reached.2.invoked.length := by
  have ordered : (rebirth.flatMap MonitorCall.readings).Pairwise (· ≤ ·) := by decide +kernel
  exact ⟨by decide +kernel, by decide +kernel, by decide +kernel,
    (registrations_end_once 0 rebirth ordered).2.2.2.2.2.2.2.2.2.2.2⟩

end SoaGateway.Services
