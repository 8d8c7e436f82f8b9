import SoaGateway.Foundation.Clock
import SoaGateway.Services.ScanCycle

/-! What a scan makes of each registration, against the history of its beats. The last accepted
registration or heartbeat of a pair of ids is the last beat of the registration that holds them,
since nobody else can hold them meanwhile. -/

set_option autoImplicit false

namespace SoaGateway.Services

open Foundation

/-- Each call made so far with its answer, oldest first. -/
abbrev MonitorTrace := List (MonitorCall × CycleReply)

/-- The reading of an accepted registration or heartbeat of a pair of ids. -/
def beat? (serviceId eventId : BitVec 16) : MonitorCall × CycleReply → Option Nat
  | (.register service event _ nowMs, reply) =>
      if reply.result.isOk && service == serviceId && event == eventId then some nowMs else none
  | (.recordHeartbeat service event nowMs, reply) =>
      if reply.result.isOk && service == serviceId && event == eventId then some nowMs else none
  | _ => none

def lastBeat (serviceId eventId : BitVec 16) (trace : MonitorTrace) : Option Nat :=
  latest (beat? serviceId eventId) trace

/-- What a scan at `nowMs` has to do: it removes the registrations whose last beat is older than
the dead timeout, counts them, and classifies the others by the age of their last beat. -/
structure Classified (trace : MonitorTrace) (nowMs : Nat) (before : DeadSubscriberMonitor)
    (scan : Scan) : Prop where
  free : ∀ index, (before.entries index).active = false →
    scan.monitor.entries index = before.entries index
  aged : ∀ index, (before.entries index).active = true → ∃ lastMs,
    lastBeat (before.entries index).serviceId (before.entries index).eventId trace =
        some lastMs ∧ lastMs ≤ nowMs ∧
      ((scan.monitor.entries index).active = false ↔ deadTimeoutMs < nowMs - lastMs) ∧
      (¬ deadTimeoutMs < nowMs - lastMs → scan.monitor.entries index =
        { before.entries index with
          health := if heartbeatIntervalMs < nowMs - lastMs then .warning else .alive })
  counted : scan.evictedThisCycle.toNat = (List.finRange maxMonitoredSubs).countP fun index =>
    (before.entries index).active && !(scan.monitor.entries index).active
  deadless : scan.monitor.getStats.totalDead = 0
  totals : scan.monitor.getStats.totalActive.toNat =
    scan.monitor.getStats.totalAlive.toNat + scan.monitor.getStats.totalWarning.toNat

theorem beat?_reads (serviceId eventId : BitVec 16) (entry : MonitorCall × CycleReply)
    (reading : Nat) (beaten : beat? serviceId eventId entry = some reading) :
    reading ∈ entry.1.readings := by
  rcases entry with ⟨call, reply⟩
  cases call with
  | register service event onDead nowMs =>
      simp only [beat?, Option.ite_none_right_eq_some, Option.some.injEq] at beaten
      exact List.mem_singleton.2 beaten.2.symm
  | recordHeartbeat service event nowMs =>
      simp only [beat?, Option.ite_none_right_eq_some, Option.some.injEq] at beaten
      exact List.mem_singleton.2 beaten.2.symm
  | deregister service event => cases beaten
  | scanAndEvict nowMs => cases beaten

theorem beat?_refused (serviceId eventId : BitVec 16) (call : MonitorCall) {reply : CycleReply}
    {code : ErrorCode} (refused : reply.result = .error code) :
    beat? serviceId eventId (call, reply) = none := by
  cases call with
  | register service event onDead nowMs => simp [beat?, refused]
  | recordHeartbeat service event nowMs => simp [beat?, refused]
  | deregister service event => rfl
  | scanAndEvict nowMs => rfl

/-- The table against the history: an active slot keeps the last beat of its ids, nobody in it
is dead, and a warning goes back to a reading that found the beat an interval old. -/
structure Watched (monitor : DeadSubscriberMonitor) (trace : MonitorTrace) : Prop where
  initialised : monitor.initialised = true
  single : ∀ left right, (monitor.entries left).active = true →
    (monitor.entries right).active = true →
    (monitor.entries left).serviceId = (monitor.entries right).serviceId →
    (monitor.entries left).eventId = (monitor.entries right).eventId → left = right
  beaten : ∀ index, (monitor.entries index).active = true →
    lastBeat (monitor.entries index).serviceId (monitor.entries index).eventId trace =
      some (monitor.entries index).lastBeatMs
  living : ∀ index, (monitor.entries index).active = true →
    (monitor.entries index).health ≠ .dead
  warned : ∀ index, (monitor.entries index).active = true →
    (monitor.entries index).health = .warning →
    ∃ entry ∈ trace, ∃ reading ∈ entry.1.readings,
      (monitor.entries index).lastBeatMs + heartbeatIntervalMs < reading

/-- A slot as it was, or with a warning that the entry of the history justifies. -/
structure KeptSlot (entry : MonitorCall × CycleReply) (before after : LivenessEntry) : Prop where
  active : before.active = true
  serviceId : after.serviceId = before.serviceId
  eventId : after.eventId = before.eventId
  lastBeatMs : after.lastBeatMs = before.lastBeatMs
  health : after.health = before.health ∨ (after.health = .warning ∧
    ∃ reading ∈ entry.1.readings, before.lastBeatMs + heartbeatIntervalMs < reading)

/-- A slot that a scan leaves active is as it was or warned. -/
theorem keptSlot_scanned {slot : LivenessEntry} {nowMs : Nat} {reply : CycleReply}
    (active : (slot.scanned nowMs).active = true) :
    KeptSlot (.scanAndEvict nowMs, reply) slot (slot.scanned nowMs) := by
  unfold LivenessEntry.scanned at active ⊢
  split at active
  · cases active
  next recent =>
    rw [if_neg recent]
    unfold LivenessEntry.aged at active ⊢
    split at active
    next silent =>
      rw [if_pos silent]
      refine ⟨active, rfl, rfl, rfl, .inr ⟨rfl, nowMs, List.mem_singleton_self nowMs, ?_⟩⟩
      exact Nat.add_lt_of_lt_sub' silent.2.2
    next fresh =>
      rw [if_neg fresh]
      exact ⟨active, rfl, rfl, rfl, .inl rfl⟩

theorem KeptSlot.refl (entry : MonitorCall × CycleReply) {slot : LivenessEntry}
    (active : slot.active = true) : KeptSlot entry slot slot :=
  ⟨active, rfl, rfl, rfl, .inl rfl⟩

namespace Watched

variable {monitor : DeadSubscriberMonitor} {trace : MonitorTrace}
  {entry : MonitorCall × CycleReply} {index : Fin maxMonitoredSubs}

/-- A call without a beat, after which every active slot was there before. -/
theorem quiet (watched : Watched monitor trace) {after : DeadSubscriberMonitor}
    (silent : ∀ serviceId eventId, beat? serviceId eventId entry = none)
    (ready : after.initialised = true)
    (kept : ∀ index, (after.entries index).active = true →
      KeptSlot entry (monitor.entries index) (after.entries index)) :
    Watched after (trace ++ [entry]) where
  initialised := ready
  single left right onLeft onRight sameService sameEvent := by
    have leftKept := kept left onLeft
    have rightKept := kept right onRight
    rw [leftKept.serviceId, rightKept.serviceId] at sameService
    rw [leftKept.eventId, rightKept.eventId] at sameEvent
    exact watched.single left right leftKept.active rightKept.active sameService sameEvent
  beaten index active := by
    have slot := kept index active
    rw [lastBeat, latest_concat, silent, slot.serviceId, slot.eventId, slot.lastBeatMs]
    exact watched.beaten index slot.active
  living index active dead := by
    have slot := kept index active
    rcases slot.health with same | ⟨warned, -⟩
    · exact watched.living index slot.active (same.symm.trans dead)
    · rw [warned] at dead
      cases dead
  warned index active warning := by
    have slot := kept index active
    rw [slot.lastBeatMs]
    rcases slot.health with same | ⟨-, reading, read, old⟩
    · obtain ⟨earlier, member, justified⟩ :=
        watched.warned index slot.active (same.symm.trans warning)
      exact ⟨earlier, List.mem_append_left _ member, justified⟩
    · exact ⟨entry, List.mem_concat_self, reading, read, old⟩

/-- A beat of the ids in a slot that they share with no other. -/
theorem beat (watched : Watched monitor trace) {fresh : LivenessEntry}
    (alive : fresh.health = .alive)
    (alone : ∀ other, other ≠ index → (monitor.entries other).active = true →
      ¬ ((monitor.entries other).serviceId = fresh.serviceId ∧
        (monitor.entries other).eventId = fresh.eventId))
    (beats : ∀ serviceId eventId, beat? serviceId eventId entry =
      if fresh.serviceId = serviceId ∧ fresh.eventId = eventId then some fresh.lastBeatMs
      else none) :
    Watched (monitor.store index fresh) (trace ++ [entry]) where
  initialised := watched.initialised
  single left right onLeft onRight sameService sameEvent := by
    by_cases leftHere : left = index
    · by_cases rightHere : right = index
      · exact leftHere.trans rightHere.symm
      · rw [leftHere, DeadSubscriberMonitor.store_here] at sameService sameEvent
        rw [DeadSubscriberMonitor.store_elsewhere rightHere] at onRight sameService sameEvent
        exact absurd ⟨sameService.symm, sameEvent.symm⟩ (alone right rightHere onRight)
    · rw [DeadSubscriberMonitor.store_elsewhere leftHere] at onLeft sameService sameEvent
      by_cases rightHere : right = index
      · rw [rightHere, DeadSubscriberMonitor.store_here] at sameService sameEvent
        exact absurd ⟨sameService, sameEvent⟩ (alone left leftHere onLeft)
      · rw [DeadSubscriberMonitor.store_elsewhere rightHere] at onRight sameService sameEvent
        exact watched.single left right onLeft onRight sameService sameEvent
  beaten other active := by
    rw [lastBeat, latest_concat, beats]
    by_cases here : other = index
    · rw [here, DeadSubscriberMonitor.store_here, if_pos ⟨rfl, rfl⟩]
      rfl
    · rw [DeadSubscriberMonitor.store_elsewhere here] at active ⊢
      rw [if_neg fun same => alone other here active ⟨same.1.symm, same.2.symm⟩]
      exact watched.beaten other active
  living other active := by
    by_cases here : other = index
    · rw [here, DeadSubscriberMonitor.store_here, alive]
      exact SubscriberHealth.noConfusion
    · rw [DeadSubscriberMonitor.store_elsewhere here] at active ⊢
      exact watched.living other active
  warned other active warning := by
    by_cases here : other = index
    · rw [here, DeadSubscriberMonitor.store_here, alive] at warning
      cases warning
    · rw [DeadSubscriberMonitor.store_elsewhere here] at active warning ⊢
      obtain ⟨earlier, member, justified⟩ := watched.warned other active warning
      exact ⟨earlier, List.mem_append_left _ member, justified⟩

/-- A refused call leaves everything as it is. -/
theorem refused (watched : Watched monitor trace) {call : MonitorCall} {reply : CycleReply}
    {code : ErrorCode} (error : reply.result = .error code) :
    Watched monitor (trace ++ [(call, reply)]) :=
  watched.quiet (fun _ _ => beat?_refused _ _ call error) watched.initialised
    fun _ active => .refl _ active

theorem register (watched : Watched monitor trace) (serviceId eventId : BitVec 16)
    (onDead : Option DeadCallback) (nowMs : Nat) :
    Watched (monitor.step (.register serviceId eventId onDead nowMs)).2
      (trace ++ [(.register serviceId eventId onDead nowMs,
        (monitor.step (.register serviceId eventId onDead nowMs)).1)]) := by
  obtain ⟨code, refused⟩ | ⟨index, callback, rfl, free, unknown, taken⟩ :=
    DeadSubscriberMonitor.register_cases watched.initialised serviceId eventId onDead nowMs
  · simp only [DeadSubscriberMonitor.step, refused]
    exact watched.refused rfl
  · simp only [DeadSubscriberMonitor.step, taken]
    refine watched.beat rfl (fun other _ active same => ?_) fun service event => ?_
    · exact DeadSubscriberMonitor.findIndex_none unknown other ⟨active, same⟩
    · simp [beat?]

theorem recordHeartbeat (watched : Watched monitor trace) (serviceId eventId : BitVec 16)
    (nowMs : Nat) :
    Watched (monitor.step (.recordHeartbeat serviceId eventId nowMs)).2
      (trace ++ [(.recordHeartbeat serviceId eventId nowMs,
        (monitor.step (.recordHeartbeat serviceId eventId nowMs)).1)]) := by
  obtain ⟨code, refused⟩ | ⟨index, found, beaten⟩ :=
    DeadSubscriberMonitor.recordHeartbeat_cases watched.initialised serviceId eventId nowMs
  · simp only [DeadSubscriberMonitor.step, refused]
    exact watched.refused rfl
  · obtain ⟨active, rfl, rfl⟩ := DeadSubscriberMonitor.findIndex_some found
    simp only [DeadSubscriberMonitor.step, beaten]
    refine watched.beat rfl (fun other elsewhere taken same => ?_) fun service event => ?_
    · exact elsewhere (watched.single other index taken active same.1 same.2)
    · simp [beat?]

theorem deregister (watched : Watched monitor trace) (serviceId eventId : BitVec 16) :
    Watched (monitor.step (.deregister serviceId eventId)).2
      (trace ++ [(.deregister serviceId eventId,
        (monitor.step (.deregister serviceId eventId)).1)]) := by
  obtain ⟨code, refused⟩ | ⟨index, active, freed⟩ :=
    DeadSubscriberMonitor.deregister_cases watched.initialised serviceId eventId
  · simp only [DeadSubscriberMonitor.step, refused]
    exact watched.refused rfl
  · simp only [DeadSubscriberMonitor.step, freed]
    refine watched.quiet (fun _ _ => rfl) watched.initialised fun other kept => ?_
    by_cases here : other = index
    · rw [here, DeadSubscriberMonitor.store_here] at kept
      cases kept
    · rw [DeadSubscriberMonitor.store_elsewhere here] at kept ⊢
      exact .refl _ kept

theorem scanAndEvict (watched : Watched monitor trace) (nowMs : Nat) :
    Watched (monitor.step (.scanAndEvict nowMs)).2
      (trace ++ [(.scanAndEvict nowMs, (monitor.step (.scanAndEvict nowMs)).1)]) := by
  have ready := watched.initialised
  refine watched.quiet (fun _ _ => rfl) ?_ fun index active => ?_
  · exact DeadSubscriberMonitor.scanAndEvict_initialised ready nowMs
  · have entries : (monitor.step (.scanAndEvict nowMs)).2.entries index =
        (monitor.entries index).scanned nowMs :=
      DeadSubscriberMonitor.scanAndEvict_entries ready nowMs index
    rw [entries] at active ⊢
    exact keptSlot_scanned active

theorem step (watched : Watched monitor trace) (call : MonitorCall) :
    Watched (monitor.step call).2 (trace ++ [(call, (monitor.step call).1)]) := by
  cases call with
  | register serviceId eventId onDead nowMs =>
      exact watched.register serviceId eventId onDead nowMs
  | recordHeartbeat serviceId eventId nowMs =>
      exact watched.recordHeartbeat serviceId eventId nowMs
  | deregister serviceId eventId => exact watched.deregister serviceId eventId
  | scanAndEvict nowMs => exact watched.scanAndEvict nowMs

end Watched

theorem started_watched (initMs : Nat) : Watched (.started initMs) [] where
  initialised := rfl
  single _ _ inactive := absurd inactive Bool.false_ne_true
  beaten _ inactive := absurd inactive Bool.false_ne_true
  living _ inactive := absurd inactive Bool.false_ne_true
  warned _ inactive := absurd inactive Bool.false_ne_true

theorem run_watched (initMs : Nat) (calls : List MonitorCall) :
    Watched (DeadSubscriberMonitor.machine.run (.started initMs) calls)
      (DeadSubscriberMonitor.machine.trace (.started initMs) calls) := by
  induction calls using List.reverseRecOn with
  | nil => exact started_watched initMs
  | append_singleton calls call ih =>
      rw [Machine.run_concat, Machine.trace_concat]
      exact ih.step call

section Classified

variable {monitor : DeadSubscriberMonitor} {trace : MonitorTrace} {nowMs : Nat}
  {reply : CycleReply}

/-- A beat that is kept was read off the clock before. -/
theorem Watched.beat_le (watched : Watched monitor trace)
    (ordered : Ordered (fun entry => entry.1.readings)
      (trace ++ [(.scanAndEvict nowMs, reply)]))
    {index : Fin maxMonitoredSubs} (active : (monitor.entries index).active = true) :
    (monitor.entries index).lastBeatMs ≤ nowMs := by
  obtain ⟨entry, member, beaten⟩ := picked_of_latest (watched.beaten index active)
  exact ordered.le_last member (beat?_reads _ _ entry _ beaten) (List.mem_singleton_self nowMs)

/-- Among those that the scan leaves, a warning is never out of date. -/
theorem Watched.scanned_kept (watched : Watched monitor trace)
    (ordered : Ordered (fun entry => entry.1.readings)
      (trace ++ [(.scanAndEvict nowMs, reply)]))
    {index : Fin maxMonitoredSubs} (active : (monitor.entries index).active = true)
    (recent : ¬ deadTimeoutMs < nowMs - (monitor.entries index).lastBeatMs) :
    (monitor.entries index).scanned nowMs = { monitor.entries index with
      health := if heartbeatIntervalMs < nowMs - (monitor.entries index).lastBeatMs
        then .warning else .alive } := by
  have read := watched.beat_le ordered active
  have kept : ¬ (monitor.entries index).Silent nowMs deadTimeoutMs :=
    fun silent => recent silent.2.2
  rw [LivenessEntry.scanned, if_neg kept, LivenessEntry.aged]
  by_cases old : heartbeatIntervalMs < nowMs - (monitor.entries index).lastBeatMs
  · rw [if_pos ⟨active, read, old⟩, if_pos old]
  · rw [if_neg fun silent => old silent.2.2, if_neg old]
    cases health : (monitor.entries index).health with
    | alive => rw [← health]
    | dead => exact absurd health (watched.living index active)
    | warning =>
        obtain ⟨entry, member, reading, reads, aged⟩ := watched.warned index active health
        have passed := ordered.le_last member reads (List.mem_singleton_self nowMs)
        omega

theorem scanned_free {slot : LivenessEntry} (free : slot.active = false) :
    slot.scanned nowMs = slot := by
  have never : ∀ limitMs, ¬ slot.Silent nowMs limitMs :=
    fun limitMs silent => Bool.false_ne_true (free.symm.trans silent.1)
  rw [LivenessEntry.scanned, if_neg (never _), LivenessEntry.aged, if_neg (never _)]

theorem scanned_active_iff {slot : LivenessEntry} (active : slot.active = true)
    (read : slot.lastBeatMs ≤ nowMs) :
    (slot.scanned nowMs).active = false ↔ deadTimeoutMs < nowMs - slot.lastBeatMs := by
  unfold LivenessEntry.scanned
  constructor
  · intro removed
    split at removed
    next silent => exact silent.2.2
    next recent =>
      unfold LivenessEntry.aged at removed
      split at removed
      · cases active.symm.trans removed
      · cases active.symm.trans removed
  · intro old
    rw [if_pos ⟨active, read, old⟩]
    rfl

theorem Watched.classified (watched : Watched monitor trace)
    (ordered : Ordered (fun entry => entry.1.readings)
      (trace ++ [(.scanAndEvict nowMs, reply)])) :
    Classified trace nowMs monitor (monitor.scanAndEvict nowMs) := by
  have ready := watched.initialised
  have entries := DeadSubscriberMonitor.scanAndEvict_entries ready nowMs
  have after := watched.scanAndEvict nowMs
  constructor
  · intro index free
    rw [entries, scanned_free free]
  · intro index active
    have read := watched.beat_le ordered active
    refine ⟨_, watched.beaten index active, read, ?_, fun recent => ?_⟩
    · rw [entries]
      exact scanned_active_iff active read
    · rw [entries]
      exact watched.scanned_kept ordered active recent
  · rw [DeadSubscriberMonitor.scanAndEvict_evictedThisCycle ready, slots_toNat]
    refine List.countP_congr fun index _ => ?_
    rw [entries, decide_eq_true_iff, Bool.and_eq_true, Bool.not_eq_true']
    constructor
    · intro silent
      exact ⟨silent.1, (scanned_active_iff silent.1 silent.2.1).2 silent.2.2⟩
    · intro lost
      obtain ⟨active, removed⟩ := lost
      have read := watched.beat_le ordered active
      exact ⟨active, read, (scanned_active_iff active read).1 removed⟩
  · exact getStats_deadless after.living
  · exact getStats_totals after.living

end Classified

/-- Over every run with a non-decreasing clock, each scan removes exactly the registrations that
are too old, and what it leaves is classified exactly. -/
theorem scans_classify (initMs : Nat) (calls : List MonitorCall) (nowMs : Nat)
    (ordered : Ordered MonitorCall.readings (calls ++ [.scanAndEvict nowMs])) :
    let monitor := DeadSubscriberMonitor.machine.run (.started initMs) calls
    Classified (DeadSubscriberMonitor.machine.trace (.started initMs) calls) nowMs monitor
      (monitor.scanAndEvict nowMs) := by
  rw [← ordered_trace_iff DeadSubscriberMonitor.machine MonitorCall.readings (.started initMs),
    Machine.trace_concat] at ordered
  exact (run_watched initMs calls).classified ordered

/-- A subscriber that beats, one that falls behind, and one that never beats again. -/
def threeSubscribers : List MonitorCall :=
  [.register 1 1 (some 7) 0, .register 1 2 (some 7) 0, .register 1 3 (some 7) 0,
    .scanAndEvict 600, .recordHeartbeat 1 2 1000, .recordHeartbeat 1 1 2400]

theorem three_subscribers_classified :
    let monitor := DeadSubscriberMonitor.machine.run (.started 0) threeSubscribers
    (monitor.scanAndEvict 2500).evictedThisCycle.toNat =
        ((List.finRange maxMonitoredSubs).countP fun index =>
          (monitor.entries index).active &&
            !((monitor.scanAndEvict 2500).monitor.entries index).active) ∧
      (monitor.scanAndEvict 2500).monitor.getStats.totalDead = 0 ∧
      monitor.getStats.totalActive = 3 ∧
      (monitor.scanAndEvict 2500).monitor.getStats.totalWarning = 1 := by
  have classified := scans_classify 0 threeSubscribers 2500
    (show List.Pairwise (· ≤ ·) [0, 0, 0, 600, 1000, 2400, 2500] by decide)
  exact ⟨classified.counted, classified.deadless, by decide +kernel, by decide +kernel⟩

end SoaGateway.Services
