import SoaGateway.Services.Liveness

/-! A scan as one step. Where the callbacks leave the monitor alone, nothing comes between the
slots of a scan, and the scan taken slot by slot is the loop below. -/

set_option autoImplicit false

namespace SoaGateway.Services

open Foundation

/-- A scan as far as it has come. -/
structure Scan where
  monitor : DeadSubscriberMonitor
  evictedThisCycle : Byte
  invoked : List Invocation

structure MonitorStats where
  totalActive : Byte
  totalAlive : Byte
  totalWarning : Byte
  totalDead : Byte
  evictedTotal : BitVec 32
deriving DecidableEq, Repr

namespace LivenessEntry

def invocation? (entry : LivenessEntry) : Option Invocation :=
  entry.onDead.map fun callback =>
    { callback, serviceId := entry.serviceId, eventId := entry.eventId }

/-- What a scan leaves of an entry. -/
def scanned (entry : LivenessEntry) (nowMs : Nat) : LivenessEntry :=
  if entry.Silent nowMs deadTimeoutMs then { entry.free with health := .dead }
  else entry.aged nowMs

end LivenessEntry

namespace Scan

def visit (nowMs : Nat) (scan : Scan) (index : Fin maxMonitoredSubs) : Scan :=
  let entry := scan.monitor.entries index
  if entry.Silent nowMs deadTimeoutMs then
    let freed := scan.monitor.store index { entry.free with health := .dead }
    { monitor := { freed with evictedTotal := freed.evictedTotal + 1 }
      evictedThisCycle := scan.evictedThisCycle + 1
      invoked := scan.invoked ++ entry.invocation?.toList }
  else { scan with monitor := scan.monitor.store index (entry.aged nowMs) }

end Scan

namespace MonitorStats

def count (stats : MonitorStats) (entry : LivenessEntry) : MonitorStats :=
  if !entry.active then stats
  else match entry.health with
    | .alive => { stats with
        totalActive := stats.totalActive + 1, totalAlive := stats.totalAlive + 1 }
    | .warning => { stats with
        totalActive := stats.totalActive + 1, totalWarning := stats.totalWarning + 1 }
    | .dead => { stats with
        totalActive := stats.totalActive + 1, totalDead := stats.totalDead + 1 }

end MonitorStats

/-- The answer to a call; the count is that of a scan. -/
structure CycleReply where
  result : VoidResult
  invoked : List Invocation
  evictedThisCycle : Option Byte

namespace DeadSubscriberMonitor

/-- `ScanAndEvict` with callbacks that leave the monitor alone. -/
def scanAndEvict (monitor : DeadSubscriberMonitor) (nowMs : Nat) : Scan :=
  let begun := { monitor, evictedThisCycle := 0, invoked := [] }
  if !monitor.initialised then begun
  else (List.finRange maxMonitoredSubs).foldl (Scan.visit nowMs) begun

def getStats (monitor : DeadSubscriberMonitor) : MonitorStats :=
  (List.finRange maxMonitoredSubs).foldl (fun stats index => stats.count (monitor.entries index)) {
    totalActive := 0, totalAlive := 0, totalWarning := 0, totalDead := 0
    evictedTotal := monitor.evictedTotal }

def step (monitor : DeadSubscriberMonitor) (call : MonitorCall) :
    CycleReply × DeadSubscriberMonitor :=
  match call with
  | .register serviceId eventId onDead nowMs =>
      let (result, after) := monitor.register serviceId eventId onDead nowMs
      ({ result, invoked := [], evictedThisCycle := none }, after)
  | .recordHeartbeat serviceId eventId nowMs =>
      let (result, after) := monitor.recordHeartbeat serviceId eventId nowMs
      ({ result, invoked := [], evictedThisCycle := none }, after)
  | .deregister serviceId eventId =>
      let (result, after) := monitor.deregister serviceId eventId
      ({ result, invoked := [], evictedThisCycle := none }, after)
  | .scanAndEvict nowMs =>
      let scan := monitor.scanAndEvict nowMs
      ({ result := .ok (), invoked := scan.invoked
         evictedThisCycle := some scan.evictedThisCycle }, scan.monitor)

def machine : Machine DeadSubscriberMonitor MonitorCall CycleReply := ⟨step⟩

/-- The monitor after `Init` at a reading. -/
def started (initMs : Nat) : DeadSubscriberMonitor := (construct.init initMs).2

end DeadSubscriberMonitor

section Visited

variable {scan : Scan} {nowMs : Nat} {index : Fin maxMonitoredSubs}

theorem visit_here :
    (scan.visit nowMs index).monitor.entries index =
      (scan.monitor.entries index).scanned nowMs := by
  by_cases silent : (scan.monitor.entries index).Silent nowMs deadTimeoutMs
  · simp [Scan.visit, LivenessEntry.scanned, silent]
  · simp [Scan.visit, LivenessEntry.scanned, silent]

theorem visit_elsewhere {other : Fin maxMonitoredSubs} (elsewhere : other ≠ index) :
    (scan.visit nowMs index).monitor.entries other = scan.monitor.entries other := by
  by_cases silent : (scan.monitor.entries index).Silent nowMs deadTimeoutMs
  · simp [Scan.visit, silent, DeadSubscriberMonitor.store_elsewhere elsewhere]
  · simp [Scan.visit, silent, DeadSubscriberMonitor.store_elsewhere elsewhere]

theorem visit_evictedThisCycle :
    (scan.visit nowMs index).evictedThisCycle = scan.evictedThisCycle +
      BitVec.ofNat 8 (if (scan.monitor.entries index).Silent nowMs deadTimeoutMs then 1 else 0) := by
  by_cases silent : (scan.monitor.entries index).Silent nowMs deadTimeoutMs
  · simp [Scan.visit, silent]
  · simp [Scan.visit, silent]

theorem visit_initialised :
    (scan.visit nowMs index).monitor.initialised = scan.monitor.initialised := by
  unfold Scan.visit
  simp only
  split <;> rfl

end Visited

section Loop

variable {nowMs : Nat} {slots : List (Fin maxMonitoredSubs)}

theorem foldl_visit_initialised (scan : Scan) :
    (slots.foldl (Scan.visit nowMs) scan).monitor.initialised = scan.monitor.initialised := by
  induction slots generalizing scan with
  | nil => rfl
  | cons index slots ih => exact (ih _).trans visit_initialised

/-- The loop visits each slot of the list and no other. -/
theorem foldl_visit_entries (nodup : slots.Nodup) (scan : Scan) (other : Fin maxMonitoredSubs) :
    (slots.foldl (Scan.visit nowMs) scan).monitor.entries other =
      if other ∈ slots then (scan.monitor.entries other).scanned nowMs
      else scan.monitor.entries other := by
  induction slots generalizing scan with
  | nil => rfl
  | cons index slots ih =>
      obtain ⟨fresh, rest⟩ := List.nodup_cons.1 nodup
      rw [List.foldl_cons, ih rest]
      by_cases here : other = index
      · subst here
        rw [if_neg fresh, if_pos List.mem_cons_self, visit_here]
      · rw [visit_elsewhere here]
        simp [here]

theorem foldl_visit_evictedThisCycle (nodup : slots.Nodup) (scan : Scan) :
    (slots.foldl (Scan.visit nowMs) scan).evictedThisCycle = scan.evictedThisCycle +
      BitVec.ofNat 8
        (slots.countP fun index => (scan.monitor.entries index).Silent nowMs deadTimeoutMs) := by
  induction slots generalizing scan with
  | nil => simp
  | cons index slots ih =>
      obtain ⟨fresh, rest⟩ := List.nodup_cons.1 nodup
      have untouched : ∀ other ∈ slots,
          (scan.visit nowMs index).monitor.entries other = scan.monitor.entries other :=
        fun other member => visit_elsewhere fun same => fresh (same ▸ member)
      have counted := List.countP_congr
        (p := fun other =>
          ((scan.visit nowMs index).monitor.entries other).Silent nowMs deadTimeoutMs)
        (q := fun other => (scan.monitor.entries other).Silent nowMs deadTimeoutMs)
        (l := slots) fun other member => by rw [untouched other member]
      rw [List.foldl_cons, ih rest, counted, visit_evictedThisCycle, List.countP_cons,
        BitVec.add_assoc, ← BitVec.ofNat_add, Nat.add_comm]
      simp

end Loop

namespace DeadSubscriberMonitor

variable {monitor : DeadSubscriberMonitor}

/-- The number of slots whose entry meets a condition. -/
def slots (monitor : DeadSubscriberMonitor) (condition : LivenessEntry → Bool) : Nat :=
  (List.finRange maxMonitoredSubs).countP fun index => condition (monitor.entries index)

theorem scanAndEvict_eq (ready : monitor.initialised = true) (nowMs : Nat) :
    monitor.scanAndEvict nowMs = (List.finRange maxMonitoredSubs).foldl (Scan.visit nowMs)
      { monitor, evictedThisCycle := 0, invoked := [] } := by
  simp [scanAndEvict, ready]

theorem scanAndEvict_initialised (ready : monitor.initialised = true) (nowMs : Nat) :
    (monitor.scanAndEvict nowMs).monitor.initialised = true := by
  rw [scanAndEvict_eq ready, foldl_visit_initialised, ready]

theorem scanAndEvict_entries (ready : monitor.initialised = true) (nowMs : Nat)
    (index : Fin maxMonitoredSubs) :
    (monitor.scanAndEvict nowMs).monitor.entries index =
      (monitor.entries index).scanned nowMs := by
  rw [scanAndEvict_eq ready, foldl_visit_entries (List.nodup_finRange _),
    if_pos (List.mem_finRange index)]

theorem scanAndEvict_evictedThisCycle (ready : monitor.initialised = true) (nowMs : Nat) :
    (monitor.scanAndEvict nowMs).evictedThisCycle =
      BitVec.ofNat 8 (monitor.slots fun entry => entry.Silent nowMs deadTimeoutMs) := by
  rw [scanAndEvict_eq ready, foldl_visit_evictedThisCycle (List.nodup_finRange _)]
  exact BitVec.zero_add _

end DeadSubscriberMonitor

section Stats

def LivenessEntry.counts (entry : LivenessEntry) (health : SubscriberHealth) : Bool :=
  entry.active && decide (entry.health = health)

theorem count_eq (stats : MonitorStats) (entry : LivenessEntry) :
    stats.count entry = {
      totalActive := stats.totalActive + BitVec.ofNat 8 entry.active.toNat
      totalAlive := stats.totalAlive + BitVec.ofNat 8 (entry.counts .alive).toNat
      totalWarning := stats.totalWarning + BitVec.ofNat 8 (entry.counts .warning).toNat
      totalDead := stats.totalDead + BitVec.ofNat 8 (entry.counts .dead).toNat
      evictedTotal := stats.evictedTotal } := by
  unfold MonitorStats.count LivenessEntry.counts
  cases entry.active with
  | false => simp
  | true => cases entry.health <;> simp

theorem foldl_count_eq (monitor : DeadSubscriberMonitor) (slots : List (Fin maxMonitoredSubs))
    (stats : MonitorStats) :
    let number := fun (condition : LivenessEntry → Bool) =>
      BitVec.ofNat 8 (slots.countP fun index => condition (monitor.entries index))
    slots.foldl (fun stats index => stats.count (monitor.entries index)) stats = {
      totalActive := stats.totalActive + number LivenessEntry.active
      totalAlive := stats.totalAlive + number (LivenessEntry.counts · .alive)
      totalWarning := stats.totalWarning + number (LivenessEntry.counts · .warning)
      totalDead := stats.totalDead + number (LivenessEntry.counts · .dead)
      evictedTotal := stats.evictedTotal } := by
  intro number
  induction slots generalizing stats with
  | nil => simp [number]
  | cons index slots ih =>
      have one_more : ∀ condition : LivenessEntry → Bool,
          BitVec.ofNat 8 ((index :: slots).countP fun other => condition (monitor.entries other)) =
            BitVec.ofNat 8 (condition (monitor.entries index)).toNat +
              BitVec.ofNat 8 (slots.countP fun other => condition (monitor.entries other)) := by
        intro condition
        rw [← BitVec.ofNat_add, List.countP_cons, Nat.add_comm]
        cases condition (monitor.entries index) <;> rfl
      rw [List.foldl_cons, ih, count_eq]
      simp only [number, one_more, BitVec.add_assoc]

theorem getStats_eq (monitor : DeadSubscriberMonitor) :
    monitor.getStats = {
      totalActive := BitVec.ofNat 8 (monitor.slots LivenessEntry.active)
      totalAlive := BitVec.ofNat 8 (monitor.slots (LivenessEntry.counts · .alive))
      totalWarning := BitVec.ofNat 8 (monitor.slots (LivenessEntry.counts · .warning))
      totalDead := BitVec.ofNat 8 (monitor.slots (LivenessEntry.counts · .dead))
      evictedTotal := monitor.evictedTotal } := by
  unfold DeadSubscriberMonitor.getStats
  rw [foldl_count_eq]
  simp [DeadSubscriberMonitor.slots]

/-- A byte is enough for a number of slots. -/
theorem slots_toNat (monitor : DeadSubscriberMonitor) (condition : LivenessEntry → Bool) :
    (BitVec.ofNat 8 (monitor.slots condition)).toNat = monitor.slots condition := by
  have few : monitor.slots condition ≤ maxMonitoredSubs := by
    have bounded := List.countP_le_length (p := fun index => condition (monitor.entries index))
      (l := List.finRange maxMonitoredSubs)
    rwa [List.length_finRange] at bounded
  rw [BitVec.toNat_ofNat]
  exact Nat.mod_eq_of_lt (few.trans_lt (by decide))

theorem slots_eq_zero {monitor : DeadSubscriberMonitor} {condition : LivenessEntry → Bool}
    (none : ∀ index, condition (monitor.entries index) = false) : monitor.slots condition = 0 :=
  List.countP_eq_zero.2 fun index _ => by simp [none index]

/-- The slots of a kind that falls into two. -/
theorem slots_split {monitor : DeadSubscriberMonitor} {whole first second : LivenessEntry → Bool}
    (split : ∀ index, (whole (monitor.entries index)).toNat =
      (first (monitor.entries index)).toNat + (second (monitor.entries index)).toNat) :
    monitor.slots whole = monitor.slots first + monitor.slots second := by
  unfold DeadSubscriberMonitor.slots
  induction List.finRange maxMonitoredSubs with
  | nil => rfl
  | cons index slots ih =>
      have indicator : ∀ met : Bool, (if met = true then 1 else 0) = met.toNat := by decide
      simp only [List.countP_cons, ih, indicator, split]
      omega

/-- Where no registration is dead, the statistics count none as dead. -/
theorem getStats_deadless {monitor : DeadSubscriberMonitor}
    (living : ∀ index, (monitor.entries index).active = true →
      (monitor.entries index).health ≠ .dead) : monitor.getStats.totalDead = 0 := by
  rw [getStats_eq]
  refine congrArg (BitVec.ofNat 8) (slots_eq_zero fun index => ?_)
  rw [LivenessEntry.counts, Bool.and_eq_false_imp]
  exact fun active => decide_eq_false (living index active)

/-- Where no registration is dead, each is alive or has a warning. -/
theorem getStats_totals {monitor : DeadSubscriberMonitor}
    (living : ∀ index, (monitor.entries index).active = true →
      (monitor.entries index).health ≠ .dead) :
    monitor.getStats.totalActive.toNat =
      monitor.getStats.totalAlive.toNat + monitor.getStats.totalWarning.toNat := by
  simp only [getStats_eq, slots_toNat]
  refine slots_split fun index => ?_
  unfold LivenessEntry.counts
  cases active : (monitor.entries index).active with
  | false => rfl
  | true =>
      cases health : (monitor.entries index).health with
      | alive => rfl
      | warning => rfl
      | dead => exact absurd health (living index active)

end Stats

/-- Where the loop stands before a slot. -/
def Scan.before (scan : Scan) (nowMs index : Nat) : MonitorState where
  monitor := scan.monitor
  control := .scanning nowMs index scan.evictedThisCycle

/-- A scan goes on from one state to another, invoking callbacks on the way, before it ends. -/
def GoesOn (clockMs : Nat) (current next : MonitorState) (invoked : List Invocation) : Prop :=
  ∃ steps, let calls := List.replicate steps (.scanAndEvict clockMs)
    MonitorState.machine.run current calls = next ∧
      (MonitorState.machine.outputs current calls).filterMap MonitorReply.invoked = invoked ∧
      (MonitorState.machine.outputs current calls).filterMap MonitorReply.finished = []

section Steps

variable {clockMs nowMs : Nat}

theorem GoesOn.refl (state : MonitorState) : GoesOn clockMs state state [] := ⟨0, rfl, rfl, rfl⟩

theorem GoesOn.trans {first second third : MonitorState} {early late : List Invocation}
    (goes : GoesOn clockMs first second early) (further : GoesOn clockMs second third late) :
    GoesOn clockMs first third (early ++ late) := by
  obtain ⟨steps, reached, heard, unfinished⟩ := goes
  obtain ⟨more, reached', heard', unfinished'⟩ := further
  refine ⟨steps + more, ?_, ?_, ?_⟩
  · rw [List.replicate_add, Machine.run_append, reached, reached']
  · rw [List.replicate_add, Machine.outputs_append, reached, List.filterMap_append, heard, heard']
  · rw [List.replicate_add, Machine.outputs_append, reached, List.filterMap_append, unfinished,
      unfinished', List.append_nil]

/-- A slot takes one step, or two where a callback runs. -/
theorem visit_goes_on (clockMs nowMs : Nat) (scan : Scan) (index : Fin maxMonitoredSubs) :
    ∃ heard, GoesOn clockMs (scan.before nowMs index.val)
        ((scan.visit nowMs index).before nowMs (index.val + 1)) heard ∧
      (scan.visit nowMs index).invoked = scan.invoked ++ heard := by
  by_cases silent : (scan.monitor.entries index).Silent nowMs deadTimeoutMs
  · cases armed : (scan.monitor.entries index).onDead with
    | none =>
        refine ⟨[], ⟨1, ?_, ?_, ?_⟩, ?_⟩
        all_goals simp [Scan.before, Scan.visit, MonitorState.machine, MonitorState.step,
          MonitorState.scanAndEvict, MonitorState.visit, MonitorReply.plain,
          LivenessEntry.invocation?, silent, armed]
    | some callback =>
        refine ⟨_, ⟨2, ?_, rfl, ?_⟩, ?_⟩
        all_goals simp [Scan.before, Scan.visit, MonitorState.machine, MonitorState.step,
          MonitorState.scanAndEvict, MonitorState.visit, MonitorReply.plain,
          LivenessEntry.invocation?, silent, armed, List.replicate]
  · refine ⟨[], ⟨1, ?_, ?_, ?_⟩, ?_⟩
    all_goals simp [Scan.before, Scan.visit, MonitorState.machine, MonitorState.step,
      MonitorState.scanAndEvict, MonitorState.visit, MonitorReply.plain, silent]

/-- Past its last slot a scan returns its count. -/
theorem scan_ends (clockMs nowMs : Nat) (scan : Scan) :
    MonitorState.machine.step (scan.before nowMs maxMonitoredSubs) (.scanAndEvict clockMs) =
      ({ result := .ok (), invoked := none, finished := some scan.evictedThisCycle },
        ⟨scan.monitor, .idle⟩) := by
  simp [Scan.before, MonitorState.machine, MonitorState.step, MonitorState.scanAndEvict]

/-- The slots from an index on, by induction on their number. -/
theorem loop_goes_on (clockMs nowMs remaining : Nat) {index : Nat} (scan : Scan)
    (left : index + remaining = maxMonitoredSubs) :
    let last := ((List.finRange maxMonitoredSubs).drop index).foldl (Scan.visit nowMs) scan
    ∃ heard, GoesOn clockMs (scan.before nowMs index) (last.before nowMs maxMonitoredSubs) heard ∧
      last.invoked = scan.invoked ++ heard := by
  induction remaining generalizing index scan with
  | zero =>
      obtain rfl : index = maxMonitoredSubs := left
      exact ⟨[], GoesOn.refl _, (List.append_nil _).symm⟩
  | succ remaining ih =>
      have inside : index < maxMonitoredSubs := by omega
      have slot : (List.finRange maxMonitoredSubs).drop index =
          ⟨index, inside⟩ :: (List.finRange maxMonitoredSubs).drop (index + 1) := by
        rw [List.drop_eq_getElem_cons (by rw [List.length_finRange]; exact inside),
          List.getElem_finRange]
        rfl
      rw [slot]
      have shorter : index + 1 + remaining = maxMonitoredSubs := by omega
      obtain ⟨heard, visited, noted⟩ := visit_goes_on clockMs nowMs scan ⟨index, inside⟩
      obtain ⟨later, rest, noted'⟩ := ih (scan.visit nowMs ⟨index, inside⟩) shorter
      refine ⟨heard ++ later, visited.trans rest, ?_⟩
      rw [List.foldl_cons, noted', noted, List.append_assoc]

end Steps

/-- Taken slot by slot with nothing in between, a scan does what the loop does: it leaves the
same table, invokes the same callbacks and returns the same count. -/
theorem scan_is_the_loop (monitor : DeadSubscriberMonitor) (nowMs clockMs : Nat) :
    ∃ steps, let calls := .scanAndEvict nowMs :: List.replicate steps (.scanAndEvict clockMs)
      let answers := MonitorState.machine.outputs ⟨monitor, .idle⟩ calls
      MonitorState.machine.run ⟨monitor, .idle⟩ calls =
          ⟨(monitor.scanAndEvict nowMs).monitor, .idle⟩ ∧
        answers.filterMap MonitorReply.invoked = (monitor.scanAndEvict nowMs).invoked ∧
        answers.filterMap MonitorReply.finished =
          [(monitor.scanAndEvict nowMs).evictedThisCycle] := by
  cases ready : monitor.initialised with
  | false =>
      refine ⟨0, ?_, ?_, ?_⟩
      all_goals simp [MonitorState.machine, MonitorState.step, MonitorState.scanAndEvict,
        DeadSubscriberMonitor.scanAndEvict, ready]
  | true =>
      obtain ⟨heard, ⟨steps, reached, invoked, unfinished⟩, noted⟩ :=
        loop_goes_on clockMs nowMs maxMonitoredSubs { monitor, evictedThisCycle := 0, invoked := [] } (Nat.zero_add _)
      have begun : MonitorState.machine.step ⟨monitor, .idle⟩ (.scanAndEvict nowMs) =
          (.plain (.ok ()), ⟨monitor, .scanning nowMs 0 0⟩) := by
        simp [MonitorState.machine, MonitorState.step, MonitorState.scanAndEvict, ready]
      rw [List.drop_zero, ← DeadSubscriberMonitor.scanAndEvict_eq ready] at reached noted
      have last := scan_ends clockMs nowMs (monitor.scanAndEvict nowMs)
      have opening : (⟨monitor, .scanning nowMs 0 0⟩ : MonitorState) = Scan.before
          { monitor, evictedThisCycle := 0, invoked := [] } nowMs 0 := rfl
      rw [← opening] at reached invoked unfinished
      refine ⟨steps + 1, ?_, ?_, ?_⟩
      · rw [Machine.run_cons, begun, List.replicate_succ', Machine.run_concat, reached, last]
      · rw [Machine.outputs_cons, begun, List.replicate_succ', Machine.outputs_concat, reached, last,
          noted, ← invoked]
        simp [MonitorReply.plain]
      · rw [Machine.outputs_cons, begun, List.replicate_succ', Machine.outputs_concat, reached, last]
        simpa [MonitorReply.plain] using unfinished

end SoaGateway.Services
