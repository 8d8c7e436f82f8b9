import SoaGateway.Safety.DomainHistory

/-! The order of ingestion across sensors. Each ingested call reaches one entry of the
domain table, so a run of such calls is determined by what each domain saw of it. -/

set_option autoImplicit false

namespace SoaGateway.Safety

open Foundation Ipc

/-- A call one of the ingestion threads makes, with its own clock reading. -/
inductive IngestCall where
  | ingestFault (fault : SensorFaultEvent) (nowMs : Nat)
  | recordHeartbeat (domain : SensorDomain) (nowMs : Nat)

namespace IngestCall

def domain : IngestCall → SensorDomain
  | .ingestFault fault _ => fault.domain
  | .recordHeartbeat domain _ => domain

def call : IngestCall → ArbitratorCall
  | .ingestFault fault nowMs => .ingestFault fault nowMs
  | .recordHeartbeat domain nowMs => .recordHeartbeat domain nowMs

/-- The calls of a sequence that name one domain, in their order. -/
def ofDomain (domain : SensorDomain) (calls : List IngestCall) : List IngestCall :=
  calls.filter fun call => decide (call.domain = domain)

end IngestCall

theorem SensorDomain.eq_ofIndex {domain : SensorDomain} {index : Fin maxSensorDomains}
    (located : domain.index? = some index) : domain = .ofIndex index := by
  unfold index? at located
  split at located
  · cases located
    simp [ofIndex]
  · cases located

open IngestCall

/-- A call on another domain is no event of this one. -/
theorem event?_of_other {call : IngestCall} {index : Fin maxSensorDomains}
    (other : call.domain ≠ .ofIndex index) : call.call.event? index = none := by
  have elsewhere : call.domain.index? ≠ some index :=
    fun located => other (SensorDomain.eq_ofIndex located)
  cases call with
  | ingestFault fault nowMs => exact if_neg elsewhere
  | recordHeartbeat domain nowMs => exact if_neg elsewhere

theorem domainHistory_ofDomain (index : Fin maxSensorDomains) (calls : List IngestCall) :
    domainHistory index ((ofDomain (.ofIndex index) calls).map IngestCall.call) =
      domainHistory index (calls.map IngestCall.call) := by
  induction calls with
  | nil => rfl
  | cons call rest ih =>
      by_cases here : call.domain = .ofIndex index
      · have kept : ofDomain (.ofIndex index) (call :: rest) =
            call :: ofDomain (.ofIndex index) rest :=
          List.filter_cons_of_pos (decide_eq_true here)
        rw [kept, List.map_cons, List.map_cons, domainHistory, domainHistory,
          List.filterMap_cons, List.filterMap_cons]
        rw [domainHistory, domainHistory] at ih
        rw [ih]
      · have skipped : ofDomain (.ofIndex index) (call :: rest) =
            ofDomain (.ofIndex index) rest :=
          List.filter_cons_of_neg (by simpa using here)
        rw [skipped, ih, List.map_cons, domainHistory, domainHistory,
          List.filterMap_cons_none (event?_of_other here)]

namespace SafetyArbitrator

theorem step_ingest (arbitrator : SafetyArbitrator) (call : IngestCall) :
    ∃ domains, (arbitrator.step call.call).2 = { arbitrator with domains } := by
  cases call with
  | ingestFault fault nowMs => exact ingestFault_local arbitrator fault nowMs
  | recordHeartbeat domain nowMs => exact recordHeartbeat_local arbitrator domain nowMs

theorem step_ingest_uninitialised {arbitrator : SafetyArbitrator}
    (unready : arbitrator.initialised = false) (call : IngestCall) :
    (arbitrator.step call.call).2 = arbitrator := by
  cases call with
  | ingestFault fault nowMs => simp [IngestCall.call, step, ingestFault, unready]
  | recordHeartbeat domain nowMs => simp [IngestCall.call, step, recordHeartbeat, unready]

/-- Ingestion changes the domain table and nothing else. -/
theorem run_ingest (arbitrator : SafetyArbitrator) (calls : List IngestCall) :
    ∃ domains, machine.run arbitrator (calls.map IngestCall.call) =
      { arbitrator with domains } := by
  induction calls generalizing arbitrator with
  | nil => exact ⟨arbitrator.domains, rfl⟩
  | cons call rest ih =>
      obtain ⟨early, stepped⟩ := step_ingest arbitrator call
      obtain ⟨domains, ran⟩ := ih (arbitrator.step call.call).2
      refine ⟨domains, ?_⟩
      rw [stepped] at ran
      rw [List.map_cons, machine.run_cons,
        show (machine.step arbitrator call.call).2 = _ from stepped]
      exact ran

theorem run_ingest_uninitialised {arbitrator : SafetyArbitrator}
    (unready : arbitrator.initialised = false) (calls : List IngestCall) :
    machine.run arbitrator (calls.map IngestCall.call) = arbitrator := by
  induction calls with
  | nil => rfl
  | cons call rest ih =>
      rw [List.map_cons, machine.run_cons,
        show (machine.step arbitrator call.call).2 = _ from step_ingest_uninitialised unready call]
      exact ih

/-- The run is determined by what each domain saw of it. -/
theorem run_ingest_congr (arbitrator : SafetyArbitrator) {first second : List IngestCall}
    (agree : ∀ domain, ofDomain domain first = ofDomain domain second) :
    machine.run arbitrator (first.map IngestCall.call) =
      machine.run arbitrator (second.map IngestCall.call) := by
  cases ready : arbitrator.initialised with
  | false => rw [run_ingest_uninitialised ready, run_ingest_uninitialised ready]
  | true =>
      have tables : (machine.run arbitrator (first.map IngestCall.call)).domains =
          (machine.run arbitrator (second.map IngestCall.call)).domains := by
        funext index
        rw [run_domain ready, run_domain ready, ← domainHistory_ofDomain index first,
          ← domainHistory_ofDomain index second, agree]
      obtain ⟨domains, ranFirst⟩ := run_ingest arbitrator first
      obtain ⟨others, ranSecond⟩ := run_ingest arbitrator second
      rw [ranFirst, ranSecond] at tables ⊢
      exact congrArg (fun domains => { arbitrator with domains }) tables

/-- From any state, two interleavings of the same calls of each sensor leave the same
arbitrator, and the cycle that follows answers and ends alike. -/
theorem ingestion_order_irrelevant (arbitrator : SafetyArbitrator)
    (first second : List IngestCall)
    (agree : ∀ domain, ofDomain domain first = ofDomain domain second) :
    let early := machine.run arbitrator (first.map IngestCall.call)
    let late := machine.run arbitrator (second.map IngestCall.call)
    early = late ∧ ∀ clock, early.arbitrate clock = late.arbitrate clock := by
  intro early late
  have same : early = late := run_ingest_congr arbitrator agree
  exact ⟨same, fun clock => congrArg (fun reached => reached.arbitrate clock) same⟩

def lidarFault : IngestCall :=
  .ingestFault { domain := .lidar, health := .failed, timestampMs := 0, faultCode := 0 } 1

def radarBeat : IngestCall := .recordHeartbeat .radar 2

/-- A LiDAR fault and a radar heartbeat may be ingested in either order. -/
theorem lidar_and_radar_commute :
    let start := machine.run (overBridge blankSram) [.init 0 0]
    let early := machine.run start ([lidarFault, radarBeat].map IngestCall.call)
    let late := machine.run start ([radarBeat, lidarFault].map IngestCall.call)
    early = late ∧ ∀ clock, early.arbitrate clock = late.arbitrate clock := by
  refine ingestion_order_irrelevant _ _ _ fun domain => ?_
  by_cases lidar : lidarFault.domain = domain
  · have other : radarBeat.domain ≠ domain := by
      rw [← lidar]
      decide
    simp [ofDomain, lidar, other]
  · by_cases radar : radarBeat.domain = domain <;> simp [ofDomain, lidar, radar]

end SafetyArbitrator

end SoaGateway.Safety
