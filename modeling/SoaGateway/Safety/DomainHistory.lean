import SoaGateway.Safety.SilentDomain

/-! One domain's share of a run. After `Init` the entry of a domain is the result of
applying its own events, in order, to the entry `Init` left. -/

set_option autoImplicit false

namespace SoaGateway.Safety

open Foundation Ipc

/-- What a call can mean to one domain. -/
inductive DomainEvent where
  | scanned (nowMs : Nat)
  | beaten (nowMs : Nat)
  | reported (fault : SensorFaultEvent) (nowMs : Nat)
deriving DecidableEq

def DomainState.apply (entry : DomainState) : DomainEvent → DomainState
  | .scanned nowMs => entry.scan nowMs
  | .beaten nowMs => entry.beat nowMs
  | .reported fault nowMs => entry.report fault nowMs

def ArbitratorCall.event? (index : Fin maxSensorDomains) (call : ArbitratorCall) :
    Option DomainEvent :=
  match call with
  | .arbitrate clock => some (.scanned clock.scanMs)
  | .recordHeartbeat domain nowMs =>
      if domain.index? = some index then some (.beaten nowMs) else none
  | _ =>
      match call.report? with
      | some (fault, nowMs) =>
          if fault.domain.index? = some index then some (.reported fault nowMs) else none
      | none => none

theorem ArbitratorCall.event?_cases {call : ArbitratorCall} {index : Fin maxSensorDomains}
    {event : DomainEvent} (seen : call.event? index = some event) :
    (∃ clock, call = .arbitrate clock ∧ event = .scanned clock.scanMs) ∨
      (∃ domain nowMs, call = .recordHeartbeat domain nowMs ∧ domain.index? = some index ∧
        event = .beaten nowMs) ∨
      ∃ fault nowMs, call.report? = some (fault, nowMs) ∧ fault.domain.index? = some index ∧
        event = .reported fault nowMs := by
  unfold event? at seen
  split at seen
  · next clock => exact .inl ⟨clock, rfl, (Option.some.inj seen).symm⟩
  · next domain nowMs =>
      split at seen
      · next here => exact .inr (.inl ⟨domain, nowMs, rfl, here, (Option.some.inj seen).symm⟩)
      · cases seen
  · split at seen
    · next fault nowMs carried =>
        split at seen
        · next here =>
            exact .inr (.inr ⟨fault, nowMs, carried, here, (Option.some.inj seen).symm⟩)
        · cases seen
    · cases seen

def domainHistory (index : Fin maxSensorDomains) (calls : List ArbitratorCall) :
    List DomainEvent :=
  calls.filterMap (ArbitratorCall.event? index)

@[simp] theorem domainHistory_concat (index : Fin maxSensorDomains) (calls : List ArbitratorCall)
    (call : ArbitratorCall) :
    domainHistory index (calls ++ [call]) =
      domainHistory index calls ++ (call.event? index).toList := by
  cases event : call.event? index <;> simp [domainHistory, event]

theorem ArbitratorCall.touch_eq (call : ArbitratorCall) (index : Fin maxSensorDomains)
    (entry : DomainState) :
    call.touch index entry = (call.event? index).toList.foldl DomainState.apply entry := by
  have reported : ∀ fault nowMs,
      (if fault.domain.index? = some index then entry.report fault nowMs else entry) =
        (if fault.domain.index? = some index then some (DomainEvent.reported fault nowMs)
          else none).toList.foldl DomainState.apply entry := by
    intro fault nowMs
    split <;> rfl
  cases call with
  | arbitrate clock => rfl
  | recordHeartbeat domain nowMs =>
      simp only [touch, event?]
      split <;> rfl
  | ingestFault fault nowMs => exact reported fault nowMs
  | injectFault domain health dtcCode stampMs nowMs => exact reported _ nowMs
  | ingestSoaEvent event nowMs =>
      by_cases short : event.payloadLen < 12
      · simp only [touch, event?, report?, short, ↓reduceIte]
        rfl
      · simp only [touch, event?, report?, short, ↓reduceIte]
        exact reported _ nowMs
  | init mandatoryDomains nowMs => rfl
  | registerListener listener => rfl
  | otherSend event => rfl
  | consumerStore tail => rfl

/-- The entry `Init` leaves for a domain. -/
def initialEntry (mandatoryDomains : Byte) (initMs : Nat) (index : Fin maxSensorDomains) :
    DomainState where
  domain := .ofIndex index
  health := .unknown
  lastHeartbeat := initMs
  faultCount := 0
  dtcCode := 0
  mandatory := mandatoryDomains.getLsbD index.val

namespace SafetyArbitrator

variable (bridge : IpcBridge) (mandatoryDomains : Byte) (initMs : Nat)

theorem run_initialised {arbitrator : SafetyArbitrator} (ready : arbitrator.initialised = true)
    (calls : List ArbitratorCall) : (machine.run arbitrator calls).initialised = true := by
  induction calls using List.reverseRecOn with
  | nil => exact ready
  | append_singleton calls call ih =>
      rw [machine.run_concat]
      exact step_initialised ih call

/-- From an initialised state on, a domain sees its own events and nothing else. -/
theorem run_domain {arbitrator : SafetyArbitrator} (ready : arbitrator.initialised = true)
    (calls : List ArbitratorCall) (index : Fin maxSensorDomains) :
    (machine.run arbitrator calls).domains index =
      (domainHistory index calls).foldl DomainState.apply (arbitrator.domains index) := by
  induction calls using List.reverseRecOn with
  | nil => rfl
  | append_singleton calls call ih =>
      rw [run_step, step_domains (run_initialised ready calls), ih, ArbitratorCall.touch_eq,
        domainHistory_concat, List.foldl_append]

/-- Before `Init` succeeds no call reaches the domain table; `Init` writes `kUnknown`. -/
theorem step_uninitialised_healths {arbitrator : SafetyArbitrator}
    (unready : arbitrator.initialised = false) (call : ArbitratorCall) :
    (arbitrator.step call).2.domains = arbitrator.domains ∨
      ∀ index, ((arbitrator.step call).2.domains index).health = .unknown := by
  cases call with
  | init mandatoryDomains nowMs =>
      simp only [step, init, unready, Bool.false_eq_true, ↓reduceIte]
      split
      · exact .inl rfl
      · exact .inr fun index => rfl
  | registerListener listener => exact .inl (by simp [step, registerListener, unready])
  | ingestFault fault nowMs => exact .inl (by simp [step, ingestFault, unready])
  | injectFault domain health dtcCode stampMs nowMs =>
      exact .inl (by simp [step, injectFault, ingestFault, unready])
  | ingestSoaEvent event nowMs => exact .inl (by simp [step, ingestSoaEvent, unready])
  | recordHeartbeat domain nowMs => exact .inl (by simp [step, recordHeartbeat, unready])
  | arbitrate clock => exact .inl (by simp [step, arbitrate, unready])
  | otherSend event =>
      left
      simp only [step, otherSend]
      split <;> rfl
  | consumerStore tail => exact .inl rfl

theorem run_started_initialised (calls : List ArbitratorCall) :
    (machine.run (started bridge mandatoryDomains initMs) calls).initialised = true :=
  run_initialised rfl calls

theorem run_started_unlatched (calls : List ArbitratorCall) :
    (machine.run (started bridge mandatoryDomains initMs) calls).currentState ≠ .emergencyStop := by
  induction calls using List.reverseRecOn with
  | nil => exact (by decide : SafeState.fullOperation ≠ .emergencyStop)
  | append_singleton calls call ih =>
      rw [machine.run_concat]
      exact step_ne_emergencyStop (run_started_initialised bridge mandatoryDomains initMs calls) ih
        call

theorem run_started_domain (calls : List ArbitratorCall) (index : Fin maxSensorDomains) :
    (machine.run (started bridge mandatoryDomains initMs) calls).domains index =
      (domainHistory index calls).foldl DomainState.apply
        (initialEntry mandatoryDomains initMs index) :=
  run_domain rfl calls index

end SafetyArbitrator

end SoaGateway.Safety
