import SoaGateway.Safety.CommandCopies
import SoaGateway.Safety.DomainHistory

/-! The sensor-health decoder against the payload layout it documents. The domain byte is
checked before it is used; the health byte is stored as it comes. -/

set_option autoImplicit false

namespace SoaGateway.Safety

open Foundation Ipc

/-- One of the four enumerators. -/
def SensorHealth.Listed (health : SensorHealth) : Prop :=
  health ∈ [nominal, degraded, failed, unknown]

instance (health : SensorHealth) : Decidable health.Listed :=
  inferInstanceAs (Decidable (_ ∈ _))

theorem SensorHealth.listed_iff (health : SensorHealth) :
    health.Listed ↔ health.code.toNat ≤ 3 := by
  obtain ⟨code⟩ := health
  simp only [Listed, nominal, degraded, failed, unknown, List.mem_cons, List.not_mem_nil,
    or_false, SensorHealth.mk.injEq, ← BitVec.toNat_inj]
  change code.toNat = 0 ∨ code.toNat = 1 ∨ code.toNat = 2 ∨ code.toNat = 3 ↔ code.toNat ≤ 3
  omega

theorem SensorDomain.index?_isSome_iff (domain : SensorDomain) :
    (∃ index, domain.index? = some index) ↔ domain.code.toNat < numSensorDomains := by
  unfold index?
  split
  · next inside => exact iff_of_true ⟨_, rfl⟩ inside
  · next outside => exact iff_of_false (fun ⟨_, located⟩ => nomatch located) outside

/-- The documented layout: domain, health, two reserved bytes, then the fault code and the
timestamp, both little endian. -/
def documentedFault (event : SoaEvent) : SensorFaultEvent :=
  let bytes := List.ofFn event.payload
  { domain := ⟨bytes.getD 0 0⟩
    health := ⟨bytes.getD 1 0⟩
    faultCode := littleEndianWord ((bytes.drop 4).take 4)
    timestampMs := littleEndianWord ((bytes.drop 8).take 4) }

/-- Four bytes shifted into place and joined are the word they spell. -/
theorem littleEndianWord_four (byte0 byte1 byte2 byte3 : Byte) :
    littleEndianWord [byte0, byte1, byte2, byte3] =
      byte0.setWidth 32 ||| (byte1.setWidth 32 <<< 8) ||| (byte2.setWidth 32 <<< 16) |||
        (byte3.setWidth 32 <<< 24) := by
  have spelt : littleEndian32 (byte0.setWidth 32 ||| (byte1.setWidth 32 <<< 8) |||
      (byte2.setWidth 32 <<< 16) ||| (byte3.setWidth 32 <<< 24)) =
        [byte0, byte1, byte2, byte3] := by
    simp only [littleEndian32, List.cons.injEq, and_true]
    refine ⟨?_, ?_, ?_, ?_⟩ <;> ext place inside <;> simp <;> grind
  rw [← spelt, littleEndianWord_littleEndian32]

namespace SafetyArbitrator

variable {arbitrator : SafetyArbitrator}

theorem decodeFault_eq (event : SoaEvent) : decodeFault event = documentedFault event := by
  simp only [decodeFault, documentedFault, SensorFaultEvent.mk.injEq]
  refine ⟨rfl, rfl, ?_, ?_⟩
  · exact (littleEndianWord_four _ _ _ _).symm
  · exact (littleEndianWord_four _ _ _ _).symm

theorem ingestFault_ok_iff (ready : arbitrator.initialised = true) (fault : SensorFaultEvent)
    (nowMs : Nat) :
    (arbitrator.ingestFault fault nowMs).1 = .ok () ↔
      fault.domain.code.toNat < numSensorDomains := by
  rw [← SensorDomain.index?_isSome_iff]
  unfold ingestFault
  cases fault.domain.index? with
  | none => simp [ready]
  | some index => simp [ready]

theorem ingestFault_rejected {fault : SensorFaultEvent} {nowMs : Nat}
    (rejected : (arbitrator.ingestFault fault nowMs).1 ≠ .ok ()) :
    (arbitrator.ingestFault fault nowMs).2 = arbitrator := by
  unfold ingestFault at rejected ⊢
  split
  · rfl
  · split
    · rfl
    · next unready _ index located => simp [unready, located] at rejected

theorem ingestSoaEvent_of_long (ready : arbitrator.initialised = true) {event : SoaEvent}
    (long : 12 ≤ event.payloadLen) (nowMs : Nat) :
    arbitrator.ingestSoaEvent event nowMs =
      arbitrator.ingestFault (documentedFault event) nowMs := by
  unfold ingestSoaEvent
  rw [decodeFault_eq, ready, if_neg (BitVec.not_lt.2 long)]
  rfl

theorem ingestSoaEvent_of_short (ready : arbitrator.initialised = true) {event : SoaEvent}
    (short : ¬ 12 ≤ event.payloadLen) (nowMs : Nat) :
    arbitrator.ingestSoaEvent event nowMs = (.error .invalidArgument, arbitrator) := by
  unfold ingestSoaEvent
  rw [ready, if_pos (BitVec.not_le.1 short)]
  rfl

theorem ingestSoaEvent_ok_iff (ready : arbitrator.initialised = true) (event : SoaEvent)
    (nowMs : Nat) :
    (arbitrator.ingestSoaEvent event nowMs).1 = .ok () ↔
      12 ≤ event.payloadLen ∧
        (documentedFault event).domain.code.toNat < numSensorDomains := by
  by_cases long : 12 ≤ event.payloadLen
  · rw [ingestSoaEvent_of_long ready long, ingestFault_ok_iff ready]
    exact (and_iff_right long).symm
  · rw [ingestSoaEvent_of_short ready long]
    exact iff_of_false nofun fun accepted => long accepted.1

/-- The decoder accepts its format and nothing else, stores what the layout says, and
leaves the arbitrator alone when it refuses. -/
structure DecodesExactly (arbitrator : SafetyArbitrator) (event : SoaEvent) (nowMs : Nat) :
    Prop where
  accepts_iff : (arbitrator.ingestSoaEvent event nowMs).1 = .ok () ↔
    12 ≤ event.payloadLen ∧ (documentedFault event).domain.code.toNat < numSensorDomains ∧
      (documentedFault event).health.Listed
  accepted : (arbitrator.ingestSoaEvent event nowMs).1 = .ok () →
    arbitrator.ingestSoaEvent event nowMs =
      arbitrator.ingestFault (documentedFault event) nowMs
  rejected : (arbitrator.ingestSoaEvent event nowMs).1 ≠ .ok () →
    (arbitrator.ingestSoaEvent event nowMs).2 = arbitrator

theorem decodesExactly_iff (ready : arbitrator.initialised = true) (event : SoaEvent)
    (nowMs : Nat) :
    arbitrator.DecodesExactly event nowMs ↔
      ¬ (12 ≤ event.payloadLen ∧
        (documentedFault event).domain.code.toNat < numSensorDomains ∧
        3 < (documentedFault event).health.code.toNat) := by
  have acceptance := ingestSoaEvent_ok_iff ready event nowMs
  constructor
  · rintro exact_decoder ⟨long, valid, unlisted⟩
    obtain ⟨-, -, listed⟩ := exact_decoder.accepts_iff.1 (acceptance.2 ⟨long, valid⟩)
    exact absurd ((SensorHealth.listed_iff _).1 listed) (Nat.not_le.2 unlisted)
  · intro format
    refine ⟨?_, fun accepted => ?_, fun rejected => ?_⟩
    · rw [acceptance]
      refine ⟨fun ⟨long, valid⟩ => ⟨long, valid, ?_⟩, fun ⟨long, valid, _⟩ => ⟨long, valid⟩⟩
      exact (SensorHealth.listed_iff _).2 (Nat.not_lt.1 fun high => format ⟨long, valid, high⟩)
    · exact ingestSoaEvent_of_long ready (acceptance.1 accepted).1 nowMs
    · by_cases long : 12 ≤ event.payloadLen
      · rw [ingestSoaEvent_of_long ready long] at rejected ⊢
        exact ingestFault_rejected rejected
      · rw [ingestSoaEvent_of_short ready long]

def HealthsListed (arbitrator : SafetyArbitrator) : Prop :=
  ∀ index, (arbitrator.domains index).health.Listed

/-- The call stores a health byte above the last enumerator. -/
def StoresUnlisted (arbitrator : SafetyArbitrator) (call : ArbitratorCall) : Prop :=
  arbitrator.initialised = true ∧ ∃ fault nowMs, call.report? = some (fault, nowMs) ∧
    fault.domain.code.toNat < numSensorDomains ∧ 3 < fault.health.code.toNat

theorem apply_listed {entry : DomainState} (listed : entry.health.Listed) {event : DomainEvent}
    (allowed : ∀ fault nowMs, event = .reported fault nowMs → fault.health.Listed) :
    (entry.apply event).health.Listed := by
  cases event with
  | scanned nowMs =>
      simp only [DomainState.apply, DomainState.scan]
      split
      · exact (by decide : SensorHealth.failed.Listed)
      · exact listed
  | beaten nowMs =>
      simp only [DomainState.apply, DomainState.beat]
      split
      · exact (by decide : SensorHealth.nominal.Listed)
      · exact listed
  | reported fault nowMs =>
      rw [DomainState.apply, DomainState.report_health]
      exact allowed fault nowMs rfl

theorem healthsListed_step_iff (listed : arbitrator.HealthsListed) (call : ArbitratorCall) :
    (arbitrator.step call).2.HealthsListed ↔ ¬ arbitrator.StoresUnlisted call := by
  cases ready : arbitrator.initialised with
  | false =>
      refine iff_of_true ?_ fun stores => Bool.false_ne_true (ready.symm.trans stores.1)
      intro index
      obtain kept | fresh := step_uninitialised_healths ready call
      · rw [kept]
        exact listed index
      · rw [fresh]
        decide
  | true =>
      constructor
      · rintro after ⟨-, fault, nowMs, carried, valid, high⟩
        obtain ⟨index, located⟩ := (SensorDomain.index?_isSome_iff _).2 valid
        have stored := after index
        rw [step_domains ready, ArbitratorCall.touch_of_report carried located,
          DomainState.report_health, SensorHealth.listed_iff] at stored
        exact absurd stored (Nat.not_le.2 high)
      · intro allowed index
        rw [step_domains ready, ArbitratorCall.touch_eq]
        cases seen : call.event? index with
        | none => exact listed index
        | some event =>
            refine apply_listed (listed index) fun fault nowMs reported => ?_
            obtain ⟨clock, -, same⟩ | ⟨domain, beatMs, -, -, same⟩ |
              ⟨fault', nowMs', carried, located, same⟩ := ArbitratorCall.event?_cases seen
            · cases reported.symm.trans same
            · cases reported.symm.trans same
            · cases reported.symm.trans same
              have valid := (SensorDomain.index?_isSome_iff _).1 ⟨index, located⟩
              rw [SensorHealth.listed_iff]
              exact Nat.not_lt.1 fun high =>
                allowed ⟨ready, fault, nowMs, carried, valid, high⟩

/-- After any run the decoder is exact on an event unless the event is long enough, names a
valid domain and carries a health byte above the last enumerator; every state of a run
stores listed healths exactly when no call of the run stores such a byte. -/
theorem sensor_decoder_exact_iff (ipc : Option IpcBridge) (calls : List ArbitratorCall) :
    (∀ (event : SoaEvent) (nowMs : Nat),
      (machine.run (construct ipc) calls).initialised = true →
        ((machine.run (construct ipc) calls).DecodesExactly event nowMs ↔
          ¬ (12 ≤ event.payloadLen ∧
            (documentedFault event).domain.code.toNat < numSensorDomains ∧
            3 < (documentedFault event).health.code.toNat))) ∧
      ((∀ front, front <+: calls → (machine.run (construct ipc) front).HealthsListed) ↔
        machine.EveryStep (fun arbitrator call => ¬ arbitrator.StoresUnlisted call)
          (construct ipc) calls) := by
  refine ⟨fun event nowMs ready => decodesExactly_iff ready event nowMs, ?_⟩
  have initial : (construct ipc).HealthsListed := fun _ =>
    (by decide : SensorHealth.unknown.Listed)
  exact machine.forall_prefix_iff initial
    (fun current call listed => healthsListed_step_iff listed call) calls

/-- Twelve bytes that name the LiDAR with a health byte of 255. -/
def strangeHealth : SoaEvent where
  serviceId := 0
  eventId := 0
  sessionId := 0
  payloadLen := 12
  payload index := if index.val = 1 then 0xFF else 0

/-- The same bytes announced as eleven are refused, as the format asks. -/
theorem short_payload_is_decoded_exactly :
    (machine.run (overBridge blankSram) [.init 0 0]).DecodesExactly
      { strangeHealth with payloadLen := 11 } 0 :=
  ((sensor_decoder_exact_iff (overBridge blankSram).ipc [.init 0 0]).1
    { strangeHealth with payloadLen := 11 } 0 rfl).2 (by decide)

theorem strange_health_is_accepted :
    let start := machine.run (overBridge blankSram) [.init 0 0]
    let after := machine.run (overBridge blankSram) [.init 0 0, .ingestSoaEvent strangeHealth 0]
    (start.ingestSoaEvent strangeHealth 0).1 = .ok () ∧
      ¬ start.DecodesExactly strangeHealth 0 ∧ ¬ after.HealthsListed := by
  intro start after
  have accepted : (start.ingestSoaEvent strangeHealth 0).1 = .ok () := by decide
  have unlisted : ¬ (documentedFault strangeHealth).health.Listed := by decide
  refine ⟨accepted, fun decodes => unlisted (decodes.accepts_iff.1 accepted).2.2, ?_⟩
  exact fun listed => absurd (listed lidarIndex) (by decide)

end SafetyArbitrator

end SoaGateway.Safety
