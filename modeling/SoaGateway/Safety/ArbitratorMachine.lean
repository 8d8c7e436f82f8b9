import SoaGateway.Foundation.Machine
import SoaGateway.Safety.Arbitrator

/-! The arbitrator and its bridge over whole runs: every call of the interface, other
traffic on the same bridge, and the consumer, which may store anything to the tail. -/

set_option autoImplicit false

namespace SoaGateway.Safety

open Foundation Ipc

inductive ArbitratorCall where
  | init (mandatoryDomains : Byte) (nowMs : Nat)
  | registerListener (listener : Option SafeStateListener)
  | ingestFault (fault : SensorFaultEvent) (nowMs : Nat)
  | injectFault (domain : SensorDomain) (health : SensorHealth) (dtcCode : BitVec 32)
      (stampMs nowMs : Nat)
  | ingestSoaEvent (event : SoaEvent) (nowMs : Nat)
  | recordHeartbeat (domain : SensorDomain) (nowMs : Nat)
  | arbitrate (clock : CycleClock)
  | otherSend (event : SoaEvent)
  | consumerStore (tail : Nat)

namespace ArbitratorCall

/-- The fault event a call hands to `IngestFault`, with its clock reading. -/
def report? : ArbitratorCall → Option (SensorFaultEvent × Nat)
  | .ingestFault fault nowMs => some (fault, nowMs)
  | .injectFault domain health dtcCode stampMs nowMs =>
      some ({ domain, health, faultCode := dtcCode, timestampMs := BitVec.ofNat 32 stampMs }, nowMs)
  | .ingestSoaEvent event nowMs =>
      if event.payloadLen < 12 then none else some (SafetyArbitrator.decodeFault event, nowMs)
  | _ => none

def Reports (call : ArbitratorCall) (index : Fin maxSensorDomains) (health : SensorHealth) : Prop :=
  ∃ fault nowMs, call.report? = some (fault, nowMs) ∧ fault.domain.index? = some index ∧
    fault.health = health

def Beats (call : ArbitratorCall) (index : Fin maxSensorDomains) : Prop :=
  ∃ domain nowMs, call = .recordHeartbeat domain nowMs ∧ domain.index? = some index

def readings : ArbitratorCall → List Nat
  | .init _ nowMs | .ingestFault _ nowMs | .ingestSoaEvent _ nowMs | .recordHeartbeat _ nowMs =>
      [nowMs]
  | .injectFault _ _ _ stampMs nowMs => [stampMs, nowMs]
  | .arbitrate clock => [clock.scanMs, clock.startMs, clock.endMs, clock.logMs]
  | .registerListener _ | .otherSend _ | .consumerStore _ => []

def IsCycle (call : ArbitratorCall) : Prop := ∃ clock, call = .arbitrate clock

def IsInit (call : ArbitratorCall) : Prop :=
  ∃ mandatoryDomains nowMs, call = .init mandatoryDomains nowMs

/-- The calls that reach the bridge from outside the arbitrator. -/
def IsTraffic (call : ArbitratorCall) : Prop :=
  (∃ event, call = .otherSend event) ∨ ∃ tail, call = .consumerStore tail

end ArbitratorCall

namespace SafetyArbitrator

def otherSend (arbitrator : SafetyArbitrator) (event : SoaEvent) : VoidResult × SafetyArbitrator :=
  match arbitrator.ipc with
  | none => (.error .nullPointer, arbitrator)
  | some bridge => ((bridge.send event).1, { arbitrator with ipc := some (bridge.send event).2 })

def consumerStore (arbitrator : SafetyArbitrator) (tail : Nat) : SafetyArbitrator :=
  { arbitrator with
    ipc := arbitrator.ipc.map fun bridge =>
      { bridge with ring := bridge.ring.map fun ring => { ring with tail } } }

def step (arbitrator : SafetyArbitrator) (call : ArbitratorCall) : Reply × SafetyArbitrator :=
  match call with
  | .init mandatoryDomains nowMs =>
      let (result, after) := arbitrator.init mandatoryDomains nowMs
      (.plain result, after)
  | .registerListener listener =>
      let (result, after) := arbitrator.registerListener listener
      (.plain result, after)
  | .ingestFault fault nowMs =>
      let (result, after) := arbitrator.ingestFault fault nowMs
      (.plain result, after)
  | .injectFault domain health dtcCode stampMs nowMs =>
      let (result, after) := arbitrator.injectFault domain health dtcCode stampMs nowMs
      (.plain result, after)
  | .ingestSoaEvent event nowMs =>
      let (result, after) := arbitrator.ingestSoaEvent event nowMs
      (.plain result, after)
  | .recordHeartbeat domain nowMs =>
      let (result, after) := arbitrator.recordHeartbeat domain nowMs
      (.plain result, after)
  | .arbitrate clock => arbitrator.arbitrate clock
  | .otherSend event =>
      let (result, after) := arbitrator.otherSend event
      (.plain result, after)
  | .consumerStore tail => (.plain (.ok ()), arbitrator.consumerStore tail)

def machine : Machine SafetyArbitrator ArbitratorCall Reply := ⟨step⟩

theorem run_step (arbitrator : SafetyArbitrator) (calls : List ArbitratorCall)
    (call : ArbitratorCall) :
    machine.run arbitrator (calls ++ [call]) = ((machine.run arbitrator calls).step call).2 :=
  machine.run_concat arbitrator calls call

def blankSram : IpcRingBuffer where
  head := 0
  tail := 0
  magic := 0
  pad := 0
  slots _ := IpcBridge.zeroSlot

def overBridge (sramBase : IpcRingBuffer) : SafetyArbitrator :=
  construct (some (IpcBridge.init (IpcBridge.construct (some sramBase))).2)

end SafetyArbitrator

end SoaGateway.Safety
