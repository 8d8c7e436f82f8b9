import SoaGateway.Foundation.Binary32
import SoaGateway.Ipc.Bridge

/-! The safety arbitrator: sensor domains, the degradation matrix and the arbitration
cycle. Every reading of the monotonic clock is a parameter of the call that makes it,
in milliseconds. Pointers are options, and a listener is known by its address. -/

set_option autoImplicit false

namespace SoaGateway.Safety

open Foundation Ipc

def maxLongitudinalDecelMps2 : Binary32 := .ofFraction 981 100
def mrcMaxSpeedKph : Binary32 := .ofFraction 20 1
def degradedMaxSpeedKph : Binary32 := .ofFraction 30 1
def safeStateTransitionMs : BitVec 32 := 50
def sensorTimeoutMs : Nat := 100
def faultThreshold : BitVec 32 := 3
def maxSensorDomains : Nat := 8
def maxArbitratorListeners : Nat := 8
def arbitratorMagic : BitVec 32 := 0x5AFE0001#32
def numSensorDomains : Nat := 7
def maxTransitionLog : Nat := 32

/-- An enumeration over a byte; a cast from a payload byte may give any code. -/
structure SensorDomain where
  code : Byte
deriving DecidableEq, Repr

namespace SensorDomain

def lidar : SensorDomain := ⟨0⟩
def radar : SensorDomain := ⟨1⟩
def camera : SensorDomain := ⟨2⟩
def gnss : SensorDomain := ⟨3⟩
def imu : SensorDomain := ⟨4⟩
def v2x : SensorDomain := ⟨5⟩
def uss : SensorDomain := ⟨6⟩
def invalid : SensorDomain := ⟨7⟩

def index? (domain : SensorDomain) : Option (Fin maxSensorDomains) :=
  if inside : domain.code.toNat < numSensorDomains then
    some ⟨domain.code.toNat, Nat.lt_trans inside (by decide)⟩
  else none

def ofIndex (index : Fin maxSensorDomains) : SensorDomain := ⟨BitVec.ofNat 8 index.val⟩

end SensorDomain

structure SensorHealth where
  code : Byte
deriving DecidableEq, Repr

namespace SensorHealth

def nominal : SensorHealth := ⟨0⟩
def degraded : SensorHealth := ⟨1⟩
def failed : SensorHealth := ⟨2⟩
def unknown : SensorHealth := ⟨3⟩

end SensorHealth

inductive SafeState where
  | fullOperation
  | radarCameraFallback
  | lidarCameraFallback
  | lidarRadarFallback
  | deadReckoningMode
  | reducedDynamics
  | minimalRiskCondition
  | emergencyStop
deriving DecidableEq, Repr

/-- The enumerator's value; a higher one is a more severe restriction. -/
def SafeState.severity : SafeState → Nat
  | .fullOperation => 0
  | .radarCameraFallback => 1
  | .lidarCameraFallback => 2
  | .lidarRadarFallback => 3
  | .deadReckoningMode => 4
  | .reducedDynamics => 5
  | .minimalRiskCondition => 6
  | .emergencyStop => 7

structure SensorFaultEvent where
  domain : SensorDomain
  health : SensorHealth
  timestampMs : BitVec 32
  faultCode : BitVec 32
deriving DecidableEq, Repr

structure SafeStateCommand where
  magic : BitVec 32
  state : SafeState
  activeDomains : Byte
  faultBitmask : Byte
  reserved : Byte
  maxSpeedKph : Binary32
  maxDecelMps2 : Binary32
  transitionMs : BitVec 32
  sequenceNum : BitVec 32
deriving DecidableEq, Repr

structure DomainState where
  domain : SensorDomain
  health : SensorHealth
  lastHeartbeat : Nat
  faultCount : BitVec 32
  dtcCode : BitVec 32
  mandatory : Bool
deriving DecidableEq, Repr

namespace DomainState

def report (entry : DomainState) (fault : SensorFaultEvent) (nowMs : Nat) :
    DomainState :=
  let stored := { entry with health := fault.health, dtcCode := fault.faultCode }
  if fault.health = .nominal then { stored with faultCount := 0, lastHeartbeat := nowMs }
  else { stored with faultCount := entry.faultCount + 1 }

def beat (entry : DomainState) (nowMs : Nat) : DomainState :=
  { entry with
    lastHeartbeat := nowMs
    health := if entry.faultCount = 0 then .nominal else entry.health }

/-- Silent for longer than the timeout; a reading before the last beat never counts. -/
def Late (entry : DomainState) (nowMs : Nat) : Prop :=
  sensorTimeoutMs < nowMs - entry.lastHeartbeat

instance (entry : DomainState) (nowMs : Nat) : Decidable (entry.Late nowMs) :=
  inferInstanceAs (Decidable (_ < _))

def scan (entry : DomainState) (nowMs : Nat) : DomainState :=
  if entry.Late nowMs ∧ entry.health ≠ .failed then
    { entry with health := .failed, faultCount := entry.faultCount + 1 }
  else entry

end DomainState

structure SafeStateTransition where
  fromState : SafeState
  toState : SafeState
  triggerDomain : SensorDomain
  timestampMs : Nat
  transitionMs : BitVec 32
  sequenceNum : BitVec 32
deriving DecidableEq, Repr

abbrev SafeStateListener := BitVec 64

@[ext] structure SafetyArbitrator where
  ipc : Option IpcBridge
  domains : Fin maxSensorDomains → DomainState
  currentState : SafeState
  faultBitmask : Byte
  activeBitmask : Byte
  sequenceNum : BitVec 32
  transitionCount : BitVec 32
  mandatoryMask : Byte
  lastCommand : SafeStateCommand
  transitionLog : Nat → SafeStateTransition
  logHead : Nat
  listeners : List SafeStateListener
  initialised : Bool

/-- The readings one arbitration cycle takes: in the timeout scan, around the send and
for the log record. The last three are taken only when a transition is executed. -/
structure CycleClock where
  scanMs : Nat
  startMs : Nat
  endMs : Nat
  logMs : Nat

def CycleClock.latencyMs (clock : CycleClock) : BitVec 32 :=
  if clock.startMs ≤ clock.endMs then BitVec.ofNat 32 (clock.endMs - clock.startMs) else 0

structure Reply where
  result : VoidResult
  sent : Option (SafeStateCommand × VoidResult)
  notified : List (SafeStateListener × SafeStateCommand)

def Reply.plain (result : VoidResult) : Reply := { result, sent := none, notified := [] }

def initialCommand : SafeStateCommand where
  magic := arbitratorMagic
  state := .fullOperation
  activeDomains := 0xFF
  faultBitmask := 0
  reserved := 0
  maxSpeedKph := .ofFraction 130 1
  maxDecelMps2 := maxLongitudinalDecelMps2
  transitionMs := 0
  sequenceNum := 0

namespace SafetyArbitrator

def construct (ipc : Option IpcBridge) : SafetyArbitrator where
  ipc := ipc
  domains _ := {
    domain := .invalid, health := .unknown, lastHeartbeat := 0, faultCount := 0, dtcCode := 0,
    mandatory := false }
  currentState := .fullOperation
  faultBitmask := 0
  activeBitmask := 0xFF
  sequenceNum := 0
  transitionCount := 0
  mandatoryMask := 0
  lastCommand := initialCommand
  transitionLog _ := {
    fromState := .fullOperation, toState := .emergencyStop, triggerDomain := .invalid,
    timestampMs := 0, transitionMs := 0, sequenceNum := 0 }
  logHead := 0
  listeners := []
  initialised := false

def init (arbitrator : SafetyArbitrator) (mandatoryDomains : Byte) (nowMs : Nat) :
    VoidResult × SafetyArbitrator :=
  if arbitrator.initialised then (.error .alreadyRegistered, arbitrator)
  else if arbitrator.ipc.isNone then (.error .nullPointer, arbitrator)
  else
    (.ok (), {
      arbitrator with
      mandatoryMask := mandatoryDomains
      listeners := []
      logHead := 0
      sequenceNum := 0
      transitionCount := 0
      currentState := .fullOperation
      faultBitmask := 0
      activeBitmask := 0xFF
      domains := fun index => {
        domain := .ofIndex index
        health := .unknown
        lastHeartbeat := nowMs
        faultCount := 0
        dtcCode := 0
        mandatory := mandatoryDomains.getLsbD index.val }
      lastCommand := initialCommand
      initialised := true })

def registerListener (arbitrator : SafetyArbitrator) (listener : Option SafeStateListener) :
    VoidResult × SafetyArbitrator :=
  if !arbitrator.initialised then (.error .notInitialized, arbitrator)
  else match listener with
    | none => (.error .nullPointer, arbitrator)
    | some address =>
        if maxArbitratorListeners ≤ arbitrator.listeners.length then
          (.error .registryFull, arbitrator)
        else (.ok (), { arbitrator with listeners := arbitrator.listeners ++ [address] })

def updateDomain (arbitrator : SafetyArbitrator) (index : Fin maxSensorDomains)
    (entry : DomainState) : SafetyArbitrator :=
  { arbitrator with domains := Function.update arbitrator.domains index entry }

def ingestFault (arbitrator : SafetyArbitrator) (fault : SensorFaultEvent) (nowMs : Nat) :
    VoidResult × SafetyArbitrator :=
  if !arbitrator.initialised then (.error .notInitialized, arbitrator)
  else match fault.domain.index? with
    | none => (.error .invalidArgument, arbitrator)
    | some index =>
        (.ok (), arbitrator.updateDomain index ((arbitrator.domains index).report fault nowMs))

def recordHeartbeat (arbitrator : SafetyArbitrator) (domain : SensorDomain) (nowMs : Nat) :
    VoidResult × SafetyArbitrator :=
  if !arbitrator.initialised then (.error .notInitialized, arbitrator)
  else match domain.index? with
    | none => (.error .invalidArgument, arbitrator)
    | some index =>
        (.ok (), arbitrator.updateDomain index ((arbitrator.domains index).beat nowMs))

def payloadWord (event : SoaEvent) (offset : Fin (maxPayloadBytes - 3)) : BitVec 32 :=
  let byte (place : Fin 4) : BitVec 32 :=
    (event.payload ⟨offset.val + place.val, by simp [maxPayloadBytes] at *; omega⟩).setWidth 32
  byte 0 ||| (byte 1 <<< 8) ||| (byte 2 <<< 16) ||| (byte 3 <<< 24)

def decodeFault (event : SoaEvent) : SensorFaultEvent where
  domain := ⟨event.payload ⟨0, by decide⟩⟩
  health := ⟨event.payload ⟨1, by decide⟩⟩
  faultCode := payloadWord event ⟨4, by decide⟩
  timestampMs := payloadWord event ⟨8, by decide⟩

def ingestSoaEvent (arbitrator : SafetyArbitrator) (event : SoaEvent) (nowMs : Nat) :
    VoidResult × SafetyArbitrator :=
  if !arbitrator.initialised then (.error .notInitialized, arbitrator)
  else if event.payloadLen < 12 then (.error .invalidArgument, arbitrator)
  else arbitrator.ingestFault (decodeFault event) nowMs

def injectFault (arbitrator : SafetyArbitrator) (domain : SensorDomain) (health : SensorHealth)
    (dtcCode : BitVec 32) (stampMs nowMs : Nat) : VoidResult × SafetyArbitrator :=
  arbitrator.ingestFault
    { domain, health, faultCode := dtcCode, timestampMs := BitVec.ofNat 32 stampMs } nowMs

def scanTimeouts (arbitrator : SafetyArbitrator) (nowMs : Nat) : SafetyArbitrator :=
  { arbitrator with domains := fun index => (arbitrator.domains index).scan nowMs }

def healthMask (arbitrator : SafetyArbitrator) (health : SensorHealth) : Byte :=
  (List.finRange maxSensorDomains).foldl (fun mask index =>
    if (arbitrator.domains index).health = health then mask ||| (1#8 <<< index.val) else mask)
    0#8

def updateBitmasks (arbitrator : SafetyArbitrator) : SafetyArbitrator :=
  { arbitrator with
    faultBitmask := arbitrator.healthMask .failed
    activeBitmask := arbitrator.healthMask .nominal }

def isFailed (arbitrator : SafetyArbitrator) (domain : SensorDomain) : Bool :=
  arbitrator.faultBitmask.getLsbD domain.code.toNat

/-- Some mandatory domain is failed and some mandatory domain has reached the threshold. -/
def mandatoryLost (arbitrator : SafetyArbitrator) : Bool :=
  arbitrator.faultBitmask &&& arbitrator.mandatoryMask != 0 &&
    (List.finRange maxSensorDomains).any fun index =>
      arbitrator.mandatoryMask.getLsbD index.val &&
        decide (faultThreshold ≤ (arbitrator.domains index).faultCount)

def computeRequiredState (arbitrator : SafetyArbitrator) : SafeState :=
  let lidarFailed := arbitrator.isFailed .lidar
  let radarFailed := arbitrator.isFailed .radar
  if lidarFailed && radarFailed then .minimalRiskCondition
  else if arbitrator.mandatoryLost then .minimalRiskCondition
  else if lidarFailed && !radarFailed then .radarCameraFallback
  else if radarFailed && !lidarFailed then .lidarCameraFallback
  else if arbitrator.isFailed .camera then .lidarRadarFallback
  else if arbitrator.isFailed .gnss && !arbitrator.isFailed .imu then .deadReckoningMode
  else if arbitrator.isFailed .imu then .reducedDynamics
  else .fullOperation

def logTransition (arbitrator : SafetyArbitrator) (fromState toState : SafeState)
    (trigger : SensorDomain) (latencyMs : BitVec 32) (nowMs : Nat) : SafetyArbitrator :=
  let entry : SafeStateTransition := {
    fromState, toState, triggerDomain := trigger, timestampMs := nowMs,
    transitionMs := latencyMs, sequenceNum := arbitrator.transitionCount }
  { arbitrator with
    transitionLog := Function.update arbitrator.transitionLog arbitrator.logHead entry
    logHead := (arbitrator.logHead + 1) % maxTransitionLog }

def commandBytes (cmd : SafeStateCommand) : List Byte :=
  littleEndian32 cmd.magic ++
    [BitVec.ofNat 8 cmd.state.severity, cmd.activeDomains, cmd.faultBitmask, 0] ++
    littleEndian32 cmd.maxSpeedKph.bits ++ littleEndian32 cmd.maxDecelMps2.bits ++
    littleEndian32 cmd.transitionMs ++ littleEndian32 cmd.sequenceNum

def commandEvent (cmd : SafeStateCommand) : SoaEvent where
  serviceId := 0xFF00
  eventId := 0xFF01
  sessionId := cmd.sequenceNum
  payloadLen := 24
  payload index := (commandBytes cmd).getD index.val 0

def sendCommandToM7 (arbitrator : SafetyArbitrator) (cmd : SafeStateCommand) :
    VoidResult × SafetyArbitrator :=
  match arbitrator.ipc with
  | none => (.error .nullPointer, arbitrator)
  | some bridge =>
      let sent := bridge.send (commandEvent cmd)
      (sent.1, { arbitrator with ipc := some sent.2 })

def speedCap : SafeState → Binary32
  | .fullOperation => .ofFraction 130 1
  | .radarCameraFallback | .lidarCameraFallback => .ofFraction 100 1
  | .lidarRadarFallback | .deadReckoningMode | .reducedDynamics => degradedMaxSpeedKph
  | .minimalRiskCondition => mrcMaxSpeedKph
  | .emergencyStop => .ofFraction 0 1

def decelCap : SafeState → Binary32
  | .deadReckoningMode => maxLongitudinalDecelMps2.mul (.ofFraction 7 10)
  | .reducedDynamics => maxLongitudinalDecelMps2.mul (.ofFraction 5 10)
  | .minimalRiskCondition => maxLongitudinalDecelMps2.mul (.ofFraction 3 10)
  | _ => maxLongitudinalDecelMps2

/-- The command as it is sent, before the latency is known. -/
def buildCommand (arbitrator : SafetyArbitrator) (target : SafeState) : SafeStateCommand where
  magic := arbitratorMagic
  state := target
  activeDomains := arbitrator.activeBitmask
  faultBitmask := arbitrator.faultBitmask
  reserved := 0
  maxSpeedKph := speedCap target
  maxDecelMps2 := decelCap target
  transitionMs := 0
  sequenceNum := arbitrator.sequenceNum + 1

def triggerDomain (arbitrator : SafetyArbitrator) : SensorDomain :=
  match (List.finRange maxSensorDomains).find? fun index =>
      arbitrator.faultBitmask.getLsbD index.val with
  | some index => .ofIndex index
  | none => .invalid

def executeTransition (arbitrator : SafetyArbitrator) (target : SafeState) (clock : CycleClock) :
    Reply × SafetyArbitrator :=
  let cmd := arbitrator.buildCommand target
  let (sendResult, sent) :=
    { arbitrator with sequenceNum := arbitrator.sequenceNum + 1 }.sendCommandToM7 cmd
  let latencyMs := clock.latencyMs
  let measured := { cmd with transitionMs := latencyMs }
  let committed := {
    sent with
    currentState := target
    lastCommand := measured
    transitionCount := sent.transitionCount + 1 }
  let result : VoidResult :=
    if safeStateTransitionMs < latencyMs then .error .timeout
    else match sendResult with
      | .error _ => .error .e2eViolation
      | .ok _ => .ok ()
  ({ result, sent := some (cmd, sendResult),
     notified := committed.listeners.map fun listener => (listener, measured) },
    committed.logTransition arbitrator.currentState target arbitrator.triggerDomain latencyMs
      clock.logMs)

/-- The timeout scan and the bitmask update that open every cycle. -/
def observe (arbitrator : SafetyArbitrator) (nowMs : Nat) : SafetyArbitrator :=
  (arbitrator.scanTimeouts nowMs).updateBitmasks

def arbitrate (arbitrator : SafetyArbitrator) (clock : CycleClock) : Reply × SafetyArbitrator :=
  if !arbitrator.initialised then (.plain (.error .notInitialized), arbitrator)
  else
    let observed := arbitrator.observe clock.scanMs
    let required := observed.computeRequiredState
    if required = observed.currentState then (.plain (.ok ()), observed)
    else if observed.currentState = .emergencyStop then (.plain (.ok ()), observed)
    else observed.executeTransition required clock

def getDomainHealth (arbitrator : SafetyArbitrator) (domain : SensorDomain) : SensorHealth :=
  if inside : domain.code.toNat < maxSensorDomains then
    (arbitrator.domains ⟨domain.code.toNat, inside⟩).health
  else .unknown

/-- Up to `bufferSize` records, newest first. -/
def drainTransitionLog (arbitrator : SafetyArbitrator) (bufferSize : Byte) :
    List SafeStateTransition :=
  let count := min arbitrator.transitionCount.toNat maxTransitionLog
  (List.range (min count bufferSize.toNat)).map fun back =>
    arbitrator.transitionLog ((arbitrator.logHead + maxTransitionLog - 1 - back) % maxTransitionLog)

end SafetyArbitrator

end SoaGateway.Safety
