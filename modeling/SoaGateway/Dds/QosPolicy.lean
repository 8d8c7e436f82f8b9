import Mathlib.Data.List.FinRange
import Mathlib.Logic.Function.Basic
import SoaGateway.Common
import SoaGateway.Foundation.Machine

/-! The DDS QoS enforcer: the profile registry, the check of a sample and the periodic
look at the deadlines. The profiles in use are a list, in the order of registration; every
reading of the monotonic clock, in milliseconds, is a parameter of the call that makes it. -/

set_option autoImplicit false

namespace SoaGateway.Dds

open Foundation

def maxQosProfiles : Nat := 16
def invalidTopicId : BitVec 32 := 0xFFFFFFFF#32
def deadlineInfiniteMs : BitVec 32 := 0xFFFFFFFF#32

inductive ReliabilityKind where
  | bestEffort
  | reliable
deriving DecidableEq, Repr

inductive DurabilityKind where
  | volatile
  | transientLocal
deriving DecidableEq, Repr

inductive HistoryKind where
  | keepLast
  | keepAll
deriving DecidableEq, Repr

structure DdsQosProfile where
  topicId : BitVec 32
  topicName : Fin 32 → Byte
  reliability : ReliabilityKind
  deadlineMs : BitVec 32
  latencyBudgetMs : BitVec 32
  durability : DurabilityKind
  history : HistoryKind
  historyDepth : Byte

/-- A default-constructed profile. -/
def defaultProfile : DdsQosProfile where
  topicId := invalidTopicId
  topicName := fun _ => 0
  reliability := .bestEffort
  deadlineMs := deadlineInfiniteMs
  latencyBudgetMs := 1
  durability := .volatile
  history := .keepLast
  historyDepth := 1

structure DeadlineState where
  topicId : BitVec 32
  lastSampleMs : Nat
  violationCount : BitVec 32
  active : Bool
deriving DecidableEq, Repr

structure DdsQosEnforcer where
  profiles : List DdsQosProfile
  deadlines : Fin maxQosProfiles → DeadlineState
  initialised : Bool

/-- The out-parameter is `none` where a call does not write it. -/
structure QosReply where
  result : VoidResult
  outTopicId : Option (BitVec 32)

namespace DdsQosEnforcer

def construct : DdsQosEnforcer where
  profiles := []
  deadlines _ := {
    topicId := invalidTopicId, lastSampleMs := 0, violationCount := 0, active := false }
  initialised := false

def init (enforcer : DdsQosEnforcer) (nowMs : Nat) : VoidResult × DdsQosEnforcer :=
  if enforcer.initialised then (.error .alreadyRegistered, enforcer)
  else
    (.ok (), {
      profiles := []
      deadlines := fun _ => {
        topicId := invalidTopicId, lastSampleMs := nowMs, violationCount := 0, active := false }
      initialised := true })

def store (enforcer : DdsQosEnforcer) (index : Fin maxQosProfiles) (deadline : DeadlineState) :
    DdsQosEnforcer :=
  { enforcer with deadlines := Function.update enforcer.deadlines index deadline }

def findProfile (enforcer : DdsQosEnforcer) (topicId : BitVec 32) : Option DdsQosProfile :=
  enforcer.profiles.find? fun profile => profile.topicId == topicId

def findDeadlineIndex (enforcer : DdsQosEnforcer) (topicId : BitVec 32) :
    Option (Fin maxQosProfiles) :=
  (List.finRange maxQosProfiles).find? fun index =>
    (enforcer.deadlines index).active && (enforcer.deadlines index).topicId == topicId

def registerProfile (enforcer : DdsQosEnforcer) (profile : DdsQosProfile) (nowMs : Nat) :
    VoidResult × DdsQosEnforcer :=
  if !enforcer.initialised then (.error .notInitialized, enforcer)
  else if room : enforcer.profiles.length < maxQosProfiles then
    if (enforcer.findProfile profile.topicId).isSome then (.error .alreadyRegistered, enforcer)
    else
      let tracked := enforcer.store ⟨enforcer.profiles.length, room⟩ {
        topicId := profile.topicId, lastSampleMs := nowMs, violationCount := 0, active := true }
      (.ok (), { tracked with profiles := enforcer.profiles ++ [profile] })
  else (.error .registryFull, enforcer)

/-- The reliability and the history of the profile are left to the caller. -/
def validateSample (enforcer : DdsQosEnforcer) (topicId : BitVec 32) (sampleLen : BitVec 16)
    (nowMs : Nat) : VoidResult × DdsQosEnforcer :=
  if !enforcer.initialised then (.error .notInitialized, enforcer)
  else match enforcer.findProfile topicId with
    | none => (.error .serviceNotFound, enforcer)
    | some _ =>
        if sampleLen = 0 ∨ BitVec.ofNat 16 maxPayloadBytes < sampleLen then
          (.error .invalidArgument, enforcer)
        else match enforcer.findDeadlineIndex topicId with
          | none => (.ok (), enforcer)
          | some index =>
              (.ok (), enforcer.store index
                { enforcer.deadlines index with lastSampleMs := nowMs })

/-- The profile at an index, if the scan for misses would stop there. -/
def violation? (enforcer : DdsQosEnforcer) (nowMs : Nat) (index : Fin maxQosProfiles) :
    Option (Fin maxQosProfiles × DdsQosProfile) :=
  match enforcer.profiles[index.val]? with
  | none => none
  | some profile =>
      if profile.deadlineMs = deadlineInfiniteMs then none
      else if !(enforcer.deadlines index).active then none
      else
        let lastMs := (enforcer.deadlines index).lastSampleMs
        if nowMs ≥ lastMs ∧ nowMs - lastMs > profile.deadlineMs.toNat then some (index, profile)
        else none

/-- The loop returns at the first miss it finds. -/
def checkDeadlines (enforcer : DdsQosEnforcer) (nowMs : Nat) : QosReply × DdsQosEnforcer :=
  if !enforcer.initialised then
    ({ result := .error .notInitialized, outTopicId := none }, enforcer)
  else match (List.finRange maxQosProfiles).findSome? (enforcer.violation? nowMs) with
    | some (index, profile) =>
        let deadline := enforcer.deadlines index
        ({ result := .error .timeout, outTopicId := some profile.topicId },
          enforcer.store index { deadline with violationCount := deadline.violationCount + 1 })
    | none => ({ result := .ok (), outTopicId := some invalidTopicId }, enforcer)

def getProfile (enforcer : DdsQosEnforcer) (topicId : BitVec 32) :
    Except ErrorCode DdsQosProfile :=
  match enforcer.findProfile topicId with
  | none => .error .serviceNotFound
  | some profile => .ok profile

def getViolationCount (enforcer : DdsQosEnforcer) (topicId : BitVec 32) :
    Except ErrorCode (BitVec 32) :=
  match enforcer.findDeadlineIndex topicId with
  | none => .error .serviceNotFound
  | some index => .ok (enforcer.deadlines index).violationCount

end DdsQosEnforcer

inductive QosCall where
  | init (nowMs : Nat)
  | registerProfile (profile : DdsQosProfile) (nowMs : Nat)
  | validateSample (topicId : BitVec 32) (sampleLen : BitVec 16) (nowMs : Nat)
  | checkDeadlines (nowMs : Nat)

namespace DdsQosEnforcer

def step (enforcer : DdsQosEnforcer) (call : QosCall) : QosReply × DdsQosEnforcer :=
  match call with
  | .init nowMs =>
      let (result, after) := enforcer.init nowMs
      ({ result, outTopicId := none }, after)
  | .registerProfile profile nowMs =>
      let (result, after) := enforcer.registerProfile profile nowMs
      ({ result, outTopicId := none }, after)
  | .validateSample topicId sampleLen nowMs =>
      let (result, after) := enforcer.validateSample topicId sampleLen nowMs
      ({ result, outTopicId := none }, after)
  | .checkDeadlines nowMs => enforcer.checkDeadlines nowMs

def machine : Machine DdsQosEnforcer QosCall QosReply := ⟨step⟩

end DdsQosEnforcer

end SoaGateway.Dds
