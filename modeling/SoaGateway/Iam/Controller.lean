import SoaGateway.Common
import SoaGateway.Foundation.Machine
import SoaGateway.Foundation.Ring

/-! Role-based access control with its audit log. Policies and roles are fixed-capacity
tables, filled in insertion order. The clock reading of a log record, in nanoseconds, is
a parameter of the call that takes it. -/

set_option autoImplicit false

namespace SoaGateway.Iam

open Foundation

def maxPolicies : Nat := 64
def maxRoles : Nat := 16
def maxAuditLogEntries : Nat := 128
def anyMethod : BitVec 16 := 0xFFFF#16

/-- A set of actions, one bit each; any byte is a value of the enumeration. -/
structure AccessAction where
  bits : Byte
deriving DecidableEq, Repr

namespace AccessAction

def none : AccessAction := ⟨0x00⟩
def read : AccessAction := ⟨0x01⟩
def write : AccessAction := ⟨0x02⟩
def execute : AccessAction := ⟨0x04⟩
def admin : AccessAction := ⟨0x08⟩
def or (lhs rhs : AccessAction) : AccessAction := ⟨lhs.bits ||| rhs.bits⟩

end AccessAction

def hasAction (granted requested : AccessAction) : Bool := granted.bits &&& requested.bits != 0

structure Role where
  roleId : Byte
  name : Fin 24 → Byte

structure PolicyEntry where
  principalId : BitVec 32
  serviceId : BitVec 16
  methodId : BitVec 16
  roleId : Byte
  allowed : AccessAction
deriving DecidableEq, Repr

inductive AuditResult where
  | granted
  | denied
deriving DecidableEq, Repr

structure AuditEntry where
  principalId : BitVec 32
  serviceId : BitVec 16
  methodId : BitVec 16
  requested : AccessAction
  result : AuditResult
  timestampNs : Nat
deriving DecidableEq, Repr

structure IamSecurityController where
  roles : List Role
  policies : List PolicyEntry
  auditLog : Nat → AuditEntry
  auditHead : Nat
  auditTail : Nat
  initialised : Bool

structure Request where
  principalId : BitVec 32
  serviceId : BitVec 16
  methodId : BitVec 16
  action : AccessAction
deriving DecidableEq, Repr

def PolicyEntry.matches (entry : PolicyEntry) (request : Request) : Bool :=
  entry.principalId == request.principalId && entry.serviceId == request.serviceId &&
    (entry.methodId == anyMethod || entry.methodId == request.methodId)

namespace IamSecurityController

def construct : IamSecurityController where
  roles := []
  policies := []
  auditLog _ := {
    principalId := 0, serviceId := 0, methodId := 0, requested := .none, result := .denied,
    timestampNs := 0 }
  auditHead := 0
  auditTail := 0
  initialised := false

def init (iam : IamSecurityController) : VoidResult × IamSecurityController :=
  if iam.initialised then (.error .alreadyRegistered, iam)
  else
    (.ok (), {
      iam with
      initialised := true
      roles := []
      policies := []
      auditHead := 0
      auditTail := 0 })

def registerRole (iam : IamSecurityController) (role : Role) :
    VoidResult × IamSecurityController :=
  if !iam.initialised then (.error .notInitialized, iam)
  else if maxRoles ≤ iam.roles.length then (.error .registryFull, iam)
  else if iam.roles.any fun known => known.roleId == role.roleId then
    (.error .alreadyRegistered, iam)
  else (.ok (), { iam with roles := iam.roles ++ [role] })

def addPolicy (iam : IamSecurityController) (entry : PolicyEntry) :
    VoidResult × IamSecurityController :=
  if !iam.initialised then (.error .notInitialized, iam)
  else if maxPolicies ≤ iam.policies.length then (.error .registryFull, iam)
  else (.ok (), { iam with policies := iam.policies ++ [entry] })

/-- The log write does not look at the tail. -/
def appendAuditEntry (iam : IamSecurityController) (request : Request) (result : AuditResult)
    (nowNs : Nat) : IamSecurityController :=
  let entry : AuditEntry := {
    principalId := request.principalId, serviceId := request.serviceId,
    methodId := request.methodId, requested := request.action, result, timestampNs := nowNs }
  { iam with
    auditLog := Function.update iam.auditLog iam.auditHead entry
    auditHead := (iam.auditHead + 1) % maxAuditLogEntries }

def authorise (iam : IamSecurityController) (request : Request) (nowNs : Nat) :
    VoidResult × IamSecurityController :=
  if !iam.initialised then (.error .notInitialized, iam)
  else match iam.policies.find? fun entry => entry.matches request with
    | some entry =>
        if hasAction entry.allowed request.action then
          (.ok (), iam.appendAuditEntry request .granted nowNs)
        else (.error .unauthorized, iam.appendAuditEntry request .denied nowNs)
    | none => (.error .unauthorized, iam.appendAuditEntry request .denied nowNs)

/-- The entries copied out; the buffer is given by its size, and `none` is a null pointer. -/
def drainAuditLog (iam : IamSecurityController) (bufferSize : Option Byte) :
    List AuditEntry × IamSecurityController :=
  match bufferSize with
  | none => ([], iam)
  | some size =>
      let drained := Ring.consume maxAuditLogEntries iam.auditLog iam.auditHead size.toNat
        iam.auditTail
      (drained.1, { iam with auditTail := drained.2 })

end IamSecurityController

inductive IamCall where
  | registerRole (role : Role)
  | addPolicy (entry : PolicyEntry)
  | authorise (request : Request) (nowNs : Nat)
  | drainAuditLog (bufferSize : Option Byte)

structure IamReply where
  result : VoidResult
  drained : List AuditEntry

namespace IamSecurityController

def step (iam : IamSecurityController) (call : IamCall) : IamReply × IamSecurityController :=
  match call with
  | .registerRole role =>
      let (result, after) := iam.registerRole role
      ({ result, drained := [] }, after)
  | .addPolicy entry =>
      let (result, after) := iam.addPolicy entry
      ({ result, drained := [] }, after)
  | .authorise request nowNs =>
      let (result, after) := iam.authorise request nowNs
      ({ result, drained := [] }, after)
  | .drainAuditLog bufferSize =>
      let (drained, after) := iam.drainAuditLog bufferSize
      ({ result := .ok (), drained }, after)

def machine : Machine IamSecurityController IamCall IamReply := ⟨step⟩

def started : IamSecurityController := construct.init.2

end IamSecurityController

end SoaGateway.Iam
