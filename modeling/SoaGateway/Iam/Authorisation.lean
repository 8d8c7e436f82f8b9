import SoaGateway.Iam.Controller

/-! Which requests are authorised. The policy table is the list of added entries, up to
its capacity, and the first matching entry decides. -/

set_option autoImplicit false

namespace SoaGateway.Iam

open Foundation

def IamCall.offered? : IamCall → Option PolicyEntry
  | .addPolicy entry => some entry
  | _ => none

/-- The table built by the calls: the first `maxPolicies` entries offered, in order. -/
def policyTable (calls : List IamCall) : List PolicyEntry :=
  (calls.filterMap IamCall.offered?).take maxPolicies

def PolicyEntry.common (entry : PolicyEntry) (request : Request) : Byte :=
  entry.allowed.bits &&& request.action.bits

namespace IamSecurityController

variable {iam : IamSecurityController}

@[simp] theorem appendAuditEntry_policies (request : Request) (result : AuditResult) (nowNs : Nat) :
    (iam.appendAuditEntry request result nowNs).policies = iam.policies := rfl

@[simp] theorem appendAuditEntry_initialised (request : Request) (result : AuditResult)
    (nowNs : Nat) : (iam.appendAuditEntry request result nowNs).initialised = iam.initialised := rfl

/-- An authorisation appends one record, which says whether the call returned `Ok`. -/
theorem authorise_records (ready : iam.initialised = true) (request : Request) (nowNs : Nat) :
    (iam.authorise request nowNs).2 =
      iam.appendAuditEntry request
        (if (iam.authorise request nowNs).1.isOk then .granted else .denied) nowNs := by
  unfold authorise
  simp only [ready, Bool.not_true, Bool.false_eq_true, ↓reduceIte]
  cases iam.policies.find? fun entry => entry.matches request with
  | none => rfl
  | some entry =>
      simp only
      split
      · rfl
      · rfl

theorem step_initialised (ready : iam.initialised = true) (call : IamCall) :
    (iam.step call).2.initialised = true := by
  cases call with
  | registerRole role =>
      simp only [step, registerRole]
      split_ifs <;> exact ready
  | addPolicy entry =>
      simp only [step, addPolicy]
      split_ifs <;> exact ready
  | authorise request nowNs =>
      simp only [step]
      rw [authorise_records ready]
      exact ready
  | drainAuditLog bufferSize => cases bufferSize <;> exact ready

theorem run_initialised (calls : List IamCall) :
    (machine.run started calls).initialised = true := by
  induction calls using List.reverseRecOn with
  | nil => rfl
  | append_singleton calls last ih =>
      rw [machine.run_concat]
      exact step_initialised ih last

theorem step_policies (ready : iam.initialised = true) (call : IamCall) :
    (iam.step call).2.policies =
      if maxPolicies ≤ iam.policies.length then iam.policies
      else iam.policies ++ call.offered?.toList := by
  cases call with
  | registerRole role =>
      simp only [step, registerRole, IamCall.offered?]
      split_ifs <;> simp
  | addPolicy entry =>
      simp only [step, addPolicy, ready, IamCall.offered?]
      split_ifs <;> simp_all
  | authorise request nowNs =>
      simp only [step, IamCall.offered?]
      rw [authorise_records ready]
      split_ifs <;> simp
  | drainAuditLog bufferSize =>
      cases bufferSize <;> simp only [step, drainAuditLog, IamCall.offered?] <;> split_ifs <;> simp

theorem policyTable_concat (calls : List IamCall) (last : IamCall) :
    policyTable (calls ++ [last]) =
      if maxPolicies ≤ (policyTable calls).length then policyTable calls
      else policyTable calls ++ last.offered?.toList := by
  have offers : (calls ++ [last]).filterMap IamCall.offered? =
      calls.filterMap IamCall.offered? ++ last.offered?.toList := by
    cases offer : last.offered? <;> simp [offer]
  have few : last.offered?.toList.length ≤ 1 := by cases last.offered? <;> simp
  unfold policyTable
  rw [offers, List.length_take, List.take_append]
  split
  · next full =>
      have past : maxPolicies - (calls.filterMap IamCall.offered?).length = 0 := by omega
      rw [past, List.take_zero, List.append_nil]
  · next room =>
      rw [List.take_of_length_le (by omega : last.offered?.toList.length ≤ _)]

theorem run_policies (calls : List IamCall) :
    (machine.run started calls).policies = policyTable calls := by
  induction calls using List.reverseRecOn with
  | nil => rfl
  | append_singleton calls last ih =>
      have stepped := step_policies (run_initialised calls) last
      rw [machine.run_concat, policyTable_concat, ← ih]
      exact stepped

theorem authorise_result (ready : iam.initialised = true) (request : Request) (nowNs : Nat) :
    (iam.authorise request nowNs).1 =
      match iam.policies.find? fun entry => entry.matches request with
      | some entry => if entry.common request = 0 then .error .unauthorized else .ok ()
      | none => .error .unauthorized := by
  unfold authorise
  simp only [ready, Bool.not_true, Bool.false_eq_true, ↓reduceIte]
  cases iam.policies.find? fun entry => entry.matches request with
  | none => rfl
  | some entry =>
      by_cases disjoint : entry.common request = 0
      · have refused : hasAction entry.allowed request.action = false := by
          simpa [hasAction, PolicyEntry.common] using disjoint
        simp [refused, disjoint]
      · have granted : hasAction entry.allowed request.action = true := by
          simpa [hasAction, PolicyEntry.common] using disjoint
        simpa [granted] using disjoint

/-- The first match allows every requested bit, and some bit is requested. -/
def Entitled (table : List PolicyEntry) (request : Request) : Prop :=
  ∃ entry, table.find? (fun entry => entry.matches request) = some entry ∧
    entry.common request = request.action.bits ∧ request.action.bits ≠ 0

/-- `Ok` for exactly the entitled requests, `unauthorized` for all others. -/
def AuthorisesExactly (iam : IamSecurityController) (table : List PolicyEntry) (request : Request)
    (nowNs : Nat) : Prop :=
  ((iam.authorise request nowNs).1 = .ok () ↔ Entitled table request) ∧
    (¬ Entitled table request → (iam.authorise request nowNs).1 = .error .unauthorized)

theorem authorises_exactly_iff (calls : List IamCall) (request : Request) (nowNs : Nat) :
    AuthorisesExactly (machine.run started calls) (policyTable calls) request nowNs ↔
      ∀ entry, (policyTable calls).find? (fun entry => entry.matches request) = some entry →
        entry.common request = 0 ∨ entry.common request = request.action.bits := by
  have result := authorise_result (run_initialised calls) request nowNs
  rw [run_policies] at result
  unfold AuthorisesExactly Entitled
  rw [result]
  cases found : (policyTable calls).find? fun entry => entry.matches request with
  | none => simp
  | some entry =>
      simp only [Option.some.injEq, exists_eq_left', forall_eq']
      by_cases disjoint : entry.common request = 0
      · simp only [disjoint, ↓reduceIte, reduceCtorEq, false_iff, implies_true, and_true, true_or,
          iff_true]
        exact fun both => both.2 both.1.symm
      · have requested : request.action.bits ≠ 0 := by
          intro nothing
          exact disjoint (by simp [PolicyEntry.common, nothing])
        simp only [disjoint, ne_eq, not_false_eq_true, ↓reduceIte, true_iff, false_or,
          reduceCtorEq, requested, and_true]
        exact ⟨fun both => both.1, fun whole => ⟨whole, fun other => absurd whole other⟩⟩

def readerPolicy : PolicyEntry where
  principalId := 1
  serviceId := 1
  methodId := anyMethod
  roleId := 1
  allowed := .read

def readWriteRequest : Request where
  principalId := 1
  serviceId := 1
  methodId := 1
  action := .or .read .write

/-- A principal with read access only is granted a combined read and write request. -/
theorem reader_may_write :
    ((machine.run started [.addPolicy readerPolicy]).authorise readWriteRequest 0).1 = .ok () ∧
      ¬ Entitled (policyTable [.addPolicy readerPolicy]) readWriteRequest := by
  refine ⟨by decide, fun entitled => ?_⟩
  obtain ⟨entry, found, whole, -⟩ := entitled
  cases found
  exact absurd whole (by decide)

end IamSecurityController

end SoaGateway.Iam
