import SoaGateway.Iam.Authorisation

/-! How verdicts change over a run. A request is denied until the first policy that matches
it is added, and that policy's answer then stands; policies for other requests matter only
through the room they take. -/

set_option autoImplicit false

namespace SoaGateway.Iam

open Foundation

/-- What a table answers to a request. -/
def decision (table : List PolicyEntry) (request : Request) : VoidResult :=
  match table.find? fun entry => entry.matches request with
  | some entry => if entry.common request = 0 then .error .unauthorized else .ok ()
  | none => .error .unauthorized

def Decided (table : List PolicyEntry) (request : Request) : Prop :=
  ∃ entry ∈ table, entry.matches request = true

theorem find?_undecided {table : List PolicyEntry} {request : Request}
    (undecided : ¬ Decided table request) :
    table.find? (fun entry => entry.matches request) = none :=
  List.find?_eq_none.2 fun entry member matched => undecided ⟨entry, member, matched⟩

theorem decision_append_decided {early : List PolicyEntry} {request : Request}
    (decided : Decided early request) (late : List PolicyEntry) :
    decision (early ++ late) request = decision early request := by
  obtain ⟨entry, member, matched⟩ := decided
  have some_match : (early.find? fun entry => entry.matches request).isSome = true :=
    List.find?_isSome.2 ⟨entry, member, matched⟩
  obtain ⟨first, found⟩ := Option.isSome_iff_exists.1 some_match
  rw [decision, decision, List.find?_append, found]
  rfl

theorem decision_append_undecided {early : List PolicyEntry} {request : Request}
    (undecided : ¬ Decided early request) (late : List PolicyEntry) :
    decision (early ++ late) request = decision late request := by
  rw [decision, decision, List.find?_append, find?_undecided undecided]
  rfl

theorem decision_undecided {table : List PolicyEntry} {request : Request}
    (undecided : ¬ Decided table request) : decision table request = .error .unauthorized := by
  rw [decision, find?_undecided undecided]

theorem decision_filter (table : List PolicyEntry) (request : Request) :
    decision (table.filter fun entry => entry.matches request) request =
      decision table request := by
  rw [decision, decision, List.find?_filter]
  simp only [and_self, Bool.decide_eq_true]

/-- The call adds a policy that matches the request. -/
def IamCall.bears (request : Request) : IamCall → Bool
  | .addPolicy entry => entry.matches request
  | _ => false

theorem offered_bearing (calls : List IamCall) (request : Request) :
    (calls.filter (IamCall.bears request)).filterMap IamCall.offered? =
      (calls.filterMap IamCall.offered?).filter fun entry => entry.matches request := by
  induction calls with
  | nil => rfl
  | cons call rest ih =>
      cases call with
      | addPolicy entry =>
          cases matched : entry.matches request with
          | true => simp [IamCall.bears, IamCall.offered?, matched, ih]
          | false => simp [IamCall.bears, IamCall.offered?, matched, ih]
      | registerRole role => exact ih
      | authorise other nowNs => exact ih
      | drainAuditLog bufferSize => exact ih

theorem policyTable_append (calls later : List IamCall) :
    policyTable (calls ++ later) = policyTable calls ++
      (later.filterMap IamCall.offered?).take (maxPolicies - (policyTable calls).length) := by
  unfold policyTable
  rw [List.filterMap_append, List.take_append, List.length_take]
  congr 2
  omega

namespace IamSecurityController

theorem run_decision (calls : List IamCall) (request : Request) (nowNs : Nat) :
    ((machine.run started calls).authorise request nowNs).1 =
      decision (policyTable calls) request := by
  rw [authorise_result (run_initialised calls), run_policies]
  rfl

/-- In every run, a request that some policy matches keeps its verdict for good. One that
none matches is denied, and what decides it later is the first matching policy among those
that still fit into the table. While no more policies are offered than fit, the verdict is
the one of the run from which every call but the matching policies is left out. -/
theorem verdicts_settle (calls later : List IamCall) (request : Request) (firstNs laterNs : Nat) :
    let now := (machine.run started calls).authorise request firstNs
    let after := (machine.run started (calls ++ later)).authorise request laterNs
    (Decided (policyTable calls) request → after.1 = now.1) ∧
      (¬ Decided (policyTable calls) request → now.1 = .error .unauthorized ∧
        after.1 = decision ((later.filterMap IamCall.offered?).take
          (maxPolicies - (policyTable calls).length)) request) ∧
      ((calls.filterMap IamCall.offered?).length ≤ maxPolicies →
        now.1 = ((machine.run started (calls.filter (IamCall.bears request))).authorise request
          laterNs).1) := by
  intro now after
  have early : now.1 = decision (policyTable calls) request := run_decision calls request firstNs
  have late : after.1 = decision (policyTable (calls ++ later)) request :=
    run_decision (calls ++ later) request laterNs
  rw [policyTable_append] at late
  refine ⟨fun decided => ?_, fun undecided => ⟨?_, ?_⟩, fun fits => ?_⟩
  · rw [late, early, decision_append_decided decided]
  · rw [early, decision_undecided undecided]
  · rw [late, decision_append_undecided undecided]
  · have fewer := List.length_filter_le (fun entry => entry.matches request)
      (calls.filterMap IamCall.offered?)
    rw [early, run_decision, policyTable, policyTable, offered_bearing,
      List.take_of_length_le fits, List.take_of_length_le (Nat.le_trans fewer fits),
      decision_filter]

end IamSecurityController

end SoaGateway.Iam
