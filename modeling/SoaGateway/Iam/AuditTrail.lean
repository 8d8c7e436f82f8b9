import SoaGateway.Iam.Authorisation

/-! The audit log against the history of decisions. The log is run together with a
record of where each cell's entry came from; the record never influences the log. -/

set_option autoImplicit false

namespace SoaGateway.Iam

open Foundation

/-- The controller with its history: every decision as it should be recorded, the decision
that last wrote each cell, the entries drained so far with theirs, and how many decisions
had been made when the log was last drained empty. -/
structure AuditTrail where
  iam : IamSecurityController
  decisions : List AuditEntry
  source : Nat → Nat
  drained : List (AuditEntry × Nat)
  emptied : Nat

def dueRecord (request : Request) (result : VoidResult) (nowNs : Nat) : AuditEntry where
  principalId := request.principalId
  serviceId := request.serviceId
  methodId := request.methodId
  requested := request.action
  result := if result.isOk then .granted else .denied
  timestampNs := nowNs

namespace AuditTrail

def cells (trail : AuditTrail) (index : Nat) : AuditEntry × Nat :=
  (trail.iam.auditLog index, trail.source index)

def step (trail : AuditTrail) (call : IamCall) : IamReply × AuditTrail :=
  let (reply, after) := trail.iam.step call
  match call with
  | .authorise request nowNs =>
      (reply, {
        trail with
        iam := after
        decisions := trail.decisions ++ [dueRecord request reply.result nowNs]
        source := Function.update trail.source trail.iam.auditHead trail.decisions.length })
  | .drainAuditLog (some size) =>
      (reply, {
        trail with
        iam := after
        drained := trail.drained ++
          (Ring.consume maxAuditLogEntries trail.cells trail.iam.auditHead size.toNat
            trail.iam.auditTail).1
        emptied :=
          if after.auditTail = after.auditHead then trail.decisions.length else trail.emptied })
  | _ => (reply, { trail with iam := after })

def machine : Machine AuditTrail IamCall IamReply := ⟨step⟩

def started : AuditTrail where
  iam := IamSecurityController.started
  decisions := []
  source _ := 0
  drained := []
  emptied := 0

theorem step_iam (trail : AuditTrail) (call : IamCall) :
    (trail.step call).1 = (trail.iam.step call).1 ∧
      (trail.step call).2.iam = (trail.iam.step call).2 := by
  cases call with
  | drainAuditLog bufferSize => cases bufferSize <;> exact ⟨rfl, rfl⟩
  | _ => exact ⟨rfl, rfl⟩

theorem run_iam (trail : AuditTrail) (calls : List IamCall) :
    machine.outputs trail calls = IamSecurityController.machine.outputs trail.iam calls ∧
      (machine.run trail calls).iam = IamSecurityController.machine.run trail.iam calls := by
  induction calls generalizing trail with
  | nil => exact ⟨rfl, rfl⟩
  | cons call rest ih =>
      obtain ⟨reply, after⟩ := trail.step_iam call
      obtain ⟨replies, final⟩ := ih (trail.step call).2
      rw [after] at replies final
      exact ⟨congrArg₂ List.cons reply replies, final⟩

def drainCalls (sizes : List Byte) : List IamCall := sizes.map fun size => .drainAuditLog (some size)

/-- A draining: non-empty buffers until one call returns nothing. -/
structure DrainsDry (trail : AuditTrail) (sizes : List Byte) : Prop where
  positive : ∀ size ∈ sizes, 0 < size.toNat
  dry : ∃ earlier, machine.outputs trail (drainCalls sizes) =
    earlier ++ [{ result := .ok (), drained := [] }]

/-- Draining the log dry accounts for the newest decisions since it was last empty: the
drained entries are decisions as they should be recorded, oldest first and without
duplicates, and the newest `maxAuditLogEntries - 1` of them at least are there. -/
def Accounted (trail : AuditTrail) : Prop :=
  ∀ sizes, trail.DrainsDry sizes →
    let drained := (machine.run trail (drainCalls sizes)).drained
    (drained.map Prod.snd).Pairwise (· < ·) ∧
      (∀ entry position, (entry, position) ∈ drained → trail.decisions[position]? = some entry) ∧
      ∀ position, position < trail.decisions.length →
        trail.decisions.length - min (trail.decisions.length - trail.emptied)
          (maxAuditLogEntries - 1) ≤ position →
        position ∈ drained.map Prod.snd

/-- The call is an authorisation that meets a log with no free cell. -/
def Overflows (trail : AuditTrail) (call : IamCall) : Prop :=
  (∃ request nowNs, call = .authorise request nowNs) ∧
    (trail.iam.auditHead + 1) % maxAuditLogEntries = trail.iam.auditTail

structure Complete (trail : AuditTrail) (unread : List (AuditEntry × Nat)) : Prop where
  initialised : trail.iam.initialised = true
  holds : Ring.Holds maxAuditLogEntries trail.cells trail.iam.auditHead trail.iam.auditTail unread
  whole : trail.drained ++ unread = trail.decisions.zipIdx
  emptied_le : trail.emptied ≤ trail.decisions.length

variable {trail : AuditTrail} {unread : List (AuditEntry × Nat)}

theorem started_complete : started.Complete [] where
  initialised := rfl
  holds := Ring.holds_empty _ (by decide)
  whole := rfl
  emptied_le := Nat.le_refl _

/-- The controller's own draining is the tagged one without the tags. -/
theorem drain_erases (trail : AuditTrail) (size : Nat) :
    Ring.consume maxAuditLogEntries trail.iam.auditLog trail.iam.auditHead size trail.iam.auditTail =
      ((Ring.consume maxAuditLogEntries trail.cells trail.iam.auditHead size
          trail.iam.auditTail).1.map Prod.fst,
        (Ring.consume maxAuditLogEntries trail.cells trail.iam.auditHead size
          trail.iam.auditTail).2) := by
  have untagged : trail.iam.auditLog = Prod.fst ∘ trail.cells := rfl
  rw [untagged]
  exact Ring.consume_map Prod.fst size trail.iam.auditTail

theorem cells_authorise (ready : trail.iam.initialised = true) (request : Request) (nowNs : Nat) :
    (trail.step (.authorise request nowNs)).2.cells =
      Function.update trail.cells trail.iam.auditHead
        (dueRecord request (trail.iam.authorise request nowNs).1 nowNs, trail.decisions.length) := by
  funext index
  simp only [cells, step, IamSecurityController.step]
  rw [IamSecurityController.authorise_records ready]
  by_cases here : index = trail.iam.auditHead
  · subst here
    simp [IamSecurityController.appendAuditEntry, dueRecord]
  · simp [IamSecurityController.appendAuditEntry, here, cells]

theorem head_authorise (ready : trail.iam.initialised = true) (request : Request) (nowNs : Nat) :
    (trail.step (.authorise request nowNs)).2.iam.auditHead =
        Ring.next maxAuditLogEntries trail.iam.auditHead ∧
      (trail.step (.authorise request nowNs)).2.iam.auditTail = trail.iam.auditTail := by
  simp only [step, IamSecurityController.step]
  rw [IamSecurityController.authorise_records ready]
  exact ⟨rfl, rfl⟩

theorem Complete.authorise (complete : trail.Complete unread) (request : Request) (nowNs : Nat)
    (room : (trail.iam.auditHead + 1) % maxAuditLogEntries ≠ trail.iam.auditTail) :
    (trail.step (.authorise request nowNs)).2.Complete (unread ++
      [(dueRecord request (trail.iam.authorise request nowNs).1 nowNs, trail.decisions.length)]) := by
  have free : unread.length + 1 < maxAuditLogEntries := by
    have bound := complete.holds.length_lt
    have notFull : unread.length + 1 ≠ maxAuditLogEntries :=
      fun full => room (complete.holds.full_iff.2 full)
    omega
  obtain ⟨head, tail⟩ := head_authorise complete.initialised request nowNs
  have pushed := complete.holds.push
    (dueRecord request (trail.iam.authorise request nowNs).1 nowNs, trail.decisions.length) free
  refine ⟨?_, ?_, ?_, ?_⟩
  · exact (trail.step_iam _).2 ▸ IamSecurityController.step_initialised complete.initialised _
  · rw [cells_authorise complete.initialised, head, tail]
    exact pushed
  · have extended : (trail.decisions ++
        [dueRecord request (trail.iam.authorise request nowNs).1 nowNs]).zipIdx =
          trail.decisions.zipIdx ++
            [(dueRecord request (trail.iam.authorise request nowNs).1 nowNs,
              trail.decisions.length)] := by
      simp [List.zipIdx_append]
    rw [← List.append_assoc]
    exact (congrArg (· ++ _) complete.whole).trans extended.symm
  · have kept := complete.emptied_le
    simp only [step, List.length_append, List.length_singleton]
    omega

theorem Complete.drain (complete : trail.Complete unread) (size : Byte) :
    (trail.step (.drainAuditLog (some size))).1.drained = (unread.take size.toNat).map Prod.fst ∧
      (trail.step (.drainAuditLog (some size))).2.Complete (unread.drop size.toNat) := by
  obtain ⟨taken, left⟩ := complete.holds.consume size.toNat
  have erased := trail.drain_erases size.toNat
  refine ⟨?_, complete.initialised, ?_, ?_, ?_⟩
  · simp only [step, IamSecurityController.step, IamSecurityController.drainAuditLog, erased, taken]
  · simp only [step, IamSecurityController.step, IamSecurityController.drainAuditLog, erased]
    exact left
  · simp only [step, taken, List.append_assoc, List.take_append_drop]
    exact complete.whole
  · simp only [step]
    split
    · exact Nat.le_refl _
    · exact complete.emptied_le

theorem Complete.step (complete : trail.Complete unread) {call : IamCall}
    (noOverflow : ¬ trail.Overflows call) : ∃ after, (trail.step call).2.Complete after := by
  have ready := IamSecurityController.step_initialised complete.initialised call
  cases call with
  | registerRole role =>
      refine ⟨unread, ready, ?_, complete.whole, complete.emptied_le⟩
      have holds := complete.holds
      simp only [AuditTrail.step, IamSecurityController.step,
        IamSecurityController.registerRole] at holds ⊢
      split_ifs <;> exact holds
  | addPolicy entry =>
      refine ⟨unread, ready, ?_, complete.whole, complete.emptied_le⟩
      have holds := complete.holds
      simp only [AuditTrail.step, IamSecurityController.step,
        IamSecurityController.addPolicy] at holds ⊢
      split_ifs <;> exact holds
  | authorise request nowNs =>
      have room := fun full => noOverflow ⟨⟨request, nowNs, rfl⟩, full⟩
      exact ⟨_, complete.authorise request nowNs room⟩
  | drainAuditLog bufferSize =>
      cases bufferSize with
      | none => exact ⟨unread, complete⟩
      | some size => exact ⟨_, (complete.drain size).2⟩

theorem Complete.drains (complete : trail.Complete unread) (sizes : List Byte) :
    (∃ left, (machine.run trail (drainCalls sizes)).Complete left) ∧
      (machine.run trail (drainCalls sizes)).decisions = trail.decisions := by
  induction sizes generalizing trail unread with
  | nil => exact ⟨⟨unread, complete⟩, rfl⟩
  | cons size rest ih => exact ih (complete.drain size).2

theorem Complete.positions (complete : trail.Complete unread) :
    trail.drained.map Prod.snd ++ unread.map Prod.snd = List.range trail.decisions.length := by
  have positions := congrArg (List.map Prod.snd) complete.whole
  rw [List.map_append, List.zipIdx_map_snd] at positions
  rw [positions, List.range_eq_range']

/-- A call that returns nothing into a non-empty buffer found nothing unread. -/
theorem Complete.dry (complete : trail.Complete unread) {sizes : List Byte}
    (dry : trail.DrainsDry sizes) : (machine.run trail (drainCalls sizes)).Complete [] := by
  obtain ⟨positive, earlier, replies⟩ := dry
  cases List.eq_nil_or_concat sizes with
  | inl none_given =>
      subst none_given
      simp [drainCalls] at replies
  | inr some_given =>
      obtain ⟨front, last, rfl⟩ := some_given
      rw [List.concat_eq_append] at positive replies ⊢
      have split : drainCalls (front ++ [last]) = drainCalls front ++ [.drainAuditLog (some last)] := by
        simp [drainCalls]
      obtain ⟨⟨left, reached⟩, -⟩ := complete.drains front
      obtain ⟨reply, after⟩ := reached.drain last
      rw [split, machine.outputs_concat] at replies
      obtain ⟨-, final⟩ := List.append_inj' replies rfl
      have nothing : left.take last.toNat = [] := by
        have silent := congrArg IamReply.drained (List.singleton_inj.1 final)
        exact List.map_eq_nil_iff.1 (reply.symm.trans silent)
      have bound := positive last (by simp)
      have finished : left = [] := by
        cases left with
        | nil => rfl
        | cons entry rest =>
            cases List.take_eq_nil_iff.1 nothing with
            | inl zero => omega
            | inr impossible => cases impossible
      subst finished
      rw [List.drop_nil] at after
      rw [split, machine.run_concat]
      exact after

/-- As long as nothing was overwritten, draining dry accounts for every decision. -/
theorem Complete.accounted (complete : trail.Complete unread) : trail.Accounted := by
  intro sizes dry
  have after := complete.dry dry
  have same := (complete.drains sizes).2
  have whole := after.whole
  have positions := after.positions
  rw [List.append_nil, same] at whole
  rw [List.map_nil, List.append_nil, same] at positions
  refine ⟨?_, fun entry position member => ?_, fun position inside _ => ?_⟩
  · rw [positions]
    exact List.pairwise_lt_range
  · rw [whole] at member
    exact List.mem_zipIdx_iff_getElem?.1 member
  · rw [positions]
    exact List.mem_range.2 inside

/-- An authorisation that meets a full log makes it read as empty. -/
theorem Complete.overflow (complete : trail.Complete unread) (request : Request) (nowNs : Nat)
    (full : (trail.iam.auditHead + 1) % maxAuditLogEntries = trail.iam.auditTail) :
    Ring.Holds maxAuditLogEntries (trail.step (.authorise request nowNs)).2.cells
      (trail.step (.authorise request nowNs)).2.iam.auditHead
      (trail.step (.authorise request nowNs)).2.iam.auditTail [] := by
  obtain ⟨head, tail⟩ := head_authorise complete.initialised request nowNs
  rw [cells_authorise complete.initialised, head, tail]
  exact complete.holds.lap _ (complete.holds.full_iff.1 full)

theorem drain_nothing (empty : trail.iam.auditTail = trail.iam.auditHead) (size : Byte) :
    (trail.step (.drainAuditLog (some size))).1 = { result := .ok (), drained := [] } ∧
      (trail.step (.drainAuditLog (some size))).2.drained = trail.drained := by
  simp only [step, IamSecurityController.step, IamSecurityController.drainAuditLog, empty,
    Ring.consume_empty, List.append_nil, and_self]

theorem not_accounted_of_lost (empty : trail.iam.auditTail = trail.iam.auditHead)
    (behind : trail.emptied < trail.decisions.length)
    (missing : trail.decisions.length - 1 ∉ trail.drained.map Prod.snd) : ¬ trail.Accounted := by
  intro accounted
  obtain ⟨reply, untouched⟩ := drain_nothing empty 1
  have dry : trail.DrainsDry [1] := ⟨by simp, [], congrArg (fun reply => [reply]) reply⟩
  obtain ⟨-, -, newest⟩ := accounted [1] dry
  have same : (machine.run trail (drainCalls [1])).drained = trail.drained := untouched
  rw [same] at newest
  refine missing (newest _ (by omega) ?_)
  simp only [maxAuditLogEntries]
  omega

theorem Complete.not_accounted (complete : trail.Complete unread) {call : IamCall}
    (overflow : trail.Overflows call) : ¬ (trail.step call).2.Accounted := by
  obtain ⟨⟨request, nowNs, rfl⟩, full⟩ := overflow
  have empty := (complete.overflow request nowNs full).empty_iff.2 rfl
  have count : (trail.step (.authorise request nowNs)).2.decisions.length =
      trail.decisions.length + 1 := List.length_append
  refine not_accounted_of_lost empty ?_ fun member => ?_
  · rw [count]
    exact Nat.lt_succ_of_le complete.emptied_le
  · rw [count, Nat.add_sub_cancel] at member
    have inRange : trail.decisions.length ∈ List.range trail.decisions.length := by
      rw [← complete.positions]
      exact List.mem_append_left _ member
    exact absurd (List.mem_range.1 inRange) (Nat.lt_irrefl _)

def IsComplete (trail : AuditTrail) : Prop := ∃ unread, trail.Complete unread

theorem run_complete {calls : List IamCall}
    (every : machine.EveryStep (fun trail call => ¬ trail.Overflows call) started calls) :
    (machine.run started calls).IsComplete := by
  have initial : started.IsComplete := ⟨[], started_complete⟩
  refine machine.everyStep_preserves every initial fun current call holds noOverflow => ?_
  obtain ⟨unread, complete⟩ := holds
  exact complete.step noOverflow

theorem audit_accounted_iff (calls : List IamCall) :
    (∀ front, front <+: calls → (machine.run started front).Accounted) ↔
      machine.EveryStep (fun trail call => ¬ trail.Overflows call) started calls := by
  constructor
  · intro accounted
    by_contra failed
    obtain ⟨before, call, after, rfl, every, broken⟩ := machine.exists_first_failure failed
    obtain ⟨unread, reached⟩ := run_complete every
    have overflow : (machine.run started before).Overflows call := Classical.not_not.1 broken
    have claimed := accounted (before ++ [call]) ⟨after, by simp⟩
    rw [machine.run_concat] at claimed
    exact reached.not_accounted overflow claimed
  · intro every front isPrefix
    obtain ⟨unread, reached⟩ := run_complete (machine.everyStep_prefix every isPrefix)
    exact reached.accounted

def floodRequest : Request where
  principalId := 0xDEAD
  serviceId := 1
  methodId := 1
  action := .admin

def flood : List IamCall := List.replicate 128 (.authorise floodRequest 0)

/-- After the flood a draining yields nothing, and nothing was drained before. -/
theorem flood_erases_audit :
    (machine.run started flood).decisions.length = 128 ∧
      ((machine.run started flood).iam.drainAuditLog (some 255)).1.length = 0 ∧
      ¬ (machine.run started flood).Accounted := by
  have count : (machine.run started flood).decisions.length = 128 := by decide +kernel
  have fresh : (machine.run started flood).emptied = 0 := by decide +kernel
  have untouched : (machine.run started flood).drained = [] := by decide +kernel
  refine ⟨count, by decide +kernel, not_accounted_of_lost (by decide +kernel) ?_ ?_⟩
  · rw [count, fresh]
    decide
  · rw [untouched]
    exact List.not_mem_nil

end AuditTrail

end SoaGateway.Iam
