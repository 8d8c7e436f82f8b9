import SoaGateway.Foundation.Linearisation
import SoaGateway.Iam.AuditTrail

/-! `DrainAuditLog` on a thread of its own. Records are stored and copied one field at a time,
so that either thread can be met in the middle of one. As long as no authorisation makes the
head meet the tail, every record is still drained whole, once and in order. -/

set_option autoImplicit false

namespace SoaGateway.Iam

open Foundation

namespace AuditEntry

/-- The target with one field of the source, counted in the order of the stores. -/
def copyField (place : Nat) (source target : AuditEntry) : AuditEntry :=
  match place with
  | 0 => { target with principalId := source.principalId }
  | 1 => { target with serviceId := source.serviceId }
  | 2 => { target with methodId := source.methodId }
  | 3 => { target with requested := source.requested }
  | 4 => { target with result := source.result }
  | _ => { target with timestampNs := source.timestampNs }

def fields : Nat := 6

/-- The target after the first `count` fields have been copied. -/
def copied (count : Nat) (source target : AuditEntry) : AuditEntry :=
  (List.range count).foldl (fun held place => copyField place source held) target

theorem copied_succ (count : Nat) (source target : AuditEntry) :
    copied (count + 1) source target = copyField count source (copied count source target) := by
  rw [copied, List.range_succ, List.foldl_append]
  rfl

theorem copied_fields (source target : AuditEntry) : copied fields source target = source := rfl

end AuditEntry

namespace AuditResult

/-- What `Authorise` returns behind a record with this result. -/
def reply : AuditResult → VoidResult
  | .granted => .ok ()
  | .denied => .error .unauthorized

end AuditResult

namespace IamSecurityController

/-- The search of `Authorise` through the policies, up to its record. -/
def searchPolicies (iam : IamSecurityController) (request : Request) : AuditResult :=
  match iam.policies.find? fun entry => entry.matches request with
  | some entry => if hasAction entry.allowed request.action then .granted else .denied
  | none => .denied

theorem authorise_eq (iam : IamSecurityController) (request : Request) (nowNs : Nat) :
    iam.authorise request nowNs =
      if !iam.initialised then (.error .notInitialized, iam)
      else ((iam.searchPolicies request).reply,
        iam.appendAuditEntry request (iam.searchPolicies request) nowNs) := by
  unfold authorise searchPolicies
  cases iam.policies.find? fun entry => entry.matches request with
  | none => rfl
  | some entry =>
      simp only
      cases hasAction entry.allowed request.action with
      | true => rfl
      | false => rfl

def withLog (iam : IamSecurityController) (auditLog : Nat → AuditEntry) :
    IamSecurityController :=
  { iam with auditLog }

end IamSecurityController

/-- Where the authorising thread stands: outside `Authorise`, or inside `AppendAuditEntry` with
the head it has loaded and the fields it has stored there. -/
inductive Authoriser where
  | idle
  | storing (request : Request) (result : AuditResult) (nowNs head done : Nat)

/-- Where the draining thread stands: outside `DrainAuditLog`, or in its loop, at the top, with
the tail it has loaded, or with the fields it has copied from there. It keeps the records it has
copied and the rest of the caller's buffer. -/
inductive Drainer where
  | idle
  | polling (copied room : List AuditEntry)
  | loaded (copied : List AuditEntry) (target : AuditEntry) (room : List AuditEntry) (tail : Nat)
  | copying (copied : List AuditEntry) (target : AuditEntry) (room : List AuditEntry)
      (tail done : Nat)

def Drainer.copied : Drainer → List AuditEntry
  | .idle => []
  | .polling copied _ | .loaded copied _ _ _ | .copying copied _ _ _ _ => copied

structure SharedAudit where
  iam : IamSecurityController
  authoriser : Authoriser
  drainer : Drainer

/-- The steps of the two threads. Roles and policies are added by the authorising one. -/
inductive AuditStep where
  | registerRole (role : Role)
  | addPolicy (entry : PolicyEntry)
  | authorise (request : Request) (nowNs : Nat)
  | authoriseOn
  | drainAuditLog (buffer : Option (List AuditEntry))
  | drainOn

def auditEntry (request : Request) (result : AuditResult) (nowNs : Nat) : AuditEntry where
  principalId := request.principalId
  serviceId := request.serviceId
  methodId := request.methodId
  requested := request.action
  result := result
  timestampNs := nowNs

namespace SharedAudit

def started : SharedAudit where
  iam := .started
  authoriser := .idle
  drainer := .idle

def tookRecord (record : AuditEntry) : IamReply := { result := .ok (), drained := [record] }

def tookNothing : IamReply := { result := .ok (), drained := [] }

/-- `Authorise` up to the load of the head. -/
def authorise (shared : SharedAudit) (request : Request) (nowNs : Nat) :
    Option IamReply × SharedAudit :=
  match shared.authoriser with
  | .idle =>
      if !shared.iam.initialised then
        (some { result := .error .notInitialized, drained := [] }, shared)
      else
        (none, {
          shared with
          authoriser := .storing request (shared.iam.searchPolicies request) nowNs
            shared.iam.auditHead 0 })
  | .storing _ _ _ _ _ => (none, shared)

/-- The next store of the `AppendAuditEntry` that has begun. -/
def authoriseOn (shared : SharedAudit) : Option IamReply × SharedAudit :=
  let iam := shared.iam
  match shared.authoriser with
  | .idle => (none, shared)
  | .storing request result nowNs head done =>
      if done < AuditEntry.fields then
        (none, {
          shared with
          iam := iam.withLog (Function.update iam.auditLog head
            (AuditEntry.copyField done (auditEntry request result nowNs) (iam.auditLog head)))
          authoriser := .storing request result nowNs head (done + 1) })
      else
        (some { result := result.reply, drained := [] }, {
          shared with
          iam := { iam with auditHead := (head + 1) % maxAuditLogEntries }
          authoriser := .idle })

def drainAuditLog (shared : SharedAudit) (buffer : Option (List AuditEntry)) :
    Option IamReply × SharedAudit :=
  match shared.drainer, buffer with
  | .idle, none => (some tookNothing, shared)
  | .idle, some room => (none, { shared with drainer := .polling [] room })
  | _, _ => (none, shared)

/-- The next access of the loop in `DrainAuditLog`. -/
def drainOn (shared : SharedAudit) : Option IamReply × SharedAudit :=
  let iam := shared.iam
  match shared.drainer with
  | .idle => (none, shared)
  | .polling _ [] => (none, { shared with drainer := .idle })
  | .polling copied (target :: room) =>
      (none, { shared with drainer := .loaded copied target room iam.auditTail })
  | .loaded copied target room tail =>
      if tail = iam.auditHead then (some tookNothing, { shared with drainer := .idle })
      else (none, { shared with drainer := .copying copied target room tail 0 })
  | .copying copied target room tail done =>
      if done < AuditEntry.fields then
        (none, {
          shared with
          drainer := .copying copied (AuditEntry.copyField done (iam.auditLog tail) target) room
            tail (done + 1) })
      else
        (some (tookRecord target), {
          shared with
          iam := { iam with auditTail := (tail + 1) % maxAuditLogEntries }
          drainer := .polling (copied ++ [target]) room })

/-- A call that is one step in the authorising thread. -/
def administer (shared : SharedAudit) (call : IamCall) : Option IamReply × SharedAudit :=
  match shared.authoriser with
  | .idle => (some (shared.iam.step call).1, { shared with iam := (shared.iam.step call).2 })
  | .storing _ _ _ _ _ => (none, shared)

def step (shared : SharedAudit) (input : AuditStep) : Option IamReply × SharedAudit :=
  match input with
  | .registerRole role => shared.administer (.registerRole role)
  | .addPolicy entry => shared.administer (.addPolicy entry)
  | .authorise request nowNs => shared.authorise request nowNs
  | .authoriseOn => shared.authoriseOn
  | .drainAuditLog buffer => shared.drainAuditLog buffer
  | .drainOn => shared.drainOn

def machine : Machine SharedAudit AuditStep (Option IamReply) := ⟨step⟩

/-- The call a step completes. An authorisation completes when it stores the head; a draining
is a series of drainings of size one, of which the last may find the log empty. -/
def completes (shared : SharedAudit) (input : AuditStep) : Option IamCall :=
  match input, shared.authoriser, shared.drainer with
  | .registerRole role, .idle, _ => some (.registerRole role)
  | .addPolicy entry, .idle, _ => some (.addPolicy entry)
  | .authorise request nowNs, .idle, _ =>
      if !shared.iam.initialised then some (.authorise request nowNs) else none
  | .authoriseOn, .storing request _ nowNs _ done, _ =>
      if done < AuditEntry.fields then none else some (.authorise request nowNs)
  | .drainAuditLog none, _, .idle => some (.drainAuditLog none)
  | .drainOn, _, .loaded _ _ _ tail =>
      if tail = shared.iam.auditHead then some (.drainAuditLog (some 1)) else none
  | .drainOn, _, .copying _ _ _ _ done =>
      if done < AuditEntry.fields then none else some (.drainAuditLog (some 1))
  | _, _, _ => none

/-- The records that a `DrainAuditLog` hands to its caller when it returns. -/
def returns (shared : SharedAudit) (input : AuditStep) : List (List AuditEntry) :=
  match input, shared.drainer with
  | .drainAuditLog none, .idle => [[]]
  | .drainOn, .polling copied [] => [copied]
  | .drainOn, .loaded copied _ _ tail => if tail = shared.iam.auditHead then [copied] else []
  | _, _ => []

/-- The step stores a head that meets the tail. -/
def laps (shared : SharedAudit) (input : AuditStep) : Bool :=
  match input, shared.authoriser with
  | .authoriseOn, .storing _ _ _ head done =>
      AuditEntry.fields ≤ done && (head + 1) % maxAuditLogEntries == shared.iam.auditTail
  | _, _ => false

end SharedAudit

/-- The head loaded is still the head, and the cell there holds the fields stored so far. -/
def Authoriser.Holding (authoriser : Authoriser) (iam : IamSecurityController) : Prop :=
  match authoriser with
  | .idle => True
  | .storing request result nowNs head done =>
      head = iam.auditHead ∧ result = iam.searchPolicies request ∧ done ≤ AuditEntry.fields ∧
        ∃ before, iam.auditLog head =
          AuditEntry.copied done (auditEntry request result nowNs) before

/-- The tail loaded is still the tail, and the fields copied are those of a record that is
still there. -/
def Drainer.Holding (drainer : Drainer) (iam : IamSecurityController) : Prop :=
  match drainer with
  | .idle | .polling _ _ => True
  | .loaded _ _ _ tail => tail = iam.auditTail
  | .copying _ target _ tail done =>
      tail = iam.auditTail ∧ tail ≠ iam.auditHead ∧ done ≤ AuditEntry.fields ∧
        ∃ before, target = AuditEntry.copied done (iam.auditLog tail) before

/-- The shared controller is the whole one, but for the cell at the head. -/
structure SharedAudit.Splits (shared : SharedAudit) (trail : AuditTrail) : Prop where
  complete : trail.IsComplete
  tables : shared.iam = trail.iam.withLog shared.iam.auditLog
  records : ∀ index, index ≠ trail.iam.auditHead →
    shared.iam.auditLog index = trail.iam.auditLog index
  authoriser : shared.authoriser.Holding shared.iam
  drainer : shared.drainer.Holding shared.iam

theorem AuditTrail.IsComplete.initialised {trail : AuditTrail} (complete : trail.IsComplete) :
    trail.iam.initialised = true := by
  obtain ⟨unread, complete⟩ := complete
  exact complete.initialised

theorem AuditTrail.IsComplete.step {trail : AuditTrail} (complete : trail.IsComplete)
    {call : IamCall} (fits : ¬ trail.Overflows call) : (trail.step call).2.IsComplete := by
  obtain ⟨unread, complete⟩ := complete
  exact complete.step fits

/-- What the replies carry is what the trail has noted as drained. -/
theorem AuditTrail.run_drained (trail : AuditTrail) (calls : List IamCall) :
    (machine.run trail calls).drained.map Prod.fst =
      trail.drained.map Prod.fst ++ (machine.outputs trail calls).flatMap IamReply.drained := by
  induction calls generalizing trail with
  | nil => simp
  | cons call rest ih =>
      have taken : (trail.step call).2.drained.map Prod.fst =
          trail.drained.map Prod.fst ++ (trail.step call).1.drained := by
        cases call with
        | registerRole role => exact (List.append_nil _).symm
        | addPolicy entry => exact (List.append_nil _).symm
        | authorise request nowNs => exact (List.append_nil _).symm
        | drainAuditLog bufferSize =>
            cases bufferSize with
            | none => exact (List.append_nil _).symm
            | some size =>
                simp only [AuditTrail.step, IamSecurityController.step,
                  IamSecurityController.drainAuditLog, List.map_append, trail.drain_erases]
      rw [Machine.run_cons, Machine.outputs_cons, List.flatMap_cons, ← List.append_assoc]
      exact (ih _).trans (congrArg (· ++ _) taken)

/-- The draining thread notices nothing but a change of the tail or of the record there. -/
theorem Drainer.Holding.moved {drainer : Drainer} {before after : IamSecurityController}
    (holding : drainer.Holding before) (tail : after.auditTail = before.auditTail)
    (waiting : before.auditTail ≠ before.auditHead → after.auditTail ≠ after.auditHead)
    (record : before.auditTail ≠ before.auditHead →
      after.auditLog before.auditTail = before.auditLog before.auditTail) :
    drainer.Holding after := by
  cases drainer with
  | idle => trivial
  | polling copied room => trivial
  | loaded copied target room loaded => exact holding.trans tail.symm
  | copying copied target room loaded done =>
      obtain ⟨rfl, unread, within, old, partly⟩ := holding
      refine ⟨tail.symm, tail ▸ waiting unread, within, old, ?_⟩
      rw [record unread]
      exact partly

namespace IamSecurityController

variable {iam : IamSecurityController}

/-- Registering a role and adding a policy leave the log alone. -/
theorem administer_withLog (iam : IamSecurityController) {call : IamCall}
    (administers : (∃ role, call = .registerRole role) ∨ ∃ entry, call = .addPolicy entry)
    (auditLog : Nat → AuditEntry) :
    (iam.withLog auditLog).step call =
        ((iam.step call).1, (iam.step call).2.withLog auditLog) ∧
      (iam.step call).2.auditLog = iam.auditLog ∧
      (iam.step call).2.auditHead = iam.auditHead ∧
      (iam.step call).2.auditTail = iam.auditTail := by
  obtain ⟨roles, policies, ownLog, auditHead, auditTail, initialised⟩ := iam
  rcases administers with ⟨role, rfl⟩ | ⟨entry, rfl⟩
  · simp only [step, registerRole, withLog]
    cases initialised with
    | false => exact ⟨rfl, rfl, rfl, rfl⟩
    | true =>
        rcases Nat.lt_or_ge roles.length maxRoles with room | full
        · by_cases known : roles.any (fun known => known.roleId == role.roleId) = true
          · simp [Nat.not_le.2 room, known]
          · simp [Nat.not_le.2 room, known]
        · simp [full]
  · simp only [step, addPolicy, withLog]
    cases initialised with
    | false => exact ⟨rfl, rfl, rfl, rfl⟩
    | true =>
        rcases Nat.lt_or_ge policies.length maxPolicies with room | full
        · simp [Nat.not_le.2 room]
        · simp [full]

/-- A draining of size one takes the record at the tail. -/
theorem drain_record (waiting : iam.auditTail ≠ iam.auditHead) :
    iam.step (.drainAuditLog (some 1)) =
      (SharedAudit.tookRecord (iam.auditLog iam.auditTail),
        { iam with auditTail := (iam.auditTail + 1) % maxAuditLogEntries }) := by
  simp [step, drainAuditLog, Ring.consume, waiting, SharedAudit.tookRecord, Ring.next]

theorem drain_empty (empty : iam.auditTail = iam.auditHead) :
    iam.step (.drainAuditLog (some 1)) = (SharedAudit.tookNothing, iam) := by
  obtain ⟨roles, policies, auditLog, auditHead, auditTail, initialised⟩ := iam
  cases empty
  simp only [step, drainAuditLog, Ring.consume_empty, SharedAudit.tookNothing]

end IamSecurityController

namespace SharedAudit

variable {shared : SharedAudit} {trail : AuditTrail}

namespace Splits

theorem initialised (splits : Splits shared trail) : shared.iam.initialised = true := by
  rw [splits.tables]
  exact splits.complete.initialised

theorem auditHead (splits : Splits shared trail) : shared.iam.auditHead = trail.iam.auditHead := by
  rw [splits.tables]
  rfl

theorem auditTail (splits : Splits shared trail) : shared.iam.auditTail = trail.iam.auditTail := by
  rw [splits.tables]
  rfl

/-- Storing a field changes the cell at the head, which the draining thread does not look at. -/
theorem storeField (splits : Splits shared trail) {request : Request} {result : AuditResult}
    {nowNs head done : Nat} (phase : shared.authoriser = .storing request result nowNs head done)
    (more : done < AuditEntry.fields) : Splits shared.authoriseOn.2 trail := by
  have holding := splits.authoriser
  simp only [Authoriser.Holding, phase] at holding
  obtain ⟨here, searched, -, before, stored⟩ := holding
  simp only [authoriseOn, phase, more, ↓reduceIte]
  refine ⟨splits.complete, ?_, fun index apart => ?_, ⟨here, searched, more, before, ?_⟩, ?_⟩
  · simp only [IamSecurityController.withLog]
    rw [splits.tables]
    rfl
  · have elsewhere : index ≠ head := fun same => apart (same.trans (here.trans splits.auditHead))
    exact (Function.update_of_ne elsewhere _ _).trans (splits.records index apart)
  · rw [AuditEntry.copied_succ, ← stored]
    exact Function.update_self head _ _
  · refine splits.drainer.moved rfl id fun waiting => ?_
    exact Function.update_of_ne (fun same => waiting (same.trans here)) _ _

theorem silent_authorising (splits : Splits shared trail) :
    (∀ request nowNs, shared.completes (.authorise request nowNs) = none →
      (shared.authorise request nowNs).1 = none ∧
        Splits (shared.authorise request nowNs).2 trail) ∧
      (shared.completes .authoriseOn = none →
        shared.authoriseOn.1 = none ∧ Splits shared.authoriseOn.2 trail) := by
  refine ⟨fun request nowNs _ => ?_, fun unfinished => ?_⟩
  · cases phase : shared.authoriser with
    | idle =>
        have ready := splits.initialised
        simp only [authorise, phase, ready, Bool.not_true, Bool.false_eq_true, ↓reduceIte, true_and]
        exact ⟨splits.complete, splits.tables, splits.records,
          ⟨rfl, rfl, Nat.zero_le _, _, rfl⟩, splits.drainer⟩
    | storing begun result beganNs head done =>
        simp only [authorise, phase, true_and]
        exact splits
  · cases phase : shared.authoriser with
    | idle =>
        simp only [authoriseOn, phase, true_and]
        exact splits
    | storing request result nowNs head done =>
        have more : done < AuditEntry.fields := by
          by_contra last
          simp [completes, phase, last] at unfinished
        refine ⟨?_, splits.storeField phase more⟩
        simp only [authoriseOn, phase, more, ↓reduceIte]

theorem silent_draining (splits : Splits shared trail)
    (unfinished : shared.completes .drainOn = none) :
    shared.drainOn.1 = none ∧ Splits shared.drainOn.2 trail := by
  have drainer := splits.drainer
  cases position : shared.drainer with
  | idle =>
      simp only [drainOn, position, true_and]
      exact splits
  | polling copied room =>
      cases room with
      | nil =>
          simp only [drainOn, position, true_and]
          exact { splits with drainer := trivial }
      | cons target room =>
          simp only [drainOn, position, true_and]
          exact { splits with drainer := rfl }
  | loaded copied target room tail =>
      simp only [Drainer.Holding, position] at drainer
      by_cases empty : tail = shared.iam.auditHead
      · simp [completes, position, empty] at unfinished
      · simp only [drainOn, position, empty, ↓reduceIte, true_and]
        exact { splits with drainer := ⟨drainer, empty, Nat.zero_le _, target, rfl⟩ }
  | copying copied target room tail done =>
      simp only [Drainer.Holding, position] at drainer
      obtain ⟨found, waiting, -, old, partly⟩ := drainer
      by_cases more : done < AuditEntry.fields
      · simp only [drainOn, position, more, ↓reduceIte, true_and]
        refine { splits with drainer := ⟨found, waiting, more, old, ?_⟩ }
        rw [AuditEntry.copied_succ, ← partly]
      · simp [completes, position, more] at unfinished

theorem silent (splits : Splits shared trail) {input : AuditStep}
    (unfinished : shared.completes input = none) :
    (shared.step input).1 = none ∧ Splits (shared.step input).2 trail := by
  cases input with
  | authorise request nowNs => exact splits.silent_authorising.1 request nowNs unfinished
  | authoriseOn => exact splits.silent_authorising.2 unfinished
  | drainOn => exact splits.silent_draining unfinished
  | registerRole role =>
      cases phase : shared.authoriser with
      | idle => simp [completes, phase] at unfinished
      | storing request result nowNs head done =>
          simp only [step, administer, phase, true_and]
          exact splits
  | addPolicy entry =>
      cases phase : shared.authoriser with
      | idle => simp [completes, phase] at unfinished
      | storing request result nowNs head done =>
          simp only [step, administer, phase, true_and]
          exact splits
  | drainAuditLog buffer =>
      cases position : shared.drainer with
      | idle =>
          cases buffer with
          | none => simp [completes, position] at unfinished
          | some room =>
              simp only [step, drainAuditLog, position, true_and]
              exact { splits with drainer := trivial }
      | polling copied room =>
          simp only [step, drainAuditLog, position, true_and]
          exact splits
      | loaded copied target room tail =>
          simp only [step, drainAuditLog, position, true_and]
          exact splits
      | copying copied target room tail done =>
          simp only [step, drainAuditLog, position, true_and]
          exact splits

theorem administers (splits : Splits shared trail) {call : IamCall}
    (known : (∃ role, call = .registerRole role) ∨ ∃ entry, call = .addPolicy entry)
    (idle : shared.authoriser = .idle) :
    (shared.administer call).1 = some (trail.step call).1 ∧
      Splits (shared.administer call).2 (trail.step call).2 := by
  obtain ⟨reply, after⟩ := trail.step_iam call
  have fits : ¬ trail.Overflows call := by
    rintro ⟨⟨request, nowNs, rfl⟩, -⟩
    rcases known with ⟨role, same⟩ | ⟨entry, same⟩
    · cases same
    · cases same
  obtain ⟨moved, log, head, tail⟩ :=
    IamSecurityController.administer_withLog trail.iam known shared.iam.auditLog
  have stepped : shared.iam.step call = ((trail.iam.step call).1,
      (trail.iam.step call).2.withLog shared.iam.auditLog) :=
    (congrArg (fun iam => iam.step call) splits.tables).trans moved
  simp only [administer, idle, stepped]
  rw [reply]
  refine ⟨rfl, splits.complete.step fits, ?_, fun index apart => ?_, trivial, ?_⟩
  · rw [after]
    rfl
  · rw [after, head] at apart
    rw [after, log]
    exact splits.records index apart
  · have sameHead := head.trans splits.auditHead.symm
    have sameTail := tail.trans splits.auditTail.symm
    exact splits.drainer.moved sameTail
      (fun waiting meets => waiting (sameTail.symm.trans (meets.trans sameHead))) fun _ => rfl

/-- Storing the head is the whole call, as long as the head does not meet the tail. -/
theorem storeHead (splits : Splits shared trail) {request : Request} {result : AuditResult}
    {nowNs head done : Nat} (phase : shared.authoriser = .storing request result nowNs head done)
    (last : ¬ done < AuditEntry.fields) (fits : shared.laps .authoriseOn = false) :
    shared.authoriseOn.1 = some (trail.step (.authorise request nowNs)).1 ∧
      Splits shared.authoriseOn.2 (trail.step (.authorise request nowNs)).2 := by
  have holding := splits.authoriser
  simp only [Authoriser.Holding, phase] at holding
  obtain ⟨here, searched, within, before, stored⟩ := holding
  have full : done = AuditEntry.fields := Nat.le_antisymm within (Nat.not_lt.1 last)
  rw [full, AuditEntry.copied_fields] at stored
  have room : (shared.iam.auditHead + 1) % maxAuditLogEntries ≠ shared.iam.auditTail := by
    intro meets
    simp [laps, phase, full, here, meets] at fits
  have unfilled : ¬ trail.Overflows (.authorise request nowNs) := by
    rintro ⟨-, meets⟩
    rw [splits.auditHead, splits.auditTail] at room
    exact room meets
  have sameSearch : result = trail.iam.searchPolicies request := by
    rw [searched, splits.tables]
    rfl
  have whole : trail.iam.authorise request nowNs =
      (result.reply, trail.iam.appendAuditEntry request result nowNs) := by
    rw [IamSecurityController.authorise_eq, splits.complete.initialised, ← sameSearch]
    rfl
  obtain ⟨reply, after⟩ := trail.step_iam (.authorise request nowNs)
  simp only [IamSecurityController.step, whole] at reply after
  simp only [authoriseOn, phase, last, ↓reduceIte]
  rw [reply]
  refine ⟨rfl, splits.complete.step unfilled, ?_, fun index apart => ?_, trivial, ?_⟩
  · rw [after, here]
    simp only [splits.auditHead]
    rw [splits.tables]
    rfl
  · have written : (trail.iam.appendAuditEntry request result nowNs).auditLog index =
        Function.update trail.iam.auditLog head (auditEntry request result nowNs) index := by
      rw [here, splits.auditHead]
      rfl
    rw [after, written]
    rcases eq_or_ne index head with rfl | older
    · rw [Function.update_self]
      exact stored
    · rw [Function.update_of_ne older]
      exact splits.records index fun same => older (same.trans (here.trans splits.auditHead).symm)
  · refine splits.drainer.moved rfl (fun _ meets => room ?_) fun _ => rfl
    rw [← here]
    exact meets.symm

/-- A record is taken whole when the tail is stored behind it. -/
theorem storeTail (splits : Splits shared trail) {copied room : List AuditEntry}
    {target : AuditEntry} {tail done : Nat}
    (position : shared.drainer = .copying copied target room tail done)
    (last : ¬ done < AuditEntry.fields) :
    shared.drainOn.1 = some (trail.step (.drainAuditLog (some 1))).1 ∧
      Splits shared.drainOn.2 (trail.step (.drainAuditLog (some 1))).2 := by
  have drainer := splits.drainer
  simp only [Drainer.Holding, position] at drainer
  obtain ⟨found, waiting, within, old, partly⟩ := drainer
  have full : done = AuditEntry.fields := Nat.le_antisymm within (Nat.not_lt.1 last)
  rw [full, AuditEntry.copied_fields] at partly
  have unread : trail.iam.auditTail ≠ trail.iam.auditHead := by
    rw [← splits.auditTail, ← splits.auditHead, ← found]
    exact waiting
  have record : target = trail.iam.auditLog trail.iam.auditTail := by
    rw [partly, found, splits.auditTail]
    exact splits.records _ unread
  have fits : ¬ trail.Overflows (.drainAuditLog (some 1)) := by
    rintro ⟨⟨request, nowNs, same⟩, -⟩
    cases same
  obtain ⟨reply, after⟩ := trail.step_iam (.drainAuditLog (some 1))
  rw [IamSecurityController.drain_record unread] at reply after
  simp only [drainOn, position, last, ↓reduceIte]
  rw [reply, record]
  refine ⟨rfl, splits.complete.step fits, ?_, fun index apart => ?_, ?_, trivial⟩
  · rw [after, found, splits.auditTail]
    simp only
    rw [splits.tables]
    rfl
  · rw [after] at apart ⊢
    exact splits.records index apart
  · exact splits.authoriser

theorem findEmpty (splits : Splits shared trail) {copied room : List AuditEntry}
    {target : AuditEntry} {tail : Nat} (position : shared.drainer = .loaded copied target room tail)
    (empty : tail = shared.iam.auditHead) :
    shared.drainOn.1 = some (trail.step (.drainAuditLog (some 1))).1 ∧
      Splits shared.drainOn.2 (trail.step (.drainAuditLog (some 1))).2 := by
  have drainer := splits.drainer
  simp only [Drainer.Holding, position] at drainer
  have nothing : trail.iam.auditTail = trail.iam.auditHead := by
    rw [← splits.auditTail, ← splits.auditHead, ← drainer]
    exact empty
  have fits : ¬ trail.Overflows (.drainAuditLog (some 1)) := by
    rintro ⟨⟨request, nowNs, same⟩, -⟩
    cases same
  obtain ⟨reply, after⟩ := trail.step_iam (.drainAuditLog (some 1))
  rw [IamSecurityController.drain_empty nothing] at reply after
  simp only [drainOn, position, empty, ↓reduceIte]
  rw [reply]
  exact ⟨rfl, splits.complete.step fits, after ▸ splits.tables, after ▸ splits.records,
    splits.authoriser, trivial⟩

theorem answers (splits : Splits shared trail) {input : AuditStep} {call : IamCall}
    (fits : shared.laps input = false) (finished : shared.completes input = some call) :
    (shared.step input).1 = some (trail.step call).1 ∧
      Splits (shared.step input).2 (trail.step call).2 := by
  cases input with
  | registerRole role =>
      cases phase : shared.authoriser with
      | idle =>
          obtain rfl : IamCall.registerRole role = call := by simpa [completes, phase] using finished
          exact splits.administers (.inl ⟨role, rfl⟩) phase
      | storing request result nowNs head done => simp [completes, phase] at finished
  | addPolicy entry =>
      cases phase : shared.authoriser with
      | idle =>
          obtain rfl : IamCall.addPolicy entry = call := by simpa [completes, phase] using finished
          exact splits.administers (.inr ⟨entry, rfl⟩) phase
      | storing request result nowNs head done => simp [completes, phase] at finished
  | authorise request nowNs =>
      have ready := splits.initialised
      cases phase : shared.authoriser with
      | idle => simp [completes, phase, ready] at finished
      | storing begun result beganNs head done => simp [completes, phase] at finished
  | authoriseOn =>
      cases phase : shared.authoriser with
      | idle => simp [completes, phase] at finished
      | storing request result nowNs head done =>
          by_cases more : done < AuditEntry.fields
          · simp [completes, phase, more] at finished
          · obtain rfl : IamCall.authorise request nowNs = call := by
              simpa [completes, phase, more] using finished
            exact splits.storeHead phase more fits
  | drainAuditLog buffer =>
      cases position : shared.drainer with
      | idle =>
          cases buffer with
          | none =>
              obtain rfl : IamCall.drainAuditLog none = call := by
                simpa [completes, position] using finished
              simp only [step, drainAuditLog, position]
              exact ⟨rfl, splits⟩
          | some room => simp [completes] at finished
      | polling copied room => simp [completes, position] at finished
      | loaded copied target room tail => simp [completes, position] at finished
      | copying copied target room tail done => simp [completes, position] at finished
  | drainOn =>
      cases position : shared.drainer with
      | idle => simp [completes, position] at finished
      | polling copied room => simp [completes, position] at finished
      | loaded copied target room tail =>
          by_cases empty : tail = shared.iam.auditHead
          · obtain rfl : IamCall.drainAuditLog (some 1) = call := by
              simpa [completes, position, empty] using finished
            exact splits.findEmpty position empty
          · simp [completes, position, empty] at finished
      | copying copied target room tail done =>
          by_cases more : done < AuditEntry.fields
          · simp [completes, position, more] at finished
          · obtain rfl : IamCall.drainAuditLog (some 1) = call := by
              simpa [completes, position, more] using finished
            exact splits.storeTail position more

/-- The unread records stand in the shared log as in the whole one. -/
theorem holds (splits : Splits shared trail) {unread : List (AuditEntry × Nat)}
    (complete : trail.Complete unread) :
    Ring.Holds maxAuditLogEntries shared.iam.auditLog shared.iam.auditHead shared.iam.auditTail
      (unread.map Prod.fst) := by
  have whole := complete.holds
  rw [splits.auditHead, splits.auditTail]
  refine ⟨whole.tail_lt, ?_, ?_, fun offset inside => ?_⟩
  · rw [List.length_map]
    exact whole.length_lt
  · rw [List.length_map]
    exact whole.head_eq
  · rw [List.length_map] at inside
    rw [splits.records _ (whole.unread_ne_head inside), List.getElem_map]
    exact congrArg Prod.fst (whole.content offset inside)

end Splits

/-- Cutting the calls up between the two threads changes no answer while no head laps the tail. -/
theorem linearises :
    Linearises machine AuditTrail.machine completes
      (fun shared input => shared.laps input = false) Splits where
  silent related unfinished := related.silent unfinished
  answers related fits finished := related.answers fits finished

theorem splits_started : Splits started .started where
  complete := ⟨[], AuditTrail.started_complete⟩
  tables := rfl
  records _ _ := rfl
  authoriser := trivial
  drainer := trivial

/-- The records taken are on their way to the caller until the draining returns. -/
theorem step_handsOver (shared : SharedAudit) (input : AuditStep) :
    (shared.returns input).flatMap id ++ (shared.step input).2.drainer.copied =
      shared.drainer.copied ++ (shared.step input).1.toList.flatMap IamReply.drained := by
  cases input with
  | registerRole role =>
      cases phase : shared.authoriser with
      | idle => simp [returns, step, administer, phase, IamSecurityController.step]
      | storing request result nowNs head done => simp [returns, step, administer, phase]
  | addPolicy entry =>
      cases phase : shared.authoriser with
      | idle => simp [returns, step, administer, phase, IamSecurityController.step]
      | storing request result nowNs head done => simp [returns, step, administer, phase]
  | authorise request nowNs =>
      cases phase : shared.authoriser with
      | idle =>
          simp only [returns, step, authorise, phase]
          split <;> simp
      | storing begun result beganNs head done => simp [returns, step, authorise, phase]
  | authoriseOn =>
      cases phase : shared.authoriser with
      | idle => simp [returns, step, authoriseOn, phase]
      | storing request result nowNs head done =>
          simp only [returns, step, authoriseOn, phase]
          split <;> simp
  | drainAuditLog buffer =>
      cases position : shared.drainer with
      | idle =>
          cases buffer with
          | none => simp [returns, step, drainAuditLog, position, tookNothing]
          | some room => simp [returns, step, drainAuditLog, position, Drainer.copied]
      | polling copied room => simp [returns, step, drainAuditLog, position]
      | loaded copied target room tail => simp [returns, step, drainAuditLog, position]
      | copying copied target room tail done => simp [returns, step, drainAuditLog, position]
  | drainOn =>
      cases position : shared.drainer with
      | idle => simp [returns, step, drainOn, position]
      | polling copied room =>
          cases room with
          | nil => simp [returns, step, drainOn, position, Drainer.copied]
          | cons target room => simp [returns, step, drainOn, position, Drainer.copied]
      | loaded copied target room tail =>
          simp only [returns, step, drainOn, position]
          split <;> simp [Drainer.copied, tookNothing]
      | copying copied target room tail done =>
          simp only [returns, step, drainOn, position]
          split <;> simp [Drainer.copied, tookRecord]

/-- Over every interleaving of an authorising with a draining thread in which no head is stored
that meets the tail: the verdicts are those of whole calls, and so are the records, each of them
drained by a call of size one; the caller of `DrainAuditLog` is handed the records taken; and
with those still unread they are the decisions as they should be recorded, once and in order. -/
theorem log_linearises {steps : List AuditStep}
    (fits : machine.EveryStep (fun shared input => shared.laps input = false) started steps) :
    let calls := machine.completed completes started steps
    let replies := (machine.outputs started steps).filterMap id
    let reached := machine.run started steps
    replies = IamSecurityController.machine.outputs .started calls ∧
      (machine.handedOn returns started steps).flatten ++ reached.drainer.copied =
        replies.flatMap IamReply.drained ∧
      ∃ unread,
        Ring.Holds maxAuditLogEntries reached.iam.auditLog reached.iam.auditHead
          reached.iam.auditTail unread ∧
        replies.flatMap IamReply.drained ++ unread =
          (AuditTrail.machine.run .started calls).decisions := by
  intro calls replies reached
  obtain ⟨same, splits⟩ := linearises.run splits_started fits
  obtain ⟨unread, complete⟩ := splits.complete
  have handed := machine.handedOn_conserves (fun shared => shared.drainer.copied)
    step_handsOver started steps
  refine ⟨?_, ?_, unread.map Prod.fst, splits.holds complete, ?_⟩
  · exact same.trans (AuditTrail.run_iam .started calls).1
  · rw [← List.flatMap_id]
    exact handed
  · have whole := congrArg (List.map Prod.fst) complete.whole
    rw [List.map_append, List.zipIdx_map_fst] at whole
    rw [← whole, AuditTrail.run_drained, ← same]
    rfl

def refusedRequest : Request where
  principalId := 7
  serviceId := 1
  methodId := 2
  action := .write

def blankEntry : AuditEntry := IamSecurityController.construct.auditLog 0

/-- The draining begins inside one authorisation and ends inside the next. -/
def overlapping : List AuditStep :=
  [.authorise refusedRequest 10, .drainAuditLog (some [blankEntry, blankEntry]), .authoriseOn, .drainOn] ++
    List.replicate 6 .authoriseOn ++ List.replicate 3 .drainOn ++
    [.authorise refusedRequest 20, .authoriseOn] ++ List.replicate 7 .drainOn

theorem overlapping_drains_whole :
    machine.handedOn returns started overlapping = [[auditEntry refusedRequest .denied 10]] ∧
      ((machine.outputs started overlapping).filterMap id).flatMap IamReply.drained =
        [auditEntry refusedRequest .denied 10] := by
  have fits : machine.EveryStep (fun shared input => shared.laps input = false) started
      overlapping := by
    simp only [overlapping, List.replicate, List.cons_append, List.nil_append,
      Machine.everyStep_cons_iff, Machine.everyStep_nil]
    decide +kernel
  obtain ⟨-, handed, -⟩ := log_linearises fits
  have returned : machine.handedOn returns started overlapping =
      [[auditEntry refusedRequest .denied 10]] := by decide +kernel
  have finished : (machine.run started overlapping).drainer.copied = [] := by decide +kernel
  refine ⟨returned, handed.symm.trans ?_⟩
  rw [returned, finished]
  rfl

end SharedAudit

end SoaGateway.Iam
