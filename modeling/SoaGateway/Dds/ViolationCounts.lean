import SoaGateway.Dds.DeadlineMisses

/-! The violation counts over a run. Every report of a missed deadline is counted once,
under the topic it names, and nothing else is. -/

set_option autoImplicit false

namespace SoaGateway.Dds

open Foundation

/-- The answer of a look at the deadlines that reports a topic. -/
def reportedMiss (topicId : BitVec 32) (entry : QosCall × QosReply) : Bool :=
  entry.2.result = .error .timeout && entry.2.outTopicId == some topicId

def reportedMisses (topicId : BitVec 32) (trace : QosTrace) : Nat :=
  trace.countP (reportedMiss topicId)

theorem reportedMisses_concat (topicId : BitVec 32) (trace : QosTrace)
    (entry : QosCall × QosReply) :
    reportedMisses topicId (trace ++ [entry]) =
      reportedMisses topicId trace + if reportedMiss topicId entry then 1 else 0 := by
  rw [reportedMisses, List.countP_append, List.countP_singleton]
  rfl

theorem reportedMisses_unnamed {entry : QosCall × QosReply} (unnamed : entry.2.outTopicId = none)
    (topicId : BitVec 32) (trace : QosTrace) :
    reportedMisses topicId (trace ++ [entry]) = reportedMisses topicId trace := by
  simp [reportedMisses_concat, reportedMiss, unnamed]

namespace DdsQosEnforcer

variable {enforcer : DdsQosEnforcer} {trace : QosTrace}

/-- The counts are those of the reports so far; nobody else was ever reported. -/
structure Counted (enforcer : DdsQosEnforcer) (trace : QosTrace) : Prop where
  mirrors : enforcer.Mirrors trace
  counts : ∀ (index : Fin maxQosProfiles) profile,
    enforcer.profiles[index.val]? = some profile →
      (enforcer.deadlines index).violationCount =
        BitVec.ofNat 32 (reportedMisses profile.topicId trace)
  unknown : ∀ topicId, (∀ profile ∈ enforcer.profiles, profile.topicId ≠ topicId) →
    reportedMisses topicId trace = 0

/-- A call that names no topic and leaves profiles and counts alone. -/
theorem Counted.kept (counted : enforcer.Counted trace) {entry : QosCall × QosReply}
    {after : DdsQosEnforcer} (unnamed : entry.2.outTopicId = none)
    (mirrors : after.Mirrors (trace ++ [entry])) (profiles : after.profiles = enforcer.profiles)
    (counts : ∀ (index : Fin maxQosProfiles) profile,
      enforcer.profiles[index.val]? = some profile →
        (after.deadlines index).violationCount = (enforcer.deadlines index).violationCount) :
    after.Counted (trace ++ [entry]) where
  mirrors := mirrors
  counts index profile held := by
    rw [profiles] at held
    rw [reportedMisses_unnamed unnamed, counts index profile held]
    exact counted.counts index profile held
  unknown topicId others := by
    rw [profiles] at others
    rw [reportedMisses_unnamed unnamed]
    exact counted.unknown topicId others

theorem Counted.registerProfile (counted : enforcer.Counted trace) (profile : DdsQosProfile)
    (nowMs : Nat) :
    (enforcer.step (.registerProfile profile nowMs)).2.Counted
      (trace ++ [(.registerProfile profile nowMs,
        (enforcer.step (.registerProfile profile nowMs)).1)]) := by
  have mirrors := counted.mirrors.registerProfile profile nowMs
  rcases enforcer.registerProfile_cases profile nowMs with
    ⟨code, refused⟩ | ⟨room, started, unknown, accepted⟩
  · simp only [step, refused] at mirrors ⊢
    exact counted.kept rfl mirrors rfl fun _ _ _ => rfl
  · simp only [step, accepted] at mirrors ⊢
    have fresh : ∀ held ∈ enforcer.profiles, held.topicId ≠ profile.topicId := by
      intro held member same
      exact List.find?_eq_none.1 unknown held member (beq_iff_eq.2 same)
    refine ⟨mirrors, fun index held found => ?_, fun topicId others => ?_⟩
    · rw [reportedMisses_unnamed rfl]
      rcases opened_holds found with ⟨rfl, rfl⟩ | ⟨elsewhere, before⟩
      · rw [opened_at, counted.unknown held.topicId fresh]
        rfl
      · rw [opened_elsewhere elsewhere]
        exact counted.counts index held before
    · rw [reportedMisses_unnamed rfl]
      refine counted.unknown topicId fun held member => others held ?_
      rw [opened_profiles]
      exact List.mem_append_left _ member

theorem Counted.validateSample (counted : enforcer.Counted trace) (topicId : BitVec 32)
    (sampleLen : BitVec 16) (nowMs : Nat) :
    (enforcer.step (.validateSample topicId sampleLen nowMs)).2.Counted
      (trace ++ [(.validateSample topicId sampleLen nowMs,
        (enforcer.step (.validateSample topicId sampleLen nowMs)).1)]) := by
  have mirrors := counted.mirrors.validateSample topicId sampleLen nowMs
  rcases enforcer.validateSample_cases topicId sampleLen nowMs with
    ⟨code, refused⟩ | ⟨profile, found, -, accepted⟩
  · simp only [step, refused] at mirrors ⊢
    exact counted.kept rfl mirrors rfl fun _ _ _ => rfl
  · simp only [step, accepted] at mirrors ⊢
    cases tracked : enforcer.findDeadlineIndex topicId with
    | none =>
        simp only [tracked] at mirrors
        exact counted.kept rfl mirrors rfl fun _ _ _ => rfl
    | some index =>
        simp only [tracked] at mirrors
        refine counted.kept rfl mirrors rfl fun other _ _ => ?_
        exact store_field DeadlineState.violationCount (by rfl) other

/-- A look at the deadlines counts the one topic it reports. -/
theorem Counted.checkDeadlines (counted : enforcer.Counted trace) (nowMs : Nat) :
    (enforcer.step (.checkDeadlines nowMs)).2.Counted
      (trace ++ [(.checkDeadlines nowMs, (enforcer.step (.checkDeadlines nowMs)).1)]) := by
  have mirrors := counted.mirrors.checkDeadlines nowMs
  simp only [step, DdsQosEnforcer.checkDeadlines] at mirrors ⊢
  cases started : enforcer.initialised with
  | false =>
      simp only [started, Bool.not_false, ↓reduceIte] at mirrors ⊢
      exact counted.kept rfl mirrors rfl fun _ _ _ => rfl
  | true =>
      simp only [started, Bool.not_true, Bool.false_eq_true, ↓reduceIte] at mirrors ⊢
      cases scan : (List.finRange maxQosProfiles).findSome? (enforcer.violation? nowMs) with
      | none =>
          simp only [scan] at mirrors ⊢
          have silent : ∀ topicId, reportedMiss topicId (QosCall.checkDeadlines nowMs,
              { result := .ok (), outTopicId := some invalidTopicId }) = false := fun _ => rfl
          refine ⟨mirrors, fun index profile held => ?_, fun topicId others => ?_⟩
          · rw [reportedMisses_concat, silent]
            exact counted.counts index profile held
          · rw [reportedMisses_concat, silent]
            exact counted.unknown topicId others
      | some found =>
          obtain ⟨place, -, stops⟩ := List.exists_of_findSome?_eq_some scan
          obtain ⟨profile, held, -, rfl⟩ := (counted.mirrors.violation?_iff found).1 stops
          simp only [scan] at mirrors ⊢
          have named : ∀ topicId, reportedMiss topicId (QosCall.checkDeadlines nowMs,
              { result := .error .timeout, outTopicId := some profile.topicId }) =
                (profile.topicId == topicId) := by
            intro topicId
            simp [reportedMiss]
          refine ⟨mirrors, fun index other found => ?_, fun topicId others => ?_⟩
          · rw [reportedMisses_concat, named]
            rcases eq_or_ne index place with rfl | elsewhere
            · cases held.symm.trans found
              rw [store_same, counted.counts index profile held]
              simp [BitVec.ofNat_add]
            · have apart : profile.topicId ≠ other.topicId :=
                fun same => elsewhere (counted.mirrors.same_index found held same.symm)
              rw [store_other elsewhere, counted.counts index other found]
              simp [apart]
          · have apart := others profile (List.mem_of_getElem? held)
            rw [reportedMisses_concat, named, counted.unknown topicId others]
            simp [apart]

theorem run_counted (calls : List QosCall) :
    (machine.run construct calls).Counted (machine.trace construct calls) := by
  induction calls using List.reverseRecOn with
  | nil =>
      refine ⟨construct_mirrors, fun index profile held => ?_, fun _ _ => rfl⟩
      cases held
  | append_singleton calls call ih =>
      rw [machine.run_concat, machine.trace_concat]
      cases call with
      | registerProfile profile nowMs => exact ih.registerProfile profile nowMs
      | validateSample topicId sampleLen nowMs => exact ih.validateSample topicId sampleLen nowMs
      | checkDeadlines nowMs => exact ih.checkDeadlines nowMs
      | init nowMs =>
          have mirrors := ih.mirrors.init nowMs
          cases started : (machine.run construct calls).initialised with
          | true =>
              have unchanged : ((machine.run construct calls).init nowMs).2 =
                  machine.run construct calls := by simp [DdsQosEnforcer.init, started]
              refine ih.kept rfl mirrors (congrArg profiles unchanged) fun index profile held => ?_
              exact congrArg (fun reached => (reached.deadlines index).violationCount) unchanged
          | false =>
              have empty := ih.mirrors.fresh started
              have cleared : ((machine.run construct calls).init nowMs).2.profiles = [] := by
                simp [DdsQosEnforcer.init, started]
              refine ih.kept rfl mirrors (cleared.trans empty.symm) fun index profile held => ?_
              rw [empty] at held
              cases held

/-- In every run, the count of a registered topic is the number of times a look at the
deadlines has reported it, and its profile is the one its registration was accepted with;
of any other topic neither is known, and it was never reported. -/
theorem violations_accounted (calls : List QosCall) (topicId : BitVec 32) :
    let trace := machine.trace construct calls
    let reached := machine.run construct calls
    (∀ profile ∈ registered trace, profile.topicId = topicId →
      reached.getViolationCount topicId = .ok (BitVec.ofNat 32 (reportedMisses topicId trace)) ∧
        reached.getProfile topicId = .ok profile) ∧
      ((∀ profile ∈ registered trace, profile.topicId ≠ topicId) →
        reached.getViolationCount topicId = .error .serviceNotFound ∧
          reached.getProfile topicId = .error .serviceNotFound ∧
          reportedMisses topicId trace = 0) := by
  intro trace reached
  have counted : reached.Counted trace := run_counted calls
  have listed := counted.mirrors.registered
  rw [← listed]
  refine ⟨fun profile member same => ?_, fun others => ?_⟩
  · obtain ⟨index, held⟩ := counted.mirrors.index_of_mem member
    have tracked := counted.mirrors.findDeadlineIndex_iff.2 ⟨profile, held, same⟩
    refine ⟨?_, ?_⟩
    · rw [getViolationCount, tracked, ← same]
      exact congrArg Except.ok (counted.counts index profile held)
    · cases search : reached.findProfile topicId with
      | none => exact absurd (beq_iff_eq.2 same) (List.find?_eq_none.1 search profile member)
      | some found =>
          obtain ⟨other, held', same'⟩ := counted.mirrors.findProfile_some search
          have here := counted.mirrors.same_index held' held (same'.trans same.symm)
          rw [here, held] at held'
          cases held'
          rw [getProfile, search]
  · refine ⟨?_, ?_, counted.unknown topicId others⟩
    · cases search : reached.findDeadlineIndex topicId with
      | none => rw [getViolationCount, search]
      | some index =>
          obtain ⟨profile, held, same⟩ := counted.mirrors.findDeadlineIndex_iff.1 search
          exact absurd same (others profile (List.mem_of_getElem? held))
    · cases search : reached.findProfile topicId with
      | none => rw [getProfile, search]
      | some profile =>
          obtain ⟨index, held, same⟩ := counted.mirrors.findProfile_some search
          exact absurd same (others profile (List.mem_of_getElem? held))

end DdsQosEnforcer

end SoaGateway.Dds
