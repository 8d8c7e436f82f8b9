import SoaGateway.Dds.SampleHistory

/-! The cumulative counts of deadline misses against the history. The scan stops at the
first late topic, so a further late topic goes uncounted in the same look. -/

set_option autoImplicit false

namespace SoaGateway.Dds

open Foundation

/-- The deadline of the profile is finite and older than the last sign of its topic allows. A
sign read off a clock that has since gone back is recent. -/
def DdsQosProfile.Late (profile : DdsQosProfile) (trace : QosTrace) (nowMs : Nat) : Prop :=
  profile.deadlineMs ≠ deadlineInfiniteMs ∧
    ∃ lastMs, lastSign profile.topicId trace = some lastMs ∧
      lastMs + profile.deadlineMs.toNat < nowMs

/-- A registered topic that is late. -/
def Overdue (trace : QosTrace) (nowMs : Nat) (topicId : BitVec 32) : Prop :=
  ∃ profile ∈ registered trace, profile.topicId = topicId ∧ profile.Late trace nowMs

/-- The counts of the overdue topics go up by one, and the other counts stay. -/
def CountsEveryMiss (trace : QosTrace) (nowMs : Nat) (before after : DdsQosEnforcer) : Prop :=
  ∀ topicId,
    (Overdue trace nowMs topicId → ∃ count, before.getViolationCount topicId = .ok count ∧
      after.getViolationCount topicId = .ok (count + 1)) ∧
    (¬ Overdue trace nowMs topicId →
      after.getViolationCount topicId = before.getViolationCount topicId)

namespace DdsQosEnforcer

variable {enforcer : DdsQosEnforcer} {trace : QosTrace} {index : Fin maxQosProfiles}
  {profile : DdsQosProfile} {nowMs : Nat}

theorem Mirrors.registered_of_held (mirrors : enforcer.Mirrors trace)
    (held : enforcer.profiles[index.val]? = some profile) : profile ∈ Dds.registered trace := by
  rw [← mirrors.registered]
  exact List.mem_of_getElem? held

/-- The scan stops at the indices of late profiles. -/
theorem Mirrors.violation?_iff (mirrors : enforcer.Mirrors trace)
    (found : Fin maxQosProfiles × DdsQosProfile) :
    enforcer.violation? nowMs index = some found ↔
      ∃ profile, enforcer.profiles[index.val]? = some profile ∧ profile.Late trace nowMs ∧
        (index, profile) = found := by
  unfold violation?
  cases place : enforcer.profiles[index.val]? with
  | none => simp
  | some held =>
      have active := (mirrors.active_iff index).2 (List.getElem?_eq_some_iff.1 place).1
      have last := mirrors.sign index held place
      have aged : ∀ lastMs limit, nowMs ≥ lastMs ∧ nowMs - lastMs > limit ↔
          lastMs + limit < nowMs := by omega
      by_cases infinite : held.deadlineMs = deadlineInfiniteMs
      · simp [infinite, DdsQosProfile.Late]
      · simp [infinite, active, last, aged, DdsQosProfile.Late]

theorem findDeadlineIndex_missed (index : Fin maxQosProfiles) (topicId : BitVec 32) :
    (enforcer.missed index).findDeadlineIndex topicId = enforcer.findDeadlineIndex topicId := by
  have active : ∀ other, ((enforcer.missed index).deadlines other).active =
      (enforcer.deadlines other).active := store_field DeadlineState.active (by rfl)
  have topic : ∀ other, ((enforcer.missed index).deadlines other).topicId =
      (enforcer.deadlines other).topicId := store_field DeadlineState.topicId (by rfl)
  simp only [findDeadlineIndex, active, topic]

/-- A counted miss shows in the count of its topic alone. -/
theorem Mirrors.getViolationCount_missed (mirrors : enforcer.Mirrors trace)
    (held : enforcer.profiles[index.val]? = some profile) (topicId : BitVec 32) :
    (∃ count, topicId = profile.topicId ∧ enforcer.getViolationCount topicId = .ok count ∧
        (enforcer.missed index).getViolationCount topicId = .ok (count + 1)) ∨
      (topicId ≠ profile.topicId ∧
        (enforcer.missed index).getViolationCount topicId =
          enforcer.getViolationCount topicId) := by
  unfold getViolationCount
  rw [findDeadlineIndex_missed]
  cases search : enforcer.findDeadlineIndex topicId with
  | none =>
      refine .inr ⟨?_, rfl⟩
      rintro rfl
      rw [mirrors.findDeadlineIndex_iff.2 ⟨profile, held, rfl⟩] at search
      cases search
  | some found =>
      obtain ⟨profile', held', same⟩ := mirrors.findDeadlineIndex_iff.1 search
      by_cases here : found = index
      · rw [here, held] at held'
        cases held'
        rw [here]
        exact .inl ⟨_, same.symm, rfl, congrArg _ (congrArg _ (store_same _ _))⟩
      · refine .inr ⟨?_, congrArg _ (congrArg _ (store_other here _))⟩
        intro equal
        exact here (mirrors.same_index held' held (same.trans equal))

/-- A scan that goes through the whole table without a stop has met no late profile. -/
theorem Mirrors.scan_passes (mirrors : enforcer.Mirrors trace) {nowMs : Nat}
    (scan : (List.finRange maxQosProfiles).findSome? (enforcer.violation? nowMs) = none) :
    ∀ profile ∈ Dds.registered trace, ¬ profile.Late trace nowMs := by
  intro profile member late
  rw [← mirrors.registered] at member
  obtain ⟨index, held⟩ := mirrors.index_of_mem member
  have stops := (mirrors.violation?_iff (index, profile)).2 ⟨profile, held, late, rfl⟩
  rw [List.findSome?_eq_none_iff.1 scan index (List.mem_finRange index)] at stops
  cases stops

/-- A look at the deadlines finds nobody late, or counts the miss of one late topic. -/
theorem Mirrors.looks (mirrors : enforcer.Mirrors trace) (nowMs : Nat) :
    ((enforcer.checkDeadlines nowMs).2 = enforcer ∧ ∀ topicId, ¬ Overdue trace nowMs topicId) ∨
      ∃ index profile, enforcer.profiles[index.val]? = some profile ∧
        Overdue trace nowMs profile.topicId ∧
        (enforcer.checkDeadlines nowMs).2 = enforcer.missed index := by
  unfold DdsQosEnforcer.checkDeadlines
  cases started : enforcer.initialised with
  | false =>
      refine .inl ⟨rfl, fun topicId overdue => ?_⟩
      obtain ⟨profile, member, -⟩ := overdue
      rw [← mirrors.registered, mirrors.fresh started] at member
      cases member
  | true =>
      cases scan : (List.finRange maxQosProfiles).findSome? (enforcer.violation? nowMs) with
      | none =>
          refine .inl ⟨rfl, fun topicId overdue => ?_⟩
          obtain ⟨profile, member, -, late⟩ := overdue
          exact mirrors.scan_passes scan profile member late
      | some found =>
          obtain ⟨index, -, stops⟩ := List.exists_of_findSome?_eq_some scan
          obtain ⟨profile, held, late, rfl⟩ := (mirrors.violation?_iff found).1 stops
          have member := mirrors.registered_of_held held
          exact .inr ⟨index, profile, held, ⟨profile, member, rfl, late⟩, rfl⟩

theorem Mirrors.counts_every_miss_iff (mirrors : enforcer.Mirrors trace) (nowMs : Nat) :
    CountsEveryMiss trace nowMs enforcer (enforcer.checkDeadlines nowMs).2 ↔
      ∀ topicId other, Overdue trace nowMs topicId → Overdue trace nowMs other →
        topicId = other := by
  rcases mirrors.looks nowMs with ⟨unchanged, met⟩ | ⟨index, profile, held, overdue, counted⟩
  · rw [unchanged]
    refine iff_of_true (fun topicId => ?_) fun topicId other overdue => ?_
    · exact ⟨fun overdue => absurd overdue (met topicId), fun _ => rfl⟩
    · exact absurd overdue (met topicId)
  · rw [counted]
    constructor
    · intro counts
      -- A second overdue topic would have to be counted where nothing is written.
      have sole : ∀ topicId, Overdue trace nowMs topicId → topicId = profile.topicId := by
        intro topicId late
        rcases mirrors.getViolationCount_missed held topicId with ⟨count, same, -⟩ | ⟨-, kept⟩
        · exact same
        · obtain ⟨count, before, after⟩ := (counts topicId).1 late
          rw [kept, before] at after
          simp at after
      intro topicId other late late'
      exact (sole topicId late).trans (sole other late').symm
    · intro sole topicId
      rcases mirrors.getViolationCount_missed held topicId with
        ⟨count, rfl, before, after⟩ | ⟨differs, kept⟩
      · exact ⟨fun _ => ⟨count, before, after⟩, fun met => absurd overdue met⟩
      · exact ⟨fun late => absurd (sole _ _ late overdue) differs, fun _ => kept⟩

/-- In every state a run reaches, a look at the deadlines counts every miss exactly when at
most one topic is overdue. -/
theorem every_miss_counted_iff (calls : List QosCall) (nowMs : Nat) :
    CountsEveryMiss (machine.trace construct calls) nowMs (machine.run construct calls)
        ((machine.run construct calls).checkDeadlines nowMs).2 ↔
      ∀ topicId other, Overdue (machine.trace construct calls) nowMs topicId →
        Overdue (machine.trace construct calls) nowMs other → topicId = other :=
  (run_mirrors calls).counts_every_miss_iff nowMs

def periodicProfile (topicId : BitVec 32) : DdsQosProfile :=
  { defaultProfile with topicId := topicId, deadlineMs := 10 }

def twoSilentTopics : List QosCall :=
  [.init 0, .registerProfile (periodicProfile 1) 0, .registerProfile (periodicProfile 2) 0]

/-- The topic registered first hides the miss of the other. -/
theorem second_miss_is_uncounted :
    ¬ CountsEveryMiss (machine.trace construct twoSilentTopics) 100
      (machine.run construct twoSilentTopics)
      ((machine.run construct twoSilentTopics).checkDeadlines 100).2 := by
  intro counts
  obtain ⟨count, before, after⟩ := (counts 2).1
    ⟨periodicProfile 2, .tail _ (.head _), rfl, by decide, 0, rfl, by decide⟩
  -- Both counts of the second topic are zero.
  cases before
  cases after

end DdsQosEnforcer

end SoaGateway.Dds
