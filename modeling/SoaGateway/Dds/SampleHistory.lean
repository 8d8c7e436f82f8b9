import SoaGateway.Dds.QosPolicy

/-! The enforcer against the history of its calls. The registered profiles and the last
sign of life of each topic are read off the calls that were answered with `Ok`, and the
arrays of the enforcer mirror them. -/

set_option autoImplicit false

namespace SoaGateway.Dds

open Foundation

/-- Each call made so far with its answer, oldest first. -/
abbrev QosTrace := List (QosCall × QosReply)

/-- The profile an accepted registration adds. -/
def registration? : QosCall × QosReply → Option DdsQosProfile
  | (.registerProfile profile _, reply) => if reply.result.isOk then some profile else none
  | _ => none

/-- The clock reading of a registration or an accepted sample of a topic. -/
def sign? (topicId : BitVec 32) : QosCall × QosReply → Option Nat
  | (.registerProfile profile nowMs, reply) =>
      if reply.result.isOk && profile.topicId == topicId then some nowMs else none
  | (.validateSample sampled _ nowMs, reply) =>
      if reply.result.isOk && sampled == topicId then some nowMs else none
  | _ => none

def registered (trace : QosTrace) : List DdsQosProfile := trace.filterMap registration?

def lastSign (topicId : BitVec 32) (trace : QosTrace) : Option Nat :=
  (trace.filterMap (sign? topicId)).getLast?

@[simp] theorem registered_concat (trace : QosTrace) (entry : QosCall × QosReply) :
    registered (trace ++ [entry]) = registered trace ++ (registration? entry).toList := by
  cases found : registration? entry <;> simp [registered, found]

@[simp] theorem lastSign_concat (topicId : BitVec 32) (trace : QosTrace)
    (entry : QosCall × QosReply) :
    lastSign topicId (trace ++ [entry]) = (sign? topicId entry).or (lastSign topicId trace) := by
  cases found : sign? topicId entry <;> simp [lastSign, found]

/-- An entry that neither registers nor samples a topic. -/
def Silent (entry : QosCall × QosReply) : Prop :=
  registration? entry = none ∧ ∀ topicId, sign? topicId entry = none

theorem silent_of_error {call : QosCall} {reply : QosReply} {code : ErrorCode}
    (refused : reply.result = .error code) : Silent (call, reply) := by
  cases call with
  | init nowMs => exact ⟨rfl, fun _ => rfl⟩
  | registerProfile profile nowMs =>
      simp [Silent, registration?, sign?, refused]
  | validateSample sampled sampleLen nowMs =>
      simp [Silent, registration?, sign?, refused]
  | checkDeadlines nowMs => exact ⟨rfl, fun _ => rfl⟩

namespace DdsQosEnforcer

variable {enforcer : DdsQosEnforcer} {trace : QosTrace} {index : Fin maxQosProfiles}
  {profile : DdsQosProfile}

/-- The arrays of the enforcer hold what the history says. -/
structure Mirrors (enforcer : DdsQosEnforcer) (trace : QosTrace) : Prop where
  registered : enforcer.profiles = registered trace
  fresh : enforcer.initialised = false → enforcer.profiles = []
  bounded : enforcer.profiles.length ≤ maxQosProfiles
  distinct : (enforcer.profiles.map DdsQosProfile.topicId).Nodup
  active_iff : ∀ index : Fin maxQosProfiles,
    (enforcer.deadlines index).active = true ↔ index.val < enforcer.profiles.length
  topic : ∀ (index : Fin maxQosProfiles) profile,
    enforcer.profiles[index.val]? = some profile →
      (enforcer.deadlines index).topicId = profile.topicId
  sign : ∀ (index : Fin maxQosProfiles) profile,
    enforcer.profiles[index.val]? = some profile →
      lastSign profile.topicId trace = some (enforcer.deadlines index).lastSampleMs

theorem Mirrors.silent (mirrors : enforcer.Mirrors trace) {entry : QosCall × QosReply}
    (silent : Silent entry) : enforcer.Mirrors (trace ++ [entry]) where
  registered := by
    rw [registered_concat, silent.1, mirrors.registered]
    exact (List.append_nil _).symm
  fresh := mirrors.fresh
  bounded := mirrors.bounded
  distinct := mirrors.distinct
  active_iff := mirrors.active_iff
  topic := mirrors.topic
  sign index profile held := by
    rw [lastSign_concat, silent.2]
    exact mirrors.sign index profile held

/-- A topic is registered under one index only. -/
theorem Mirrors.same_index (mirrors : enforcer.Mirrors trace) {other : Fin maxQosProfiles}
    {profile' : DdsQosProfile} (held : enforcer.profiles[index.val]? = some profile)
    (held' : enforcer.profiles[other.val]? = some profile')
    (same : profile.topicId = profile'.topicId) : index = other := by
  have topics : (enforcer.profiles.map DdsQosProfile.topicId)[index.val]? =
      (enforcer.profiles.map DdsQosProfile.topicId)[other.val]? := by
    rw [List.getElem?_map, List.getElem?_map, held, held']
    exact congrArg some same
  have inside : index.val < (enforcer.profiles.map DdsQosProfile.topicId).length := by
    rw [List.length_map]
    exact (List.getElem?_eq_some_iff.1 held).1
  exact Fin.ext ((List.getElem?_inj inside mirrors.distinct).1 topics)

theorem Mirrors.findDeadlineIndex_iff (mirrors : enforcer.Mirrors trace) {topicId : BitVec 32} :
    enforcer.findDeadlineIndex topicId = some index ↔
      ∃ profile, enforcer.profiles[index.val]? = some profile ∧ profile.topicId = topicId := by
  have listed : ∀ found, enforcer.findDeadlineIndex topicId = some found →
      ∃ profile, enforcer.profiles[found.val]? = some profile ∧ profile.topicId = topicId := by
    intro found search
    have met := List.find?_some search
    rw [Bool.and_eq_true, beq_iff_eq] at met
    have inside := (mirrors.active_iff found).1 met.1
    have held := List.getElem?_eq_getElem inside
    exact ⟨_, held, (mirrors.topic found _ held).symm.trans met.2⟩
  constructor
  · exact listed index
  · intro known
    obtain ⟨profile, held, rfl⟩ := known
    have active := (mirrors.active_iff index).2 (List.getElem?_eq_some_iff.1 held).1
    cases search : enforcer.findDeadlineIndex profile.topicId with
    | none =>
        have unmet := List.find?_eq_none.1 search index (List.mem_finRange index)
        rw [active, mirrors.topic index profile held] at unmet
        simp at unmet
    | some found =>
        obtain ⟨profile', held', same⟩ := listed found search
        exact congrArg some (mirrors.same_index held' held same)

theorem Mirrors.index_of_mem (mirrors : enforcer.Mirrors trace)
    (member : profile ∈ enforcer.profiles) :
    ∃ index : Fin maxQosProfiles, enforcer.profiles[index.val]? = some profile := by
  obtain ⟨place, held⟩ := List.mem_iff_getElem?.1 member
  have inside := (List.getElem?_eq_some_iff.1 held).1
  exact ⟨⟨place, inside.trans_le mirrors.bounded⟩, held⟩

theorem Mirrors.findProfile_some (mirrors : enforcer.Mirrors trace) {topicId : BitVec 32}
    (found : enforcer.findProfile topicId = some profile) :
    ∃ index : Fin maxQosProfiles,
      enforcer.profiles[index.val]? = some profile ∧ profile.topicId = topicId := by
  have same := List.find?_some found
  obtain ⟨index, held⟩ := mirrors.index_of_mem (List.mem_of_find?_eq_some found)
  exact ⟨index, held, beq_iff_eq.1 same⟩

/-- The enforcer with a profile added and its deadline opened. -/
def opened (enforcer : DdsQosEnforcer) (profile : DdsQosProfile) (nowMs : Nat)
    (room : enforcer.profiles.length < maxQosProfiles) : DdsQosEnforcer :=
  { enforcer.store ⟨enforcer.profiles.length, room⟩ {
      topicId := profile.topicId, lastSampleMs := nowMs, violationCount := 0, active := true } with
    profiles := enforcer.profiles ++ [profile] }

/-- A registration is refused without effect or opens the next index. -/
theorem registerProfile_cases (enforcer : DdsQosEnforcer) (profile : DdsQosProfile)
    (nowMs : Nat) :
    (∃ code, enforcer.registerProfile profile nowMs = (.error code, enforcer)) ∨
      ∃ room, enforcer.initialised = true ∧ enforcer.findProfile profile.topicId = none ∧
        enforcer.registerProfile profile nowMs = (.ok (), enforcer.opened profile nowMs room) := by
  unfold registerProfile
  cases started : enforcer.initialised with
  | false => exact .inl ⟨_, rfl⟩
  | true =>
      by_cases room : enforcer.profiles.length < maxQosProfiles
      · cases search : enforcer.findProfile profile.topicId with
        | some found => exact .inl ⟨.alreadyRegistered, by simp [room]⟩
        | none => exact .inr ⟨room, rfl, rfl, by simp [room, opened]⟩
      · exact .inl ⟨.registryFull, by simp [room]⟩

/-- A sample is refused without effect or accepted, well sized, for a registered topic. -/
theorem validateSample_cases (enforcer : DdsQosEnforcer) (topicId : BitVec 32)
    (sampleLen : BitVec 16) (nowMs : Nat) :
    (∃ code, enforcer.validateSample topicId sampleLen nowMs = (.error code, enforcer)) ∨
      ∃ profile, enforcer.findProfile topicId = some profile ∧
        ¬ (sampleLen = 0 ∨ BitVec.ofNat 16 maxPayloadBytes < sampleLen) ∧
        enforcer.validateSample topicId sampleLen nowMs =
          (.ok (), match enforcer.findDeadlineIndex topicId with
            | none => enforcer
            | some index => enforcer.store index
                { enforcer.deadlines index with lastSampleMs := nowMs }) := by
  unfold validateSample
  cases started : enforcer.initialised with
  | false => exact .inl ⟨_, rfl⟩
  | true =>
      cases search : enforcer.findProfile topicId with
      | none => exact .inl ⟨_, rfl⟩
      | some profile =>
          by_cases malformed : sampleLen = 0 ∨ BitVec.ofNat 16 maxPayloadBytes < sampleLen
          · exact .inl ⟨.invalidArgument, if_pos malformed⟩
          · refine .inr ⟨profile, rfl, malformed, (if_neg malformed).trans ?_⟩
            cases enforcer.findDeadlineIndex topicId with
            | none => rfl
            | some index => rfl

/-- The enforcer with one more miss counted at an index. -/
def missed (enforcer : DdsQosEnforcer) (index : Fin maxQosProfiles) : DdsQosEnforcer :=
  enforcer.store index { enforcer.deadlines index with
    violationCount := (enforcer.deadlines index).violationCount + 1 }

/-- A look at the deadlines counts at most one miss. -/
theorem checkDeadlines_cases (enforcer : DdsQosEnforcer) (nowMs : Nat) :
    (enforcer.checkDeadlines nowMs).2 = enforcer ∨
      ∃ index, (enforcer.checkDeadlines nowMs).2 = enforcer.missed index := by
  unfold checkDeadlines
  cases enforcer.initialised with
  | false => exact .inl rfl
  | true =>
      cases (List.finRange maxQosProfiles).findSome? (enforcer.violation? nowMs) with
      | none => exact .inl rfl
      | some found => exact .inr ⟨found.1, rfl⟩

@[simp] theorem store_profiles (index : Fin maxQosProfiles) (deadline : DeadlineState) :
    (enforcer.store index deadline).profiles = enforcer.profiles := rfl

theorem store_same (index : Fin maxQosProfiles) (deadline : DeadlineState) :
    (enforcer.store index deadline).deadlines index = deadline :=
  Function.update_self _ _ _

theorem store_other {other : Fin maxQosProfiles} (differs : other ≠ index)
    (deadline : DeadlineState) :
    (enforcer.store index deadline).deadlines other = enforcer.deadlines other :=
  Function.update_of_ne differs _ _

/-- A write that keeps a field at its index keeps it everywhere. -/
theorem store_field {Field : Type} (field : DeadlineState → Field) {deadline : DeadlineState}
    (kept : field deadline = field (enforcer.deadlines index)) (other : Fin maxQosProfiles) :
    field ((enforcer.store index deadline).deadlines other) = field (enforcer.deadlines other) := by
  by_cases same : other = index
  · rw [same, store_same, kept]
  · rw [store_other same]

theorem missed_lastSampleMs (index other : Fin maxQosProfiles) :
    ((enforcer.missed index).deadlines other).lastSampleMs =
      (enforcer.deadlines other).lastSampleMs :=
  store_field DeadlineState.lastSampleMs (by rfl) other

/-- A write into one deadline that moves its clock as the history says. -/
theorem Mirrors.store (mirrors : enforcer.Mirrors trace) {deadline : DeadlineState}
    {entry : QosCall × QosReply} (unregistered : registration? entry = none)
    (active : deadline.active = (enforcer.deadlines index).active)
    (topic : deadline.topicId = (enforcer.deadlines index).topicId)
    (sign : ∀ other profile, enforcer.profiles[other.val]? = some profile →
      lastSign profile.topicId (trace ++ [entry]) =
        some ((enforcer.store index deadline).deadlines other).lastSampleMs) :
    (enforcer.store index deadline).Mirrors (trace ++ [entry]) where
  registered := by
    rw [registered_concat, unregistered, store_profiles, mirrors.registered]
    exact (List.append_nil _).symm
  fresh := mirrors.fresh
  bounded := mirrors.bounded
  distinct := mirrors.distinct
  active_iff other := by
    rw [store_field DeadlineState.active active]
    exact mirrors.active_iff other
  topic other profile held := by
    rw [store_field DeadlineState.topicId topic]
    exact mirrors.topic other profile held
  sign := sign

theorem Mirrors.init (mirrors : enforcer.Mirrors trace) (nowMs : Nat) :
    (enforcer.init nowMs).2.Mirrors
      (trace ++ [(.init nowMs, (enforcer.step (.init nowMs)).1)]) := by
  cases started : enforcer.initialised with
  | true =>
      have unchanged : (enforcer.init nowMs).2 = enforcer := by simp [DdsQosEnforcer.init, started]
      rw [unchanged]
      exact mirrors.silent ⟨rfl, fun _ => rfl⟩
  | false =>
      have none_registered : Dds.registered trace = [] :=
        mirrors.registered.symm.trans (mirrors.fresh started)
      simp only [DdsQosEnforcer.init, started, Bool.false_eq_true, ↓reduceIte]
      constructor
      · rw [registered_concat, none_registered]
        rfl
      · exact fun _ => rfl
      · exact Nat.zero_le _
      · exact List.nodup_nil
      · intro index
        simp
      · intro index profile held
        cases held
      · intro index profile held
        cases held

section Opened

variable {nowMs : Nat} {room : enforcer.profiles.length < maxQosProfiles}

@[simp] theorem opened_profiles :
    (enforcer.opened profile nowMs room).profiles = enforcer.profiles ++ [profile] := rfl

theorem opened_at :
    (enforcer.opened profile nowMs room).deadlines ⟨enforcer.profiles.length, room⟩ =
      { topicId := profile.topicId, lastSampleMs := nowMs, violationCount := 0, active := true } :=
  store_same _ _

theorem opened_elsewhere (other : index.val ≠ enforcer.profiles.length) :
    (enforcer.opened profile nowMs room).deadlines index = enforcer.deadlines index :=
  store_other (fun same => other (congrArg Fin.val same)) _

/-- The profile found at an index is the added one or an earlier one. -/
theorem opened_holds {held : DdsQosProfile}
    (found : (enforcer.opened profile nowMs room).profiles[index.val]? = some held) :
    (index = ⟨enforcer.profiles.length, room⟩ ∧ held = profile) ∨
      (index.val ≠ enforcer.profiles.length ∧ enforcer.profiles[index.val]? = some held) := by
  rw [opened_profiles] at found
  by_cases last : index.val = enforcer.profiles.length
  · rw [last, List.getElem?_concat_length] at found
    exact .inl ⟨Fin.ext last, (Option.some.inj found).symm⟩
  · by_cases earlier : index.val < enforcer.profiles.length
    · rw [List.getElem?_append_left earlier] at found
      exact .inr ⟨last, found⟩
    · have beyond : (enforcer.profiles ++ [profile]).length ≤ index.val := by
        rw [List.length_append, List.length_singleton]
        omega
      rw [List.getElem?_eq_none beyond] at found
      cases found

end Opened

theorem Mirrors.opened (mirrors : enforcer.Mirrors trace) {nowMs : Nat}
    (room : enforcer.profiles.length < maxQosProfiles)
    (unknown : enforcer.findProfile profile.topicId = none) (started : enforcer.initialised = true)
    {entry : QosCall × QosReply} (adds : registration? entry = some profile)
    (signs : ∀ topicId, sign? topicId entry =
      if profile.topicId = topicId then some nowMs else none) :
    (enforcer.opened profile nowMs room).Mirrors (trace ++ [entry]) := by
  have fresh_topic : ∀ held ∈ enforcer.profiles, held.topicId ≠ profile.topicId := by
    intro held member same
    exact List.find?_eq_none.1 unknown held member (beq_iff_eq.2 same)
  constructor
  · rw [registered_concat, adds, ← mirrors.registered]
    rfl
  · intro unstarted
    rw [show enforcer.initialised = false from unstarted] at started
    cases started
  · rw [opened_profiles, List.length_append]
    exact room
  · rw [opened_profiles, List.map_append, List.nodup_append]
    refine ⟨mirrors.distinct, List.nodup_singleton _, ?_⟩
    intro earlier listed added last same
    obtain ⟨held, member, rfl⟩ := List.mem_map.1 listed
    exact fresh_topic held member (same.trans (List.mem_singleton.1 last))
  · intro index
    rw [opened_profiles, List.length_append, List.length_singleton, Nat.lt_succ_iff_lt_or_eq]
    by_cases last : index.val = enforcer.profiles.length
    · have place : index = ⟨enforcer.profiles.length, room⟩ := Fin.ext last
      rw [place, opened_at]
      exact iff_of_true rfl (.inr rfl)
    · rw [opened_elsewhere last, mirrors.active_iff]
      exact (or_iff_left last).symm
  · intro index held found
    rcases opened_holds found with ⟨rfl, rfl⟩ | ⟨elsewhere, before⟩
    · rw [opened_at]
    · rw [opened_elsewhere elsewhere]
      exact mirrors.topic index held before
  · intro index held found
    rw [lastSign_concat, signs]
    rcases opened_holds found with ⟨rfl, rfl⟩ | ⟨elsewhere, before⟩
    · rw [opened_at, if_pos rfl]
      rfl
    · have other := fresh_topic held (List.mem_of_getElem? before)
      rw [opened_elsewhere elsewhere, if_neg (Ne.symm other)]
      exact mirrors.sign index held before

theorem Mirrors.registerProfile (mirrors : enforcer.Mirrors trace) (profile : DdsQosProfile)
    (nowMs : Nat) :
    (enforcer.step (.registerProfile profile nowMs)).2.Mirrors
      (trace ++ [(.registerProfile profile nowMs,
        (enforcer.step (.registerProfile profile nowMs)).1)]) := by
  rcases enforcer.registerProfile_cases profile nowMs with
    ⟨code, refused⟩ | ⟨room, started, unknown, accepted⟩
  · simp only [step, refused]
    exact mirrors.silent (silent_of_error rfl)
  · simp only [step, accepted]
    refine mirrors.opened room unknown started rfl ?_
    intro topicId
    simp [sign?]

theorem Mirrors.validateSample (mirrors : enforcer.Mirrors trace) (topicId : BitVec 32)
    (sampleLen : BitVec 16) (nowMs : Nat) :
    (enforcer.step (.validateSample topicId sampleLen nowMs)).2.Mirrors
      (trace ++ [(.validateSample topicId sampleLen nowMs,
        (enforcer.step (.validateSample topicId sampleLen nowMs)).1)]) := by
  rcases enforcer.validateSample_cases topicId sampleLen nowMs with
    ⟨code, refused⟩ | ⟨profile, found, -, accepted⟩
  · simp only [step, refused]
    exact mirrors.silent (silent_of_error rfl)
  · obtain ⟨index, held, same⟩ := mirrors.findProfile_some found
    -- The index of the profile is the index of its deadline.
    have tracked : enforcer.findDeadlineIndex topicId = some index :=
      mirrors.findDeadlineIndex_iff.2 ⟨profile, held, same⟩
    simp only [step, accepted, tracked]
    refine mirrors.store rfl rfl rfl ?_
    intro other profile' held'
    rw [lastSign_concat]
    by_cases sampled : profile'.topicId = topicId
    · have here := mirrors.same_index held' held (sampled.trans same.symm)
      rw [here, store_same]
      simp [sign?, sampled]
    · have elsewhere : other ≠ index := by
        rintro rfl
        rw [held] at held'
        cases held'
        exact sampled same
      rw [store_other elsewhere]
      simpa [sign?, Ne.symm sampled] using
        mirrors.sign other profile' held'

theorem Mirrors.checkDeadlines (mirrors : enforcer.Mirrors trace) (nowMs : Nat) :
    (enforcer.checkDeadlines nowMs).2.Mirrors
      (trace ++ [(.checkDeadlines nowMs, (enforcer.checkDeadlines nowMs).1)]) := by
  rcases enforcer.checkDeadlines_cases nowMs with unchanged | ⟨index, counted⟩
  · rw [unchanged]
    exact mirrors.silent ⟨rfl, fun _ => rfl⟩
  · rw [counted]
    refine mirrors.store rfl rfl rfl ?_
    intro other profile held
    rw [lastSign_concat]
    refine (mirrors.sign other profile held).trans (congrArg some ?_)
    exact (missed_lastSampleMs index other).symm

theorem step_mirrors (mirrors : enforcer.Mirrors trace) (call : QosCall) :
    (enforcer.step call).2.Mirrors (trace ++ [(call, (enforcer.step call).1)]) := by
  cases call with
  | init nowMs => exact mirrors.init nowMs
  | registerProfile profile nowMs => exact mirrors.registerProfile profile nowMs
  | validateSample topicId sampleLen nowMs =>
      exact mirrors.validateSample topicId sampleLen nowMs
  | checkDeadlines nowMs => exact mirrors.checkDeadlines nowMs

theorem construct_mirrors : construct.Mirrors [] where
  registered := rfl
  fresh _ := rfl
  bounded := Nat.zero_le _
  distinct := List.nodup_nil
  active_iff index := by simp [construct]
  topic index profile held := by cases held
  sign index profile held := by cases held

theorem run_mirrors (calls : List QosCall) :
    (machine.run construct calls).Mirrors (machine.trace construct calls) := by
  induction calls using List.reverseRecOn with
  | nil => exact construct_mirrors
  | append_singleton calls call ih =>
      rw [machine.run_concat, machine.trace_concat]
      exact step_mirrors ih call

end DdsQosEnforcer

end SoaGateway.Dds
