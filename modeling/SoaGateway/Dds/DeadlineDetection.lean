import SoaGateway.Dds.DeadlineMisses
import SoaGateway.Foundation.Clock

/-! What a look at the deadlines reports, against the whole history of accepted calls: under
a clock that never goes back it reports the first registered topic without a recent sign of
life, and refused calls count for nothing. -/

set_option autoImplicit false

namespace SoaGateway.Dds

open Foundation

def QosCall.readings : QosCall → List Nat
  | .init nowMs => [nowMs]
  | .registerProfile _ nowMs => [nowMs]
  | .validateSample _ _ nowMs => [nowMs]
  | .checkDeadlines nowMs => [nowMs]

/-- The deadline of the profile is finite, and no accepted registration or sample of its topic
is recent enough to keep it. -/
def DdsQosProfile.Missed (profile : DdsQosProfile) (trace : QosTrace) (nowMs : Nat) : Prop :=
  profile.deadlineMs ≠ deadlineInfiniteMs ∧
    ∀ entry ∈ trace, ∀ atMs, sign? profile.topicId entry = some atMs →
      atMs + profile.deadlineMs.toNat < nowMs

/-- The profile registered first among those that missed their deadline. -/
def EarliestMissed (trace : QosTrace) (nowMs : Nat) (profile : DdsQosProfile) : Prop :=
  ∃ before after, registered trace = before ++ profile :: after ∧ profile.Missed trace nowMs ∧
    ∀ earlier ∈ before, ¬ earlier.Missed trace nowMs

/-- The answer of a look at the deadlines names the first missed one, or finds none. -/
structure Detects (trace : QosTrace) (nowMs : Nat) (reply : QosReply) : Prop where
  timeout_iff : reply.result = .error .timeout ↔
    ∃ profile ∈ registered trace, profile.Missed trace nowMs
  earliest : reply.result = .error .timeout →
    ∃ profile, EarliestMissed trace nowMs profile ∧ reply.outTopicId = some profile.topicId
  otherwise : reply.result ≠ .error .timeout →
    reply = { result := .ok (), outTopicId := some invalidTopicId }

/-- A registration of a known topic or beyond the last slot, and a sample of an unknown topic or
of a length out of range. -/
def Rejected (trace : QosTrace) : QosCall → Prop
  | .registerProfile profile _ =>
      (∃ known ∈ registered trace, known.topicId = profile.topicId) ∨
        (registered trace).length = maxQosProfiles
  | .validateSample topicId sampleLen _ =>
      (∀ known ∈ registered trace, known.topicId ≠ topicId) ∨
        sampleLen = 0 ∨ maxPayloadBytes < sampleLen.toNat
  | _ => False

theorem sign?_reads (topicId : BitVec 32) (entry : QosCall × QosReply) (reading : Nat)
    (signed : sign? topicId entry = some reading) : reading ∈ entry.1.readings := by
  rcases entry with ⟨call, reply⟩
  cases call with
  | init nowMs => cases signed
  | registerProfile profile nowMs =>
      simp only [sign?, Option.ite_none_right_eq_some, Option.some.injEq] at signed
      exact List.mem_singleton.2 signed.2.symm
  | validateSample sampled sampleLen nowMs =>
      simp only [sign?, Option.ite_none_right_eq_some, Option.some.injEq] at signed
      exact List.mem_singleton.2 signed.2.symm
  | checkDeadlines nowMs => cases signed

namespace DdsQosEnforcer

variable {enforcer : DdsQosEnforcer} {trace : QosTrace} {profile : DdsQosProfile} {nowMs : Nat}

/-- Under an ordered clock the last sign of a registered topic stands for all of them. -/
theorem Mirrors.late_iff_missed (mirrors : enforcer.Mirrors trace)
    (ordered : Ordered (fun entry => entry.1.readings) trace)
    (member : profile ∈ Dds.registered trace) :
    profile.Late trace nowMs ↔ profile.Missed trace nowMs := by
  rw [← mirrors.registered] at member
  obtain ⟨index, held⟩ := mirrors.index_of_mem member
  have last := mirrors.sign index profile held
  constructor
  · intro late
    obtain ⟨finite, lastMs, found, aged⟩ := late
    refine ⟨finite, fun entry listed atMs signed => ?_⟩
    have recent := picks_le_latest (sign?_reads profile.topicId) ordered found entry listed
      atMs signed
    omega
  · intro missed
    obtain ⟨finite, aged⟩ := missed
    obtain ⟨entry, listed, signed⟩ := picked_of_latest last
    exact ⟨finite, _, last, aged entry listed _ signed⟩

/-- An index found by the scan comes after every smaller one. -/
theorem mem_of_lt {before after : List (Fin maxQosProfiles)} {index other : Fin maxQosProfiles}
    (split : List.finRange maxQosProfiles = before ++ index :: after) (smaller : other < index) :
    other ∈ before := by
  have sorted := List.pairwise_lt_finRange maxQosProfiles
  have listed := List.mem_finRange other
  rw [split] at sorted listed
  rcases List.mem_append.1 listed with earlier | later
  · exact earlier
  · have bound := (List.pairwise_cons.1 (List.pairwise_append.1 sorted).2.1).1
    rcases List.mem_cons.1 later with same | beyond
    · exact absurd smaller (same ▸ Nat.lt_irrefl _)
    · exact absurd (bound other beyond) (Nat.lt_asymm smaller)

/-- The profile at which the scan stops has only punctual ones before it. -/
theorem Mirrors.scan_stops (mirrors : enforcer.Mirrors trace)
    {index : Fin maxQosProfiles}
    (scan : (List.finRange maxQosProfiles).findSome? (enforcer.violation? nowMs) =
      some (index, profile)) :
    ∃ before after, Dds.registered trace = before ++ profile :: after ∧
      profile.Late trace nowMs ∧ ∀ earlier ∈ before, ¬ earlier.Late trace nowMs := by
  obtain ⟨front, place, back, split, stops, passed⟩ := List.findSome?_eq_some_iff.1 scan
  obtain ⟨held, found, late, same⟩ := (mirrors.violation?_iff _).1 stops
  cases same
  obtain ⟨inside, holds⟩ := List.getElem?_eq_some_iff.1 found
  refine ⟨enforcer.profiles.take index.val, enforcer.profiles.drop (index.val + 1), ?_, late, ?_⟩
  · rw [← mirrors.registered, ← holds, List.getElem_cons_drop, List.take_append_drop]
  · intro earlier listed overdue
    obtain ⟨position, bound, here⟩ := List.mem_take_iff_getElem.1 listed
    have smaller : position < index.val := by omega
    let other : Fin maxQosProfiles := ⟨position, smaller.trans index.isLt⟩
    have met : enforcer.violation? nowMs other = some (other, earlier) :=
      (mirrors.violation?_iff _).2
        ⟨earlier, List.getElem?_eq_some_iff.2 ⟨_, here⟩, overdue, rfl⟩
    rw [passed other (mem_of_lt split smaller)] at met
    cases met

theorem Mirrors.detects (mirrors : enforcer.Mirrors trace) (started : enforcer.initialised = true)
    (ordered : Ordered (fun entry => entry.1.readings) trace) (nowMs : Nat) :
    Detects trace nowMs (enforcer.checkDeadlines nowMs).1 := by
  have missed_iff : ∀ profile ∈ Dds.registered trace,
      (profile.Late trace nowMs ↔ profile.Missed trace nowMs) :=
    fun _ member => mirrors.late_iff_missed ordered member
  unfold DdsQosEnforcer.checkDeadlines
  rw [started]
  cases scan : (List.finRange maxQosProfiles).findSome? (enforcer.violation? nowMs) with
  | none =>
      have punctual : ¬ ∃ profile ∈ Dds.registered trace, profile.Missed trace nowMs := by
        intro overdue
        obtain ⟨profile, member, missed⟩ := overdue
        have late := (missed_iff profile member).2 missed
        exact mirrors.scan_passes scan profile member late
      refine ⟨iff_of_false ?_ punctual, ?_, fun _ => rfl⟩
      · intro reported
        cases reported
      · intro reported
        cases reported
  | some found =>
      obtain ⟨before, after, split, late, passed⟩ := mirrors.scan_stops scan
      have member : ∀ other ∈ before ++ [found.2], other ∈ Dds.registered trace := by
        intro other listed
        rw [split, List.append_cons]
        exact List.mem_append_left after listed
      have here := member found.2 List.mem_concat_self
      have missed := (missed_iff found.2 here).1 late
      refine ⟨iff_of_true rfl ⟨found.2, here, missed⟩, fun _ => ⟨found.2, ?_, rfl⟩, ?_⟩
      · refine ⟨before, after, split, missed, fun earlier listed overdue => ?_⟩
        exact passed earlier listed
          ((missed_iff earlier (member earlier (List.mem_append_left _ listed))).2 overdue)
      · exact fun other => absurd rfl other

/-- A rejected call is answered with an error and leaves the enforcer as it is. -/
theorem Mirrors.rejects (mirrors : enforcer.Mirrors trace) {call : QosCall}
    (rejected : Rejected trace call) :
    ∃ code, enforcer.step call = ({ result := .error code, outTopicId := none }, enforcer) := by
  cases call with
  | init nowMs => exact rejected.elim
  | checkDeadlines nowMs => exact rejected.elim
  | registerProfile profile nowMs =>
      rcases enforcer.registerProfile_cases profile nowMs with
        ⟨code, refused⟩ | ⟨room, started, unknown, accepted⟩
      · exact ⟨code, by simp only [step, refused]⟩
      · rcases rejected with ⟨known, member, same⟩ | full
        · rw [← mirrors.registered] at member
          exact absurd (beq_iff_eq.2 same) (List.find?_eq_none.1 unknown known member)
        · rw [← mirrors.registered] at full
          exact absurd full room.ne
  | validateSample topicId sampleLen nowMs =>
      rcases enforcer.validateSample_cases topicId sampleLen nowMs with
        ⟨code, refused⟩ | ⟨profile, found, sized, accepted⟩
      · exact ⟨code, by simp only [step, refused]⟩
      · rcases rejected with unknown | malformed
        · obtain ⟨index, held, same⟩ := mirrors.findProfile_some found
          exact absurd same (unknown profile (mirrors.registered_of_held held))
        · exact absurd malformed sized

theorem step_initialised (started : enforcer.initialised = true) (call : QosCall) :
    (enforcer.step call).2.initialised = true := by
  cases call with
  | init nowMs => simp [step, DdsQosEnforcer.init, started]
  | registerProfile profile nowMs =>
      rcases enforcer.registerProfile_cases profile nowMs with
        ⟨code, refused⟩ | ⟨room, -, unknown, accepted⟩
      · simpa only [step, refused] using started
      · simp only [step, accepted]
        exact started
  | validateSample topicId sampleLen nowMs =>
      rcases enforcer.validateSample_cases topicId sampleLen nowMs with
        ⟨code, refused⟩ | ⟨profile, found, sized, accepted⟩
      · simpa only [step, refused] using started
      · simp only [step, accepted]
        cases enforcer.findDeadlineIndex topicId with
        | none => exact started
        | some index => exact started
  | checkDeadlines nowMs =>
      rcases enforcer.checkDeadlines_cases nowMs with unchanged | ⟨index, counted⟩
      · exact (congrArg initialised unchanged).trans started
      · exact (congrArg initialised counted).trans started

theorem run_initialised (initMs : Nat) (calls : List QosCall) :
    (machine.run construct (.init initMs :: calls)).initialised = true := by
  induction calls using List.reverseRecOn with
  | nil => rfl
  | append_singleton calls call ih =>
      rw [← List.cons_append, machine.run_concat]
      exact step_initialised ih call

/-- Under a clock that never goes back, each look at the deadlines is exact, and rejected calls
change nothing. -/
theorem deadlines_detected (initMs : Nat) (calls : List QosCall) (nowMs : Nat)
    (ordered : Ordered QosCall.readings ((.init initMs :: calls) ++ [.checkDeadlines nowMs])) :
    Detects (machine.trace construct (.init initMs :: calls)) nowMs
        ((machine.run construct (.init initMs :: calls)).checkDeadlines nowMs).1 ∧
      ∀ call, Rejected (machine.trace construct (.init initMs :: calls)) call →
        ∃ code, (machine.run construct (.init initMs :: calls)).step call =
          ({ result := .error code, outTopicId := none },
            machine.run construct (.init initMs :: calls)) := by
  have mirrors := run_mirrors (.init initMs :: calls)
  have earlier := (ordered_trace_iff machine QosCall.readings construct _).2 ordered.earlier
  exact ⟨mirrors.detects (run_initialised initMs calls) earlier nowMs,
    fun call rejected => mirrors.rejects rejected⟩

def oneTopicSampled : List QosCall :=
  [.registerProfile (periodicProfile 1) 0, .registerProfile (periodicProfile 2) 0,
    .validateSample 1 8 95, .validateSample 2 0 99]

/-- The empty sample of the second topic does not keep it from being reported. -/
theorem empty_sample_is_no_sign :
    (∃ profile,
      EarliestMissed (machine.trace construct (.init 0 :: oneTopicSampled)) 100 profile ∧
        ((machine.run construct (.init 0 :: oneTopicSampled)).checkDeadlines 100).1.outTopicId =
          some profile.topicId) ∧
      ∃ code, (machine.run construct (.init 0 :: oneTopicSampled)).step (.validateSample 2 0 99) =
        ({ result := .error code, outTopicId := none },
          machine.run construct (.init 0 :: oneTopicSampled)) := by
  have exactly := deadlines_detected 0 oneTopicSampled 100
    (show List.Pairwise (· ≤ ·) [0, 0, 0, 95, 99, 100] by decide)
  exact ⟨exactly.1.earliest rfl, exactly.2 (.validateSample 2 0 99) (.inr (.inl rfl))⟩

end DdsQosEnforcer

end SoaGateway.Dds
