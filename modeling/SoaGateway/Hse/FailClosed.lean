import SoaGateway.Hse.Requests

/-! Which answers of the engine the adapter takes for a success. Whatever the registers read, a
stuck engine, a mismatch and an undefined word all end in an error. -/

set_option autoImplicit false

namespace SoaGateway.Hse

section Poll

variable {read : Nat → BitVec 32} {accepts : BitVec 32 → Bool} {remaining : Nat}
  {word : BitVec 32}

/-- A poll takes the first reading it accepts, by induction on the reads that remain. -/
theorem poll_eq_find (index : Nat) : poll read accepts index remaining =
    ((List.range' index remaining).find? fun place => accepts (read place)).map read := by
  induction remaining generalizing index with
  | zero => rfl
  | succ remaining ih =>
      rw [poll, ih, List.range'_succ, List.find?_cons]
      cases accepts (read index) with
      | true => rfl
      | false => rfl

theorem poll_eq_some_iff : poll read accepts 0 remaining = some word ↔
    ∃ place < remaining, (∀ earlier < place, accepts (read earlier) = false) ∧
      accepts (read place) = true ∧ read place = word := by
  rw [poll_eq_find, Option.map_eq_some_iff]
  constructor
  · intro taken
    obtain ⟨place, found, same⟩ := taken
    obtain ⟨accepted, inside, passed⟩ := List.find?_range'_eq_some.1 found
    refine ⟨place, ?_, fun earlier before => ?_, accepted, same⟩
    · rw [List.mem_range'_1, Nat.zero_add] at inside
      exact inside.2
    · simpa using passed earlier (Nat.zero_le _) before
  · intro taken
    obtain ⟨place, inside, passed, accepted, same⟩ := taken
    refine ⟨place, List.find?_range'_eq_some.2 ⟨accepted, ?_, fun earlier _ before => ?_⟩, same⟩
    · rw [List.mem_range'_1, Nat.zero_add]
      exact ⟨Nat.zero_le _, inside⟩
    · rw [passed earlier before, Bool.not_false]

/-- A poll runs out when none of its readings is accepted. -/
theorem poll_eq_none_iff : poll read accepts 0 remaining = none ↔
    ∀ place < remaining, accepts (read place) = false := by
  rw [poll_eq_find, Option.map_eq_none_iff, List.find?_range'_eq_none]
  simp

end Poll

/-- The first reading that is not `kBusy` comes in time, and it is `kOk`. -/
def AnswersOk (receive : Nat → BitVec 32) : Prop :=
  ∃ place < hsePollTimeoutUs, (∀ earlier < place, receive earlier = HseStatus.busy.code) ∧
    receive place ≠ HseStatus.busy.code ∧ receive place = HseStatus.ok.code

/-- One of the first status readings has the ready bit set. -/
def SignalsReady (status : Nat → BitVec 32) : Prop :=
  ∃ place < hsePollTimeoutUs, status place &&& muSrRdy ≠ 0

/-- The arguments of a request pass its checks. -/
def HseRequest.Valid : HseRequest → Prop
  | .generateMac data dataLen _ _ => data ≠ 0 ∧ dataLen ≠ 0
  | .verifyMac data _ _ _ => data ≠ 0
  | .verifyCertificate certDer certLen =>
      certDer ≠ 0 ∧ certLen ≠ 0 ∧ certLen.toNat ≤ hseCertMaxBytes
  | .generateRandom buffer length => buffer ≠ 0 ∧ length ≠ 0 ∧ length.toNat ≤ 64

namespace HseAdapter

variable {adapter : HseAdapter} {request : HseRequest}

def perform (adapter : HseAdapter) (firmware : HseFirmware) (memory : Memory) :
    HseRequest → VoidResult × Memory
  | .generateMac data dataLen keySlot mac =>
      adapter.generateMac firmware memory data dataLen keySlot mac
  | .verifyMac data dataLen keySlot mac =>
      adapter.verifyMac firmware memory data dataLen keySlot mac
  | .verifyCertificate certDer certLen =>
      adapter.verifyCertificate firmware memory certDer certLen
  | .generateRandom buffer length => adapter.generateRandom firmware memory buffer length

/-- The memory an operation submits its request over. -/
def prepared (adapter : HseAdapter) (memory : Memory) : HseRequest → Memory
  | .generateMac _ _ _ mac => memory.store (physAddr mac) (fun _ : Fin hseMacLengthBytes => 0)
  | .verifyMac _ _ _ mac => memory.store (physAddr adapter.rxMacBuf) mac
  | .verifyCertificate _ _ => memory
  | .generateRandom _ _ => memory

/-- What the receive register reads while an operation polls. -/
def receives (adapter : HseAdapter) (firmware : HseFirmware) (memory : Memory)
    (request : HseRequest) : Nat → BitVec 32 :=
  (firmware (muWrites (adapter.descriptor request)) (adapter.prepared memory request)).receive

theorem perform_uninitialised (cold : adapter.initialised = false) (firmware : HseFirmware)
    (memory : Memory) (request : HseRequest) :
    adapter.perform firmware memory request = (.error .notInitialized, memory) := by
  cases request with
  | generateMac data dataLen keySlot mac =>
      simp [perform, generateMac, generateMacRequest, cold]
  | verifyMac data dataLen keySlot mac => simp [perform, verifyMac, verifyMacRequest, cold]
  | verifyCertificate certDer certLen =>
      simp [perform, verifyCertificate, verifyCertificateRequest, cold]
  | generateRandom buffer length => simp [perform, generateRandom, generateRandomRequest, cold]

end HseAdapter

/-- The status is `kOk` only where that word was read: a poll that runs out has another. -/
theorem submitAndPoll_ok_iff (firmware : HseFirmware) (memory : Memory)
    (desc : HseServiceDescriptor) :
    (submitAndPoll firmware memory desc).1 = .ok ↔
      AnswersOk (firmware (muWrites desc) memory).receive := by
  unfold submitAndPoll AnswersOk
  cases polled : poll (firmware (muWrites desc) memory).receive
      (fun rr => rr != HseStatus.busy.code) 0 hsePollTimeoutUs with
  | none =>
      simp only [polled]
      refine iff_of_false (by decide) ?_
      intro answers
      obtain ⟨place, inside, -, answered, -⟩ := answers
      have unmet := poll_eq_none_iff.1 polled place inside
      rw [bne_eq_false_iff_eq] at unmet
      exact answered unmet
  | some rr =>
      obtain ⟨place, inside, passed, answered, same⟩ := poll_eq_some_iff.1 polled
      simp only [bne_eq_false_iff_eq, bne_iff_ne] at passed answered same
      simp only [polled]
      constructor
      · intro ok
        exact ⟨place, inside, passed, answered, same.trans (congrArg HseStatus.code ok)⟩
      · intro answers
        obtain ⟨other, -, before, heard, word⟩ := answers
        -- The first word that is not busy is unique.
        have first : other = place := by
          rcases Nat.lt_trichotomy other place with early | here | late
          · exact absurd (passed other early) heard
          · exact here
          · exact absurd (before place late) answered
        rw [first] at word
        exact congrArg HseStatus.mk (same.symm.trans word)

theorem outcome_ok_iff {status : HseStatus} {code : ErrorCode} :
    (if status ≠ .ok then .error code else .ok () : VoidResult) = .ok () ↔ status = .ok := by
  rw [refusal_passed]
  simp

/-- A status told apart from the other failures is a failure as well. -/
theorem outcome_apart_ok_iff {status apart : HseStatus} (failure : apart ≠ .ok)
    {code code' : ErrorCode} :
    (if status = apart then .error code
      else if status ≠ .ok then .error code' else .ok () : VoidResult) = .ok () ↔
        status = .ok := by
  rw [refusal_passed, outcome_ok_iff]
  constructor
  · exact And.right
  · intro ok
    exact ⟨fun told => failure (told.symm.trans ok), ok⟩

namespace HseAdapter

variable {adapter : HseAdapter} {request : HseRequest}

theorem request_of_valid (warm : adapter.initialised = true) (valid : request.Valid) :
    adapter.request request = .ok (adapter.descriptor request) := by
  have ready : ¬ (!adapter.initialised) = true := by simp [warm]
  cases request with
  | generateMac data dataLen keySlot mac =>
      obtain ⟨given, some_data⟩ := valid
      rw [HseAdapter.request, generateMacRequest, if_neg ready, if_neg given, if_neg some_data]
      rfl
  | verifyMac data dataLen keySlot mac =>
      rw [HseAdapter.request, verifyMacRequest, if_neg ready, if_neg valid]
      rfl
  | verifyCertificate certDer certLen =>
      obtain ⟨given, some_data, bounded⟩ := valid
      rw [HseAdapter.request, verifyCertificateRequest, if_neg ready, if_neg given,
        if_neg (not_or.2 ⟨some_data, Nat.not_lt.2 bounded⟩)]
      rfl
  | generateRandom buffer length =>
      obtain ⟨given, some_data, bounded⟩ := valid
      rw [HseAdapter.request, generateRandomRequest, if_neg ready, if_neg given,
        if_neg (not_or.2 ⟨some_data, Nat.not_lt.2 bounded⟩)]
      rfl

theorem perform_ok_iff (warm : adapter.initialised = true) (valid : request.Valid)
    (firmware : HseFirmware) (memory : Memory) :
    (adapter.perform firmware memory request).1 = .ok () ↔
      AnswersOk (adapter.receives firmware memory request) := by
  have built := request_of_valid warm valid
  rw [receives, ← submitAndPoll_ok_iff]
  cases request with
  | generateMac data dataLen keySlot mac =>
      replace built : adapter.generateMacRequest data dataLen keySlot mac = .ok _ := built
      simp only [perform, generateMac, built]
      exact outcome_ok_iff
  | verifyMac data dataLen keySlot mac =>
      replace built : adapter.verifyMacRequest data dataLen keySlot = .ok _ := built
      simp only [perform, verifyMac, built]
      exact outcome_apart_ok_iff (by decide)
  | verifyCertificate certDer certLen =>
      replace built : adapter.verifyCertificateRequest certDer certLen = .ok _ := built
      simp only [perform, verifyCertificate, built]
      exact outcome_apart_ok_iff (by decide)
  | generateRandom buffer length =>
      replace built : adapter.generateRandomRequest buffer length = .ok _ := built
      simp only [perform, generateRandom, built]
      exact outcome_ok_iff

/-- `Init` either finds the engine ready, or leaves the adapter as it was. -/
theorem init_cases (cold : adapter.initialised = false) (status : Nat → BitVec 32) :
    SignalsReady status ∧ adapter.init status = (.ok (), { adapter with initialised := true }) ∨
      ¬ SignalsReady status ∧ adapter.init status = (.error .timeout, adapter) := by
  unfold init
  rw [cold, if_neg Bool.false_ne_true]
  cases polled : poll status (fun sr => (sr &&& muSrRdy) != 0) 0 hsePollTimeoutUs with
  | some sr =>
      obtain ⟨place, inside, -, ready, -⟩ := poll_eq_some_iff.1 polled
      rw [bne_iff_ne] at ready
      exact .inl ⟨⟨place, inside, ready⟩, rfl⟩
  | none =>
      refine .inr ⟨?_, ?_⟩
      · intro signals
        obtain ⟨place, inside, ready⟩ := signals
        have unmet := poll_eq_none_iff.1 polled place inside
        rw [bne_eq_false_iff_eq] at unmet
        exact ready unmet
      · rw [← cold]

/-- The adapter fails closed. Initialisation succeeds exactly when the engine signals that it is
ready, and otherwise every operation is refused; an operation succeeds exactly when the engine
answers `kOk` in time. -/
theorem fails_closed (adapter : HseAdapter) :
    (adapter.initialised = false → ∀ status : Nat → BitVec 32,
      ((adapter.init status).1 = .ok () ↔ SignalsReady status) ∧
      (¬ SignalsReady status → (adapter.init status).2.initialised = false ∧
        ∀ firmware memory request, (adapter.init status).2.perform firmware memory request =
          (.error .notInitialized, memory))) ∧
    (adapter.initialised = true → ∀ firmware memory request, request.Valid →
      ((adapter.perform firmware memory request).1 = .ok () ↔
        AnswersOk (adapter.receives firmware memory request))) := by
  refine ⟨fun cold status => ?_, fun warm firmware memory request valid =>
    perform_ok_iff warm valid firmware memory⟩
  rcases init_cases cold status with ⟨ready, opened⟩ | ⟨silent, refused⟩
  · rw [opened]
    exact ⟨iff_of_true rfl ready, fun silent => absurd ready silent⟩
  · rw [refused]
    exact ⟨iff_of_false nofun silent, fun _ => ⟨cold, perform_uninitialised cold⟩⟩

def coldAdapter : HseAdapter := { readyAdapter with initialised := false }

/-- An engine that is busy for two readings and then has done its work. -/
def answering : HseFirmware := fun _ memory =>
  { receive := fun index => if index < 2 then HseStatus.busy.code else HseStatus.ok.code, memory }

/-- A silent engine leaves the adapter cold; an answer within the time is taken. -/
theorem silent_engine_authenticates_nothing :
    (∀ firmware memory request, (coldAdapter.init fun _ => 0).2.perform firmware memory request =
      (.error .notInitialized, memory)) ∧
    (readyAdapter.perform answering (fun _ => 0)
      (.verifyMac 0x20001000 64 .secOcSymmetricKey fun _ => 0)).1 = .ok () := by
  obtain ⟨cold, -⟩ := fails_closed coldAdapter
  obtain ⟨-, warm⟩ := fails_closed readyAdapter
  have silent : ¬ SignalsReady fun _ => 0 := fun ⟨_, _, ready⟩ => ready (BitVec.zero_and)
  have given : (HseRequest.verifyMac 0x20001000 64 .secOcSymmetricKey fun _ => 0).Valid :=
    show (0x20001000 : Pointer) ≠ 0 by decide
  refine ⟨((cold rfl fun _ => 0).2 silent).2, (warm rfl answering _ _ given).2 ?_⟩
  refine ⟨2, by decide, fun earlier before => ?_, ?_, ?_⟩
  · exact if_pos before
  · exact show HseStatus.ok.code ≠ HseStatus.busy.code by decide
  · rfl

end HseAdapter

end SoaGateway.Hse
