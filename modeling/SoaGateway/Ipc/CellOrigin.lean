import SoaGateway.Ipc.LinkProperties

/-! Which send every cell of the ring comes from, read or unread, and what the E2E check
says to a consumer that looks at the wrong cell or at the wrong moment. -/

set_option autoImplicit false

namespace SoaGateway.Ipc

open Foundation

namespace Link

/-- How many slots have been written whole, counting one that is not published yet. -/
def written (link : Link) : Nat :=
  match link.producer with
  | .idle => link.accepted.length
  | .writing event _ done =>
      if done < (IpcBridge.slotStores link.bridge.seqCounter event).length then
        link.accepted.length
      else link.accepted.length + 1
  | .written _ _ => link.accepted.length + 1

/-- The stores done to a cell that is half written; none for the other cells. -/
def begun (link : Link) (place : Nat) : List (IpcSlot → IpcSlot) :=
  match link.producer with
  | .writing event head done =>
      let stores := IpcBridge.slotStores link.bridge.seqCounter event
      if place = head ∧ done < stores.length then stores.take done else []
  | _ => []

/-- A slot is the latest whole send of its residue, or it is as `Init` left it. -/
def Latest (written place : Nat) (slot : IpcSlot) : Prop :=
  (∃ event count, count % ipcRingSlots = place ∧ count < written ∧
    written ≤ count + ipcRingSlots ∧ slot.Carries event count) ∨
  written ≤ place ∧ slot = IpcBridge.zeroSlot

structure Origin (link : Link) (ring : IpcRingBuffer) : Prop where
  head : ring.head = link.accepted.length % ipcRingSlots
  tail : ring.tail = link.released % ipcRingSlots
  cell : ∀ place < ipcRingSlots, ∃ before, Latest link.written place before ∧
    ring.slots place = IpcBridge.stored (link.begun place) before

variable {link : Link} {ring : IpcRingBuffer} {history : List IpcSlot}

theorem slotStores_length_pos (seqCounter : Byte) (event : SoaEvent) :
    0 < (IpcBridge.slotStores seqCounter event).length := by
  rw [IpcBridge.slotStores, List.length_append]
  exact Nat.lt_of_lt_of_le (by decide : 0 < 6) (Nat.le_add_left _ _)

/-- One more send leaves the cells of the other residues the latest. -/
theorem Latest.grow {count place : Nat} {slot : IpcSlot} (latest : Latest count place slot)
    (inside : place < ipcRingSlots) (apart : place ≠ count % ipcRingSlots) :
    Latest (count + 1) place slot := by
  simp only [Latest, ipcRingSlots] at *
  obtain ⟨event, earlier, residue, below, kept, carries⟩ | ⟨beyond, blank⟩ := latest
  · exact .inl ⟨event, earlier, residue, by omega, by omega, carries⟩
  · exact .inr ⟨by omega, blank⟩

theorem Origin.sendCheck (origin : link.Origin ring) (event : SoaEvent) :
    (link.step (.sendCheck event)).2.Origin ring := by
  cases phase : link.producer with
  | writing current head done => simpa [step, produce, phase] using origin
  | written current head => simpa [step, produce, phase] using origin
  | idle =>
      cases checked : link.bridge.sendCheck event with
      | error code => simpa [step, produce, phase, checked] using origin
      | ok head =>
          have positive := slotStores_length_pos link.bridge.seqCounter event
          have cell := origin.cell
          simp only [written, begun, phase] at cell
          simp only [step, produce, phase, checked]
          refine ⟨origin.head, origin.tail, ?_⟩
          simpa only [written, begun, positive, ↓reduceIte, List.take_zero, ite_self] using cell

/-- A store to the slot adds to what is begun; the last one replaces the oldest cell, or the
first one still blank. -/
theorem Origin.sendWrite (origin : link.Origin ring) (coherent : link.Coherent ring history) :
    ∃ after, (link.step .sendWrite).2.bridge.ring = some after ∧
      (link.step .sendWrite).2.Origin after := by
  cases phase : link.producer with
  | idle => exact ⟨ring, by simpa [step, produce, phase] using coherent.attached,
      by simpa [step, produce, phase] using origin⟩
  | written current head => exact ⟨ring, by simpa [step, produce, phase] using coherent.attached,
      by simpa [step, produce, phase] using origin⟩
  | writing event head done =>
      obtain ⟨rfl, -, counter, -⟩ := coherent.writing phase
      have cell := origin.cell
      simp only [Link.written, begun, phase] at cell
      cases next : (IpcBridge.slotStores link.bridge.seqCounter event)[done]? with
      | none =>
          have whole := List.getElem?_eq_none_iff.1 next
          simp only [Nat.not_lt.2 whole, ↓reduceIte, and_false] at cell
          simp only [step, produce, phase, next]
          exact ⟨ring, coherent.attached, origin.head, origin.tail, cell⟩
      | some store =>
          have inside := (List.getElem?_eq_some_iff.1 next).1
          simp only [inside, ↓reduceIte, and_true] at cell
          simp only [step, produce, phase, next, IpcBridge.storeSlot, coherent.attached,
            Option.map_some]
          refine ⟨_, rfl, origin.head, origin.tail, fun place bound => ?_⟩
          obtain ⟨before, latest, same⟩ := cell place bound
          simp only [Link.written, begun]
          rcases eq_or_ne place ring.head with rfl | apart
          · have grown := IpcBridge.stored_take_succ next before
            simp only [↓reduceIte] at same
            rw [← same] at grown
            simp only [Function.update_self, true_and]
            split
            · exact ⟨before, latest, grown.symm⟩
            · next last =>
                refine ⟨_, .inl ⟨event, link.accepted.length, origin.head.symm, by omega,
                  by omega, ?_⟩, rfl⟩
                rw [List.take_of_length_le (Nat.not_lt.1 last), IpcBridge.stored_slotStores,
                  counter] at grown
                rw [← grown]
                exact IpcBridge.populated_carries _ _ _
          · simp only [apart, ↓reduceIte, false_and] at same ⊢
            refine ⟨before, ?_, by rw [Function.update_of_ne apart, same]⟩
            split
            · exact latest
            · exact latest.grow bound (origin.head ▸ apart)

theorem Origin.sendStore (origin : link.Origin ring) (coherent : link.Coherent ring history) :
    ∃ after, (link.step .sendStore).2.bridge.ring = some after ∧
      (link.step .sendStore).2.Origin after := by
  cases phase : link.producer with
  | idle => exact ⟨ring, by simpa [step, produce, phase] using coherent.attached,
      by simpa [step, produce, phase] using origin⟩
  | writing event head done => exact ⟨ring, by simpa [step, produce, phase] using coherent.attached,
      by simpa [step, produce, phase] using origin⟩
  | written event head =>
      obtain ⟨rfl, -⟩ := coherent.written phase
      have cell := origin.cell
      simp only [Link.written, begun, phase] at cell
      simp only [step, produce, phase, IpcBridge.storeHead, coherent.attached, Option.map_some]
      refine ⟨_, rfl, ?_, origin.tail, ?_⟩
      · rw [IpcBridge.nextHead_eq_next, Ring.next, origin.head, Nat.mod_add_mod, List.length_append]
        rfl
      · simpa [Link.written, begun] using cell

theorem Origin.consumerRead (origin : link.Origin ring) (coherent : link.Coherent ring history) :
    (link.step .consumerRead).2.Origin ring := by
  simp only [step, consume, coherent.attached]
  split
  · exact origin
  · next free =>
      have idle : link.reading = false := Bool.eq_false_iff.2 fun busy => free (.inl busy)
      have tail := origin.tail
      simp only [released, idle, Bool.false_eq_true, ↓reduceIte] at tail
      refine ⟨origin.head, ?_, origin.cell⟩
      simpa [released] using tail

theorem Origin.consumerRelease (origin : link.Origin ring)
    (coherent : link.Coherent ring history) :
    ∃ after, (link.step .consumerRelease).2.bridge.ring = some after ∧
      (link.step .consumerRelease).2.Origin after := by
  cases reading : link.reading with
  | false => exact ⟨ring, by simpa [step, consume, reading] using coherent.attached,
      by simpa [step, consume, reading] using origin⟩
  | true =>
      have positive := List.length_pos_iff.2 (coherent.reading reading)
      have tail := origin.tail
      simp only [released, reading, ↓reduceIte] at tail
      simp only [step, consume, reading, ↓reduceIte, coherent.attached, Option.map_some]
      refine ⟨_, rfl, origin.head, ?_, origin.cell⟩
      simp only [released, Bool.false_eq_true, ↓reduceIte, tail, Nat.mod_add_mod]
      rw [Nat.sub_add_cancel positive]

theorem run_origin (sramBase : IpcRingBuffer) (actions : List LinkAction) :
    ∃ ring history, (machine.run (start sramBase) actions).Coherent ring history ∧
      (machine.run (start sramBase) actions).Origin ring := by
  let sound := fun link : Link =>
    ∃ ring history, link.Coherent ring history ∧ link.Origin ring
  have initial : sound (start sramBase) := by
    obtain ⟨ring, coherent⟩ := start_coherent sramBase
    have same := Option.some.inj (coherent.attached.symm.trans rfl)
    refine ⟨ring, [], coherent, ?_⟩
    rw [same]
    exact ⟨rfl, rfl, fun place inside => ⟨_, .inr ⟨Nat.zero_le _, rfl⟩, rfl⟩⟩
  have preserved : ∀ current action, sound current → sound (machine.step current action).2 := by
    intro current action reached
    obtain ⟨ring, history, coherent, origin⟩ := reached
    obtain ⟨after, extended, kept⟩ := coherent.step action
    have traced : ∃ same, (current.step action).2.bridge.ring = some same ∧
        (current.step action).2.Origin same := by
      cases action with
      | sendCheck event => exact ⟨ring, (coherent.sendCheck event).attached, origin.sendCheck event⟩
      | sendWrite => exact origin.sendWrite coherent
      | sendStore => exact origin.sendStore coherent
      | consumerRead => exact ⟨ring, coherent.consumerRead.attached, origin.consumerRead coherent⟩
      | consumerRelease => exact origin.consumerRelease coherent
    obtain ⟨same, attached, moved⟩ := traced
    cases kept.attached.symm.trans attached
    exact ⟨after, extended, kept, moved⟩
  exact machine.run_preserves initial preserved actions

/-- A blank cell passes the check under the counter zero. -/
theorem verifyE2e_zeroSlot (expectedCounter : Byte) :
    IpcBridge.verifyE2e IpcBridge.zeroSlot expectedCounter =
      if expectedCounter = 0 then .ok () else .error .sequenceError := by
  have recomputed : computeE2eCrc (some (IpcBridge.zeroSlot.bytes.drop crcOffset)) protectedLen =
      IpcBridge.zeroSlot.e2eHeader.crc := by decide +kernel
  have counter : IpcBridge.zeroSlot.e2eHeader.counter = 0 := rfl
  simp only [IpcBridge.verifyE2e, recomputed, counter, ne_eq, not_true_eq_false, ↓reduceIte,
    ite_not, eq_comm]

/-- A cell that is half written carries the number of its old slot or of its new one. -/
theorem begun_counter (link : Link) (place : Nat) (before : IpcSlot) :
    (IpcBridge.stored (link.begun place) before).e2eHeader.counter = before.e2eHeader.counter ∨
      (IpcBridge.stored (link.begun place) before).e2eHeader.counter = link.bridge.seqCounter := by
  unfold begun
  split
  · next event head done phase =>
      dsimp only
      split
      · exact IpcBridge.stored_counter (List.take_subset done _) before
      · exact .inl rfl
  · exact .inl rfl

theorem count_ne {first second : Nat} (apart : first < second) (near : second < first + 256) :
    BitVec.ofNat 8 first ≠ BitVec.ofNat 8 second := by
  intro equal
  have residues := congrArg BitVec.toNat equal
  simp only [BitVec.toNat_ofNat] at residues
  omega

theorem Latest.check {written released place : Nat} {slot : IpcSlot}
    (latest : Latest written place slot) (inside : place < ipcRingSlots)
    (behind : released ≤ written) (few : written ≤ released + ipcRingSlots) :
    IpcBridge.verifyE2e slot (BitVec.ofNat 8 released) =
      if place = released % ipcRingSlots ∧ released < written ∨ released = 0 ∧ written ≤ place
      then .ok () else .error .sequenceError := by
  have size : ipcRingSlots = 32 := rfl
  rw [size] at inside few ⊢
  obtain ⟨event, count, residue, below, kept, carries⟩ | ⟨beyond, rfl⟩ := latest
  · rw [size] at residue kept
    rcases Nat.lt_trichotomy released count with earlier | rfl | later
    · rw [if_neg (by omega)]
      exact carries.rejected _ (count_ne earlier (by omega))
    · rw [if_pos (.inl ⟨residue.symm, below⟩)]
      exact carries.accepted
    · rw [if_neg (by omega)]
      exact carries.rejected _ (count_ne later (by omega)).symm
  · rw [verifyE2e_zeroSlot]
    rcases Nat.eq_zero_or_pos released with rfl | later
    · exact (if_pos rfl).trans (if_pos (.inr ⟨rfl, beyond⟩)).symm
    · exact (if_neg (count_ne later (by omega)).symm).trans (if_neg (by omega)).symm

theorem Latest.counter {written place : Nat} {slot : IpcSlot} (latest : Latest written place slot) :
    (∃ count, count % ipcRingSlots = place ∧ count < written ∧ written ≤ count + ipcRingSlots ∧
        slot.e2eHeader.counter = BitVec.ofNat 8 count) ∨
      written ≤ place ∧ slot.e2eHeader.counter = 0 := by
  obtain ⟨event, count, residue, below, kept, carries⟩ | ⟨beyond, rfl⟩ := latest
  · exact .inl ⟨count, residue, below, kept, IpcBridge.counter_of_verifyE2e carries.accepted⟩
  · exact .inr ⟨beyond, rfl⟩

/-- A half-written cell is the one at the head, and it carries no number that is waiting. -/
theorem Origin.half_written (origin : link.Origin ring) (coherent : link.Coherent ring history)
    {place : Nat} (half : link.begun place ≠ []) {number : Nat} (later : 0 < number)
    (released : link.released ≤ number) (waiting : number < link.accepted.length) :
    (ring.slots place).e2eHeader.counter ≠ BitVec.ofNat 8 number := by
  unfold begun at half
  split at half
  · next event head done phase =>
      obtain ⟨rfl, inside⟩ : place = head ∧
          done < (IpcBridge.slotStores link.bridge.seqCounter event).length := by
        by_contra other
        exact half (if_neg other)
      obtain ⟨rfl, room, counter, -⟩ := coherent.writing phase
      have count : link.written = link.accepted.length := by
        simp only [Link.written, phase, inside, ↓reduceIte]
      have bound : link.accepted.length - link.released + 1 < 32 := by
        rw [List.length_drop, coherent.numbered] at room
        exact room
      obtain ⟨before, latest, same⟩ := origin.cell ring.head coherent.queue.head_lt
      have residue : ring.head = link.accepted.length % 32 := origin.head
      rw [same]
      rcases link.begun_counter ring.head before with old | new
      · rw [old]
        rcases latest.counter with ⟨earlier, residues, below, kept, number⟩ | ⟨beyond, number⟩
        · rw [number]
          rw [count] at below kept
          simp only [ipcRingSlots] at residues kept
          exact count_ne (by omega) (by omega)
        · rw [number]
          exact count_ne later (by omega)
      · rw [new, counter]
        exact (count_ne waiting (by omega)).symm
  · exact absurd rfl half

/-- At every moment of every interleaving, a consumer that expects the number of the next
slot to release and checks any cell at all is told `Ok` for the tail cell once its slot is
written, for a cell never written while it still expects the first slot, and
`kSequenceError` for every other cell, unless the cell is half written; and that one is
refused too once a slot has been released and another is waiting. -/
theorem check_pins_the_right_cell (sramBase : IpcRingBuffer) (actions : List LinkAction) :
    let link := machine.run (start sramBase) actions
    ∃ ring, link.bridge.ring = some ring ∧ ∀ place < ipcRingSlots,
      (link.begun place = [] →
        IpcBridge.verifyE2e (ring.slots place) (BitVec.ofNat 8 link.released) =
          if place = ring.tail ∧ link.released < link.written ∨
            link.released = 0 ∧ link.written ≤ place
          then .ok () else .error .sequenceError) ∧
      (link.begun place ≠ [] → 0 < link.released → link.released < link.accepted.length →
        IpcBridge.verifyE2e (ring.slots place) (BitVec.ofNat 8 link.released) ≠ .ok ()) := by
  intro link
  obtain ⟨ring, history, coherent, origin⟩ := run_origin sramBase actions
  refine ⟨ring, coherent.attached, fun place inside => ?_⟩
  have behind : link.released ≤ link.accepted.length := by
    have read := coherent.consumed.length_le
    rw [coherent.numbered] at read
    exact Nat.le_trans link.released_le read
  have few := coherent.queue.length_lt
  rw [List.length_drop, coherent.numbered] at few
  have ahead : link.accepted.length ≤ link.written ∧ link.written ≤ link.accepted.length + 1 := by
    unfold Link.written
    split <;> [skip; split; skip] <;> omega
  change (link.accepted.length - link.released) < ipcRingSlots at few
  have tail : ring.tail = link.released % ipcRingSlots := origin.tail
  obtain ⟨before, latest, same⟩ : ∃ before, Latest link.written place before ∧
      ring.slots place = IpcBridge.stored (link.begun place) before := origin.cell place inside
  constructor
  · intro whole
    rw [same, whole, tail]
    exact latest.check inside (by omega) (by omega)
  · intro half later waiting passed
    exact origin.half_written coherent half later (Nat.le_refl _) waiting
      (IpcBridge.counter_of_verifyE2e passed)

end Link

end SoaGateway.Ipc
