import SoaGateway.Ipc.BridgeProperties
import SoaGateway.Ipc.Link

/-! The ring is a lossless first-in first-out queue under every interleaving. The
invariant keeps the whole history of published slots; the ring holds the part of it
that the consumer has not released. -/

set_option autoImplicit false

namespace SoaGateway.Ipc

open Foundation

namespace Link

/-- What the producer's local variables say about the ring while `unread` slots are held. -/
def Underway (link : Link) (ring : IpcRingBuffer) (unread : Nat) : Prop :=
  match link.producer with
  | .idle => link.bridge.seqCounter = BitVec.ofNat 8 link.accepted.length
  | .writing event head done =>
      head = ring.head ∧ unread + 1 < ipcRingSlots ∧
        link.bridge.seqCounter = BitVec.ofNat 8 link.accepted.length ∧
        ∃ before, ring.slots head = IpcBridge.stored
          ((IpcBridge.slotStores link.bridge.seqCounter event).take done) before
  | .written event head =>
      head = ring.head ∧ unread + 1 < ipcRingSlots ∧
        link.bridge.seqCounter = BitVec.ofNat 8 (link.accepted.length + 1) ∧
        (ring.slots head).Carries event link.accepted.length

structure Coherent (link : Link) (ring : IpcRingBuffer) (history : List IpcSlot) : Prop where
  attached : link.bridge.ring = some ring
  initialised : link.bridge.initialised = true
  numbered : history.length = link.accepted.length
  carried : ∀ (position : Nat) (slot : IpcSlot), history[position]? = some slot →
    ∃ event, link.accepted[position]? = some event ∧ slot.Carries event position
  consumed : link.consumed <+: history
  reading : link.reading = true → link.consumed ≠ []
  queue : Ring.Holds ipcRingSlots ring.slots ring.head ring.tail (history.drop link.released)
  producer : link.Underway ring (history.drop link.released).length

theorem start_coherent (sramBase : IpcRingBuffer) :
    ∃ ring, (start sramBase).Coherent ring [] := by
  refine ⟨_, rfl, rfl, rfl, ?_, List.prefix_rfl, ?_, ?_, rfl⟩
  · intro position slot found
    cases found
  · intro reading
    cases reading
  · exact Ring.holds_empty _ (by decide)

variable {link : Link} {ring : IpcRingBuffer} {history : List IpcSlot}

theorem released_le (link : Link) : link.released ≤ link.consumed.length := by
  unfold released
  split
  · exact Nat.sub_le _ _
  · exact Nat.le_refl _

theorem Coherent.writing (coherent : link.Coherent ring history) {event : SoaEvent}
    {head done : Nat} (phase : link.producer = .writing event head done) :
    head = ring.head ∧ (history.drop link.released).length + 1 < ipcRingSlots ∧
      link.bridge.seqCounter = BitVec.ofNat 8 link.accepted.length ∧
      ∃ before, ring.slots head = IpcBridge.stored
        ((IpcBridge.slotStores link.bridge.seqCounter event).take done) before := by
  simpa [Underway, phase] using coherent.producer

theorem Coherent.written (coherent : link.Coherent ring history) {event : SoaEvent} {head : Nat}
    (phase : link.producer = .written event head) :
    head = ring.head ∧ (history.drop link.released).length + 1 < ipcRingSlots ∧
      link.bridge.seqCounter = BitVec.ofNat 8 (link.accepted.length + 1) ∧
      (ring.slots head).Carries event link.accepted.length := by
  simpa [Underway, phase] using coherent.producer

theorem Coherent.sendCheck (coherent : link.Coherent ring history) (event : SoaEvent) :
    (link.step (.sendCheck event)).2.Coherent ring history := by
  cases phase : link.producer with
  | writing current head done => simpa [step, produce, phase] using coherent
  | written current head => simpa [step, produce, phase] using coherent
  | idle =>
      cases checked : link.bridge.sendCheck event with
      | error code => simpa [step, produce, phase, checked] using coherent
      | ok head =>
          obtain ⟨-, found, same, atHead, -, free⟩ := IpcBridge.sendCheck_ok_iff.1 checked
          cases coherent.attached.symm.trans same
          have counter : link.bridge.seqCounter = BitVec.ofNat 8 link.accepted.length := by
            simpa [Underway, phase] using coherent.producer
          have room : (history.drop link.released).length + 1 < ipcRingSlots := by
            have notFull : (history.drop link.released).length + 1 ≠ ipcRingSlots := by
              intro full
              rw [IpcBridge.nextHead_eq_next, ← atHead] at free
              exact free (coherent.queue.full_iff.2 full)
            have bound := coherent.queue.length_lt
            omega
          simp only [step, produce, phase, checked]
          exact {
            attached := coherent.attached
            initialised := coherent.initialised
            numbered := coherent.numbered
            carried := coherent.carried
            consumed := coherent.consumed
            reading := coherent.reading
            queue := coherent.queue
            producer := ⟨atHead.symm, room, counter, ring.slots head, rfl⟩ }

/-- A store to the slot leaves the unread cells alone; the last one has made a slot that carries
the event. -/
theorem Coherent.sendWrite (coherent : link.Coherent ring history) :
    ∃ after, (link.step .sendWrite).2.Coherent after history := by
  cases phase : link.producer with
  | idle => exact ⟨ring, by simpa [step, produce, phase] using coherent⟩
  | written current head => exact ⟨ring, by simpa [step, produce, phase] using coherent⟩
  | writing event head done =>
      obtain ⟨rfl, room, counter, before, partly⟩ := coherent.writing phase
      cases next : (IpcBridge.slotStores link.bridge.seqCounter event)[done]? with
      | some store =>
          simp only [step, produce, phase, next, IpcBridge.storeSlot, coherent.attached,
            Option.map_some]
          refine ⟨_, rfl, coherent.initialised, coherent.numbered, coherent.carried,
            coherent.consumed, coherent.reading, coherent.queue.write _, rfl, room, counter, before,
            ?_⟩
          exact (Function.update_self ..).trans
            (partly ▸ (IpcBridge.stored_take_succ next before).symm)
      | none =>
          have whole := List.take_of_length_le (List.getElem?_eq_none_iff.1 next)
          rw [whole, IpcBridge.stored_slotStores, counter] at partly
          simp only [step, produce, phase, next]
          refine ⟨ring, coherent.attached, coherent.initialised, coherent.numbered,
            coherent.carried, coherent.consumed, coherent.reading, coherent.queue, rfl, room,
            ?_, ?_⟩
          · rw [counter]
            exact (BitVec.ofNat_add link.accepted.length 1).symm
          · rw [partly]
            exact IpcBridge.populated_carries _ _ _

theorem Coherent.sendStore (coherent : link.Coherent ring history) :
    ∃ after extended, (link.step .sendStore).2.Coherent after extended := by
  cases phase : link.producer with
  | idle => exact ⟨ring, history, by simpa [step, produce, phase] using coherent⟩
  | writing current head done =>
      exact ⟨ring, history, by simpa [step, produce, phase] using coherent⟩
  | written event head =>
      obtain ⟨rfl, room, counter, written⟩ := coherent.written phase
      have within : link.released ≤ history.length :=
        Nat.le_trans link.released_le coherent.consumed.length_le
      have grown : (history ++ [ring.slots ring.head]).drop link.released =
          history.drop link.released ++ [ring.slots ring.head] :=
        List.drop_append_of_le_length within
      simp only [step, produce, phase, IpcBridge.storeHead, coherent.attached, Option.map_some]
      refine ⟨_, history ++ [ring.slots ring.head], rfl, coherent.initialised, ?_, ?_, ?_,
        coherent.reading, ?_, ?_⟩
      · simp [coherent.numbered]
      · intro position slot found
        rcases Nat.lt_or_ge position history.length with old | new
        · rw [List.getElem?_append_left old] at found
          obtain ⟨earlier, listed, carries⟩ := coherent.carried position slot found
          refine ⟨earlier, ?_, carries⟩
          rw [List.getElem?_append_left (coherent.numbered ▸ old)]
          exact listed
        · rw [List.getElem?_append_right new] at found
          have last : position = history.length := by
            cases offset : position - history.length with
            | zero => omega
            | succ _ => simp [offset] at found
          subst position
          have same : ring.slots ring.head = slot := by simpa using found
          refine ⟨event, ?_, ?_⟩
          · simp [coherent.numbered]
          · rw [← same, coherent.numbered]
            exact written
      · exact coherent.consumed.trans (List.prefix_append _ _)
      · rw [IpcBridge.nextHead_eq_next]
        have advanced := coherent.queue.advance_head room
        rw [← grown] at advanced
        exact advanced
      · simpa [Underway] using counter

theorem Coherent.consumerRead (coherent : link.Coherent ring history) :
    (link.step .consumerRead).2.Coherent ring history := by
  by_cases idle : link.reading = true ∨ ring.tail = ring.head
  · simpa [step, consume, coherent.attached, idle] using coherent
  · obtain ⟨free, unequal⟩ := not_or.1 idle
    have notReading : link.reading = false := by simpa using free
    have gone : link.released = link.consumed.length := by simp [released, notReading]
    have queue := coherent.queue
    rw [gone] at queue
    obtain ⟨rest, whole⟩ := coherent.consumed
    have unread : history.drop link.consumed.length = rest := by
      rw [← whole, List.drop_left]
    cases rest with
    | nil => exact absurd (queue.empty_iff.2 unread) unequal
    | cons front later =>
        rw [unread] at queue
        have found : ring.slots ring.tail = front := queue.pop.1
        have kept : ({ link with
            reading := true, consumed := link.consumed ++ [front] } : Link).released =
              link.released := by
          simp [released, notReading]
        simp only [step, consume, coherent.attached, idle, ↓reduceIte, found]
        exact {
          attached := coherent.attached
          initialised := coherent.initialised
          numbered := coherent.numbered
          carried := coherent.carried
          consumed := ⟨later, by simpa using whole⟩
          reading := by simp
          queue := kept ▸ coherent.queue
          producer := kept ▸ coherent.producer }

theorem Coherent.consumerRelease (coherent : link.Coherent ring history) :
    ∃ after, (link.step .consumerRelease).2.Coherent after history := by
  cases reading : link.reading with
  | false => exact ⟨ring, by simpa [step, consume, reading] using coherent⟩
  | true =>
      have some_consumed : 0 < link.consumed.length :=
        List.length_pos_iff.2 (coherent.reading reading)
      have gone : link.released + 1 = link.consumed.length := by
        simp only [released, reading, ↓reduceIte]
        omega
      have inside : link.released < history.length := by
        have := coherent.consumed.length_le
        omega
      have split := List.drop_eq_getElem_cons inside
      have queue := coherent.queue
      rw [split] at queue
      have moved := queue.pop.2
      have shorter : (history.drop (link.released + 1)).length ≤
          (history.drop link.released).length := by
        simp only [List.length_drop]
        omega
      simp only [step, consume, reading, ↓reduceIte, coherent.attached, Option.map_some]
      refine ⟨_, rfl, coherent.initialised, coherent.numbered, coherent.carried,
        coherent.consumed, ?_, ?_, ?_⟩
      · intro impossible
        cases impossible
      · simp only [released, Bool.false_eq_true, ↓reduceIte]
        rw [← gone]
        exact moved
      · have producer := coherent.producer
        simp only [released, Bool.false_eq_true, ↓reduceIte]
        rw [← gone]
        cases phase : link.producer with
        | idle => simpa [Underway, phase] using producer
        | writing event head done =>
            simp only [Underway, phase] at producer ⊢
            obtain ⟨atHead, room, rest⟩ := producer
            exact ⟨atHead, by omega, rest⟩
        | written event head =>
            simp only [Underway, phase] at producer ⊢
            obtain ⟨atHead, room, rest⟩ := producer
            exact ⟨atHead, by omega, rest⟩

theorem Coherent.step (coherent : link.Coherent ring history) (action : LinkAction) :
    ∃ after extended, (link.step action).2.Coherent after extended := by
  cases action with
  | sendCheck event => exact ⟨ring, history, coherent.sendCheck event⟩
  | sendWrite =>
      obtain ⟨after, kept⟩ := coherent.sendWrite
      exact ⟨after, history, kept⟩
  | sendStore => exact coherent.sendStore
  | consumerRead => exact ⟨ring, history, coherent.consumerRead⟩
  | consumerRelease =>
      obtain ⟨after, kept⟩ := coherent.consumerRelease
      exact ⟨after, history, kept⟩

def Sound (link : Link) : Prop := ∃ ring history, link.Coherent ring history

theorem run_sound (sramBase : IpcRingBuffer) (actions : List LinkAction) :
    (machine.run (start sramBase) actions).Sound := by
  have initial : (start sramBase).Sound := by
    obtain ⟨ring, coherent⟩ := start_coherent sramBase
    exact ⟨ring, [], coherent⟩
  have preserved : ∀ current action, Sound current → Sound (machine.step current action).2 := by
    intro current action sound
    obtain ⟨ring, history, coherent⟩ := sound
    exact coherent.step action
  exact machine.run_preserves initial preserved actions

/-- No action of either core touches an unread cell; only the slot's stores go to the cells at
all, and they go to the free one. -/
theorem Coherent.unread_kept (coherent : link.Coherent ring history) (action : LinkAction) :
    ∃ after, (link.step action).2.bridge.ring = some after ∧
      ∀ offset < (ring.head + ipcRingSlots - ring.tail) % ipcRingSlots,
        after.slots ((ring.tail + offset) % ipcRingSlots) =
          ring.slots ((ring.tail + offset) % ipcRingSlots) := by
  have unchanged : ∀ after : IpcRingBuffer, after.slots = ring.slots →
      ∀ offset < (ring.head + ipcRingSlots - ring.tail) % ipcRingSlots,
        after.slots ((ring.tail + offset) % ipcRingSlots) =
          ring.slots ((ring.tail + offset) % ipcRingSlots) := by
    intro after same offset _
    rw [same]
  cases action with
  | sendCheck event =>
      obtain ⟨attached⟩ := coherent.sendCheck event
      exact ⟨ring, attached, unchanged ring rfl⟩
  | consumerRead =>
      obtain ⟨attached⟩ := coherent.consumerRead
      exact ⟨ring, attached, unchanged ring rfl⟩
  | sendWrite =>
      cases phase : link.producer with
      | idle =>
          exact ⟨ring, by simpa [Link.step, produce, phase] using coherent.attached,
            unchanged ring rfl⟩
      | written event head =>
          exact ⟨ring, by simpa [Link.step, produce, phase] using coherent.attached,
            unchanged ring rfl⟩
      | writing event head done =>
          obtain ⟨rfl, -⟩ := coherent.writing phase
          cases next : (IpcBridge.slotStores link.bridge.seqCounter event)[done]? with
          | none =>
              simp only [Link.step, produce, phase, next]
              exact ⟨ring, coherent.attached, unchanged ring rfl⟩
          | some store =>
              simp only [Link.step, produce, phase, next, IpcBridge.storeSlot, coherent.attached,
                Option.map_some]
              refine ⟨_, rfl, fun offset inside => ?_⟩
              rw [coherent.queue.length_eq] at inside
              exact Function.update_of_ne (coherent.queue.unread_ne_head inside) _ _
  | sendStore =>
      cases phase : link.producer with
      | idle =>
          exact ⟨ring, by simpa [Link.step, produce, phase] using coherent.attached,
            unchanged ring rfl⟩
      | writing event head done =>
          exact ⟨ring, by simpa [Link.step, produce, phase] using coherent.attached,
            unchanged ring rfl⟩
      | written event head =>
          simp only [Link.step, produce, phase, IpcBridge.storeHead, coherent.attached,
            Option.map_some]
          exact ⟨_, rfl, unchanged _ rfl⟩
  | consumerRelease =>
      cases reading : link.reading with
      | false =>
          exact ⟨ring, by simpa [Link.step, consume, reading] using coherent.attached,
            unchanged ring rfl⟩
      | true =>
          simp only [Link.step, consume, reading, ↓reduceIte, coherent.attached, Option.map_some]
          exact ⟨_, rfl, unchanged _ rfl⟩

theorem step_error_unchanged {action : LinkAction} {code : ErrorCode}
    (failed : (link.step action).1 = some (.error code)) :
    (link.step action).2.bridge = link.bridge := by
  cases action with
  | sendCheck event =>
      cases phase : link.producer with
      | writing current head done => simp [Link.step, produce, phase]
      | written current head => simp [Link.step, produce, phase]
      | idle =>
          cases checked : link.bridge.sendCheck event <;>
            simp [Link.step, produce, phase, checked]
  | sendWrite =>
      cases phase : link.producer with
      | idle => simp [Link.step, produce, phase] at failed
      | written event head => simp [Link.step, produce, phase] at failed
      | writing event head done =>
          cases next : (IpcBridge.slotStores link.bridge.seqCounter event)[done]? <;>
            simp [Link.step, produce, phase, next] at failed
  | sendStore =>
      cases phase : link.producer <;> simp [Link.step, produce, phase] at failed
  | consumerRead => cases failed
  | consumerRelease => cases failed

/-- The slot's stores one after the other, as long as there are some left. -/
theorem run_stores {event : SoaEvent} {head count : Nat} {held : IpcRingBuffer}
    (attached : link.bridge.ring = some held) (phase : link.producer = .writing event head 0)
    (left : count ≤ (IpcBridge.slotStores link.bridge.seqCounter event).length) :
    machine.run link (List.replicate count .sendWrite) = { link with
      bridge := { link.bridge with
        ring := some { held with
          slots := Function.update held.slots head (IpcBridge.stored
            ((IpcBridge.slotStores link.bridge.seqCounter event).take count)
            (held.slots head)) } }
      producer := .writing event head count } := by
  induction count with
  | zero =>
      simp only [List.replicate_zero, machine.run_nil, List.take_zero, IpcBridge.stored,
        List.foldl_nil, Function.update_eq_self, ← attached, ← phase]
  | succ count ih =>
      have next := List.getElem?_eq_getElem (Nat.lt_of_succ_le left)
      rw [List.replicate_succ', machine.run_concat, ih (Nat.le_of_succ_le left)]
      simp only [machine, Link.step, produce, next, IpcBridge.storeSlot, Option.map_some,
        Function.update_self, Function.update_idem, IpcBridge.stored_take_succ next]

/-- A `Send` call that nothing interrupts is the whole of its stretches. -/
theorem stretches_eq_send (idle : link.producer = .idle) (event : SoaEvent) :
    let stores := (IpcBridge.slotStores link.bridge.seqCounter event).length
    (machine.run link
      (.sendCheck event :: List.replicate stores .sendWrite ++ [.sendWrite, .sendStore])).bridge =
        (link.bridge.send event).2 := by
  intro stores
  cases checked : link.bridge.sendCheck event with
  | error code =>
      have refused : link.step (.sendCheck event) = (some (.error code), link) := by
        simp [Link.step, produce, idle, checked]
      have still : machine.run link (List.replicate stores .sendWrite) = link := by
        induction stores with
        | zero => rfl
        | succ count ih =>
            rw [List.replicate_succ', machine.run_concat, ih]
            simp [machine, Link.step, produce, idle]
      simp only [List.cons_append, machine.run_cons, machine.run_append]
      rw [show machine.step link (.sendCheck event) = _ from refused, still]
      simp [machine, Link.step, produce, idle, IpcBridge.send, checked]
  | ok head =>
      obtain ⟨-, held, attached, -⟩ := IpcBridge.sendCheck_ok_iff.1 checked
      have accepted : link.step (.sendCheck event) =
          (none, { link with producer := .writing event head 0 }) := by
        simp [Link.step, produce, idle, checked]
      have whole := @run_stores { link with producer := .writing event head 0 } event head stores
        held attached rfl (Nat.le_refl _)
      have none_left : (IpcBridge.slotStores link.bridge.seqCounter event)[stores]? = none :=
        List.getElem?_eq_none (Nat.le_refl _)
      simp only [List.cons_append, machine.run_cons, machine.run_append]
      rw [show machine.step link (.sendCheck event) = _ from accepted, whole, List.take_length,
        IpcBridge.stored_slotStores]
      simp [machine, Link.step, produce, IpcBridge.send, checked, none_left, IpcBridge.writeSlot,
        IpcBridge.storeHead, attached, IpcBridge.applyE2eHeader]

/-- What is accepted and not released lies in the ring, in order and whole. -/
theorem Coherent.unread (coherent : link.Coherent ring history) :
    link.released + (ring.head + ipcRingSlots - ring.tail) % ipcRingSlots =
        link.accepted.length ∧
      ∀ offset < (ring.head + ipcRingSlots - ring.tail) % ipcRingSlots,
        ∃ event, link.accepted[link.released + offset]? = some event ∧
          (ring.slots ((ring.tail + offset) % ipcRingSlots)).Carries event
            (link.released + offset) := by
  have within : link.released ≤ history.length :=
    Nat.le_trans link.released_le coherent.consumed.length_le
  rw [coherent.queue.length_eq, List.length_drop]
  refine ⟨by rw [Nat.add_sub_cancel' within, coherent.numbered], fun offset inside => ?_⟩
  have held := coherent.queue.content offset (by simpa using inside)
  rw [List.getElem_drop] at held
  exact coherent.carried _ _ (held ▸ List.getElem?_eq_getElem (by omega))

/-- Lossless first-in first-out delivery with valid E2E protection, whatever the
interleaving of the two cores: the slots consumed are the first of the accepted events, and
the others lie between tail and head. -/
theorem ipcRing_lossless_fifo (sramBase : IpcRingBuffer) (actions : List LinkAction) :
    let link := machine.run (start sramBase) actions
    (∀ (position : Nat) (slot : IpcSlot), link.consumed[position]? = some slot →
      ∃ event, link.accepted[position]? = some event ∧ slot.Carries event position) ∧
    ∃ ring, link.bridge.ring = some ring ∧ ring.head < ipcRingSlots ∧ ring.tail < ipcRingSlots ∧
      link.released + (ring.head + ipcRingSlots - ring.tail) % ipcRingSlots =
        link.accepted.length ∧
      (∀ offset < (ring.head + ipcRingSlots - ring.tail) % ipcRingSlots,
        ∃ event, link.accepted[link.released + offset]? = some event ∧
          (ring.slots ((ring.tail + offset) % ipcRingSlots)).Carries event
            (link.released + offset)) ∧
      ∀ action,
        (∀ code, (link.step action).1 = some (.error code) →
          (link.step action).2.bridge = link.bridge) ∧
        ∃ after, (link.step action).2.bridge.ring = some after ∧
          ∀ offset < (ring.head + ipcRingSlots - ring.tail) % ipcRingSlots,
            after.slots ((ring.tail + offset) % ipcRingSlots) =
              ring.slots ((ring.tail + offset) % ipcRingSlots) := by
  intro link
  obtain ⟨ring, history, coherent⟩ := run_sound sramBase actions
  obtain ⟨counted, unread⟩ := coherent.unread
  refine ⟨fun position slot found => ?_, ring, coherent.attached, coherent.queue.head_lt,
    coherent.queue.tail_lt, counted, unread,
    fun action => ⟨fun code failed => ?_, coherent.unread_kept action⟩⟩
  · obtain ⟨inside, same⟩ := List.getElem?_eq_some_iff.1 found
    have listed := List.prefix_iff_getElem?.1 coherent.consumed position inside
    exact coherent.carried position slot (same ▸ listed)
  · exact step_error_unchanged failed

end Link

end SoaGateway.Ipc
