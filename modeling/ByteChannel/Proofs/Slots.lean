import ByteChannel.Proofs.DrainOutcome
import ByteChannel.Proofs.OneByOne

/-!
# Slots and the queue they make

A slot can be looked at and overwritten by its number, which is a place in the buffer; the elements
are counted from the oldest one on, which may lie anywhere. Slot `i` lies `Channel.placeOf i` places
after the oldest element, around the ring. Overwriting it replaces the element at that place if
there is one, and otherwise no element at all: every slot has a place, but only the places below the
count hold elements.

That a slot is overwritten and its neighbours are not is a matter of ranges of bytes in one flat
buffer. The slots are exactly the pieces the buffer falls into, also where the pieces have no bytes.

## Main definitions

* `Channel.placeOf` — how far a slot lies behind the oldest element

## Main results

* `Bytes.flatten_windows`, `Channel.Ring.flatten_slots` — the slots laid end to end
* `Channel.Ring.elements_setSlot` — what overwriting a slot does to the elements
* `Channel.Ring.items_drain_plain`, `Channel.Ring.results_receives_plain` — what is delivered then
* `Channel.Reachable.slots_and_elements` — all of it
-/

namespace ByteChannel

/-- The pieces of a string, laid end to end, are its beginning. -/
theorem Bytes.flatten_windows (b : Bytes) (size n : Nat) :
    ((List.range n).map fun i => b.window (i * size) size).flatten = b.take (n * size) := by
  induction n with
  | zero => simp
  | succ n ih =>
    rw [List.range_succ, List.map_append, List.flatten_append, ih, List.map_singleton,
      List.flatten_singleton, window, ← List.take_add, Nat.add_mul, Nat.one_mul]

namespace Channel

variable {σ : Type} {ch : Channel}

/-! ### Slots -/

/-- On a ring, a slot faults exactly if it is not one of the channel's. -/
theorem Ring.slot_eq_error_iff (ring : ch.Ring) (i : Nat) :
    (∃ fault, ch.slot i = .error fault) ↔ ch.capacity ≤ i := by
  constructor
  · rintro ⟨fault, h⟩
    by_contra hi
    rw [ring.slot_eq (Nat.not_le.mp hi)] at h
    cases h
  · intro h
    exact ⟨_, by rw [slot, if_neg (Nat.not_lt.mpr h)]⟩

theorem Ring.mapM_slot (ring : ch.Ring) :
    (List.range ch.capacity).mapM ch.slot = .ok ((List.range ch.capacity).map ch.bytesAt) :=
  mapM_eq_ok fun _ hi => ring.slot_eq (List.mem_range.mp hi)

/-- The slots laid end to end are the buffer. -/
theorem Ring.flatten_slots (ring : ch.Ring) :
    ch.buffer = if ch.capacity = 0 then none
      else some ((List.range ch.capacity).map ch.bytesAt).flatten := by
  by_cases hcap : ch.capacity = 0
  · have hnone : ¬ ch.buffer.isSome := by
      rw [ring.buffer_isSome]
      omega
    rw [if_pos hcap, Option.not_isSome_iff_eq_none.mp hnone]
  · obtain ⟨bytes, hb, hlen⟩ := ring.exists_buffer (Nat.pos_of_ne_zero hcap)
    have hwindows : ch.bytesAt = fun i => bytes.window (i * ch.elementSize) ch.elementSize := by
      funext i
      rw [bytesAt, hb, Option.getD_some]
    rw [if_neg hcap, hwindows, Bytes.flatten_windows, ← hlen, List.take_length, hb]

/-- Overwriting writes over the first bytes of the slot, and does nothing else. -/
theorem Ring.act_setSlot (ring : ch.Ring) {i : Nat} (hi : i < ch.capacity) (bytes : Bytes) :
    ch.act (.setSlot i bytes) = .ok ⟨.slot ((ch.bytesAt i).overwrite 0 bytes),
      ch.setSlot i ((ch.bytesAt i).overwrite 0 bytes), []⟩ := by
  rw [act, ring.slot_eq hi]
  rfl

/-- Overwriting faults exactly where reading does. -/
theorem Ring.act_setSlot_eq_error_iff (ring : ch.Ring) (i : Nat) (bytes : Bytes) :
    (∃ fault, ch.act (.setSlot i bytes) = .error fault) ↔ ch.capacity ≤ i := by
  constructor
  · rintro ⟨fault, h⟩
    by_contra hi
    rw [ring.act_setSlot (Nat.not_le.mp hi)] at h
    cases h
  · intro h
    obtain ⟨fault, hfault⟩ := (ring.slot_eq_error_iff i).mpr h
    exact ⟨fault, by rw [act, hfault]; rfl⟩

/-- Overwriting one slot leaves the others alone, and the numbers that are not those of a slot. -/
theorem Ring.slot_setSlot_of_ne (ring : ch.Ring) {i j : Nat} (hi : i < ch.capacity)
    {bytes : Bytes} (sized : bytes.length = ch.elementSize) (hij : j ≠ i) :
    (ch.setSlot i bytes).slot j = ch.slot j := by
  by_cases hj : j < ch.capacity
  · rw [(ring.setSlot i bytes).slot_eq hj, ring.slot_eq hj,
      ring.bytesAt_setSlot_of_ne hi sized hij]
  · have hj' : ¬ j < (ch.setSlot i bytes).capacity := hj
    rw [slot, slot, if_neg hj, if_neg hj']
    rfl

/-! ### Places -/

/-- How many places slot `i` lies after that of the oldest element, around the ring. -/
def placeOf (ch : Channel) (i : Nat) : Nat := (i + ch.capacity - ch.receiveIndex) % ch.capacity

theorem placeOf_lt {i : Nat} (hi : i < ch.capacity) : ch.placeOf i < ch.capacity :=
  Nat.mod_lt _ (Nat.zero_lt_of_lt hi)

/-- Going on from the oldest element by the place of a slot leads to the slot. -/
theorem Ring.position_placeOf (ring : ch.Ring) {i : Nat} (hi : i < ch.capacity) :
    ch.position (ch.placeOf i) = i := by
  have hlt := ring.receiveIndex_lt (Nat.zero_lt_of_lt hi)
  have hback : ch.receiveIndex + (i + ch.capacity - ch.receiveIndex) = i + ch.capacity := by omega
  rw [position, placeOf, Nat.add_mod_mod, hback, Nat.add_mod_right, Nat.mod_eq_of_lt hi]

theorem getElem?_elements {k : Nat} (hk : k < ch.count) :
    ch.elements[k]? = some (ch.bytesAt (ch.position k)) := by
  simp [elements, hk]

/-- **Overwriting a slot** replaces the element at its place, if there is one. -/
theorem Ring.elements_setSlot (ring : ch.Ring) {i : Nat} (hi : i < ch.capacity) {bytes : Bytes}
    (sized : bytes.length = ch.elementSize) :
    (ch.setSlot i bytes).elements = ch.elements.set (ch.placeOf i) bytes := by
  refine List.ext_getElem? fun k => ?_
  by_cases hk : k < ch.count
  · have hread : (ch.setSlot i bytes).elements[k]?
        = some ((ch.setSlot i bytes).bytesAt (ch.position k)) := getElem?_elements hk
    rw [hread, List.getElem?_set, length_elements]
    by_cases hplace : ch.placeOf i = k
    · subst hplace
      rw [if_pos rfl, if_pos hk, ring.position_placeOf hi, ring.bytesAt_setSlot_self hi sized]
    · -- another place is another slot, as long as one does not go around twice
      have hne : ch.position k ≠ i := by
        intro hsame
        rw [← ring.position_placeOf hi] at hsame
        have hcap : k < ch.capacity := Nat.lt_of_lt_of_le hk ring.count_le
        exact hplace (position_injective hcap (placeOf_lt hi) hsame).symm
      rw [if_neg hplace, getElem?_elements hk, ring.bytesAt_setSlot_of_ne hi sized hne]
  · have hle : ch.count ≤ k := Nat.not_lt.mp hk
    rw [List.getElem?_eq_none (by rw [length_elements]; exact hle),
      List.getElem?_eq_none (by rw [List.length_set, length_elements]; exact hle)]

theorem Ring.length_of_mem_elements (ring : ch.Ring) :
    ∀ element ∈ ch.elements, element.length = ch.elementSize := by
  intro element hmem
  obtain ⟨k, hk, rfl⟩ := List.mem_map.mp hmem
  have hcap : 0 < ch.capacity :=
    Nat.lt_of_lt_of_le (Nat.zero_lt_of_lt (List.mem_range.mp hk)) ring.count_le
  exact ring.length_bytesAt (position_lt hcap k)

/-! ### Delivery -/

/-- A drain that copies plainly delivers the elements. -/
theorem Ring.items_drain_plain (ring : ch.Ring) (buffered : 0 < ch.capacity) (s : σ) {minimum : Nat}
    (enough : minimum ≤ ch.count) {allocator : Allocator} {bytes : Bytes}
    (allocated : allocator (ch.count * ch.elementSize) = .ok bytes)
    (room : ch.count * ch.elementSize ≤ bytes.length) :
    ∃ batch, (ch.drain (Copier.plain σ) s minimum allocator).outcome = .ok (some batch) ∧
      batch.items = .ok ch.elements := by
  have computes := Copier.plain_computes σ ch.elementSize
  obtain ⟨houtcome, -⟩ := ring.drain_of_room computes s enough allocated buffered room rfl
  rw [List.map_id'] at houtcome
  refine ⟨_, houtcome, ?_⟩
  have hitems := Batch.items_flatten (bytes.drop (ch.count * ch.elementSize))
    ring.length_of_mem_elements
  rwa [length_elements] at hitems

/-- Receives that copy plainly deliver the elements one by one, whatever their outputs held. -/
theorem Ring.results_receives_plain (ring : ch.Ring) (s : σ) {outs : List Bytes}
    (sized : ∀ out ∈ outs, out.length = ch.elementSize) (few : outs.length ≤ ch.count) :
    (ch.performAll (Copier.plain σ) s (outs.map .receive)).results
      = (ch.elements.take outs.length).map fun element => .received (.ok ()) element := by
  induction outs generalizing ch with
  | nil => rfl
  | cons out outs ih =>
    have some_left : 0 < ch.count := Nat.lt_of_lt_of_le (Nat.zero_lt_succ _) few
    have hsized : out.length = ch.elementSize := sized out List.mem_cons_self
    have hcopied : (Copier.plain σ).copy s (ch.receiveCall out)
        = ⟨s, ch.bytesAt ch.receiveIndex, none⟩ :=
      Copier.plain_ok s (ch.receiveCall out) hsized (ring.length_bytesAt_receiveIndex some_left)
    have hfirst := ring.perform_receive_of_none some_left hsized (by rw [hcopied])
    rw [hcopied] at hfirst
    have hrest := ih (ring.popped some_left)
      (fun out' h => sized out' (List.mem_cons_of_mem out h)) (Nat.le_sub_one_of_lt few)
    rw [List.map_cons, performAll, hfirst]
    simp only
    rw [hrest, ring.elements_eq_cons some_left, List.length_cons, List.take_succ_cons,
      List.map_cons]

/-! ### All of it -/

/-- **Slots and elements.** Let a channel have come about in any way.

* Looking at slot `i`, or overwriting it, faults exactly if the channel has no such slot. All slots
  have the element size, and laid end to end they are the buffer.
* Overwriting slot `i` changes no other slot, and nothing of the channel but the buffer. Of the
  elements it changes the one at the slot's place at most, where the new bytes are then; if that
  place holds no element, it changes none.
* A drain that copies plainly then delivers the old elements with that one replaced, whether its
  buffer comes from the heap or from another allocator that gives enough; and so do receives, as
  many as there are elements or fewer, whatever their outputs held before. -/
theorem Reachable.slots_and_elements (reachable : ch.Reachable) (i : Nat) (bytes : Bytes) (s : σ) :
    ((∃ fault, ch.slot i = .error fault) ↔ ch.capacity ≤ i) ∧
    ((∃ fault, ch.act (.setSlot i bytes) = .error fault) ↔ ch.capacity ≤ i) ∧
    (∃ slots, (List.range ch.capacity).mapM ch.slot = .ok slots ∧
      (∀ slot ∈ slots, slot.length = ch.elementSize) ∧
      ch.buffer = if ch.capacity = 0 then none else some slots.flatten) ∧
    ch.content = .ok ch.elements ∧
    ∀ acted, ch.act (.setSlot i bytes) = .ok acted →
      ∃ old new, ch.slot i = .ok old ∧ new = old.overwrite 0 bytes ∧
        acted.answer = .slot new ∧ acted.channel.slot i = .ok new ∧
        (∀ j, j ≠ i → acted.channel.slot j = ch.slot j) ∧
        { acted.channel with buffer := ch.buffer } = ch ∧
        acted.channel.content = .ok acted.channel.elements ∧
        let place := (i + ch.capacity - ch.receiveIndex) % ch.capacity
        (∀ k, k ≠ place → acted.channel.elements[k]? = ch.elements[k]?) ∧
        (place < ch.count → acted.channel.elements[place]? = some new) ∧
        (ch.count ≤ place → acted.channel.elements = ch.elements) ∧
        (∀ minimum allocator, minimum ≤ ch.count →
          (allocator = Allocator.heap ∨
            ∃ buffer, allocator (ch.count * ch.elementSize) = .ok buffer ∧
              ch.count * ch.elementSize ≤ buffer.length) →
          ∃ batch,
            (acted.channel.drain (Copier.plain σ) s minimum allocator).outcome
              = .ok (some batch) ∧
            batch.items = .ok (ch.elements.set place new)) ∧
        ∀ outs : List Bytes, (∀ out ∈ outs, out.length = ch.elementSize) →
          outs.length ≤ ch.count →
          (acted.channel.performAll (Copier.plain σ) s (outs.map .receive)).results
            = ((ch.elements.set place new).take outs.length).map
              fun element => .received (.ok ()) element := by
  have ring := reachable.ring
  refine ⟨ring.slot_eq_error_iff i, ring.act_setSlot_eq_error_iff i bytes, ?_, ring.content_eq, ?_⟩
  · refine ⟨_, ring.mapM_slot, ?_, ring.flatten_slots⟩
    intro slot hmem
    obtain ⟨j, hj, rfl⟩ := List.mem_map.mp hmem
    exact ring.length_bytesAt (List.mem_range.mp hj)
  · intro acted hacted
    have hi : i < ch.capacity := by
      by_contra hge
      obtain ⟨fault, h⟩ := (ring.act_setSlot_eq_error_iff i bytes).mpr (Nat.not_lt.mp hge)
      rw [h] at hacted
      cases hacted
    rw [ring.act_setSlot hi] at hacted
    obtain rfl := Except.ok.inj hacted
    obtain ⟨new, hnew⟩ : ∃ new, new = (ch.bytesAt i).overwrite 0 bytes := ⟨_, rfl⟩
    have hsized : new.length = ch.elementSize := by
      rw [hnew, Bytes.length_overwrite, ring.length_bytesAt hi]
    rw [← hnew]
    have hring := ring.setSlot i new
    have helements : (ch.setSlot i new).elements = ch.elements.set (ch.placeOf i) new :=
      ring.elements_setSlot hi hsized
    refine ⟨_, new, ring.slot_eq hi, hnew, rfl, ?_,
      fun j hj => ring.slot_setSlot_of_ne hi hsized hj, rfl, hring.content_eq, ?_, ?_, ?_, ?_, ?_⟩
    · rw [hring.slot_eq hi, ring.bytesAt_setSlot_self hi hsized]
    · intro k hk
      rw [helements]
      exact List.getElem?_set_ne (Ne.symm hk)
    · intro hplace
      rw [helements]
      exact List.getElem?_set_self (by rw [length_elements]; exact hplace)
    · intro hplace
      rw [helements]
      exact List.set_eq_of_length_le (by rw [length_elements]; exact hplace)
    · intro minimum allocator enough hallocator
      obtain ⟨buffer, allocated, room⟩ : ∃ buffer,
          allocator (ch.count * ch.elementSize) = .ok buffer ∧
            ch.count * ch.elementSize ≤ buffer.length := by
        rcases hallocator with rfl | h
        · exact ⟨_, ring.heap_request reachable.allocatable, by simp⟩
        · exact h
      have hdrained := hring.items_drain_plain (Nat.zero_lt_of_lt hi) s enough allocated room
      rwa [helements] at hdrained
    · intro outs sized few
      have hreceived := hring.results_receives_plain s sized few
      rwa [helements] at hreceived

/-- Three slots, of which the last holds the older of two elements and the first the newer. Writing
into the first slot replaces the newer one; writing into the slot between them, which comes last
around the ring, replaces none. There is no fourth slot. -/
theorem Reachable.slots_and_elements_wrapped :
    ∃ (ch : Channel) (first middle : Acted), ch.Reachable ∧ ch.receiveIndex = 2 ∧
      ch.elements = [[3], [4]] ∧ ch.act (.setSlot 0 [9]) = .ok first ∧
      ch.act (.setSlot 1 [9]) = .ok middle ∧ middle.channel.elements = ch.elements ∧
      (∃ batch, (first.channel.drain (Copier.plain Unit) () 2 Allocator.heap).outcome
        = .ok (some batch) ∧ batch.items = .ok [[3], [9]]) ∧
      (first.channel.performAll (Copier.plain Unit) () [.receive [7], .receive [8]]).results
        = [.received (.ok ()) [3], .received (.ok ()) [9]] ∧
      ∃ fault, ch.act (.setSlot 3 [9]) = .error fault := by
  let before : List Operation :=
    [.send [1], .send [2], .send [3], .receive [0], .receive [0], .send [4]]
  have reachable :
      ((fresh 1 ⟨3, 1, 1⟩).performAll (Copier.plain Unit) () before).channel.Reachable :=
    ⟨Unit, Copier.plain Unit, (), 1, ⟨3, 1, 1⟩, fresh 1 ⟨3, 1, 1⟩, before, by decide, rfl⟩
  generalize hch : ((fresh 1 ⟨3, 1, 1⟩).performAll (Copier.plain Unit) () before).channel = ch
    at reachable
  have hindex : ch.receiveIndex = 2 := by rw [← hch]; decide
  have helements : ch.elements = [[3], [4]] := by rw [← hch]; decide
  have hcount : ch.count = 2 := by rw [← hch]; decide
  have hsize : ch.elementSize = 1 := by rw [← hch]; decide
  have hcap : ch.capacity = 3 := by rw [← hch]; decide
  have hfirst := reachable.ring.act_setSlot (show 0 < ch.capacity by omega) [9]
  have hmiddle := reachable.ring.act_setSlot (show 1 < ch.capacity by omega) [9]
  have hnew : (ch.bytesAt 0).overwrite 0 [9] = [9] := by rw [← hch]; decide
  obtain ⟨-, -, -, -, hwrite⟩ := reachable.slots_and_elements 0 [9] ()
  obtain ⟨-, -, -, -, hspare⟩ := reachable.slots_and_elements 1 [9] ()
  obtain ⟨-, hnone, -⟩ := reachable.slots_and_elements 3 [9] ()
  obtain ⟨_, new, -, -, hanswer, -, -, -, -, -, -, -, hdrained, hreceived⟩ := hwrite _ hfirst
  obtain ⟨_, _, -, -, -, -, -, -, -, -, -, hkept, -⟩ := hspare _ hmiddle
  obtain rfl : [9] = new := hnew.symm.trans (Answer.slot.inj hanswer)
  rw [hindex, hcap, helements] at hdrained hreceived
  refine ⟨ch, _, _, reachable, hindex, helements, hfirst, hmiddle, ?_, ?_, ?_, ?_⟩
  · exact hkept (by rw [hindex, hcap, hcount])
  · exact hdrained 2 Allocator.heap (by omega) (.inl rfl)
  · exact hreceived [[7], [8]] (by simp [hsize]) (by simp [hcount])
  · exact hnone.mpr (by omega)

end Channel

end ByteChannel
