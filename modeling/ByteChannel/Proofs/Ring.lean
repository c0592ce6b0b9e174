import ByteChannel.Channel.Basic
import ByteChannel.Proofs.Windows
import Mathlib.Data.Nat.ModEq

/-!
# The ring of slots

What makes the buffer of a channel a ring: `Channel.Ring` ties the two indices, the count and the
buffer together, and `Channel.elements` reads the ring as a list, the oldest element first, by
walking on from the receive index modulo the capacity. The list is total, so that it can stand in
any statement; on a ring it is what `Channel.content` answers.

The three moves a channel makes have names of their own, `pushed`, `popped` and `emptied`. On the
list they append an element, drop the oldest one, and drop them all. Overwriting the slot that is
next to be filled is not a move: it leaves the list as it was, which is why a send that is cut
short does no harm.

The indices are equal both when a channel is empty and when it is full. Only the count tells the
two apart, and so the count, and never a comparison of the indices, bounds the list.

## Main definitions

* `Channel.position`, `Channel.bytesAt`, `Channel.elements` — the ring read as a list
* `Channel.Ring` — the invariant
* `Channel.pushed`, `Channel.popped`, `Channel.emptied` — the moves
* `Channel.fresh` — what construction yields

## Main results

* `Channel.Ring.slot_eq`, `Channel.Ring.content_eq` — on a ring, reading does not fault
* `Channel.Ring.elements_pushed`, `Channel.Ring.elements_eq_cons`, `Channel.elements_emptied`
* `Channel.Ring.elements_setSlot_sendIndex` — the slot that is next is not a live one
* `Channel.create_eq_ok_iff` — when construction succeeds, and what it yields
-/

namespace ByteChannel

namespace Channel

variable {ch : Channel}

/-- The slot `k` places after that of the oldest element, around the ring. -/
def position (ch : Channel) (k : Nat) : Nat := (ch.receiveIndex + k) % ch.capacity

/-- The bytes of slot `i`. Total: none where the channel has no buffer. -/
def bytesAt (ch : Channel) (i : Nat) : Bytes :=
  Bytes.window (ch.buffer.getD []) (i * ch.elementSize) ch.elementSize

/-- The logical content of a channel: the bytes of as many slots as it counts elements, from the
receive index on. -/
def elements (ch : Channel) : List Bytes :=
  (List.range ch.count).map fun k => ch.bytesAt (ch.position k)

/-- The ring invariant. -/
structure Ring (ch : Channel) : Prop where
  /-- A channel never counts more elements than it can hold. -/
  count_le : ch.count ≤ ch.capacity
  /-- The next slot to be filled is one of the channel's. -/
  sendIndex_lt : 0 < ch.capacity → ch.sendIndex < ch.capacity
  /-- So is the slot of the oldest element. -/
  receiveIndex_lt : 0 < ch.capacity → ch.receiveIndex < ch.capacity
  /-- The next slot follows the newest element. -/
  wraps : 0 < ch.capacity → (ch.receiveIndex + ch.count) % ch.capacity = ch.sendIndex
  /-- Without slots nothing ever moves. -/
  unbuffered : ch.capacity = 0 → ch.count = 0 ∧ ch.sendIndex = 0 ∧ ch.receiveIndex = 0
  /-- There is a buffer exactly if there are slots. -/
  buffer_isSome : ch.buffer.isSome ↔ 0 < ch.capacity
  /-- The buffer is the slots laid end to end. -/
  buffer_length : ∀ bytes, ch.buffer = some bytes → bytes.length = ch.capacity * ch.elementSize

/-! ### Positions -/

theorem position_lt (h : 0 < ch.capacity) (k : Nat) : ch.position k < ch.capacity :=
  Nat.mod_lt _ h

/-- Once around the ring, no slot is met twice. -/
theorem position_injective {k l : Nat} (hk : k < ch.capacity) (hl : l < ch.capacity)
    (h : ch.position k = ch.position l) : k = l := by
  have hmod : k ≡ l [MOD ch.capacity] := Nat.ModEq.add_left_cancel' ch.receiveIndex h
  rwa [Nat.ModEq, Nat.mod_eq_of_lt hk, Nat.mod_eq_of_lt hl] at hmod

theorem Ring.position_zero (ring : ch.Ring) (h : 0 < ch.capacity) :
    ch.position 0 = ch.receiveIndex :=
  Nat.mod_eq_of_lt (ring.receiveIndex_lt h)

theorem Ring.position_count (ring : ch.Ring) (h : 0 < ch.capacity) :
    ch.position ch.count = ch.sendIndex :=
  ring.wraps h

/-- As long as there is room, the slot that is next holds no element. -/
theorem Ring.position_ne_sendIndex (ring : ch.Ring) (room : ch.count < ch.capacity) {k : Nat}
    (hk : k < ch.count) : ch.position k ≠ ch.sendIndex := by
  rw [← ring.position_count (by omega)]
  intro h
  have := position_injective (by omega) room h
  omega

/-! ### Slots -/

theorem Ring.exists_buffer (ring : ch.Ring) (h : 0 < ch.capacity) :
    ∃ bytes, ch.buffer = some bytes ∧ bytes.length = ch.capacity * ch.elementSize := by
  obtain ⟨bytes, hb⟩ := Option.isSome_iff_exists.mp (ring.buffer_isSome.mpr h)
  exact ⟨bytes, hb, ring.buffer_length bytes hb⟩

/-- On a ring, a slot of the channel reads without fault. -/
theorem Ring.slot_eq (ring : ch.Ring) {i : Nat} (hi : i < ch.capacity) :
    ch.slot i = .ok (ch.bytesAt i) := by
  obtain ⟨bytes, hb, hlen⟩ := ring.exists_buffer (by omega)
  have hend : i * ch.elementSize + ch.elementSize ≤ ch.capacity * ch.elementSize :=
    Bytes.place_end_le hi
  have hstop : (i + 1) * ch.elementSize = i * ch.elementSize + ch.elementSize := by ring
  simp only [slot, if_pos hi, bytesAt, hb, Option.getD_some]
  rw [hstop, Bytes.slice_of_le (by omega), Nat.add_sub_cancel_left]

theorem Ring.length_bytesAt (ring : ch.Ring) {i : Nat} (hi : i < ch.capacity) :
    (ch.bytesAt i).length = ch.elementSize := by
  obtain ⟨bytes, hb, hlen⟩ := ring.exists_buffer (by omega)
  have hend : i * ch.elementSize + ch.elementSize ≤ ch.capacity * ch.elementSize :=
    Bytes.place_end_le hi
  rw [bytesAt, hb, Option.getD_some, Bytes.length_window_of_le (by omega)]

theorem Ring.length_bytesAt_sendIndex (ring : ch.Ring) (room : ch.count < ch.capacity) :
    (ch.bytesAt ch.sendIndex).length = ch.elementSize :=
  ring.length_bytesAt (ring.sendIndex_lt (by omega))

theorem Ring.length_bytesAt_receiveIndex (ring : ch.Ring) (some_left : 0 < ch.count) :
    (ch.bytesAt ch.receiveIndex).length = ch.elementSize :=
  ring.length_bytesAt (ring.receiveIndex_lt (Nat.lt_of_lt_of_le some_left ring.count_le))

/-- **Read after write.** -/
theorem Ring.bytesAt_setSlot_self (ring : ch.Ring) {i : Nat} (hi : i < ch.capacity)
    {bytes : Bytes} (sized : bytes.length = ch.elementSize) :
    (ch.setSlot i bytes).bytesAt i = bytes := by
  obtain ⟨buffer, hb, hlen⟩ := ring.exists_buffer (by omega)
  have hend : i * ch.elementSize + ch.elementSize ≤ ch.capacity * ch.elementSize :=
    Bytes.place_end_le hi
  have hread : (ch.setSlot i bytes).bytesAt i
      = (buffer.overwrite (i * ch.elementSize) bytes).window (i * ch.elementSize) bytes.length := by
    rw [sized]
    simp only [bytesAt, setSlot, elementSize, hb, Option.map_some, Option.getD_some]
  rw [hread, Bytes.window_overwrite_self (by omega)]

/-- **Read another slot.** -/
theorem Ring.bytesAt_setSlot_of_ne (ring : ch.Ring) {i j : Nat} (hi : i < ch.capacity)
    {bytes : Bytes} (sized : bytes.length = ch.elementSize) (hij : j ≠ i) :
    (ch.setSlot i bytes).bytesAt j = ch.bytesAt j := by
  obtain ⟨buffer, hb, hlen⟩ := ring.exists_buffer (by omega)
  have hend : i * ch.elementSize + ch.elementSize ≤ ch.capacity * ch.elementSize :=
    Bytes.place_end_le hi
  have hread : (ch.setSlot i bytes).bytesAt j
      = (buffer.overwrite (i * ch.elementSize) bytes).window (j * ch.elementSize)
          ch.elementSize := by
    simp only [bytesAt, setSlot, elementSize, hb, Option.map_some, Option.getD_some]
  have hold : ch.bytesAt j = buffer.window (j * ch.elementSize) ch.elementSize := by
    simp only [bytesAt, hb, Option.getD_some]
  rw [hread, hold]
  refine Bytes.window_overwrite_of_apart (by omega) ?_
  rw [sized]
  exact Bytes.places_apart hij

/-! ### The list view -/

@[simp] theorem length_elements (ch : Channel) : ch.elements.length = ch.count := by
  simp [elements]

/-- The list depends on the live slots only. -/
theorem elements_congr {ch' : Channel} (hcount : ch'.count = ch.count)
    (hbytes : ∀ k < ch.count, ch'.bytesAt (ch'.position k) = ch.bytesAt (ch.position k)) :
    ch'.elements = ch.elements := by
  rw [elements, elements, hcount]
  refine List.map_congr_left fun k hk => ?_
  exact hbytes k (List.mem_range.mp hk)

/-- The two runs of occupied slots are one walk around the ring. -/
theorem Ring.occupied_eq (ring : ch.Ring) :
    ch.occupied = (List.range ch.count).map ch.position := by
  have hle := ring.count_le
  have hrun : ch.firstRun = min ch.count (ch.capacity - ch.receiveIndex) := rfl
  refine List.ext_getElem (by simp [occupied]; omega) fun k hk _ => ?_
  have hk' : k < ch.firstRun + (ch.count - ch.firstRun) := by simpa [occupied] using hk
  have hcap : 0 < ch.capacity := by omega
  have hlt := ring.receiveIndex_lt hcap
  simp only [occupied, List.getElem_append, List.length_range', List.getElem_map,
    List.getElem_range, position]
  split
  · -- before the end of the buffer nothing wraps
    rw [List.getElem_range', Nat.mod_eq_of_lt (by omega)]
    omega
  · have hwrap : ch.receiveIndex + k = k - ch.firstRun + ch.capacity := by omega
    rw [hwrap, Nat.add_mod_right, Nat.mod_eq_of_lt (by omega)]

/-- On a ring the content reads without fault, as the list of elements. -/
theorem Ring.content_eq (ring : ch.Ring) : ch.content = .ok ch.elements := by
  have hslots : ∀ i ∈ ch.occupied, ch.slot i = .ok (ch.bytesAt i) := by
    intro i hi
    rw [ring.occupied_eq] at hi
    obtain ⟨k, hk, rfl⟩ := List.mem_map.mp hi
    have hcount := List.mem_range.mp hk
    have hle := ring.count_le
    exact ring.slot_eq (position_lt (by omega) k)
  rw [content, mapM_eq_ok hslots, ring.occupied_eq, List.map_map]
  rfl

/-! ### The moves -/

/-- The channel with `bytes` as its newest element. -/
def pushed (ch : Channel) (bytes : Bytes) : Channel :=
  { ch.setSlot ch.sendIndex bytes with
    sendIndex := ch.next ch.sendIndex, count := ch.count + 1 }

/-- The channel without its oldest element. -/
def popped (ch : Channel) : Channel :=
  { ch with receiveIndex := ch.next ch.receiveIndex, count := ch.count - 1 }

/-- The channel without elements, both indices at the start of the buffer. -/
def emptied (ch : Channel) : Channel :=
  { ch with receiveIndex := 0, sendIndex := 0, count := 0 }

/-- Whatever is written over a slot, the ring is one still. -/
theorem Ring.setSlot (ring : ch.Ring) (i : Nat) (bytes : Bytes) : (ch.setSlot i bytes).Ring where
  count_le := ring.count_le
  sendIndex_lt := ring.sendIndex_lt
  receiveIndex_lt := ring.receiveIndex_lt
  wraps := ring.wraps
  unbuffered := ring.unbuffered
  buffer_isSome := by simpa [Channel.setSlot] using ring.buffer_isSome
  buffer_length := by
    intro buffer hb
    obtain ⟨old, hold, rfl⟩ := Option.map_eq_some_iff.mp hb
    rw [Bytes.length_overwrite]
    exact ring.buffer_length old hold

theorem Ring.pushed (ring : ch.Ring) (room : ch.count < ch.capacity) (bytes : Bytes) :
    (ch.pushed bytes).Ring where
  count_le := room
  sendIndex_lt h := Nat.mod_lt _ h
  receiveIndex_lt := ring.receiveIndex_lt
  wraps h := by
    change (ch.receiveIndex + (ch.count + 1)) % ch.capacity = (ch.sendIndex + 1) % ch.capacity
    rw [← ring.wraps h, Nat.mod_add_mod, Nat.add_assoc]
  unbuffered h := absurd (show ch.capacity = 0 from h) (by omega)
  buffer_isSome := (ring.setSlot ch.sendIndex bytes).buffer_isSome
  buffer_length := (ring.setSlot ch.sendIndex bytes).buffer_length

theorem position_popped (ch : Channel) (k : Nat) : ch.popped.position k = ch.position (k + 1) := by
  change ((ch.receiveIndex + 1) % ch.capacity + k) % ch.capacity = _
  rw [Nat.mod_add_mod, position, Nat.add_assoc, Nat.add_comm 1 k]

theorem Ring.popped (ring : ch.Ring) (some_left : 0 < ch.count) : ch.popped.Ring where
  count_le := Nat.le_trans (Nat.sub_le _ _) ring.count_le
  sendIndex_lt := ring.sendIndex_lt
  receiveIndex_lt h := Nat.mod_lt _ h
  wraps h := by
    have hcount : ch.count - 1 + 1 = ch.count := by omega
    change ch.popped.position (ch.count - 1) = ch.sendIndex
    rw [position_popped, hcount]
    exact ring.wraps h
  unbuffered h := absurd ((ring.unbuffered h).1) (by omega)
  buffer_isSome := ring.buffer_isSome
  buffer_length := ring.buffer_length

theorem Ring.emptied (ring : ch.Ring) : ch.emptied.Ring where
  count_le := Nat.zero_le _
  sendIndex_lt h := h
  receiveIndex_lt h := h
  wraps _ := Nat.zero_mod _
  unbuffered _ := ⟨rfl, rfl, rfl⟩
  buffer_isSome := ring.buffer_isSome
  buffer_length := ring.buffer_length

/-- The flag and the wait queues are no part of the ring. -/
theorem Ring.congr_queues (ring : ch.Ring) (closed : Bool) (senders receivers : WaitQueue) :
    Ring { ch with closed, senders, receivers } :=
  ⟨ring.count_le, ring.sendIndex_lt, ring.receiveIndex_lt, ring.wraps, ring.unbuffered,
    ring.buffer_isSome, ring.buffer_length⟩

/-- Overwriting the slot that is next leaves the elements as they were. -/
theorem Ring.elements_setSlot_sendIndex (ring : ch.Ring) (room : ch.count < ch.capacity)
    {bytes : Bytes} (sized : bytes.length = ch.elementSize) :
    (ch.setSlot ch.sendIndex bytes).elements = ch.elements := by
  refine elements_congr rfl fun k hk => ?_
  exact ring.bytesAt_setSlot_of_ne (ring.sendIndex_lt (by omega)) sized
    (ring.position_ne_sendIndex room hk)

/-- Pushing appends. -/
theorem Ring.elements_pushed (ring : ch.Ring) (room : ch.count < ch.capacity) {bytes : Bytes}
    (sized : bytes.length = ch.elementSize) :
    (ch.pushed bytes).elements = ch.elements ++ [bytes] := by
  have hcap : 0 < ch.capacity := by omega
  have hlast : (ch.setSlot ch.sendIndex bytes).bytesAt (ch.position ch.count) = bytes := by
    rw [ring.position_count hcap]
    exact ring.bytesAt_setSlot_self (ring.sendIndex_lt hcap) sized
  calc (ch.pushed bytes).elements
      = (List.range (ch.count + 1)).map fun k =>
          (ch.setSlot ch.sendIndex bytes).bytesAt (ch.position k) := rfl
    _ = (ch.setSlot ch.sendIndex bytes).elements
          ++ [(ch.setSlot ch.sendIndex bytes).bytesAt (ch.position ch.count)] := by
        rw [List.range_succ, List.map_append]
        rfl
    _ = ch.elements ++ [bytes] := by rw [ring.elements_setSlot_sendIndex room sized, hlast]

/-- Popping drops the oldest element. -/
theorem Ring.elements_eq_cons (ring : ch.Ring) (some_left : 0 < ch.count) :
    ch.elements = ch.bytesAt ch.receiveIndex :: ch.popped.elements := by
  have hle := ring.count_le
  obtain ⟨n, hn⟩ := Nat.exists_eq_add_of_le' some_left
  have hcount : ch.popped.count = n := by
    change ch.count - 1 = n
    omega
  rw [elements, elements, hcount, hn, List.range_succ_eq_map, List.map_cons, List.map_map,
    ring.position_zero (by omega)]
  congr 1
  refine List.map_congr_left fun k _ => ?_
  rw [position_popped]
  rfl

@[simp] theorem elements_emptied (ch : Channel) : ch.emptied.elements = [] := rfl

/-! ### Construction -/

/-- The channel that construction yields, if it succeeds. -/
def fresh (id : Nat) (config : Config) : Channel where
  id := id
  capacity := config.capacity
  layout := config.layout
  buffer := if config.capacity = 0 then none else some (Bytes.zeros config.bufferLength)
  count := 0
  sendIndex := 0
  receiveIndex := 0
  closed := false
  senders := .empty
  receivers := .empty

/-- Construction succeeds exactly on a valid configuration whose buffer can be allocated. -/
theorem create_eq_ok_iff {id : Nat} {config : Config} :
    create id config = .ok ch ↔
      config.validate = .ok config.bufferLength ∧ config.bufferLength ≤ Allocator.limit ∧
        ch = fresh id config := by
  unfold create
  cases hv : config.validate with
  | error e => simp
  | ok length =>
    obtain rfl : length = config.bufferLength :=
      ((config.validate_eq_ok_iff length).mp hv).2.2.2
    by_cases hzero : config.capacity = 0
    · have hlen : config.bufferLength = 0 := by rw [Config.bufferLength, hzero, Nat.zero_mul]
      simp [hzero, hlen, fresh, eq_comm]
    · by_cases hlimit : config.bufferLength ≤ Allocator.limit
      · simp [hzero, Allocator.heap, hlimit, fresh, eq_comm]
      · simp [hzero, Allocator.heap, hlimit]

/-- A new channel is a ring. -/
theorem ring_fresh (id : Nat) (config : Config) : (fresh id config).Ring where
  count_le := Nat.zero_le _
  sendIndex_lt h := h
  receiveIndex_lt h := h
  wraps _ := Nat.zero_mod _
  unbuffered _ := ⟨rfl, rfl, rfl⟩
  buffer_isSome := by
    by_cases h : config.capacity = 0
    · simp [fresh, h]
    · simp [fresh, h, Nat.pos_of_ne_zero h]
  buffer_length := by
    intro bytes hb
    by_cases h : config.capacity = 0
    · simp [fresh, h] at hb
    · obtain rfl : Bytes.zeros config.bufferLength = bytes := by simpa [fresh, h] using hb
      exact Bytes.length_zeros _

@[simp] theorem elements_fresh (id : Nat) (config : Config) : (fresh id config).elements = [] := rfl

end Channel

end ByteChannel
