import ByteChannel.Proofs.Slots

/-!
# Looking at a batch

A batch is one string, an element size and a number of elements. Its elements are ranges of the
string, and they are cut out without asking whether the string is long enough. What makes this safe
is in no field of the batch: the loop that filled it got to its end, and each of its rounds cut the
same range out of the same string before it wrote there. So there is room for every element,
whatever the allocator gave and whatever the copier made of it.

The elements can be listed, and they can be looked up one by one. Both are written down here a
second time as a machine does them that checks its arithmetic and its ranges, and the two ways, on
the machine or not, come to the same elements. Where elements have no bytes the string says nothing
about their number, and the places of the machine are bounded by the channel's capacity alone.

## Main definitions

* `Batch.itemsChecked`, `Batch.getChecked` — the machine

## Main results

* `Channel.Ring.room_of_copyOut` — a loop that got to its end had room for all elements
* `Batch.get?_eq`, `Batch.itemsChecked_eq`, `Batch.getChecked_eq` — the views of a batch with room
* `Channel.Reachable.views_of_drained` — the views of every batch there is
-/

namespace ByteChannel

namespace Batch

variable {b : Batch}

/-! ### The machine -/

/-- The bytes of element `i`. -/
def itemChecked (b : Batch) (i : Nat) : Option Bytes := do
  let (start, stop) ← Word.place i b.elementSize
  b.bytes.rangeChecked start stop

/-- All elements in order. -/
def itemsChecked (b : Batch) : Option (List Bytes) :=
  (List.range b.length).mapM b.itemChecked

/-- The bytes of element `i`, if there is such an element. No place is computed if there is none. -/
def getChecked (b : Batch) (i : Nat) : Option (Option Bytes) :=
  if i < b.length then (b.itemChecked i).map some else some none

/-! ### Batches with room for their elements -/

/-- The pieces of a string that a batch takes for its elements. -/
def pieces (b : Batch) : List Bytes :=
  (List.range b.length).map fun i => b.bytes.window (i * b.elementSize) b.elementSize

theorem getElem?_pieces (b : Batch) (i : Nat) :
    b.pieces[i]? =
      if i < b.length then some (b.bytes.window (i * b.elementSize) b.elementSize) else none := by
  by_cases hi : i < b.length <;> simp [pieces, hi]

theorem length_of_mem_pieces (room : b.length * b.elementSize ≤ b.bytes.length) :
    ∀ e ∈ b.pieces, e.length = b.elementSize := by
  intro e he
  obtain ⟨i, hi, rfl⟩ := List.mem_map.mp he
  have hend : i * b.elementSize + b.elementSize ≤ b.length * b.elementSize :=
    Bytes.place_end_le (List.mem_range.mp hi)
  exact Bytes.length_window_of_le (hend.trans room)

/-- Looking up agrees with the list, also where there is nothing to find. -/
theorem get?_eq (room : b.length * b.elementSize ≤ b.bytes.length) (i : Nat) :
    b.get? i = .ok b.pieces[i]? := by
  rw [getElem?_pieces, get?]
  by_cases hi : i < b.length
  · have hend : i * b.elementSize + b.elementSize ≤ b.length * b.elementSize :=
      Bytes.place_end_le hi
    have hstop : (i + 1) * b.elementSize = i * b.elementSize + b.elementSize := by ring
    rw [if_pos hi, if_pos hi, item, hstop, Bytes.slice_of_le (hend.trans room),
      Nat.add_sub_cancel_left]
    rfl
  · rw [if_neg hi, if_neg hi]

/-- The machine reads an element whose place is made of numbers of 64 bits. -/
theorem itemChecked_eq (room : b.length * b.elementSize ≤ b.bytes.length)
    (length_lt : b.length < Config.sizeLimit)
    (total_lt : b.length * b.elementSize < Config.sizeLimit) {i : Nat} (hi : i < b.length) :
    b.itemChecked i = some (b.bytes.window (i * b.elementSize) b.elementSize) := by
  have hend : (i + 1) * b.elementSize ≤ b.length * b.elementSize := Nat.mul_le_mul_right _ hi
  have hplace := Word.place_eq_some (Nat.lt_of_le_of_lt hi length_lt)
    (Nat.lt_of_le_of_lt hend total_lt)
  simp only [itemChecked, hplace, Option.bind_eq_bind, Option.bind_some,
    Bytes.rangeChecked_place (hend.trans room)]

theorem itemsChecked_eq (room : b.length * b.elementSize ≤ b.bytes.length)
    (length_lt : b.length < Config.sizeLimit)
    (total_lt : b.length * b.elementSize < Config.sizeLimit) :
    b.itemsChecked = some b.pieces :=
  mapM_eq_pure fun _ hi => itemChecked_eq room length_lt total_lt (List.mem_range.mp hi)

theorem getChecked_eq (room : b.length * b.elementSize ≤ b.bytes.length)
    (length_lt : b.length < Config.sizeLimit)
    (total_lt : b.length * b.elementSize < Config.sizeLimit) (i : Nat) :
    b.getChecked i = some b.pieces[i]? := by
  rw [getElem?_pieces, getChecked]
  by_cases hi : i < b.length
  · rw [if_pos hi, if_pos hi, itemChecked_eq room length_lt total_lt hi]
    rfl
  · rw [if_neg hi, if_neg hi]

end Batch

namespace Channel

variable {σ : Type} {ch : Channel} {copier : Copier σ} {s : σ}

/-! ### Every batch has room -/

/-- The loop of a drain works in place, however it ends. -/
theorem length_copyOut (copier : Copier σ) (ch : Channel) (is : List Nat) (j : Nat) (s : σ)
    (bytes : Bytes) : (ch.copyOut copier is j s bytes).bytes.length = bytes.length := by
  induction is generalizing j s bytes with
  | nil => rfl
  | cons i is ih =>
    rw [copyOut]
    split
    · rfl
    · rfl
    · dsimp only
      split
      · exact Bytes.length_overwrite ..
      · rw [ih, Bytes.length_overwrite]

/-- **Room for all elements.** A loop that got to its end has asked for the last place with all the
others, and each request was about a range of full size. -/
theorem Ring.room_of_copyOut (ring : ch.Ring) {is : List Nat} (slots : ∀ i ∈ is, i < ch.capacity)
    {bytes : Bytes} (h : (ch.copyOut copier is 0 s bytes).fault = none) :
    is.length * ch.elementSize ≤ bytes.length := by
  obtain ⟨-, hfits, hall⟩ := ring.calls_copyOut copier slots 0 s bytes rfl
  rw [hall h] at hfits
  cases hlen : is.length with
  | zero => simp
  | succ n =>
    have hn : n < is.length := by omega
    have hlast : (ch.drainCalls bytes is 0)[n]? = some (ch.drainCall is[n] n bytes) := by
      rw [getElem?_drainCalls, List.getElem?_eq_getElem hn, Nat.zero_add]
      rfl
    have hfull := (hfits _ (List.mem_of_getElem? hlast)).length_target
    rw [Nat.succ_mul]
    exact Bytes.place_end_le_of_length_window hfull

/-- A batch holds as many elements as the channel did, of its size, and has room for them. -/
theorem DrainExit.room {minimum : Nat} {allocator : Allocator} {r : Step σ Empty (Option Batch)}
    (exit : DrainExit copier s ch minimum allocator r) (ring : ch.Ring) {b : Batch}
    (drained : r.outcome = .ok (some b)) :
    b.length = ch.count ∧ b.elementSize = ch.elementSize ∧
      b.length * b.elementSize ≤ b.bytes.length := by
  cases exit with
  | tooFew | noBuffer | unbuffered | cutShort => cases drained
  | drained _ bytes _ buffered h =>
    obtain rfl := Option.some.inj (Outcome.ok.inj drained)
    have room := ring.room_of_copyOut (ring.occupied_lt buffered) h
    rw [ring.length_occupied] at room
    refine ⟨rfl, rfl, ?_⟩
    dsimp only
    rw [length_copyOut]
    exact room

/-- **The views of a batch agree and never fault.** Take a drain of a channel that came about in any
way, with a capacity of 64 bits; with any copier, any threshold and any allocator. If it answers
with a batch, then this has as many elements as the channel had, of its element size; listing them
does not fault and gives so many strings of that size; looking up any index does not fault and finds
what the list has there, if anything; both come to the same on the machine that checks its
arithmetic and ranges; and the elements laid end to end are the beginning of the batch's string. -/
theorem Reachable.views_of_drained (reachable : ch.Reachable)
    (capacity_lt : ch.capacity < Config.sizeLimit) (copier : Copier σ) (s : σ) (minimum : Nat)
    (allocator : Allocator) {b : Batch}
    (drained : (ch.drain copier s minimum allocator).outcome = .ok (some b)) :
    b.length = ch.count ∧ b.elementSize = ch.elementSize ∧
      ∃ items, b.items = .ok items ∧ b.itemsChecked = some items ∧ items.length = b.length ∧
        (∀ e ∈ items, e.length = b.elementSize) ∧
        (∀ i, b.get? i = .ok items[i]? ∧ b.getChecked i = some items[i]?) ∧
        items.flatten = b.bytes.take (b.length * b.elementSize) := by
  have small : ch.Representable := ⟨reachable.ring, capacity_lt, reachable.allocatable⟩
  obtain ⟨hlength, hsize, room⟩ :=
    (drain_exit copier s ch minimum allocator).room small.ring drained
  have length_lt : b.length < Config.sizeLimit := by
    rw [hlength]
    exact Nat.lt_of_le_of_lt small.ring.count_le capacity_lt
  have total_lt : b.length * b.elementSize < Config.sizeLimit := by
    rw [hlength, hsize]
    exact small.mul_lt small.ring.count_le
  refine ⟨hlength, hsize, b.pieces, Batch.items_eq room,
    Batch.itemsChecked_eq room length_lt total_lt, by simp [Batch.pieces],
    Batch.length_of_mem_pieces room, fun i => ⟨Batch.get?_eq room i, ?_⟩,
    Bytes.flatten_windows b.bytes b.elementSize b.length⟩
  exact Batch.getChecked_eq room length_lt total_lt i

/-- A full ring of two slots, wrapped, with a copier that writes only half of each element and an
allocator that gives three bytes too many; and elements without bytes. -/
theorem Reachable.views_of_drained_half_written :
    (∃ (ch : Channel) (b : Batch), ch.Reachable ∧ ch.capacity < Config.sizeLimit ∧
      (ch.drain (Copier.halving Unit) () 2 (Allocator.long 3 0xee)).outcome = .ok (some b) ∧
      b = ⟨[3, 0xee, 5, 0xee, 0xee, 0xee, 0xee], 2, 2⟩ ∧
      b.itemsChecked = some [[3, 0xee], [5, 0xee]] ∧ b.getChecked 1 = some (some [5, 0xee]) ∧
      b.getChecked (Config.sizeLimit - 1) = some none) ∧
    ∃ (ch : Channel) (b : Batch), ch.Reachable ∧ ch.capacity < Config.sizeLimit ∧
      (ch.drain (Copier.plain Unit) () 1 Allocator.heap).outcome = .ok (some b) ∧
      b = ⟨[], 0, 2⟩ ∧ b.itemsChecked = some [[], []] ∧ b.getChecked 1 = some (some []) := by
  refine ⟨?_, ?_⟩
  · have reachable : (((fresh 1 ⟨2, 2, 1⟩).performAll (Copier.plain Unit) ()
        [.send [1, 2], .send [3, 4], .receive [0, 0], .send [5, 6]]).channel).Reachable :=
      ⟨Unit, Copier.plain Unit, (), 1, ⟨2, 2, 1⟩, _, _, by decide, rfl⟩
    obtain ⟨-, -, items, hitems, hchecked, -, -, hget, -⟩ :=
      reachable.views_of_drained (by decide) (Copier.halving Unit) () 2 (Allocator.long 3 0xee)
        (b := ⟨[3, 0xee, 5, 0xee, 0xee, 0xee, 0xee], 2, 2⟩) rfl
    obtain rfl : [[3, 0xee], [5, 0xee]] = items := Except.ok.inj hitems
    exact ⟨_, _, reachable, by decide, rfl, rfl, hchecked, (hget 1).2, (hget _).2⟩
  · have reachable : (((fresh 1 ⟨Config.sizeLimit - 1, 0, 1⟩).performAll (Copier.plain Unit) ()
        [.send [], .send []]).channel).Reachable :=
      ⟨Unit, Copier.plain Unit, (), 1, ⟨Config.sizeLimit - 1, 0, 1⟩, _, _, by decide, rfl⟩
    obtain ⟨-, -, items, hitems, hchecked, -, -, hget, -⟩ :=
      reachable.views_of_drained (by decide) (Copier.plain Unit) () 1 Allocator.heap
        (b := ⟨[], 0, 2⟩) rfl
    obtain rfl : [[], []] = items := Except.ok.inj hitems
    exact ⟨_, _, reachable, by decide, rfl, rfl, hchecked, (hget 1).2⟩

end Channel

end ByteChannel
