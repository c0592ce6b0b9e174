import ByteChannel.Proofs.Exits

/-!
# Copies that mean something

Copiers are free to write what they like. What the elements of a channel amount to can only be said
of copiers that make something definite of an element: those that, where they do not fault, replace
the destination by a function of the source. `Copier.Yields` says so, and leaves a copier free to
fault at any call and to have written anything by then; `Copier.Computes` says that it does not.

For such copiers this module says what a drain's loop does to the allocator's buffer: element after
element is laid over its beginning, and what lies beyond the last one stays.

## Main definitions

* `Copier.Yields`, `Copier.Computes`

## Main results

* `Batch.items_eq`, `Batch.items_flatten` — reading a batch
* `Channel.Ring.copyOut_yields` — the buffer after a loop that ran to its end
* `Channel.Ring.copyOut_computes` — the loop runs to its end if the buffer is long enough
* `Channel.Ring.items_drained` — the elements of the batch
-/

namespace ByteChannel

namespace Copier

variable {σ : Type} {copier : Copier σ} {size : Nat} {f : Bytes → Bytes}

/-- Between strings of `size` bytes, a copy that is not cut short replaces the destination by `f` of
the source. -/
def Yields (copier : Copier σ) (size : Nat) (f : Bytes → Bytes) : Prop :=
  ∀ s target source, target.length = size → source.length = size →
    (copier.copy s ⟨size, target, source⟩).fault = none →
      (copier.copy s ⟨size, target, source⟩).target = f source

/-- Between strings of `size` bytes, every copy replaces the destination by `f` of the source, and
none is cut short. -/
structure Computes (copier : Copier σ) (size : Nat) (f : Bytes → Bytes) : Prop where
  /-- No copy faults. -/
  fault_eq : ∀ s target source, target.length = size → source.length = size →
    (copier.copy s ⟨size, target, source⟩).fault = none
  /-- All of the destination is replaced. -/
  target_eq : ∀ s target source, target.length = size → source.length = size →
    (copier.copy s ⟨size, target, source⟩).target = f source

theorem Computes.yields (computes : copier.Computes size f) : copier.Yields size f :=
  fun s target source ht hs _ => computes.target_eq s target source ht hs

/-- The plain copy computes the identity. -/
theorem plain_computes (σ : Type) (size : Nat) : (plain σ).Computes size fun e => e where
  fault_eq s target source ht hs := by rw [plain_ok s ⟨size, target, source⟩ ht hs]
  target_eq s target source ht hs := by rw [plain_ok s ⟨size, target, source⟩ ht hs]

/-- What a copier makes of an element is as long as the element, since a destination keeps its
length. -/
theorem Yields.length_eq (yields : copier.Yields size f) {s : σ} {target source : Bytes}
    (ht : target.length = size) (hs : source.length = size)
    (h : (copier.copy s ⟨size, target, source⟩).fault = none) : (f source).length = size := by
  rw [← yields s target source ht hs h, copier.length_target]
  exact ht

end Copier

/-! ### Reading a batch -/

namespace Batch

/-- A batch whose bytes suffice reads without fault, element by element. -/
theorem items_eq {b : Batch} (enough : b.length * b.elementSize ≤ b.bytes.length) :
    b.items = .ok ((List.range b.length).map fun i =>
      b.bytes.window (i * b.elementSize) b.elementSize) := by
  refine mapM_eq_ok fun i hi => ?_
  have hend : i * b.elementSize + b.elementSize ≤ b.length * b.elementSize :=
    Bytes.place_end_le (List.mem_range.mp hi)
  have hstop : (i + 1) * b.elementSize = i * b.elementSize + b.elementSize := by ring
  rw [item, hstop, Bytes.slice_of_le (by omega), Nat.add_sub_cancel_left]

/-- A batch that was put together from pieces of the element size reads as these. -/
theorem items_flatten {size : Nat} {pieces : List Bytes} (tail : Bytes)
    (sized : ∀ p ∈ pieces, p.length = size) :
    Batch.items ⟨pieces.flatten ++ tail, size, pieces.length⟩ = .ok pieces := by
  have hlen := Bytes.length_flatten_of_forall sized
  rw [items_eq (by simp only [List.length_append]; omega)]
  congr 1
  refine List.ext_getElem (by simp) fun i _ hi => ?_
  rw [List.getElem_map, List.getElem_range]
  exact Bytes.window_flatten tail sized hi

end Batch

namespace Channel

variable {σ : Type} {ch : Channel} {copier : Copier σ} {f : Bytes → Bytes}

/-! ### Single elements -/

theorem Ring.target_sendCall (ring : ch.Ring) (yields : copier.Yields ch.elementSize f)
    (room : ch.count < ch.capacity) {s : σ} {element : Bytes}
    (sized : element.length = ch.elementSize)
    (h : (copier.copy s (ch.sendCall element)).fault = none) :
    (copier.copy s (ch.sendCall element)).target = f element :=
  yields s _ element (ring.length_bytesAt_sendIndex room) sized h

theorem Ring.target_receiveCall (ring : ch.Ring) (yields : copier.Yields ch.elementSize f)
    (some_left : 0 < ch.count) {s : σ} {out : Bytes} (sized : out.length = ch.elementSize)
    (h : (copier.copy s (ch.receiveCall out)).fault = none) :
    (copier.copy s (ch.receiveCall out)).target = f (ch.bytesAt ch.receiveIndex) :=
  yields s out _ sized (ring.length_bytesAt_receiveIndex some_left) h

/-! ### The loop of a drain -/

/-- The request that copying slot `i` out as element `j` makes. -/
def drainCall (ch : Channel) (i j : Nat) (bytes : Bytes) : CopyCall :=
  ⟨ch.elementSize, bytes.window (j * ch.elementSize) ch.elementSize, ch.bytesAt i⟩

/-- One round of the loop, where there is room for the element. -/
theorem Ring.copyOut_cons (ring : ch.Ring) (copier : Copier σ) {i : Nat} (hi : i < ch.capacity)
    (is : List Nat) {j : Nat} (s : σ) {bytes : Bytes}
    (fits : j * ch.elementSize + ch.elementSize ≤ bytes.length) :
    ch.copyOut copier (i :: is) j s bytes =
      let copied := copier.copy s (ch.drainCall i j bytes)
      let written := bytes.overwrite (j * ch.elementSize) copied.target
      match copied.fault with
      | some fault => ⟨written, copied.state, [ch.drainCall i j bytes], some fault⟩
      | none =>
        let rest := ch.copyOut copier is (j + 1) copied.state written
        { rest with calls := ch.drainCall i j bytes :: rest.calls } := by
  have hstop : (j + 1) * ch.elementSize = j * ch.elementSize + ch.elementSize := by ring
  have hslice : bytes.slice (j * ch.elementSize) ((j + 1) * ch.elementSize)
      = .ok (bytes.window (j * ch.elementSize) ch.elementSize) := by
    rw [hstop, Bytes.slice_of_le fits, Nat.add_sub_cancel_left]
  rw [copyOut, hslice, ring.slot_eq hi]
  rfl

/-- The loop ends at the first element for which there is no room. -/
theorem copyOut_cons_of_short (ch : Channel) (copier : Copier σ) (i : Nat) (is : List Nat) {j : Nat}
    (s : σ) {bytes : Bytes} (short : bytes.length < j * ch.elementSize + ch.elementSize) :
    ch.copyOut copier (i :: is) j s bytes =
      ⟨bytes, s, [],
        some (.rangeEnd (j * ch.elementSize + ch.elementSize) bytes.length)⟩ := by
  have hstop : (j + 1) * ch.elementSize = j * ch.elementSize + ch.elementSize := by ring
  rw [copyOut, hstop, Bytes.slice_of_lt short]

/-- **The buffer after the loop.** If it ran to its end there was room for all elements; what the
copier made of them lies end to end from place `j` on, each of the element size; and nothing else
is changed. -/
theorem Ring.copyOut_yields (ring : ch.Ring) (yields : copier.Yields ch.elementSize f)
    {is : List Nat} (slots : ∀ i ∈ is, i < ch.capacity) {j : Nat} {s : σ} {bytes : Bytes}
    (start : j * ch.elementSize ≤ bytes.length)
    (h : (ch.copyOut copier is j s bytes).fault = none) :
    (j + is.length) * ch.elementSize ≤ bytes.length ∧
      (∀ i ∈ is, (f (ch.bytesAt i)).length = ch.elementSize) ∧
      (ch.copyOut copier is j s bytes).bytes =
        bytes.take (j * ch.elementSize) ++ (is.map fun i => f (ch.bytesAt i)).flatten ++
          bytes.drop ((j + is.length) * ch.elementSize) := by
  induction is generalizing j s bytes with
  | nil => exact ⟨by simpa using start, by simp, by simp [copyOut]⟩
  | cons i is ih =>
    have hi : i < ch.capacity := slots i List.mem_cons_self
    by_cases fits : j * ch.elementSize + ch.elementSize ≤ bytes.length
    · have htarget : (ch.drainCall i j bytes).target.length = ch.elementSize :=
        Bytes.length_window_of_le fits
      have hsource : (ch.drainCall i j bytes).source.length = ch.elementSize :=
        ring.length_bytesAt hi
      rw [ring.copyOut_cons copier hi is s fits] at h ⊢
      cases hfault : (copier.copy s (ch.drainCall i j bytes)).fault with
      | some fault => simp [hfault] at h
      | none =>
        have hmade : (copier.copy s (ch.drainCall i j bytes)).target = f (ch.bytesAt i) :=
          yields s _ _ htarget hsource hfault
        have hlen : (f (ch.bytesAt i)).length = ch.elementSize :=
          yields.length_eq htarget hsource hfault
        have hnext : (j + 1) * ch.elementSize
            = j * ch.elementSize + (f (ch.bytesAt i)).length := by rw [hlen]; ring
        have hlast : (j + (is.length + 1)) * ch.elementSize
            = (j + 1 + is.length) * ch.elementSize := by ring
        simp only [hfault, hmade] at h ⊢
        obtain ⟨hroom, hsized, hbytes⟩ :=
          ih (fun k hk => slots k (List.mem_cons_of_mem i hk)) (by simp; omega) h
        rw [Bytes.length_overwrite] at hroom
        refine ⟨by rw [List.length_cons, hlast]; exact hroom, ?_, ?_⟩
        · intro k hk
          rcases List.mem_cons.mp hk with rfl | hk
          · exact hlen
          · exact hsized k hk
        · -- the round's own element sits between the old beginning and the rest
          have hbeyond : j * ch.elementSize + (f (ch.bytesAt i)).length
              ≤ (j + 1 + is.length) * ch.elementSize := by
            rw [← hnext]
            exact Nat.mul_le_mul_right _ (Nat.le_add_right _ _)
          rw [hbytes, hnext, Bytes.take_overwrite (by omega),
            Bytes.drop_overwrite (by omega) hbeyond, List.length_cons, hlast, List.map_cons,
            List.flatten_cons]
          simp only [List.append_assoc]
    · rw [copyOut_cons_of_short ch copier i is s (by omega)] at h
      cases h

/-- A copier that never faults gets to the end of the loop if the buffer is long enough. -/
theorem Ring.copyOut_computes (ring : ch.Ring) (computes : copier.Computes ch.elementSize f)
    {is : List Nat} (slots : ∀ i ∈ is, i < ch.capacity) {j : Nat} (s : σ) {bytes : Bytes}
    (room : (j + is.length) * ch.elementSize ≤ bytes.length) :
    (ch.copyOut copier is j s bytes).fault = none := by
  induction is generalizing j s bytes with
  | nil => rfl
  | cons i is ih =>
    have hi : i < ch.capacity := slots i List.mem_cons_self
    have hlast : (j + (i :: is).length) * ch.elementSize
        = (j + 1 + is.length) * ch.elementSize := by
      rw [List.length_cons]
      ring
    have hend : j * ch.elementSize + ch.elementSize ≤ (j + 1 + is.length) * ch.elementSize :=
      Bytes.place_end_le (by omega)
    have fits : j * ch.elementSize + ch.elementSize ≤ bytes.length := by omega
    have hfault : (copier.copy s (ch.drainCall i j bytes)).fault = none :=
      computes.fault_eq s _ _ (Bytes.length_window_of_le fits) (ring.length_bytesAt hi)
    rw [ring.copyOut_cons copier hi is s fits]
    simp only [hfault]
    refine ih (fun k hk => slots k (List.mem_cons_of_mem i hk)) _ ?_
    rw [Bytes.length_overwrite]
    omega

/-! ### What a drain takes -/

theorem Ring.occupied_lt (ring : ch.Ring) (buffered : 0 < ch.capacity) :
    ∀ i ∈ ch.occupied, i < ch.capacity := by
  intro i hi
  rw [ring.occupied_eq] at hi
  obtain ⟨k, _, rfl⟩ := List.mem_map.mp hi
  exact position_lt buffered k

theorem Ring.length_occupied (ring : ch.Ring) : ch.occupied.length = ch.count := by
  simp [ring.occupied_eq]

theorem Ring.map_bytesAt_occupied (ring : ch.Ring) : ch.occupied.map ch.bytesAt = ch.elements := by
  rw [ring.occupied_eq, elements, List.map_map]
  rfl

/-- If the heap can hold a copy of the buffer, a drain gets what it asks for. -/
theorem Ring.heap_request (ring : ch.Ring)
    (allocatable : ch.capacity * ch.elementSize ≤ Allocator.limit) :
    Allocator.heap (ch.count * ch.elementSize)
      = .ok (Bytes.zeros (ch.count * ch.elementSize)) := by
  have hle : ch.count * ch.elementSize ≤ Allocator.limit :=
    (Nat.mul_le_mul_right _ ring.count_le).trans allocatable
  rw [Allocator.heap, if_pos hle]

/-- The elements of a batch are what the copier makes of those of the channel. -/
theorem Ring.items_drained (ring : ch.Ring) (yields : copier.Yields ch.elementSize f)
    (buffered : 0 < ch.capacity) {s : σ} {bytes : Bytes}
    (h : (ch.copyOut copier ch.occupied 0 s bytes).fault = none) :
    Batch.items ⟨(ch.copyOut copier ch.occupied 0 s bytes).bytes, ch.elementSize, ch.count⟩
      = .ok (ch.elements.map f) := by
  obtain ⟨_, hsized, hbytes⟩ :=
    ring.copyOut_yields yields (ring.occupied_lt buffered) (by simp) h
  have hmade : (ch.occupied.map fun i => f (ch.bytesAt i)) = ch.elements.map f := by
    rw [ring.occupied_eq, elements, List.map_map, List.map_map]
    rfl
  have hpieces : ∀ p ∈ ch.elements.map f, p.length = ch.elementSize := by
    rw [← hmade]
    intro p hp
    obtain ⟨i, hi, rfl⟩ := List.mem_map.mp hp
    exact hsized i hi
  have hcount : ch.count = (ch.elements.map f).length := by simp
  rw [hbytes, hmade, Nat.zero_mul, List.take_zero, List.nil_append, hcount]
  exact Batch.items_flatten _ hpieces

end Channel

end ByteChannel
