import ByteChannel.Proofs.CopyCalls

/-!
# How a drain ends, whatever the allocator gives

An allocator is asked for room for all elements and may answer with a string of any length. If it is
long enough, the elements are laid over its beginning and the rest of it stays as it was. If it is
too short, the drain is cut short at the first element that has no room left: with pieces of `size`
bytes in a string of `n`, that is element number `n / size`, so there were as many copies before it.

The threshold of a drain decides whether it goes on, and nothing else.

The copier is one that makes a definite thing of every element and never faults itself, so that all
there is to say depends on the channel and on the string.

## Main results

* `Channel.Ring.copyOut_of_short` — the loop on a string that is too short
* `Channel.Ring.drain_of_room`, `Channel.Ring.drain_of_short` — the two ways a drain goes on
* `Channel.drain_congr_minimum` — what a threshold is for
* `Channel.Reachable.drain_ends` — all of it
-/

namespace ByteChannel

/-- Of pieces of one size, the one whose number is the quotient is the first that has no room. -/
theorem Bytes.first_without_room (b : Bytes) {size : Nat} (h : 0 < size) :
    (∀ k < b.length / size, (k + 1) * size ≤ b.length) ∧
      b.length < (b.length / size + 1) * size := by
  constructor
  · intro k hk
    calc (k + 1) * size ≤ b.length / size * size := Nat.mul_le_mul_right size hk
      _ ≤ b.length := Nat.div_mul_le_self b.length size
  · have hmod := Nat.mod_lt b.length h
    have hdiv := Nat.div_add_mod' b.length size
    rw [Nat.add_mul, Nat.one_mul]
    omega

/-- The copier that complements every byte computes the complement. -/
theorem Copier.inverting_computes (σ : Type) (size : Nat) :
    (inverting σ).Computes size fun e => e.map (fun x => ~~~ x) where
  fault_eq _ _ _ _ _ := rfl
  target_eq s target source ht hs := by
    simp [inverting, total, writeFront, Bytes.overwrite, ht, hs, List.take_of_length_le,
      List.drop_eq_nil_of_le]

namespace Channel

variable {σ : Type} {ch : Channel} {copier : Copier σ} {f : Bytes → Bytes}

/-! ### Strings that are too short -/

/-- **The loop on a string that is too short.** It is cut short at the first place that reaches
beyond the end, and has made a request for each place before. -/
theorem Ring.copyOut_of_short (ring : ch.Ring) (computes : copier.Computes ch.elementSize f)
    {is : List Nat} (slots : ∀ i ∈ is, i < ch.capacity) (j : Nat) (s : σ) (bytes : Bytes)
    (start : j * ch.elementSize ≤ bytes.length)
    (short : bytes.length < (j + is.length) * ch.elementSize) {out : CopiedOut σ}
    (hout : ch.copyOut copier is j s bytes = out) :
    out.fault = some (.rangeEnd ((bytes.length / ch.elementSize + 1) * ch.elementSize)
        bytes.length) ∧
      j + out.calls.length = bytes.length / ch.elementSize := by
  induction is generalizing j s bytes out with
  | nil =>
    rw [List.length_nil, Nat.add_zero] at short
    omega
  | cons i is ih =>
    have hi : i < ch.capacity := slots i List.mem_cons_self
    have hnext : (j + 1) * ch.elementSize = j * ch.elementSize + ch.elementSize := by ring
    by_cases fits : j * ch.elementSize + ch.elementSize ≤ bytes.length
    · have hfits := ring.fits_drainCall hi fits
      have hfault : (copier.copy s (ch.drainCall i j bytes)).fault = none :=
        computes.fault_eq s _ _ hfits.length_target hfits.length_source
      rw [ring.copyOut_cons copier hi is s fits] at hout
      simp only [hfault] at hout
      have hlast : (j + 1 + is.length) * ch.elementSize
          = (j + (i :: is).length) * ch.elementSize := by
        rw [List.length_cons]
        ring
      obtain ⟨hstop, hcalls⟩ :=
        ih (fun k hk => slots k (List.mem_cons_of_mem i hk)) (j + 1)
          (copier.copy s (ch.drainCall i j bytes)).state
          (bytes.overwrite (j * ch.elementSize) (copier.copy s (ch.drainCall i j bytes)).target)
          (by rw [Bytes.length_overwrite]; omega) (by rw [Bytes.length_overwrite]; omega) rfl
      rw [Bytes.length_overwrite] at hstop hcalls
      subst hout
      refine ⟨hstop, ?_⟩
      rw [List.length_cons]
      omega
    · have hplace : bytes.length / ch.elementSize = j :=
        Nat.div_eq_of_lt_le start (by omega)
      rw [copyOut_cons_of_short ch copier i is s (Nat.not_le.mp fits)] at hout
      subst hout
      rw [hplace, hnext]
      exact ⟨rfl, rfl⟩

/-! ### Drains that go on -/

/-- Once there is a string to copy into, a drain ends as its loop does. -/
theorem DrainExit.of_allocated {s : σ} {minimum : Nat} {allocator : Allocator}
    {r : Step σ Empty (Option Batch)} (exit : DrainExit copier s ch minimum allocator r)
    (enough : minimum ≤ ch.count) {bytes : Bytes}
    (allocated : allocator (ch.count * ch.elementSize) = .ok bytes) (buffered : 0 < ch.capacity) :
    ((ch.copyOut copier ch.occupied 0 s bytes).fault = none →
      r.outcome = .ok (some ⟨(ch.copyOut copier ch.occupied 0 s bytes).bytes, ch.elementSize,
        ch.count⟩) ∧ r.channel = ch.emptied) ∧
    ∀ fault, (ch.copyOut copier ch.occupied 0 s bytes).fault = some fault →
      r.outcome = .fault fault ∧
        r.effects.calls = (ch.copyOut copier ch.occupied 0 s bytes).calls ∧ r.channel = ch := by
  cases exit with
  | tooFew h => omega
  | noBuffer _ _ refused =>
    rw [allocated] at refused
    cases refused
  | unbuffered _ _ _ h => omega
  | cutShort _ bytes' allocated' _ fault h =>
    obtain rfl : bytes = bytes' := Except.ok.inj (allocated.symm.trans allocated')
    simp [h]
  | drained _ bytes' allocated' _ h =>
    obtain rfl : bytes = bytes' := Except.ok.inj (allocated.symm.trans allocated')
    simp [h]

/-- A drain whose string is long enough. -/
theorem Ring.drain_of_room (ring : ch.Ring) (computes : copier.Computes ch.elementSize f) (s : σ)
    {minimum : Nat} (enough : minimum ≤ ch.count) {allocator : Allocator} {bytes : Bytes}
    (allocated : allocator (ch.count * ch.elementSize) = .ok bytes) (buffered : 0 < ch.capacity)
    (room : ch.count * ch.elementSize ≤ bytes.length) {r : Step σ Empty (Option Batch)}
    (hr : ch.drain copier s minimum allocator = r) :
    r.outcome = .ok (some ⟨(ch.elements.map f).flatten ++ bytes.drop (ch.count * ch.elementSize),
        ch.elementSize, ch.count⟩) ∧
      r.channel = ch.emptied := by
  have slots := ring.occupied_lt buffered
  have hnone : (ch.copyOut copier ch.occupied 0 s bytes).fault = none :=
    ring.copyOut_computes computes slots s (by rw [Nat.zero_add, ring.length_occupied]; exact room)
  obtain ⟨-, -, hbytes⟩ := ring.copyOut_yields computes.yields slots (by simp) hnone
  have hmade : (ch.occupied.map fun i => f (ch.bytesAt i)) = ch.elements.map f := by
    rw [← ring.map_bytesAt_occupied, List.map_map]
    rfl
  rw [hmade, Nat.zero_mul, List.take_zero, List.nil_append, Nat.zero_add, ring.length_occupied]
    at hbytes
  have exit := drain_exit copier s ch minimum allocator
  rw [hr] at exit
  obtain ⟨hdrained, -⟩ := exit.of_allocated enough allocated buffered
  have hends := hdrained hnone
  rwa [hbytes] at hends

/-- A drain whose string is too short. -/
theorem Ring.drain_of_short (ring : ch.Ring) (computes : copier.Computes ch.elementSize f) (s : σ)
    {minimum : Nat} (enough : minimum ≤ ch.count) {allocator : Allocator} {bytes : Bytes}
    (allocated : allocator (ch.count * ch.elementSize) = .ok bytes)
    (short : bytes.length < ch.count * ch.elementSize) {r : Step σ Empty (Option Batch)}
    (hr : ch.drain copier s minimum allocator = r) :
    r.outcome = .fault (.rangeEnd ((bytes.length / ch.elementSize + 1) * ch.elementSize)
        bytes.length) ∧
      r.effects.calls.length = bytes.length / ch.elementSize ∧ r.channel = ch := by
  have some_left : 0 < ch.count :=
    Nat.pos_of_mul_pos_right (by omega : 0 < ch.count * ch.elementSize)
  have hcap : 0 < ch.capacity := Nat.lt_of_lt_of_le some_left ring.count_le
  obtain ⟨hfault, hcalls⟩ :=
    ring.copyOut_of_short computes (ring.occupied_lt hcap) 0 s bytes (by simp)
      (by rw [Nat.zero_add, ring.length_occupied]; exact short) rfl
  rw [Nat.zero_add] at hcalls
  have exit := drain_exit copier s ch minimum allocator
  rw [hr] at exit
  obtain ⟨-, hcut⟩ := exit.of_allocated enough allocated hcap
  obtain ⟨houtcome, hmade, hchannel⟩ := hcut _ hfault
  exact ⟨houtcome, by rw [hmade, hcalls], hchannel⟩

/-- Two thresholds of which the channel passes both, or neither, come to the same. Only the notice
that tells the threshold differs. -/
theorem drain_congr_minimum (copier : Copier σ) (s : σ) (ch : Channel) (allocator : Allocator)
    {minimum minimum' : Nat} (same : ch.count < minimum' ↔ ch.count < minimum)
    {r r' : Step σ Empty (Option Batch)} (hr : ch.drain copier s minimum allocator = r)
    (hr' : ch.drain copier s minimum' allocator = r') :
    r'.outcome = r.outcome ∧ r'.channel = r.channel ∧ r'.copier = r.copier ∧
      r'.effects.calls = r.effects.calls ∧ r'.effects.requests = r.effects.requests := by
  subst hr hr'
  simp only [drain, same]
  split
  · exact ⟨rfl, rfl, rfl, rfl, rfl⟩
  · split
    · exact ⟨rfl, rfl, rfl, rfl, rfl⟩
    · split
      · exact ⟨rfl, rfl, rfl, rfl, rfl⟩
      · split
        · exact ⟨rfl, rfl, rfl, rfl, rfl⟩
        · exact ⟨rfl, rfl, rfl, rfl, rfl⟩

/-! ### All drains -/

/-- The elements, read slot by slot from the receive index on around the ring. -/
theorem Ring.mapM_slot_position (ring : ch.Ring) :
    (List.range ch.count).mapM (fun k => ch.slot ((ch.receiveIndex + k) % ch.capacity))
      = .ok ch.elements := by
  refine mapM_eq_ok fun k hk => ?_
  have hcap : 0 < ch.capacity :=
    Nat.lt_of_lt_of_le (Nat.zero_lt_of_lt (List.mem_range.mp hk)) ring.count_le
  exact ring.slot_eq (position_lt hcap k)

theorem DrainExit.of_tooFew {s : σ} {minimum : Nat} {allocator : Allocator}
    {r : Step σ Empty (Option Batch)} (exit : DrainExit copier s ch minimum allocator r)
    (h : ch.count < minimum) :
    r.outcome = .ok none ∧ r.effects.requests = [] ∧ r.effects.calls = [] ∧ r.channel = ch := by
  cases exit with
  | tooFew => exact ⟨rfl, rfl, rfl, rfl⟩
  | noBuffer enough | unbuffered enough | cutShort enough | drained enough => omega

theorem DrainExit.requests_of_enough {s : σ} {minimum : Nat} {allocator : Allocator}
    {r : Step σ Empty (Option Batch)} (exit : DrainExit copier s ch minimum allocator r)
    (enough : minimum ≤ ch.count) : r.effects.requests = [ch.count * ch.elementSize] := by
  cases exit with
  | tooFew h => omega
  | noBuffer | unbuffered | cutShort | drained => rfl

theorem DrainExit.of_unbuffered {s : σ} {minimum : Nat} {allocator : Allocator}
    {r : Step σ Empty (Option Batch)} (exit : DrainExit copier s ch minimum allocator r)
    {bytes : Bytes} (allocated : allocator (ch.count * ch.elementSize) = .ok bytes)
    (h : ch.capacity = 0) :
    r.outcome = .ok none ∧ r.effects.calls = [] ∧ r.channel = ch := by
  cases exit with
  | tooFew | unbuffered => exact ⟨rfl, rfl, rfl⟩
  | noBuffer _ fault refused =>
    rw [allocated] at refused
    cases refused
  | cutShort _ _ _ buffered | drained _ _ _ buffered => omega

/-- **How a drain ends.** Let a channel have come about in any way, and let the copier make `f` of
every element and never fault.

* If the channel holds fewer elements than the threshold, the drain yields nothing, and the
  allocator is not asked.
* Otherwise the allocator is asked once, for room for all elements. Say it answers `bytes`. A
  channel without a buffer, which asks for no bytes, then yields nothing. If the string is long
  enough, what the copier makes of the elements lies end to end at its beginning, and beyond them it
  is as it was; the channel is empty, its indices at the start. If the string is too short, the
  drain is cut short at the first element that has no room, after as many copies as there were
  elements before it, and the channel is as it was.
* Thresholds that are met or missed alike make no difference. -/
theorem Reachable.drain_ends (reachable : ch.Reachable)
    (computes : copier.Computes ch.elementSize f) (s : σ) (minimum : Nat) (allocator : Allocator)
    {r : Step σ Empty (Option Batch)} (hr : ch.drain copier s minimum allocator = r) :
    (ch.count < minimum →
      r.outcome = .ok none ∧ r.effects.requests = [] ∧ r.effects.calls = [] ∧ r.channel = ch) ∧
    (∀ bytes, minimum ≤ ch.count → allocator (ch.count * ch.elementSize) = .ok bytes →
      r.effects.requests = [ch.count * ch.elementSize] ∧
      (ch.capacity = 0 →
        ch.count * ch.elementSize = 0 ∧ r.outcome = .ok none ∧ r.effects.calls = [] ∧
          r.channel = ch) ∧
      (1 ≤ ch.capacity → ch.count * ch.elementSize ≤ bytes.length →
        ∃ sources,
          (List.range ch.count).mapM (fun k => ch.slot ((ch.receiveIndex + k) % ch.capacity))
            = .ok sources ∧
          r.outcome = .ok (some ⟨(sources.map f).flatten ++ bytes.drop (ch.count * ch.elementSize),
            ch.elementSize, ch.count⟩) ∧
          r.channel = { ch with count := 0, sendIndex := 0, receiveIndex := 0 }) ∧
      (bytes.length < ch.count * ch.elementSize →
        r.outcome = .fault (.rangeEnd ((bytes.length / ch.elementSize + 1) * ch.elementSize)
          bytes.length) ∧
        (∀ k < bytes.length / ch.elementSize, (k + 1) * ch.elementSize ≤ bytes.length) ∧
        bytes.length < (bytes.length / ch.elementSize + 1) * ch.elementSize ∧
        r.effects.calls.length = bytes.length / ch.elementSize ∧ r.channel = ch)) ∧
    ∀ minimum' r', (ch.count < minimum' ↔ ch.count < minimum) →
      ch.drain copier s minimum' allocator = r' →
      r'.outcome = r.outcome ∧ r'.channel = r.channel ∧ r'.copier = r.copier ∧
        r'.effects.calls = r.effects.calls ∧ r'.effects.requests = r.effects.requests := by
  have ring := reachable.ring
  have exit := drain_exit copier s ch minimum allocator
  rw [hr] at exit
  refine ⟨exit.of_tooFew, ?_, ?_⟩
  · intro bytes enough allocated
    refine ⟨exit.requests_of_enough enough, ?_, ?_, ?_⟩
    · intro unbuffered
      have hzero : ch.count * ch.elementSize = 0 := by
        rw [(ring.unbuffered unbuffered).1, Nat.zero_mul]
      exact ⟨hzero, exit.of_unbuffered allocated unbuffered⟩
    · intro buffered room
      have hends := ring.drain_of_room computes s enough allocated buffered room hr
      exact ⟨ch.elements, ring.mapM_slot_position, hends⟩
    · intro short
      obtain ⟨houtcome, hcalls, hchannel⟩ :=
        ring.drain_of_short computes s enough allocated short hr
      have hsize : 0 < ch.elementSize :=
        Nat.pos_of_mul_pos_left (by omega : 0 < ch.count * ch.elementSize)
      obtain ⟨hbefore, hbeyond⟩ := Bytes.first_without_room bytes hsize
      exact ⟨houtcome, hbefore, hbeyond, hcalls, hchannel⟩
  · intro minimum' r' same hr'
    exact drain_congr_minimum copier s ch allocator same hr hr'

/-- A full ring of three slots whose oldest element is in the middle, drained by a copier that
complements all bytes: with a byte too many, which stays, and with a byte too few, where the last
element has no room. -/
theorem Reachable.drain_ends_inverting :
    ∃ ch : Channel, ch.Reachable ∧ (Copier.inverting Unit).Computes ch.elementSize
        (fun e => e.map (fun x => ~~~ x)) ∧ 1 ≤ ch.capacity ∧ 3 ≤ ch.count ∧
      ch.elements = [[3, 4], [5, 6], [7, 8]] ∧ ch.receiveIndex = 1 ∧
      (ch.drain (Copier.inverting Unit) () 3 (Allocator.long 1 0xee)).outcome
        = .ok (some ⟨[252, 251, 250, 249, 248, 247, 0xee], 2, 3⟩) ∧
      (ch.drain (Copier.inverting Unit) () 3 Allocator.short).outcome = .fault (.rangeEnd 6 5) ∧
      (ch.drain (Copier.inverting Unit) () 3 Allocator.short).effects.calls.length = 2 ∧
      (ch.drain (Copier.inverting Unit) () 3 Allocator.short).channel = ch := by
  let before : List Operation :=
    [.send [1, 2], .send [3, 4], .send [5, 6], .receive [0, 0], .send [7, 8]]
  have reachable :
      ((fresh 1 ⟨3, 2, 1⟩).performAll (Copier.plain Unit) () before).channel.Reachable :=
    ⟨Unit, Copier.plain Unit, (), 1, ⟨3, 2, 1⟩, fresh 1 ⟨3, 2, 1⟩, before, by decide, rfl⟩
  generalize hch : ((fresh 1 ⟨3, 2, 1⟩).performAll (Copier.plain Unit) () before).channel = ch
    at reachable
  have helements : ch.elements = [[3, 4], [5, 6], [7, 8]] := by rw [← hch]; decide
  have hcount : ch.count = 3 := by rw [← hch]; decide
  have hsize : ch.elementSize = 2 := by rw [← hch]; decide
  have hcap : 1 ≤ ch.capacity := by rw [← hch]; decide
  have computes := Copier.inverting_computes Unit ch.elementSize
  obtain ⟨-, hlong, -⟩ := reachable.drain_ends computes () 3 (Allocator.long 1 0xee) rfl
  obtain ⟨-, hshort, -⟩ := reachable.drain_ends computes () 3 Allocator.short rfl
  obtain ⟨-, -, hroom, -⟩ := hlong (List.replicate 7 0xee) (by omega) (by rw [hcount, hsize]; rfl)
  obtain ⟨-, -, -, hcut⟩ := hshort (Bytes.zeros 5) (by omega) (by rw [hcount, hsize]; rfl)
  obtain ⟨sources, hsources, hbatch, -⟩ := hroom hcap (by rw [hcount, hsize]; decide)
  obtain ⟨hfault, -, -, hcalls, hchannel⟩ := hcut (by rw [hcount, hsize]; decide)
  rw [reachable.ring.mapM_slot_position, helements] at hsources
  obtain rfl := Except.ok.inj hsources
  rw [hcount, hsize] at hbatch
  rw [hsize] at hfault hcalls
  exact ⟨ch, reachable, computes, hcap, by omega, helements, by rw [← hch]; decide, hbatch, hfault,
    hcalls, hchannel⟩

end Channel

end ByteChannel
