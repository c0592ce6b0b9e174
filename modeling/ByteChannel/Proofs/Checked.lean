import ByteChannel.Proofs.Copying
import ByteChannel.Proofs.Reachable

/-!
# Channels on a machine

Numbers in this library are unbounded, and a slot or a range that does not exist is a fault. A
machine has numbers of 64 bits. This module writes sending, receiving and draining down a second
time, as a machine does them that checks everything: each sum, difference and product is taken of
integers and must then be a number of 64 bits, each slot must be one of the channel's, and each
range must lie inside its string. Where a check fails the machine stops, with no result at all.

The machine never stops. On a channel that was constructed and then used in any way whatever, its
operations are those of the library, result for result. Three facts are behind all the checks: the
ring invariant, which bounds the indices and the count by the capacity; that the capacity is itself
a number of 64 bits; and that the buffer was allocated, so that its length is below `2 ^ 63`. The
second fact does not follow from the third, as elements may have no bytes at all.

## Main definitions

* `Word.add`, `Word.sub`, `Word.mul`, `Word.place` — arithmetic that is checked
* `Channel.sendChecked`, `Channel.receiveChecked`, `Channel.drainChecked` — the machine
* `Operation.Regular` — operations whose caller keeps to the rules

## Main results

* `Channel.Representable.sendChecked_eq`, `Channel.Representable.receiveChecked_eq`,
  `Channel.Representable.drainChecked_eq` — the machine does what the library does
* `Channel.Representable.fault?_perform` — regular operations do not fault
* `Channel.checked_of_create` — both, after every run
-/

namespace ByteChannel

/-! ### Checked arithmetic -/

namespace Word

/-- An integer as a number of 64 bits, if it is one. -/
def ofInt (n : Int) : Option Nat :=
  if 0 ≤ n ∧ n < Config.sizeLimit then some n.toNat else none

/-- The sum, if it is a number of 64 bits. -/
def add (a b : Nat) : Option Nat := ofInt ((a : Int) + b)

/-- The difference, if it is a number of 64 bits. -/
def sub (a b : Nat) : Option Nat := ofInt ((a : Int) - b)

/-- The product, if it is a number of 64 bits. -/
def mul (a b : Nat) : Option Nat := ofInt ((a : Int) * b)

/-- Where the piece number `i` of a row of equal pieces starts and stops. -/
def place (i size : Nat) : Option (Nat × Nat) := do
  let start ← mul i size
  let next ← add i 1
  let stop ← mul next size
  return (start, stop)

theorem ofInt_natCast {n : Nat} (h : n < Config.sizeLimit) : ofInt n = some n := by
  rw [ofInt, if_pos ⟨Int.natCast_nonneg n, Int.ofNat_lt.mpr h⟩, Int.toNat_natCast]

theorem add_eq_some {a b : Nat} (h : a + b < Config.sizeLimit) : add a b = some (a + b) := by
  rw [add, ← Int.natCast_add, ofInt_natCast h]

theorem sub_eq_some {a b : Nat} (hle : b ≤ a) (h : a < Config.sizeLimit) :
    sub a b = some (a - b) := by
  rw [sub, ← Int.natCast_sub hle, ofInt_natCast (by omega)]

theorem mul_eq_some {a b : Nat} (h : a * b < Config.sizeLimit) : mul a b = some (a * b) := by
  rw [mul, ← Int.natCast_mul, ofInt_natCast h]

theorem place_eq_some {i size : Nat} (hnext : i + 1 < Config.sizeLimit)
    (hstop : (i + 1) * size < Config.sizeLimit) :
    place i size = some (i * size, (i + 1) * size) := by
  have hstart : i * size < Config.sizeLimit :=
    Nat.lt_of_le_of_lt (Nat.mul_le_mul_right size (Nat.le_succ i)) hstop
  -- the steps are proved, not left to the kernel, which would compare sums with `2 ^ 64` one by one
  simp -implicitDefEqProofs only [place, mul_eq_some hstart, add_eq_some hnext,
    Option.bind_eq_bind, Option.bind_some, mul_eq_some hstop, Option.pure_def]

end Word

/-- The bytes from `start` up to `stop`, if that is a range of the string. -/
def Bytes.rangeChecked (b : Bytes) (start stop : Nat) : Option Bytes :=
  if start ≤ stop ∧ stop ≤ b.length then some (b.window start (stop - start)) else none

theorem Bytes.rangeChecked_place {b : Bytes} {i size : Nat} (h : (i + 1) * size ≤ b.length) :
    b.rangeChecked (i * size) ((i + 1) * size) = some (b.window (i * size) size) := by
  have hstop : (i + 1) * size = i * size + size := by ring
  rw [rangeChecked, if_pos ⟨by omega, h⟩, hstop, Nat.add_sub_cancel_left]

namespace Channel

variable {σ : Type} {ch : Channel}

/-! ### The machine -/

/-- The bytes of slot `i`. -/
def slotChecked (ch : Channel) (i : Nat) : Option Bytes := do
  guard (i < ch.capacity)
  let (start, stop) ← Word.place i ch.elementSize
  let buffer ← ch.buffer
  buffer.rangeChecked start stop

/-- Send an element. -/
def sendChecked (copier : Copier σ) (s : σ) (ch : Channel) (element : Bytes) :
    Option (Step σ SendError Unit) :=
  if element.length ≠ ch.elementSize then
    some ⟨.fault (.elementLength element.length ch.elementSize), ch, s, {}⟩
  else if ch.closed then some ⟨.error (.closed element), ch, s, {}⟩
  else if ch.capacity ≤ ch.count then some ⟨.error (.full element), ch, s, {}⟩
  else do
    let target ← ch.slotChecked ch.sendIndex
    let call : CopyCall := ⟨ch.elementSize, target, element⟩
    let copied := copier.copy s call
    let written := ch.setSlot ch.sendIndex copied.target
    match copied.fault with
    | some fault => return ⟨.fault fault, written, copied.state, { calls := [call] }⟩
    | none =>
      let next ← Word.add ch.sendIndex 1
      let count ← Word.add ch.count 1
      return ⟨.ok (), { written with sendIndex := next % ch.capacity, count }, copied.state,
        { calls := [call] }⟩

/-- Receive the oldest element. -/
def receiveChecked (copier : Copier σ) (s : σ) (ch : Channel) (out : Bytes) :
    Option (Received σ) :=
  if out.length ≠ ch.elementSize then
    some ⟨⟨.fault (.outputLength out.length ch.elementSize), ch, s, {}⟩, out⟩
  else if ch.count = 0 then
    some ⟨⟨.error (if ch.closed then .closed else .empty), ch, s, {}⟩, out⟩
  else do
    let source ← ch.slotChecked ch.receiveIndex
    let call : CopyCall := ⟨ch.elementSize, out, source⟩
    let copied := copier.copy s call
    match copied.fault with
    | some fault => return ⟨⟨.fault fault, ch, copied.state, { calls := [call] }⟩, copied.target⟩
    | none =>
      let next ← Word.add ch.receiveIndex 1
      let count ← Word.sub ch.count 1
      return ⟨⟨.ok (), { ch with receiveIndex := next % ch.capacity, count }, copied.state,
        { calls := [call] }⟩, copied.target⟩

/-- Copy the elements in the given slots into a buffer, as its elements number `j` and on. -/
def copyOutChecked (copier : Copier σ) (ch : Channel) :
    List Nat → (j : Nat) → σ → Bytes → Option (CopiedOut σ)
  | [], _, s, bytes => some ⟨bytes, s, [], none⟩
  | i :: is, j, s, bytes => do
    let (start, stop) ← Word.place j ch.elementSize
    let target ← bytes.rangeChecked start stop
    let source ← ch.slotChecked i
    let call : CopyCall := ⟨ch.elementSize, target, source⟩
    let copied := copier.copy s call
    let bytes := bytes.overwrite start copied.target
    match copied.fault with
    | some fault => return ⟨bytes, copied.state, [call], some fault⟩
    | none =>
      let rest ← copyOutChecked copier ch is (j + 1) copied.state bytes
      return { rest with calls := call :: rest.calls }

/-- The slots that hold elements, the oldest first. -/
def occupiedChecked (ch : Channel) : Option (List Nat) := do
  let room ← Word.sub ch.capacity ch.receiveIndex
  let firstRun := min ch.count room
  let firstStop ← Word.add ch.receiveIndex firstRun
  let wrapped ← Word.sub ch.count firstRun
  return List.range' ch.receiveIndex (firstStop - ch.receiveIndex) ++ List.range wrapped

/-- Take all elements, if there are at least `minimum`. -/
def drainChecked (copier : Copier σ) (s : σ) (ch : Channel) (minimum : Nat)
    (allocator : Allocator) : Option (Step σ Empty (Option Batch)) :=
  let considered : Notice := .considered ch.id minimum ch.count
  if ch.count < minimum then some ⟨.ok none, ch, s, { notices := [considered] }⟩
  else do
    let request ← Word.mul ch.count ch.elementSize
    match allocator request with
    | .error fault =>
      return ⟨.fault fault, ch, s, { requests := [request], notices := [considered] }⟩
    | .ok bytes =>
      if ch.capacity < 1 then
        return ⟨.ok none, ch, s,
          { requests := [request], notices := [considered, .unbuffered ch.id] }⟩
      else
        let draining : Notice := .draining ch.id ch.indices ch.count ch.capacity
        let slots ← ch.occupiedChecked
        let out ← ch.copyOutChecked copier slots 0 s bytes
        let effects : Effects := ⟨out.calls, [request], [considered, draining]⟩
        match out.fault with
        | some fault => return ⟨.fault fault, ch, out.copier, effects⟩
        | none =>
          return ⟨.ok (some ⟨out.bytes, ch.elementSize, ch.count⟩),
            { ch with receiveIndex := 0, sendIndex := 0, count := 0 }, out.copier, effects⟩

/-! ### The machine does not stop -/

/-- What keeps a channel's numbers small: it is a ring, its capacity is a number of 64 bits, and its
buffer can be allocated. -/
structure Representable (ch : Channel) : Prop where
  /-- It is a ring. -/
  ring : ch.Ring
  /-- Its capacity is a number of 64 bits. -/
  capacity_lt : ch.capacity < Config.sizeLimit
  /-- Its buffer can be allocated. -/
  buffer_le : ch.capacity * ch.elementSize ≤ Allocator.limit

theorem limit_lt_sizeLimit : Allocator.limit < Config.sizeLimit := by decide

/-- All that is done to a channel keeps its numbers small. -/
theorem Representable.of_moves (small : ch.Representable) {ch' : Channel} (moves : Moves ch ch') :
    ch'.Representable where
  ring := moves.ring small.ring
  capacity_lt := by
    rw [capacity_of_shape_eq moves.shape_eq]
    exact small.capacity_lt
  buffer_le := by
    rw [capacity_of_shape_eq moves.shape_eq, elementSize_of_shape_eq moves.shape_eq]
    exact small.buffer_le

/-- Any part of the buffer has a length of 64 bits. -/
theorem Representable.mul_lt (small : ch.Representable) {n : Nat} (h : n ≤ ch.capacity) :
    n * ch.elementSize < Config.sizeLimit :=
  calc n * ch.elementSize ≤ ch.capacity * ch.elementSize := Nat.mul_le_mul_right _ h
    _ ≤ Allocator.limit := small.buffer_le
    _ < Config.sizeLimit := limit_lt_sizeLimit

theorem Representable.place_eq (small : ch.Representable) {i : Nat} (hi : i < ch.capacity) :
    Word.place i ch.elementSize = some (i * ch.elementSize, (i + 1) * ch.elementSize) :=
  Word.place_eq_some (Nat.lt_of_le_of_lt hi small.capacity_lt) (small.mul_lt hi)

theorem Representable.slotChecked_eq (small : ch.Representable) {i : Nat} (hi : i < ch.capacity) :
    ch.slotChecked i = some (ch.bytesAt i) := by
  obtain ⟨bytes, hb, hlen⟩ := small.ring.exists_buffer (by omega)
  have hend : (i + 1) * ch.elementSize ≤ bytes.length := by
    rw [hlen]
    exact Nat.mul_le_mul_right _ hi
  have hrange := Bytes.rangeChecked_place hend
  simp [slotChecked, hi, small.place_eq hi, hb, hrange, bytesAt]

/-- **Sending.** An element of the wrong length is left to the fault it is. -/
theorem Representable.sendChecked_eq (small : ch.Representable) (copier : Copier σ) (s : σ)
    (element : Bytes) : ch.sendChecked copier s element = some (ch.send copier s element) := by
  unfold sendChecked send
  by_cases sized : element.length = ch.elementSize
  · rw [if_neg (not_not_intro sized), if_neg (not_not_intro sized)]
    cases ch.closed with
    | true => rfl
    | false =>
      simp only [Bool.false_eq_true, if_false]
      by_cases room : ch.count < ch.capacity
      · have hindex : ch.sendIndex < ch.capacity := small.ring.sendIndex_lt (by omega)
        have hnext : Word.add ch.sendIndex 1 = some (ch.sendIndex + 1) :=
          Word.add_eq_some (Nat.lt_of_le_of_lt hindex small.capacity_lt)
        have hcount : Word.add ch.count 1 = some (ch.count + 1) :=
          Word.add_eq_some (Nat.lt_of_le_of_lt room small.capacity_lt)
        rw [if_neg (Nat.not_le.mpr room), if_neg (Nat.not_le.mpr room),
          small.slotChecked_eq hindex, small.ring.slot_eq hindex]
        simp only [Option.bind_eq_bind, Option.bind_some, hnext, hcount]
        cases (copier.copy s ⟨ch.elementSize, ch.bytesAt ch.sendIndex, element⟩).fault <;> rfl
      · rw [if_pos (Nat.not_lt.mp room), if_pos (Nat.not_lt.mp room)]
  · rw [if_pos sized, if_pos sized]

/-- **Receiving.** -/
theorem Representable.receiveChecked_eq (small : ch.Representable) (copier : Copier σ) (s : σ)
    (out : Bytes) : ch.receiveChecked copier s out = some (ch.receive copier s out) := by
  unfold receiveChecked receive
  by_cases sized : out.length = ch.elementSize
  · rw [if_neg (not_not_intro sized), if_neg (not_not_intro sized)]
    by_cases hzero : ch.count = 0
    · rw [if_pos hzero, if_pos hzero]
    · have hle := small.ring.count_le
      have hlt := small.capacity_lt
      have hindex : ch.receiveIndex < ch.capacity := small.ring.receiveIndex_lt (by omega)
      have hnext : Word.add ch.receiveIndex 1 = some (ch.receiveIndex + 1) :=
        Word.add_eq_some (Nat.lt_of_le_of_lt hindex hlt)
      have hcount : Word.sub ch.count 1 = some (ch.count - 1) :=
        Word.sub_eq_some (by omega) (by omega)
      rw [if_neg hzero, if_neg hzero, small.slotChecked_eq hindex, small.ring.slot_eq hindex]
      simp only [Option.bind_eq_bind, Option.bind_some, hnext, hcount]
      cases (copier.copy s ⟨ch.elementSize, out, ch.bytesAt ch.receiveIndex⟩).fault <;> rfl
  · rw [if_pos sized, if_pos sized]

/-- The loop of a drain, given a buffer that is long enough. -/
theorem Representable.copyOutChecked_eq (small : ch.Representable) (copier : Copier σ)
    {is : List Nat} (slots : ∀ i ∈ is, i < ch.capacity) {j : Nat} (s : σ) {bytes : Bytes}
    (hplaces : j + is.length ≤ ch.capacity)
    (room : (j + is.length) * ch.elementSize ≤ bytes.length) :
    ch.copyOutChecked copier is j s bytes = some (ch.copyOut copier is j s bytes) := by
  induction is generalizing j s bytes with
  | nil => rfl
  | cons i is ih =>
    have hi : i < ch.capacity := slots i List.mem_cons_self
    have hlength : j + (i :: is).length = j + 1 + is.length := by
      rw [List.length_cons]
      omega
    rw [hlength] at hplaces room
    have hstop : (j + 1) * ch.elementSize ≤ bytes.length :=
      (Nat.mul_le_mul_right _ (Nat.le_add_right _ _)).trans room
    have fits : j * ch.elementSize + ch.elementSize ≤ bytes.length := by
      rwa [Nat.succ_mul] at hstop
    rw [copyOutChecked, small.place_eq (show j < ch.capacity by omega),
      small.ring.copyOut_cons copier hi is s fits]
    simp only [Option.bind_eq_bind, Option.bind_some, Bytes.rangeChecked_place hstop,
      small.slotChecked_eq hi, drainCall]
    cases (copier.copy s ⟨ch.elementSize, bytes.window (j * ch.elementSize) ch.elementSize,
        ch.bytesAt i⟩).fault with
    | some fault => rfl
    | none =>
      dsimp only
      rw [ih (fun k hk => slots k (List.mem_cons_of_mem i hk)) _ hplaces
        (by rwa [Bytes.length_overwrite])]
      rfl

theorem Representable.occupiedChecked_eq (small : ch.Representable) (buffered : 0 < ch.capacity) :
    ch.occupiedChecked = some ch.occupied := by
  have hlt := small.capacity_lt
  have hle := small.ring.count_le
  have hindex := small.ring.receiveIndex_lt buffered
  have hrun : ch.firstRun = min ch.count (ch.capacity - ch.receiveIndex) := rfl
  have hroom : Word.sub ch.capacity ch.receiveIndex = some (ch.capacity - ch.receiveIndex) :=
    Word.sub_eq_some (by omega) hlt
  have hstop : Word.add ch.receiveIndex ch.firstRun = some (ch.receiveIndex + ch.firstRun) :=
    Word.add_eq_some (by omega)
  have hwrapped : Word.sub ch.count ch.firstRun = some (ch.count - ch.firstRun) :=
    Word.sub_eq_some (by omega) (by omega)
  simp -implicitDefEqProofs only [occupiedChecked, hroom, Option.bind_eq_bind, Option.bind_some,
    ← hrun, hstop, hwrapped, Nat.add_sub_cancel_left, Option.pure_def]
  rfl

/-- What a drain asks for is no longer than the channel's own buffer. -/
theorem Ring.request_le (ring : ch.Ring) :
    ch.count * ch.elementSize ≤ (ch.buffer.getD []).length := by
  have hle := ring.count_le
  by_cases buffered : 0 < ch.capacity
  · obtain ⟨bytes, hb, hlen⟩ := ring.exists_buffer buffered
    rw [hb, Option.getD_some, hlen]
    exact Nat.mul_le_mul_right _ hle
  · have hcount : ch.count = 0 := by omega
    rw [hcount, Nat.zero_mul]
    exact Nat.zero_le _

/-- **Draining.** -/
theorem Representable.drainChecked_eq (small : ch.Representable) (copier : Copier σ) (s : σ)
    (minimum : Nat) :
    ch.drainChecked copier s minimum Allocator.heap
      = some (ch.drain copier s minimum Allocator.heap) := by
  have hrequest : Word.mul ch.count ch.elementSize = some (ch.count * ch.elementSize) :=
    Word.mul_eq_some (small.mul_lt small.ring.count_le)
  unfold drainChecked drain
  by_cases hmin : ch.count < minimum
  · simp only [if_pos hmin]
  · simp only [if_neg hmin, hrequest, Option.bind_eq_bind, Option.bind_some,
      small.ring.heap_request small.buffer_le]
    by_cases hcap : ch.capacity < 1
    · simp only [if_pos hcap]
      rfl
    · have buffered : 0 < ch.capacity := by omega
      have hcopies : ch.copyOutChecked copier ch.occupied 0 s
            (Bytes.zeros (ch.count * ch.elementSize))
          = some (ch.copyOut copier ch.occupied 0 s (Bytes.zeros (ch.count * ch.elementSize))) :=
        small.copyOutChecked_eq copier (small.ring.occupied_lt buffered) s
          (by simpa [small.ring.length_occupied] using small.ring.count_le)
          (by simp [small.ring.length_occupied])
      simp only [if_neg hcap, small.occupiedChecked_eq buffered, Option.bind_some, hcopies]
      cases (ch.copyOut copier ch.occupied 0 s (Bytes.zeros (ch.count * ch.elementSize))).fault <;>
        rfl

end Channel

/-! ### Regular operations do not fault -/

/-- The fault that cut an operation short, if one did. -/
def Outcome.fault? {ε α : Type} : Outcome ε α → Option Fault
  | .fault cause => some cause
  | .ok _ | .error _ => none

/-- The fault that cut an operation short, whichever it was. A report is always made. -/
def Result.fault? : Result → Option Fault
  | .sent outcome => outcome.fault?
  | .received outcome _ => outcome.fault?
  | .closed outcome => outcome.fault?
  | .drained outcome => outcome.fault?
  | .reported _ => none
  | .guarded _ fault => fault
  | .copied outcome _ => outcome.fault?

/-- The operations whose caller keeps to the rules, on a channel whose elements have `size` bytes:
elements and outputs have that length, and drains get their buffer from the heap. -/
def Operation.Regular (size : Nat) : Operation → Prop
  | .send element => element.length = size
  | .receive out => out.length = size
  | .close | .snapshot _ => True
  | .drain _ allocator => allocator = Allocator.heap
  | .guarded _ | .copy _ => False

namespace Channel

variable {σ : Type} {ch : Channel} {copier : Copier σ} {s : σ} {f : Bytes → Bytes}

theorem SendExit.fault?_eq_none {element : Bytes} {r : Step σ SendError Unit}
    (exit : SendExit copier s ch element r) (ring : ch.Ring)
    (computes : copier.Computes ch.elementSize f) (sized : element.length = ch.elementSize) :
    r.outcome.fault? = none := by
  cases exit with
  | wrongLength h => exact absurd sized h
  | closed | full | sent => rfl
  | cutShort _ _ room fault h =>
    rw [sendCall, computes.fault_eq s _ element (ring.length_bytesAt_sendIndex room) sized] at h
    cases h

theorem ReceiveExit.fault?_eq_none {out : Bytes} {r : Received σ}
    (exit : ReceiveExit copier s ch out r) (ring : ch.Ring)
    (computes : copier.Computes ch.elementSize f) (sized : out.length = ch.elementSize) :
    r.outcome.fault? = none := by
  cases exit with
  | wrongLength h => exact absurd sized h
  | empty | received => rfl
  | cutShort _ some_left fault h =>
    have hsource := ring.length_bytesAt_receiveIndex some_left
    rw [receiveCall, computes.fault_eq s out _ sized hsource] at h
    cases h

theorem CloseExit.fault?_eq_none {r : Step σ CloseError (List Waiter)} (exit : CloseExit s ch r) :
    r.outcome.fault? = none := by
  cases exit <;> rfl

theorem DrainExit.fault?_eq_none {minimum : Nat} {r : Step σ Empty (Option Batch)}
    (exit : DrainExit copier s ch minimum Allocator.heap r) (small : ch.Representable)
    (computes : copier.Computes ch.elementSize f) : r.outcome.fault? = none := by
  have hheap := small.ring.heap_request small.buffer_le
  cases exit with
  | tooFew | unbuffered | drained => rfl
  | noBuffer _ fault h =>
    rw [hheap] at h
    cases h
  | cutShort _ bytes allocated buffered fault h =>
    obtain rfl : Bytes.zeros (ch.count * ch.elementSize) = bytes :=
      Except.ok.inj (hheap.symm.trans allocated)
    rw [small.ring.copyOut_computes computes (small.ring.occupied_lt buffered) s
      (by simp [small.ring.length_occupied])] at h
    cases h

/-- A drain asks for room for its elements, or for nothing. -/
theorem DrainExit.requests_eq {minimum : Nat} {allocator : Allocator}
    {r : Step σ Empty (Option Batch)} (exit : DrainExit copier s ch minimum allocator r) {n : Nat}
    (h : n ∈ r.effects.requests) : n = ch.count * ch.elementSize := by
  cases exit with
  | tooFew => cases h
  | noBuffer | unbuffered | cutShort | drained => exact List.mem_singleton.mp h

theorem Representable.fault?_perform (small : ch.Representable)
    (computes : copier.Computes ch.elementSize f) (s : σ) {op : Operation}
    (regular : op.Regular ch.elementSize) : (ch.perform copier s op).result.fault? = none := by
  cases op with
  | send element =>
    exact (small.ring.send_exit copier s element).fault?_eq_none small.ring computes regular
  | receive out =>
    exact (small.ring.receive_exit copier s out).fault?_eq_none small.ring computes regular
  | close => exact (close_exit s ch).fault?_eq_none
  | drain minimum allocator =>
    obtain rfl : allocator = Allocator.heap := regular
    exact (drain_exit copier s ch minimum Allocator.heap).fault?_eq_none small computes
  | snapshot tag => rfl
  | guarded actions => cases regular
  | copy call => cases regular

/-! ### All runs -/

theorem Representable.of_create {id : Nat} {config : Config} (created : create id config = .ok ch)
    (capacity_lt : config.capacity < Config.sizeLimit) : ch.Representable := by
  obtain ⟨_, allocatable, rfl⟩ := create_eq_ok_iff.mp created
  exact ⟨ring_fresh id config, capacity_lt, allocatable⟩

/-- **Regular operations neither fault nor leave the 64 bits.** Take a channel that was constructed
with a capacity of 64 bits, copies plainly, and was then used in any way whatever, with faults on
the way or without. From there on:

* no send or receive of the channel's element size, no close, report or drain faults;
* sending, receiving and draining come to the same on the machine that checks all of its arithmetic,
  slots and ranges;
* a drain never asks for more bytes than the channel's own buffer has. -/
theorem checked_of_create {id : Nat} {config : Config} {new : Channel}
    (created : create id config = .ok new) (capacity_lt : config.capacity < Config.sizeLimit)
    (s : σ) (ops : List Operation)
    (ran : (new.performAll (Copier.plain σ) s ops).channel = ch) (t : σ) :
    (∀ op : Operation, op.Regular config.elementSize →
      (ch.perform (Copier.plain σ) t op).result.fault? = none) ∧
    (∀ element, ch.sendChecked (Copier.plain σ) t element
      = some (ch.send (Copier.plain σ) t element)) ∧
    (∀ out, ch.receiveChecked (Copier.plain σ) t out
      = some (ch.receive (Copier.plain σ) t out)) ∧
    ∀ minimum,
      ch.drainChecked (Copier.plain σ) t minimum Allocator.heap
        = some (ch.drain (Copier.plain σ) t minimum Allocator.heap) ∧
      ∀ n ∈ (ch.drain (Copier.plain σ) t minimum Allocator.heap).effects.requests,
        n ≤ (ch.buffer.getD []).length := by
  have hnew := Representable.of_create created capacity_lt
  have moves := hnew.ring.moves_performAll (Copier.plain σ) s ops
  rw [ran] at moves
  have small := hnew.of_moves moves
  have hsize : ch.elementSize = config.elementSize := by
    rw [elementSize_of_shape_eq moves.shape_eq, (create_eq_ok_iff.mp created).2.2]
    rfl
  refine ⟨fun op regular => ?_, fun element => ?_, fun out => ?_, fun minimum => ⟨?_, ?_⟩⟩
  · rw [← hsize] at regular
    exact small.fault?_perform (Copier.plain_computes σ ch.elementSize) t regular
  · exact small.sendChecked_eq (Copier.plain σ) t element
  · exact small.receiveChecked_eq (Copier.plain σ) t out
  · exact small.drainChecked_eq (Copier.plain σ) t minimum
  · intro n hn
    rw [(drain_exit (Copier.plain σ) t ch minimum Allocator.heap).requests_eq hn]
    exact small.ring.request_le

/-- Elements without bytes, and as many slots as can be counted. -/
theorem checked_of_create_sizeless :
    ∃ (config : Config) (ch : Channel),
      config.capacity = Config.sizeLimit - 1 ∧ config.elementSize = 0 ∧
      create 1 config = .ok (fresh 1 config) ∧ config.capacity < Config.sizeLimit ∧
      ((fresh 1 config).performAll (Copier.plain Unit) () [.send [], .send [], .receive []]).channel
        = ch ∧
      ch.drainChecked (Copier.plain Unit) () 1 Allocator.heap
        = some (ch.drain (Copier.plain Unit) () 1 Allocator.heap) ∧
      (ch.drain (Copier.plain Unit) () 1 Allocator.heap).outcome = .ok (some ⟨[], 0, 1⟩) :=
  ⟨⟨Config.sizeLimit - 1, 0, 1⟩, _, rfl, rfl, by decide, by decide, rfl,
    ((checked_of_create (by decide : create 1 ⟨Config.sizeLimit - 1, 0, 1⟩ = _) (by decide) ()
      [.send [], .send [], .receive []] rfl ()).2.2.2 1).1,
    by decide⟩

end Channel

end ByteChannel
