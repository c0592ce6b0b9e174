import ByteChannel.Channel.Operation
import ByteChannel.Proofs.Ring

/-!
# How operations end

Each operation on a channel has a handful of exits. For every operation there is one inductive
predicate that lists them, with what holds at each and everything the operation leaves behind there,
and one theorem that says there are no others. A property of an operation is then proved by going
through its exits, and the definition of the operation is not opened again.

On a ring, sending and receiving never fail to find their slot, so these two have one exit fewer
than their definitions have branches.

## Main definitions

* `Channel.sendCall`, `Channel.receiveCall` — what the copier is asked for
* `Channel.SendExit`, `Channel.ReceiveExit`, `Channel.CloseExit`, `Channel.DrainExit`

## Main results

* `Channel.Ring.send_exit`, `Channel.Ring.receive_exit`, `Channel.close_exit`,
  `Channel.drain_exit` — there are no others
-/

namespace ByteChannel

namespace Channel

variable {σ : Type} {ch : Channel}

/-- The request that sending `element` makes: to write it over the slot that is next. -/
def sendCall (ch : Channel) (element : Bytes) : CopyCall :=
  ⟨ch.elementSize, ch.bytesAt ch.sendIndex, element⟩

/-- The request that receiving into `out` makes: to write the oldest element over it. -/
def receiveCall (ch : Channel) (out : Bytes) : CopyCall :=
  ⟨ch.elementSize, out, ch.bytesAt ch.receiveIndex⟩

/-- Whatever the copier makes of a send, it fits into the slot. -/
theorem Ring.length_target_sendCall (ring : ch.Ring) (room : ch.count < ch.capacity)
    (copier : Copier σ) (s : σ) (element : Bytes) :
    (copier.copy s (ch.sendCall element)).target.length = ch.elementSize := by
  rw [copier.length_target]
  exact ring.length_bytesAt_sendIndex room

/-! ### Sending -/

/-- The ways to end for a send of `element`. -/
inductive SendExit (copier : Copier σ) (s : σ) (ch : Channel) (element : Bytes) :
    Step σ SendError Unit → Prop
  /-- The element has the wrong length. -/
  | wrongLength (h : element.length ≠ ch.elementSize) :
    SendExit copier s ch element
      ⟨.fault (.elementLength element.length ch.elementSize), ch, s, {}⟩
  /-- The channel is closed. -/
  | closed (sized : element.length = ch.elementSize) (h : ch.closed = true) :
    SendExit copier s ch element ⟨.error (.closed element), ch, s, {}⟩
  /-- The channel is full. -/
  | full (sized : element.length = ch.elementSize) (isOpen : ch.closed = false)
      (h : ch.capacity ≤ ch.count) :
    SendExit copier s ch element ⟨.error (.full element), ch, s, {}⟩
  /-- The copier faulted. What it wrote is in the slot that is next. -/
  | cutShort (sized : element.length = ch.elementSize) (isOpen : ch.closed = false)
      (room : ch.count < ch.capacity) (fault : Fault)
      (h : (copier.copy s (ch.sendCall element)).fault = some fault) :
    SendExit copier s ch element
      ⟨.fault fault, ch.setSlot ch.sendIndex (copier.copy s (ch.sendCall element)).target,
        (copier.copy s (ch.sendCall element)).state, { calls := [ch.sendCall element] }⟩
  /-- The element was sent. -/
  | sent (sized : element.length = ch.elementSize) (isOpen : ch.closed = false)
      (room : ch.count < ch.capacity)
      (h : (copier.copy s (ch.sendCall element)).fault = none) :
    SendExit copier s ch element
      ⟨.ok (), ch.pushed (copier.copy s (ch.sendCall element)).target,
        (copier.copy s (ch.sendCall element)).state, { calls := [ch.sendCall element] }⟩

theorem Ring.send_exit (ring : ch.Ring) (copier : Copier σ) (s : σ) (element : Bytes) :
    SendExit copier s ch element (ch.send copier s element) := by
  unfold send
  by_cases sized : element.length = ch.elementSize
  · rw [if_neg (not_not_intro sized)]
    cases isClosed : ch.closed with
    | true => exact .closed sized isClosed
    | false =>
      simp only [Bool.false_eq_true, if_false]
      by_cases room : ch.count < ch.capacity
      · have hslot := ring.slot_eq (ring.sendIndex_lt (by omega))
        have hcall : (⟨ch.elementSize, ch.bytesAt ch.sendIndex, element⟩ : CopyCall)
            = ch.sendCall element := rfl
        simp only [if_neg (Nat.not_le.mpr room), hslot, hcall]
        cases h : (copier.copy s (ch.sendCall element)).fault with
        | some fault => exact .cutShort sized isClosed room fault h
        | none => exact .sent sized isClosed room h
      · rw [if_pos (Nat.not_lt.mp room)]
        exact .full sized isClosed (Nat.not_lt.mp room)
  · rw [if_pos sized]
    exact .wrongLength sized

/-! ### Receiving -/

/-- The ways to end for receiving into `out`. -/
inductive ReceiveExit (copier : Copier σ) (s : σ) (ch : Channel) (out : Bytes) :
    Received σ → Prop
  /-- The output has the wrong length. -/
  | wrongLength (h : out.length ≠ ch.elementSize) :
    ReceiveExit copier s ch out
      ⟨⟨.fault (.outputLength out.length ch.elementSize), ch, s, {}⟩, out⟩
  /-- The channel is empty. -/
  | empty (sized : out.length = ch.elementSize) (h : ch.count = 0) :
    ReceiveExit copier s ch out
      ⟨⟨.error (if ch.closed then .closed else .empty), ch, s, {}⟩, out⟩
  /-- The copier faulted. What it wrote is in the output. -/
  | cutShort (sized : out.length = ch.elementSize) (some_left : 0 < ch.count) (fault : Fault)
      (h : (copier.copy s (ch.receiveCall out)).fault = some fault) :
    ReceiveExit copier s ch out
      ⟨⟨.fault fault, ch, (copier.copy s (ch.receiveCall out)).state,
        { calls := [ch.receiveCall out] }⟩, (copier.copy s (ch.receiveCall out)).target⟩
  /-- The oldest element was received. -/
  | received (sized : out.length = ch.elementSize) (some_left : 0 < ch.count)
      (h : (copier.copy s (ch.receiveCall out)).fault = none) :
    ReceiveExit copier s ch out
      ⟨⟨.ok (), ch.popped, (copier.copy s (ch.receiveCall out)).state,
        { calls := [ch.receiveCall out] }⟩, (copier.copy s (ch.receiveCall out)).target⟩

theorem Ring.receive_exit (ring : ch.Ring) (copier : Copier σ) (s : σ) (out : Bytes) :
    ReceiveExit copier s ch out (ch.receive copier s out) := by
  unfold receive
  by_cases sized : out.length = ch.elementSize
  · rw [if_neg (not_not_intro sized)]
    by_cases hzero : ch.count = 0
    · rw [if_pos hzero]
      exact .empty sized hzero
    · have some_left : 0 < ch.count := Nat.pos_of_ne_zero hzero
      have hcap : 0 < ch.capacity := Nat.lt_of_lt_of_le some_left ring.count_le
      have hslot := ring.slot_eq (ring.receiveIndex_lt hcap)
      have hcall : (⟨ch.elementSize, out, ch.bytesAt ch.receiveIndex⟩ : CopyCall)
          = ch.receiveCall out := rfl
      simp only [if_neg hzero, hslot, hcall]
      cases h : (copier.copy s (ch.receiveCall out)).fault with
      | some fault => exact .cutShort sized some_left fault h
      | none => exact .received sized some_left h
  · rw [if_pos sized]
    exact .wrongLength sized

/-! ### Closing -/

/-- The ways to end for a close. -/
inductive CloseExit (s : σ) (ch : Channel) : Step σ CloseError (List Waiter) → Prop
  /-- The channel is closed already. -/
  | refused (h : ch.closed = true) : CloseExit s ch ⟨.error .alreadyClosed, ch, s, {}⟩
  /-- The channel is closed now, and all parked tasks are released. -/
  | done (h : ch.closed = false) :
    CloseExit s ch
      ⟨.ok (ch.receivers.waiters ++ ch.senders.waiters),
        { ch with closed := true, senders := .empty, receivers := .empty }, s,
        { notices := [.closed ch.id (ch.receivers.waiters ++ ch.senders.waiters).length] }⟩

theorem close_exit (s : σ) (ch : Channel) : CloseExit s ch (ch.close s) := by
  unfold close
  cases h : ch.closed with
  | true => exact .refused h
  | false => exact .done h

/-! ### Draining -/

/-- The ways to end for a drain. -/
inductive DrainExit (copier : Copier σ) (s : σ) (ch : Channel) (minimum : Nat)
    (allocator : Allocator) : Step σ Empty (Option Batch) → Prop
  /-- There are too few elements. The allocator is not asked. -/
  | tooFew (h : ch.count < minimum) :
    DrainExit copier s ch minimum allocator
      ⟨.ok none, ch, s, { notices := [.considered ch.id minimum ch.count] }⟩
  /-- The allocator faulted. -/
  | noBuffer (enough : minimum ≤ ch.count) (fault : Fault)
      (h : allocator (ch.count * ch.elementSize) = .error fault) :
    DrainExit copier s ch minimum allocator
      ⟨.fault fault, ch, s,
        { requests := [ch.count * ch.elementSize]
          notices := [.considered ch.id minimum ch.count] }⟩
  /-- The channel has no slots. What the allocator gave is dropped. -/
  | unbuffered (enough : minimum ≤ ch.count) (bytes : Bytes)
      (allocated : allocator (ch.count * ch.elementSize) = .ok bytes) (h : ch.capacity = 0) :
    DrainExit copier s ch minimum allocator
      ⟨.ok none, ch, s,
        { requests := [ch.count * ch.elementSize]
          notices := [.considered ch.id minimum ch.count, .unbuffered ch.id] }⟩
  /-- Copying the elements faulted on the way. -/
  | cutShort (enough : minimum ≤ ch.count) (bytes : Bytes)
      (allocated : allocator (ch.count * ch.elementSize) = .ok bytes) (buffered : 0 < ch.capacity)
      (fault : Fault) (h : (ch.copyOut copier ch.occupied 0 s bytes).fault = some fault) :
    DrainExit copier s ch minimum allocator
      ⟨.fault fault, ch, (ch.copyOut copier ch.occupied 0 s bytes).copier,
        ⟨(ch.copyOut copier ch.occupied 0 s bytes).calls, [ch.count * ch.elementSize],
          [.considered ch.id minimum ch.count,
            .draining ch.id ch.indices ch.count ch.capacity]⟩⟩
  /-- All elements were taken. -/
  | drained (enough : minimum ≤ ch.count) (bytes : Bytes)
      (allocated : allocator (ch.count * ch.elementSize) = .ok bytes) (buffered : 0 < ch.capacity)
      (h : (ch.copyOut copier ch.occupied 0 s bytes).fault = none) :
    DrainExit copier s ch minimum allocator
      ⟨.ok (some ⟨(ch.copyOut copier ch.occupied 0 s bytes).bytes, ch.elementSize, ch.count⟩),
        ch.emptied, (ch.copyOut copier ch.occupied 0 s bytes).copier,
        ⟨(ch.copyOut copier ch.occupied 0 s bytes).calls, [ch.count * ch.elementSize],
          [.considered ch.id minimum ch.count,
            .draining ch.id ch.indices ch.count ch.capacity]⟩⟩

theorem drain_exit (copier : Copier σ) (s : σ) (ch : Channel) (minimum : Nat)
    (allocator : Allocator) :
    DrainExit copier s ch minimum allocator (ch.drain copier s minimum allocator) := by
  unfold drain
  by_cases hmin : ch.count < minimum
  · simp only [if_pos hmin]
    exact .tooFew hmin
  · have enough : minimum ≤ ch.count := Nat.not_lt.mp hmin
    simp only [if_neg hmin]
    cases halloc : allocator (ch.count * ch.elementSize) with
    | error fault => exact .noBuffer enough fault halloc
    | ok bytes =>
      by_cases hcap : ch.capacity < 1
      · simp only [if_pos hcap]
        exact .unbuffered enough bytes halloc (by omega)
      · simp only [if_neg hcap]
        cases hfault : (ch.copyOut copier ch.occupied 0 s bytes).fault with
        | some fault => exact .cutShort enough bytes halloc (by omega) fault hfault
        | none => exact .drained enough bytes halloc (by omega) hfault

end Channel

end ByteChannel
