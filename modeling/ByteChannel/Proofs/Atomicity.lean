import ByteChannel.Proofs.Reachable

/-!
# Operations that fail change nothing

An operation can fail at many places: it may refuse, find a buffer of the wrong length, be refused
one by an allocator or be given too short a one, or be cut short in the middle of a copy, a drain
also after having copied some elements. Wherever it fails, the channel is afterwards what it was.

There is one exception, and it cannot be observed through the elements: a send that is cut short
while the copier writes leaves some of what was written in the slot that is next. That the slot is
not a live one is where the ring invariant is needed; the indices alone do not tell, since they are
equal on a full channel.

## Main definitions

* `Channel.SameButSlot` — two channels that differ in the bytes of one slot at most

## Main results

* `Channel.Reachable.unchanged_of_failure` — all failures of all operations
-/

namespace ByteChannel

namespace Channel

variable {σ : Type} {ch : Channel} {copier : Copier σ} {s : σ}

/-- The channel `ch'` is `ch`, but for the bytes of slot `i`. -/
structure SameButSlot (i : Nat) (ch ch' : Channel) : Prop where
  /-- All but the buffer is the same. -/
  rest_eq : { ch' with buffer := ch.buffer } = ch
  /-- The buffers have the same length, and the same bytes before and after the slot. -/
  bytes_eq : ∃ before after, ch.buffer = some before ∧ ch'.buffer = some after ∧
    after.length = before.length ∧
    ∀ k, k < i * ch.elementSize ∨ (i + 1) * ch.elementSize ≤ k → after[k]? = before[k]?

theorem Ring.sameButSlot_setSlot (ring : ch.Ring) {i : Nat} (hi : i < ch.capacity) {bytes : Bytes}
    (sized : bytes.length = ch.elementSize) : SameButSlot i ch (ch.setSlot i bytes) := by
  obtain ⟨before, hbefore, hlen⟩ := ring.exists_buffer (by omega)
  have hend : i * ch.elementSize + ch.elementSize ≤ ch.capacity * ch.elementSize :=
    Bytes.place_end_le hi
  have hstop : (i + 1) * ch.elementSize = i * ch.elementSize + ch.elementSize := by ring
  refine ⟨rfl, before, before.overwrite (i * ch.elementSize) bytes, hbefore, ?_, ?_, ?_⟩
  · rw [Channel.setSlot, hbefore, Option.map_some]
  · exact Bytes.length_overwrite ..
  · intro k hk
    rw [Bytes.getElem?_overwrite _ _ _ _ (by omega), if_neg (by omega)]

/-! ### The failures of each operation -/

theorem SendExit.unchanged_of_error {element : Bytes} {r : Step σ SendError Unit}
    (exit : SendExit copier s ch element r) {reason : SendError} (h : r.outcome = .error reason) :
    r.channel = ch ∧ reason.element = element := by
  cases exit with
  | wrongLength | cutShort | sent => cases h
  | closed | full =>
    obtain rfl := Outcome.error.inj h
    exact ⟨rfl, rfl⟩

/-- A send that faults has either not begun to copy, or spoilt a slot that holds no element. -/
theorem SendExit.unchanged_of_fault {element : Bytes} {r : Step σ SendError Unit}
    (exit : SendExit copier s ch element r) (ring : ch.Ring) {fault : Fault}
    (h : r.outcome = .fault fault) :
    (element.length ≠ ch.elementSize ∧ r.effects.calls = [] ∧ r.channel = ch) ∨
      (element.length = ch.elementSize ∧ r.effects.calls = [ch.sendCall element] ∧
        SameButSlot ch.sendIndex ch r.channel ∧
        (∀ k < ch.count, ch.position k ≠ ch.sendIndex) ∧ r.channel.elements = ch.elements) := by
  cases exit with
  | closed | full | sent => cases h
  | wrongLength hlen => exact .inl ⟨hlen, rfl, rfl⟩
  | cutShort sized _ room =>
    have hslot : ch.sendIndex < ch.capacity := ring.sendIndex_lt (by omega)
    have hwritten := ring.length_target_sendCall room copier s element
    exact .inr ⟨sized, rfl, ring.sameButSlot_setSlot hslot hwritten,
      fun k hk => ring.position_ne_sendIndex room hk,
      ring.elements_setSlot_sendIndex room hwritten⟩

theorem ReceiveExit.unchanged {out : Bytes} {r : Received σ}
    (exit : ReceiveExit copier s ch out r) (h : r.outcome ≠ .ok ()) : r.channel = ch := by
  cases exit with
  | wrongLength | empty | cutShort => rfl
  | received => exact absurd rfl h

theorem ReceiveExit.out_eq_of_error {out : Bytes} {r : Received σ}
    (exit : ReceiveExit copier s ch out r) {reason : ReceiveError}
    (h : r.outcome = .error reason) : r.out = out := by
  cases exit with
  | empty => rfl
  | wrongLength | cutShort | received => cases h

theorem CloseExit.unchanged_of_error {r : Step σ CloseError (List Waiter)}
    (exit : CloseExit s ch r) {reason : CloseError} (h : r.outcome = .error reason) :
    r.channel = ch := by
  cases exit with
  | refused => rfl
  | done => cases h

theorem DrainExit.unchanged {minimum : Nat} {allocator : Allocator}
    {r : Step σ Empty (Option Batch)} (exit : DrainExit copier s ch minimum allocator r)
    (h : ∀ batch, r.outcome ≠ .ok (some batch)) : r.channel = ch := by
  cases exit with
  | tooFew | noBuffer | unbuffered | cutShort => rfl
  | drained => exact absurd rfl (h _)

/-! ### All failures -/

/-- **Operations that fail change nothing.** Of a channel that came about in any way, with any
copier in any state, any allocator and any arguments:

* a send that refuses leaves the channel as it was and hands back its element; one that faults has
  an element of the wrong length and leaves the channel as it was, or was cut short by the copier
  and leaves all of it as it was but for the slot that is next, which holds no element;
* a receive that does not succeed leaves the channel as it was, and the output too if it refuses;
* a close that refuses leaves the channel as it was;
* a drain that takes nothing leaves the channel as it was, whether it was refused a buffer, given
  too short a one, or cut short after any number of copies. -/
theorem Reachable.unchanged_of_failure (reachable : ch.Reachable) (copier : Copier σ) (s : σ) :
    (∀ element,
      (∀ reason, (ch.send copier s element).outcome = .error reason →
        (ch.send copier s element).channel = ch ∧ reason.element = element) ∧
      ∀ fault, (ch.send copier s element).outcome = .fault fault →
        (element.length ≠ ch.elementSize ∧ (ch.send copier s element).effects.calls = [] ∧
          (ch.send copier s element).channel = ch) ∨
        (element.length = ch.elementSize ∧
          (ch.send copier s element).effects.calls = [ch.sendCall element] ∧
          SameButSlot ch.sendIndex ch (ch.send copier s element).channel ∧
          (∀ k < ch.count, ch.position k ≠ ch.sendIndex) ∧
          (ch.send copier s element).channel.elements = ch.elements)) ∧
    (∀ out,
      ((ch.receive copier s out).outcome ≠ .ok () → (ch.receive copier s out).channel = ch) ∧
      ∀ reason, (ch.receive copier s out).outcome = .error reason →
        (ch.receive copier s out).out = out) ∧
    (∀ reason, (ch.close s).outcome = .error reason → (ch.close s).channel = ch) ∧
    ∀ minimum allocator,
      (∀ batch, (ch.drain copier s minimum allocator).outcome ≠ .ok (some batch)) →
        (ch.drain copier s minimum allocator).channel = ch := by
  have ring := reachable.ring
  refine ⟨fun element => ⟨?_, ?_⟩, fun out => ⟨?_, ?_⟩, ?_, fun minimum allocator => ?_⟩
  · intro reason h
    exact (ring.send_exit copier s element).unchanged_of_error h
  · intro fault h
    exact (ring.send_exit copier s element).unchanged_of_fault ring h
  · intro h
    exact (ring.receive_exit copier s out).unchanged h
  · intro reason h
    exact (ring.receive_exit copier s out).out_eq_of_error h
  · intro reason h
    exact (close_exit s ch).unchanged_of_error h
  · intro h
    exact (drain_exit copier s ch minimum allocator).unchanged h

/-- A copier that spoils its destination before it faults: the send leaves another buffer behind,
and the same elements. -/
theorem Reachable.unchanged_of_failure_spoilt :
    ∃ (ch : Channel) (copier : Copier Unit), ch.Reachable ∧
      (ch.send copier () [9]).outcome = .fault (.raised "spoilt") ∧
      (ch.send copier () [9]).channel.buffer = some [7, 0xee] ∧ ch.buffer = some [7, 0] ∧
      (ch.send copier () [9]).channel.elements = ch.elements ∧ ch.elements = [[7]] := by
  let spoiling : Copier Unit :=
    ⟨fun _ call => ⟨(), call.target.map fun _ => 0xee, some (.raised "spoilt")⟩, by simp⟩
  have reachable :
      ((fresh 1 ⟨2, 1, 1⟩).performAll (Copier.plain Unit) () [.send [7]]).channel.Reachable :=
    ⟨Unit, Copier.plain Unit, (), 1, ⟨2, 1, 1⟩, fresh 1 ⟨2, 1, 1⟩, [.send [7]], by decide, rfl⟩
  refine ⟨_, spoiling, reachable, by decide, by decide, by decide, ?_, by decide⟩
  obtain ⟨hlen, _⟩ | ⟨_, _, _, _, h⟩ :=
    ((reachable.unchanged_of_failure spoiling ()).1 [9]).2 (.raised "spoilt") (by decide)
  · exact absurd (by decide) hlen
  · exact h

end Channel

end ByteChannel
