import ByteChannel.Copier.Stock
import ByteChannel.Proofs.Exits
import Mathlib.Logic.Relation

/-!
# The ring invariant of every run

Whatever is done to a channel, its state changes by one of a few *moves*: a slot is overwritten, an
element is pushed or popped, all elements are dropped, tasks are parked or released, the channel is
closed. An operation makes some moves one after the other, also when it is cut short, and an
operation that refuses makes none.

Invariants are therefore proved of the moves, once each, and hold after every run from construction
on: for any copier, any allocators, buffers of any length, and with any of the operations ending in
a fault.

## Main definitions

* `Channel.Move` — the moves
* `Channel.shape` — the part of a channel that never changes
* `Channel.Reachable` — the channels that come about

## Main results

* `Channel.Ring.moves_perform` — an operation makes moves only
* `Channel.ring_performAll_of_create` — the ring invariant, after every run
-/

namespace ByteChannel

namespace Channel

variable {σ : Type} {ch ch' : Channel}

/-! ### Moves -/

/-- One change of a channel's state. -/
inductive Move : Channel → Channel → Prop
  /-- Overwrite a slot. -/
  | overwrite (ch : Channel) (i : Nat) (bytes : Bytes) : Move ch (ch.setSlot i bytes)
  /-- Put a new element into the slot that is next, there being room. -/
  | push (ch : Channel) (bytes : Bytes) (isOpen : ch.closed = false)
      (room : ch.count < ch.capacity) : Move ch (ch.pushed bytes)
  /-- Drop the oldest element, there being one. -/
  | pop (ch : Channel) (some_left : 0 < ch.count) : Move ch ch.popped
  /-- Drop all elements. -/
  | empty (ch : Channel) : Move ch ch.emptied
  /-- Park or release tasks. -/
  | park (ch : Channel) (senders receivers : WaitQueue) : Move ch { ch with senders, receivers }
  /-- Close, releasing all tasks. -/
  | close (ch : Channel) :
    Move ch { ch with closed := true, senders := .empty, receivers := .empty }

/-- Some moves one after the other, or none. -/
abbrev Moves : Channel → Channel → Prop := Relation.ReflTransGen Move

/-- The part of a channel that is fixed at its construction. -/
def shape (ch : Channel) : Nat × Nat × Layout := (ch.id, ch.capacity, ch.layout)

theorem Move.shape_eq (move : Move ch ch') : ch'.shape = ch.shape := by
  cases move <;> rfl

theorem Move.ring (move : Move ch ch') (ring : ch.Ring) : ch'.Ring := by
  cases move with
  | overwrite i bytes => exact ring.setSlot i bytes
  | push bytes _ room => exact ring.pushed room bytes
  | pop some_left => exact ring.popped some_left
  | empty => exact ring.emptied
  | park senders receivers => exact ring.congr_queues ch.closed senders receivers
  | close => exact ring.congr_queues true .empty .empty

theorem Moves.shape_eq (moves : Moves ch ch') : ch'.shape = ch.shape := by
  induction moves with
  | refl => rfl
  | tail _ move ih => rw [move.shape_eq, ih]

theorem Moves.ring (moves : Moves ch ch') (ring : ch.Ring) : ch'.Ring := by
  induction moves with
  | refl => exact ring
  | tail _ move ih => exact move.ring ih

theorem capacity_of_shape_eq (h : ch'.shape = ch.shape) : ch'.capacity = ch.capacity :=
  congrArg (fun p : Nat × Nat × Layout => p.2.1) h

theorem elementSize_of_shape_eq (h : ch'.shape = ch.shape) : ch'.elementSize = ch.elementSize :=
  congrArg (fun p : Nat × Nat × Layout => p.2.2.size) h

/-! ### Operations make moves -/

theorem moves_act {acted : Acted} {action : Action} (h : ch.act action = .ok acted) :
    Moves ch acted.channel := by
  cases action with
  | look =>
    obtain rfl := Except.ok.inj h
    exact .refl
  | slot i =>
    obtain ⟨_, _, rfl⟩ := exists_of_map_eq_ok h
    exact .refl
  | slots =>
    obtain ⟨_, _, rfl⟩ := exists_of_map_eq_ok h
    exact .refl
  | setSlot i bytes =>
    obtain ⟨_, _, rfl⟩ := exists_of_map_eq_ok h
    exact .single (.overwrite ch i _)
  | senders action =>
    obtain rfl := Except.ok.inj h
    exact .single (.park ch _ ch.receivers)
  | receivers action =>
    obtain rfl := Except.ok.inj h
    exact .single (.park ch ch.senders _)

theorem moves_guarded (ch : Channel) (actions : List Action) :
    Moves ch (ch.guarded actions).channel := by
  induction actions generalizing ch with
  | nil => exact .refl
  | cons action actions ih =>
    rw [guarded]
    cases h : ch.act action with
    | error fault => exact .refl
    | ok acted => exact (moves_act h).trans (ih acted.channel)

theorem SendExit.moves {copier : Copier σ} {s : σ} {element : Bytes} {r : Step σ SendError Unit}
    (exit : SendExit copier s ch element r) : Moves ch r.channel := by
  cases exit with
  | wrongLength | closed | full => exact .refl
  | cutShort => exact .single (.overwrite ch _ _)
  | sent _ isOpen room => exact .single (.push ch _ isOpen room)

theorem ReceiveExit.moves {copier : Copier σ} {s : σ} {out : Bytes} {r : Received σ}
    (exit : ReceiveExit copier s ch out r) : Moves ch r.channel := by
  cases exit with
  | wrongLength | empty | cutShort => exact .refl
  | received _ some_left => exact .single (.pop ch some_left)

theorem CloseExit.moves {s : σ} {r : Step σ CloseError (List Waiter)} (exit : CloseExit s ch r) :
    Moves ch r.channel := by
  cases exit with
  | refused => exact .refl
  | done => exact .single (.close ch)

theorem DrainExit.moves {copier : Copier σ} {s : σ} {minimum : Nat} {allocator : Allocator}
    {r : Step σ Empty (Option Batch)} (exit : DrainExit copier s ch minimum allocator r) :
    Moves ch r.channel := by
  cases exit with
  | tooFew | noBuffer | unbuffered | cutShort => exact .refl
  | drained => exact .single (.empty ch)

/-- An operation makes moves only, however it ends. -/
theorem Ring.moves_perform (ring : ch.Ring) (copier : Copier σ) (s : σ) (op : Operation) :
    Moves ch (ch.perform copier s op).channel := by
  cases op with
  | send element => exact (ring.send_exit copier s element).moves
  | receive out => exact (ring.receive_exit copier s out).moves
  | close => exact (close_exit s ch).moves
  | drain minimum allocator => exact (drain_exit copier s ch minimum allocator).moves
  | snapshot tag => exact .refl
  | guarded actions => exact moves_guarded ch actions
  | copy call => exact .refl

/-! ### Runs -/

/-- A run makes moves only. -/
theorem Ring.moves_performAll (ring : ch.Ring) (copier : Copier σ) (s : σ)
    (ops : List Operation) : Moves ch (ch.performAll copier s ops).channel := by
  induction ops generalizing ch s with
  | nil => exact .refl
  | cons op ops ih =>
    have first := ring.moves_perform copier s op
    exact first.trans (ih (first.ring ring) _)

/-- The channels that come about: those that some run, with some copier, makes of a new one. -/
def Reachable (ch : Channel) : Prop :=
  ∃ (σ : Type) (copier : Copier σ) (s : σ) (id : Nat) (config : Config) (new : Channel)
    (ops : List Operation),
    create id config = .ok new ∧ ch = (new.performAll copier s ops).channel

theorem Reachable.ring (reachable : ch.Reachable) : ch.Ring := by
  obtain ⟨σ, copier, s, id, config, new, ops, created, rfl⟩ := reachable
  obtain ⟨_, _, rfl⟩ := create_eq_ok_iff.mp created
  have ring := ring_fresh id config
  exact (ring.moves_performAll copier s ops).ring ring

/-- The heap can hold a copy of the buffer of a channel that came about. -/
theorem Reachable.allocatable (reachable : ch.Reachable) :
    ch.capacity * ch.elementSize ≤ Allocator.limit := by
  obtain ⟨σ, copier, s, id, config, new, ops, created, rfl⟩ := reachable
  obtain ⟨_, allocatable, rfl⟩ := create_eq_ok_iff.mp created
  have moves := (ring_fresh id config).moves_performAll copier s ops
  rw [capacity_of_shape_eq moves.shape_eq, elementSize_of_shape_eq moves.shape_eq]
  exact allocatable

/-- **The ring invariant of every run.** A channel that was constructed is a ring after any
sequence of operations, with any copier and any allocators, and however each of the operations
ended; and its capacity and element size are those it was constructed with. -/
theorem ring_performAll_of_create {id : Nat} {config : Config} (created : create id config = .ok ch)
    (copier : Copier σ) (s : σ) (ops : List Operation) :
    (ch.performAll copier s ops).channel.Ring ∧
      (ch.performAll copier s ops).channel.capacity = config.capacity ∧
      (ch.performAll copier s ops).channel.elementSize = config.elementSize := by
  obtain ⟨_, _, rfl⟩ := create_eq_ok_iff.mp created
  have ring := ring_fresh id config
  have moves := ring.moves_performAll copier s ops
  exact ⟨moves.ring ring, capacity_of_shape_eq moves.shape_eq,
    elementSize_of_shape_eq moves.shape_eq⟩

/-- Two slots, filled, wrapped and overwritten, with a copier that faults in a send, in a receive
and half-way through a drain. -/
theorem ring_performAll_of_create_trapping :
    create 1 ⟨2, 1, 1⟩ = .ok (fresh 1 ⟨2, 1, 1⟩) ∧
      ((fresh 1 ⟨2, 1, 1⟩).performAll (Copier.trapping Unit) ()
        [.send [7], .receive [0], .send [8], .send [0xff], .send [9],
          .guarded [.setSlot 0 [0xff]], .drain 1 Allocator.heap, .drain 1 Allocator.short,
          .receive [0], .receive [0]]).channel.Ring :=
  ⟨by decide, (ring_performAll_of_create (by decide : create 1 ⟨2, 1, 1⟩ = _) _ _ _).1⟩

end Channel

end ByteChannel
