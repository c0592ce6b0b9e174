import ByteChannel.Channel.Basic

/-!
# Guarded sections

A *guarded section* is a sequence of actions on one channel with nothing in between: looking at its
state, reading and overwriting slots, and working on its two queues of parked tasks. An action that
faults ends the section; what the actions before it did stays done.

The actions on a wait queue are the same wherever the queue is, so they stand by themselves.

## Main definitions

* `WaitQueue.Action`, `WaitQueue.act`
* `Channel.Action`, `Channel.act`, `Channel.guarded`
-/

namespace ByteChannel

namespace WaitQueue

/-- Something to do with a wait queue. -/
inductive Action where
  | push (waiter : Waiter)
  | pop
  | peek
  | popLive (isLive : TaskRef → Bool)
  | removeTask (task : TaskRef)
  | list
  | length
  | describe

/-- The answer to an action on a wait queue. -/
inductive Answer where
  /-- The length after a push. -/
  | pushed (length : Nat)
  /-- A parked task, or none. -/
  | waiter (waiter : Option Waiter)
  /-- All parked tasks. -/
  | waiters (waiters : List Waiter)
  /-- How many tasks are parked. -/
  | length (n : Nat)
  /-- The diagnostic text. -/
  | text (s : String)
  deriving DecidableEq, Repr

/-- Do something with a wait queue. -/
def act (q : WaitQueue) : Action → Answer × WaitQueue × List Notice
  | .push w =>
    let q := q.push w
    (.pushed q.length, q, [])
  | .pop =>
    let (w, q) := q.pop
    (.waiter w, q, [])
  | .peek => (.waiter q.peek?, q, [])
  | .popLive isLive =>
    let popped := q.popLive isLive
    (.waiter popped.waiter, popped.queue, popped.discarded.map fun w => .stale w.task)
  | .removeTask t =>
    let (w, q) := q.removeTask t
    (.waiter w, q, [])
  | .list => (.waiters q.waiters, q, [])
  | .length => (.length q.length, q, [])
  | .describe => (.text q.describe, q, [])

end WaitQueue

namespace Channel

/-- Something to do inside a guarded section. -/
inductive Action where
  /-- Look at the state. -/
  | look
  /-- Read a slot. -/
  | slot (i : Nat)
  /-- Read all slots. -/
  | slots
  /-- Overwrite the first bytes of a slot. -/
  | setSlot (i : Nat) (bytes : Bytes)
  /-- Work on the queue of parked senders. -/
  | senders (action : WaitQueue.Action)
  /-- Work on the queue of parked receivers. -/
  | receivers (action : WaitQueue.Action)

/-- The answer to an action inside a guarded section. -/
inductive Answer where
  /-- The state. -/
  | state (channel : Channel)
  /-- The bytes of a slot. -/
  | slot (bytes : Bytes)
  /-- The bytes of all slots. -/
  | slots (all : List Bytes)
  /-- The answer of a wait queue. -/
  | queue (answer : WaitQueue.Answer)
  deriving DecidableEq, Repr

/-- What an action leaves behind. -/
structure Acted where
  /-- The answer. -/
  answer : Answer
  /-- The channel afterwards. -/
  channel : Channel
  /-- The notices. -/
  notices : List Notice := []

/-- Do something inside a guarded section. -/
def act (ch : Channel) : Action → Except Fault Acted
  | .look => .ok ⟨.state ch, ch, []⟩
  | .slot i => (ch.slot i).map fun bytes => ⟨.slot bytes, ch, []⟩
  | .slots => ((List.range ch.capacity).mapM ch.slot).map fun all => ⟨.slots all, ch, []⟩
  | .setSlot i bytes =>
    (ch.slot i).map fun old =>
      let new := old.overwrite 0 bytes
      ⟨.slot new, ch.setSlot i new, []⟩
  | .senders action =>
    let (answer, senders, notices) := ch.senders.act action
    .ok ⟨.queue answer, { ch with senders }, notices⟩
  | .receivers action =>
    let (answer, receivers, notices) := ch.receivers.act action
    .ok ⟨.queue answer, { ch with receivers }, notices⟩

/-- What a guarded section leaves behind. -/
structure Section where
  /-- The answers up to the end or the first fault. -/
  answers : List Answer
  /-- The fault that ended it, if one did. -/
  fault : Option Fault
  /-- The channel afterwards. -/
  channel : Channel
  /-- The notices. -/
  notices : List Notice

/-- Do one action after the other, up to the first fault. -/
def guarded (ch : Channel) : List Action → Section
  | [] => ⟨[], none, ch, []⟩
  | action :: actions =>
    match ch.act action with
    | .error fault => ⟨[], some fault, ch, []⟩
    | .ok acted =>
      let rest := acted.channel.guarded actions
      ⟨acted.answer :: rest.answers, rest.fault, rest.channel, acted.notices ++ rest.notices⟩

end Channel

end ByteChannel
