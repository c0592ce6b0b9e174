import ByteChannel.Channel.Basic

/-!
# Sending, receiving and closing

The operations that move single elements, and the one that ends a channel's life. None of them
waits: where an element cannot be moved at once, the operation refuses.

The order of the checks is part of the behaviour. An element or output of the wrong length is a
fault before anything else is looked at; a closed channel refuses to send even when it is full;
and a closed channel still gives out the elements it holds.

## Main definitions

* `Channel.send`, `Channel.receive`, `Channel.close`
* `SendError`, `ReceiveError`, `CloseError`
-/

namespace ByteChannel

/-- Why an element was not sent. It is handed back. -/
inductive SendError where
  /-- The channel holds as many elements as it can. -/
  | full (element : Bytes)
  /-- The channel is closed. -/
  | closed (element : Bytes)
  deriving DecidableEq, Repr

namespace SendError

/-- The element handed back. -/
def element : SendError → Bytes
  | full element | closed element => element

/-- The text for people. -/
def message : SendError → String
  | full _ => "channel full"
  | closed _ => "channel closed"

/-- The diagnostic text, without the element. -/
def describe : SendError → String
  | full _ => "TrySendError::Full(..)"
  | closed _ => "TrySendError::Closed(..)"

end SendError

/-- Why no element was received. -/
inductive ReceiveError where
  /-- The channel holds no element at present. -/
  | empty
  /-- The channel holds no element and will never hold one again. -/
  | closed
  deriving DecidableEq, Repr

namespace ReceiveError

/-- The text for people. -/
def message : ReceiveError → String
  | empty => "channel empty"
  | closed => "channel closed and drained"

end ReceiveError

/-- Why a channel was not closed: it is already. -/
inductive CloseError where
  | alreadyClosed
  deriving DecidableEq, Repr

namespace CloseError

/-- The text for people. -/
def message : CloseError → String
  | alreadyClosed => "channel is already closed"

end CloseError

namespace Channel

variable {σ : Type}

/-- Send an element: let the copier write it over the slot that is next, and move on. If the copier
faults, what it wrote stays in the slot, but the channel does not count it. -/
def send (copier : Copier σ) (s : σ) (ch : Channel) (element : Bytes) : Step σ SendError Unit :=
  if element.length ≠ ch.elementSize then
    ⟨.fault (.elementLength element.length ch.elementSize), ch, s, {}⟩
  else if ch.closed then ⟨.error (.closed element), ch, s, {}⟩
  else if ch.capacity ≤ ch.count then ⟨.error (.full element), ch, s, {}⟩
  else match ch.slot ch.sendIndex with
    | .error fault => ⟨.fault fault, ch, s, {}⟩
    | .ok target =>
      let call : CopyCall := ⟨ch.elementSize, target, element⟩
      let copied := copier.copy s call
      let written := ch.setSlot ch.sendIndex copied.target
      match copied.fault with
      | some fault => ⟨.fault fault, written, copied.state, { calls := [call] }⟩
      | none =>
        ⟨.ok (), { written with sendIndex := ch.next ch.sendIndex, count := ch.count + 1 },
          copied.state, { calls := [call] }⟩

/-- What receiving leaves behind: besides the channel, the output. -/
structure Received (σ : Type) extends Step σ ReceiveError Unit where
  /-- The output afterwards. -/
  out : Bytes

/-- Receive the oldest element: let the copier write it over the output `out`, and move on. -/
def receive (copier : Copier σ) (s : σ) (ch : Channel) (out : Bytes) : Received σ :=
  if out.length ≠ ch.elementSize then
    ⟨⟨.fault (.outputLength out.length ch.elementSize), ch, s, {}⟩, out⟩
  else if ch.count = 0 then
    ⟨⟨.error (if ch.closed then .closed else .empty), ch, s, {}⟩, out⟩
  else match ch.slot ch.receiveIndex with
    | .error fault => ⟨⟨.fault fault, ch, s, {}⟩, out⟩
    | .ok source =>
      let call : CopyCall := ⟨ch.elementSize, out, source⟩
      let copied := copier.copy s call
      match copied.fault with
      | some fault => ⟨⟨.fault fault, ch, copied.state, { calls := [call] }⟩, copied.target⟩
      | none =>
        let moved := { ch with receiveIndex := ch.next ch.receiveIndex, count := ch.count - 1 }
        ⟨⟨.ok (), moved, copied.state, { calls := [call] }⟩, copied.target⟩

/-- Close a channel and release all parked tasks, the receivers before the senders. -/
def close (s : σ) (ch : Channel) : Step σ CloseError (List Waiter) :=
  if ch.closed then ⟨.error .alreadyClosed, ch, s, {}⟩
  else
    let released := ch.receivers.waiters ++ ch.senders.waiters
    ⟨.ok released, { ch with closed := true, senders := .empty, receivers := .empty }, s,
      { notices := [.closed ch.id released.length] }⟩

end Channel

end ByteChannel
