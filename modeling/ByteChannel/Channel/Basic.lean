import ByteChannel.Allocator
import ByteChannel.Config
import ByteChannel.Copier
import ByteChannel.Notice

/-!
# Channels

A channel holds up to `capacity` elements of one size in a flat buffer, used as a ring of *slots*:
the oldest element lies in slot `receiveIndex`, the others follow it around the ring, and the next
one to come goes to slot `sendIndex`. A channel of capacity zero has no buffer. Beside the ring
there are a flag that tells whether the channel is closed and two queues of parked tasks.

Operations on channels are functions from the channel before to a `Step`: how they ended, the
channel they leave behind (also after a fault), and what they did on the way.

## Main definitions

* `Channel`, `Channel.slot`, `Channel.setSlot` — the state and its slots
* `Channel.occupied`, `Channel.content` — the ring read from its oldest element on
* `Channel.create`, `Issuer.create` — construction, and the numbering of channels
* `Channel.Step`, `Effects` — what an operation leaves behind
-/

namespace ByteChannel

/-- The state of a channel. -/
structure Channel where
  /-- The channel's number. -/
  id : Nat
  /-- How many elements it can hold. -/
  capacity : Nat
  /-- The shape of its elements. -/
  layout : Layout
  /-- The bytes of all slots, one after the other, if it has any. -/
  buffer : Option Bytes
  /-- How many elements it holds. -/
  count : Nat
  /-- The slot of the next element to be sent. -/
  sendIndex : Nat
  /-- The slot of the next element to be received. -/
  receiveIndex : Nat
  /-- Whether it is closed. -/
  closed : Bool
  /-- The tasks that wait to send. -/
  senders : WaitQueue
  /-- The tasks that wait to receive. -/
  receivers : WaitQueue
  deriving DecidableEq, Repr

namespace Channel

/-- Bytes of an element. -/
def elementSize (ch : Channel) : Nat := ch.layout.size

/-! ### Slots -/

/-- The bytes of slot `i`, which must be one of the channel's. -/
def slot (ch : Channel) (i : Nat) : Except Fault Bytes :=
  if i < ch.capacity then
    match ch.buffer with
    | some buffer => buffer.slice (i * ch.elementSize) ((i + 1) * ch.elementSize)
    | none => .error .noSlots
  else .error (.slotIndex i ch.capacity)

/-- The channel with the bytes of slot `i` replaced. -/
def setSlot (ch : Channel) (i : Nat) (bytes : Bytes) : Channel :=
  { ch with buffer := ch.buffer.map (·.overwrite (i * ch.elementSize) bytes) }

/-- The slot after slot `i`, around the ring. -/
def next (ch : Channel) (i : Nat) : Nat := (i + 1) % ch.capacity

/-- How many of the elements lie between the oldest one and the end of the buffer. -/
def firstRun (ch : Channel) : Nat :=
  min ch.count (ch.capacity - ch.receiveIndex)

/-- The slots that hold elements, the oldest first: a run up to the end of the buffer, and what is
left from its start on. -/
def occupied (ch : Channel) : List Nat :=
  List.range' ch.receiveIndex ch.firstRun ++ List.range (ch.count - ch.firstRun)

/-- The elements a channel holds, the oldest first. -/
def content (ch : Channel) : Except Fault (List Bytes) :=
  ch.occupied.mapM ch.slot

/-- Where the channel stands. -/
def indices (ch : Channel) : Indices := ⟨ch.receiveIndex, ch.sendIndex⟩

/-- The diagnostic text of a channel. -/
def describe (ch : Channel) : String :=
  s!"Channel \x7b id: ChannelId({ch.id}), capacity: {ch.capacity}, " ++
    s!"layout: {ch.layout.describe}, .. \x7d"

/-! ### Construction -/

/-- A new channel with the given number: open, empty, and with a buffer of zero bytes. -/
def create (id : Nat) (config : Config) : Outcome Config.Invalid Channel :=
  match config.validate with
  | .error e => .error e
  | .ok length =>
    let fresh (buffer : Option Bytes) : Channel :=
      { id, capacity := config.capacity, layout := config.layout, buffer, count := 0,
        sendIndex := 0, receiveIndex := 0, closed := false, senders := .empty, receivers := .empty }
    if config.capacity = 0 then .ok (fresh none)
    else match Allocator.heap length with
      | .ok bytes => .ok (fresh (some bytes))
      | .error fault => .fault fault

end Channel

/-- The giver of channel numbers. -/
structure Issuer where
  /-- The number that was given last, zero before the first. -/
  last : Nat
  deriving DecidableEq, Repr

namespace Issuer

/-- Create a channel. Only a success takes a number. -/
def create (issuer : Issuer) (config : Config) : Outcome Config.Invalid Channel × Issuer :=
  match Channel.create (issuer.last + 1) config with
  | .ok ch => (.ok ch, ⟨issuer.last + 1⟩)
  | failed => (failed, issuer)

end Issuer

/-! ### What operations leave behind -/

/-- What an operation did on the way. -/
structure Effects where
  /-- The requests to the copier, in order. -/
  calls : List CopyCall := []
  /-- The lengths asked of an allocator, in order. -/
  requests : List Nat := []
  /-- The notices, in order. -/
  notices : List Notice := []
  deriving DecidableEq, Repr

namespace Effects

/-- First one thing, then another. -/
def append (a b : Effects) : Effects :=
  ⟨a.calls ++ b.calls, a.requests ++ b.requests, a.notices ++ b.notices⟩

instance : Append Effects := ⟨append⟩

end Effects

/-- What an operation on a channel leaves behind. -/
structure Channel.Step (σ ε α : Type) where
  /-- How it ended. -/
  outcome : Outcome ε α
  /-- The channel afterwards. -/
  channel : Channel
  /-- The copier's state afterwards. -/
  copier : σ
  /-- What it did on the way. -/
  effects : Effects := {}

end ByteChannel
