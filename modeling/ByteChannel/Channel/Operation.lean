import ByteChannel.Channel.Drain
import ByteChannel.Channel.Guard
import ByteChannel.Channel.Transfer

/-!
# Operations and runs

All that can be done to a channel as one type, so that one can speak of sequences of operations. The
state they work on is the channel together with the state of its copier.

A channel has a lock, and each operation is one section under it: it is taken at the start and let
go at the end, also when a fault is the end. Sections do not overlap. So what any number of clients
do to a channel, each in its own time, is one sequence of operations, and no operation sees another
one half done.

## Main definitions

* `Operation`, `Result`
* `Channel.inspect` — a report, handed to a sink
* `Channel.perform` — one operation
* `Channel.performAll` — one after the other, with all results
-/

namespace ByteChannel

/-- Something to do with a channel. -/
inductive Operation where
  | send (element : Bytes)
  | receive (out : Bytes)
  | close
  | drain (minimum : Nat) (allocator : Allocator)
  /-- Describe the channel, under the caller's tag. -/
  | snapshot (tag : Nat)
  /-- Do several things with nothing in between. -/
  | guarded (actions : List Channel.Action)
  /-- Use the channel's copier directly. -/
  | copy (call : CopyCall)

/-- How an operation ended. -/
inductive Result where
  | sent (outcome : Outcome SendError Unit)
  | received (outcome : Outcome ReceiveError Unit) (out : Bytes)
  | closed (outcome : Outcome CloseError (List Waiter))
  | drained (outcome : Outcome Empty (Option Batch))
  | reported (report : Report)
  | guarded (answers : List Channel.Answer) (fault : Option Fault)
  | copied (outcome : Outcome Empty Unit) (target : Bytes)
  deriving DecidableEq

namespace Channel

variable {σ : Type}

/-- A report on a channel as it is. -/
def snapshot (ch : Channel) (tag : Nat) : Report where
  tag := tag
  channelId := ch.id
  capacity := ch.capacity
  elementSize := ch.elementSize
  count := ch.count
  indices := if ch.capacity < 1 then none else some ch.indices

/-- What an inspection leaves behind. -/
structure Inspected (α : Type) where
  /-- The report that was taken. -/
  report : Report
  /-- What the sink left behind. -/
  emitted : α

/-- Inspect a channel: take a report on it, then hand the report to a sink. Only taking the report
is a section under the channel's lock, and it is over before the sink is called. The sink runs in
the `world` the channel is part of, which taking the report leaves as it is, and since nothing is
locked any more it may use the channel again, each operation of its own being a section for itself.
What is answered is the report that was taken all the same. -/
def inspect {ω α : Type} (ch : Channel) (tag : Nat) (sink : Report → ω → α) (world : ω) :
    Inspected α :=
  let report := ch.snapshot tag
  ⟨report, sink report world⟩

/-- What an operation leaves behind. -/
structure Performed (σ : Type) where
  /-- How it ended. -/
  result : Result
  /-- The channel afterwards. -/
  channel : Channel
  /-- The copier's state afterwards. -/
  copier : σ
  /-- What it did on the way. -/
  effects : Effects

/-- Do one operation, as one section under the channel's lock. -/
def perform (copier : Copier σ) (s : σ) (ch : Channel) : Operation → Performed σ
  | .send element =>
    let r := ch.send copier s element
    ⟨.sent r.outcome, r.channel, r.copier, r.effects⟩
  | .receive out =>
    let r := ch.receive copier s out
    ⟨.received r.outcome r.out, r.channel, r.copier, r.effects⟩
  | .close =>
    let r := ch.close s
    ⟨.closed r.outcome, r.channel, r.copier, r.effects⟩
  | .drain minimum allocator =>
    let r := ch.drain copier s minimum allocator
    ⟨.drained r.outcome, r.channel, r.copier, r.effects⟩
  | .snapshot tag => ⟨.reported (ch.snapshot tag), ch, s, {}⟩
  | .guarded actions =>
    let r := ch.guarded actions
    ⟨.guarded r.answers r.fault, r.channel, s, { notices := r.notices }⟩
  | .copy call =>
    let copied := copier.copy s call
    let outcome := match copied.fault with
      | some fault => .fault fault
      | none => .ok ()
    ⟨.copied outcome copied.target, ch, copied.state, { calls := [call] }⟩

/-- What a sequence of operations leaves behind. -/
structure Run (σ : Type) where
  /-- How each of them ended. -/
  results : List Result
  /-- The channel afterwards. -/
  channel : Channel
  /-- The copier's state afterwards. -/
  copier : σ
  /-- What they did on the way. -/
  effects : Effects

/-- Do one operation after the other. A fault ends its operation, not the sequence. -/
def performAll (copier : Copier σ) (s : σ) (ch : Channel) : List Operation → Run σ
  | [] => ⟨[], ch, s, {}⟩
  | op :: ops =>
    let first := ch.perform copier s op
    let rest := first.channel.performAll copier first.copier ops
    ⟨first.result :: rest.results, rest.channel, rest.copier, first.effects ++ rest.effects⟩

end Channel

end ByteChannel
