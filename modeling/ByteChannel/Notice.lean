import ByteChannel.Report
import ByteChannel.Task.WaitQueue

/-!
# Notices

What an operation does is put on record as it happens. A *notice* is one such record: it has a
level, it belongs to a part of the library, and it carries a message with named values.
-/

namespace ByteChannel

/-- How important a notice is. -/
inductive Level where
  | trace
  | debug
  | info
  deriving DecidableEq, Repr

/-- The part of the library that a notice is about. -/
inductive Topic where
  | channel
  | drain
  | inspection
  | waiting
  deriving DecidableEq, Repr

/-- Something that happened. -/
inductive Notice where
  /-- A channel was created. -/
  | created (id capacity elementSize : Nat)
  /-- A channel was closed, and so many parked tasks were released. -/
  | closed (id released : Nat)
  /-- A drain looked whether there are enough elements. -/
  | considered (id minimum count : Nat)
  /-- A drain found a channel without a buffer. -/
  | unbuffered (id : Nat)
  /-- A drain is about to copy the elements out. -/
  | draining (id : Nat) (indices : Indices) (count capacity : Nat)
  /-- A stale place in a wait queue was passed over. -/
  | stale (task : TaskRef)
  /-- A report was put on record. -/
  | reported (report : Report)
  deriving DecidableEq, Repr

/-- A value that a notice carries. -/
inductive Datum where
  | number (n : Nat)
  | text (s : String)
  deriving DecidableEq, Repr

namespace Notice

/-- The level of a notice. -/
def level : Notice → Level
  | created .. | closed .. | unbuffered .. => .debug
  | considered .. | draining .. | stale .. => .trace
  | reported .. => .info

/-- The part of the library a notice is about. -/
def topic : Notice → Topic
  | created .. | closed .. => .channel
  | considered .. | unbuffered .. | draining .. => .drain
  | stale .. => .waiting
  | reported .. => .inspection

/-- The message of a notice. -/
def message : Notice → String
  | created .. => "channel created"
  | closed .. => "channel closed"
  | considered _ minimum count => s!"{minimum} <= {count}?"
  | unbuffered .. => Report.unbufferedText
  | draining .. => "draining"
  | stale .. => "discarding stale waiter"
  | reported r => if r.indices.isSome then "channel snapshot" else Report.unbufferedText

/-- The named values of a report. -/
def reportData (r : Report) : List (String × Datum) :=
  let shape := [("type_tag", .text (tagText r.tag)), ("channel", .text (channelName r.channelId)),
    ("capacity", .number r.capacity), ("element_size", .number r.elementSize),
    ("count", .number r.count)]
  match r.indices with
  | none => shape
  | some i => shape ++ [("recv", .number i.receive), ("send", .number i.send)]

/-- The named values of a notice. -/
def data : Notice → List (String × Datum)
  | created id capacity elementSize =>
    [("channel", .text (channelName id)), ("capacity", .number capacity),
      ("element_size", .number elementSize)]
  | closed id released => [("channel", .text (channelName id)), ("released", .number released)]
  | considered id minimum count =>
    [("channel", .text (channelName id)), ("min_count", .number minimum),
      ("count", .number count)]
  | unbuffered id => [("channel", .text (channelName id))]
  | draining id indices count capacity =>
    [("channel", .text (channelName id)), ("recv", .number indices.receive),
      ("send", .number indices.send), ("count", .number count), ("capacity", .number capacity)]
  | stale task => [("index", .number task.index), ("generation", .number task.generation)]
  | reported r => reportData r

end Notice

end ByteChannel
