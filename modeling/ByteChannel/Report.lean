/-!
# Reports

A report describes a channel at one moment: its identity and shape, how many elements it holds,
and for a buffered channel where the next element is received from and sent to. The caller's tag
tells what the elements are.

## Main definitions

* `Report`, `Report.text` — the report and its rendering for people
-/

namespace ByteChannel

/-- The lower-case hexadecimal digits of a tag. -/
def tagText (tag : Nat) : String :=
  String.ofList (Nat.toDigits 16 tag)

/-- The diagnostic text of a tag. -/
def describeTag (tag : Nat) : String :=
  s!"TypeTag({tag})"

/-- The name of a channel in messages. -/
def channelName (id : Nat) : String :=
  s!"#{id}"

/-- Where a buffered channel stands. -/
structure Indices where
  /-- The slot of the next element to be received. -/
  receive : Nat
  /-- The slot of the next element to be sent. -/
  send : Nat
  deriving DecidableEq, Repr

/-- A channel at one moment. -/
structure Report where
  /-- The caller's mark of the element type. -/
  tag : Nat
  /-- Which channel. -/
  channelId : Nat
  /-- How many elements it can hold. -/
  capacity : Nat
  /-- Bytes of an element. -/
  elementSize : Nat
  /-- How many elements it holds. -/
  count : Nat
  /-- Where it stands, if it is buffered. -/
  indices : Option Indices
  deriving DecidableEq, Repr

namespace Report

/-- The words for a channel that has no buffer. -/
def unbufferedText : String :=
  "Cannot peek on an unbuffered channel"

/-- Whether the channel has no buffer. -/
def isUnbuffered (r : Report) : Bool :=
  r.capacity < 1

/-- The report in four lines. -/
def text (r : Report) : String :=
  let last := match r.indices with
    | none => unbufferedText
    | some i => s!"Peeking at [recv:{i.receive} send:{i.send} {r.count}/{r.capacity}]"
  s!"Type: {tagText r.tag}, Channel: {channelName r.channelId}\n" ++
    s!"QSize:{r.capacity}, Elem:{r.elementSize}\n" ++
    s!"Value count: {r.count}\n" ++ last

/-- The diagnostic text of a report. -/
def describe (r : Report) : String :=
  let indices := match r.indices with
    | none => "None"
    | some i =>
      s!"Some(IndexSnapshot \x7b receive_index: {i.receive}, send_index: {i.send} \x7d)"
  s!"Report \x7b type_tag: {describeTag r.tag}, channel_id: ChannelId({r.channelId}), " ++
    s!"capacity: {r.capacity}, element_size: {r.elementSize}, count: {r.count}, " ++
    s!"indices: {indices} \x7d"

end Report

end ByteChannel
