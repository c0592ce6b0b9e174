import ByteChannel.Channel.Construction
import ByteChannel.Channel.Operation
import ByteChannel.Config.Reader
import ByteChannel.Copier.Stock

/-!
# Commands and replies

The language of a session. Channels, arenas, wait queues, tasks and collections of reports go by
names; a *command* says what to do with a named thing, and a *reply* how that ended. The sink of
an inspection can be a program: commands that run when the report is handed over.
-/

namespace ByteChannel.Session

/-- The allocators that can be asked for by name. -/
inductive AllocatorName where
  | heap
  | filled
  | short
  | long
  | nothing
  | refusing
  deriving DecidableEq, Repr

namespace AllocatorName

/-- The allocator of a name. -/
def allocator : AllocatorName → Allocator
  | heap => Allocator.heap
  | filled => Allocator.filled 0xa5
  | short => Allocator.short
  | long => Allocator.long 3 0xee
  | nothing => Allocator.nothing
  | refusing => Allocator.refusing

end AllocatorName

/-- Something to do with a wait queue, tasks and arenas being named. -/
inductive QueueCommand where
  | push (task : String) (element : Option Bytes)
  | pop
  | peek
  | popLive (arena : String)
  | removeTask (task : String)
  | list
  | length
  | describe
  deriving DecidableEq, Repr

/-- Something to do inside a guarded section. -/
inductive GuardCommand where
  | look
  | slot (i : Nat)
  | slots
  | setSlot (i : Nat) (bytes : Bytes)
  | senders (command : QueueCommand)
  | receivers (command : QueueCommand)
  deriving DecidableEq, Repr

/-- Something to do with an arena. -/
inductive ArenaCommand where
  /-- Register a task and give its reference a name. -/
  | insert (task value : String)
  | remove (task : String)
  | get (task : String)
  | set (task value : String)
  | isLive (task : String)
  | length
  | describe
  deriving DecidableEq, Repr

/-- Something to do with a collection of reports. -/
inductive SinkCommand where
  | reports
  /-- Answer the reports and forget them. -/
  | take
  | length
  deriving DecidableEq, Repr

/-- One step of a session. -/
inductive Command where
  /-- Create a channel. It takes its name only if it comes into being. -/
  | create (channel : String) (request : Construction StockCopier)
  /-- Create a channel from the text of a configuration. -/
  | load (channel text : String) (copier : StockCopier)
  | send (channel : String) (element : Bytes)
  /-- Receive into an output of equal bytes, by default as long as an element. -/
  | receive (channel : String) (fill : UInt8) (length : Option Nat)
  | close (channel : String)
  | info (channel : String)
  | copy (channel : String) (call : CopyCall)
  /-- Drain, and look up some elements of the batch. -/
  | drain (channel : String) (minimum : Nat) (allocator : AllocatorName) (look : List Nat)
  /-- Inspect a channel and put the report on record as a notice. -/
  | inspect (channel : String) (tag : Nat)
  /-- Inspect a channel and add the report to a collection. -/
  | inspectInto (channel : String) (tag : Nat) (sink : String)
  /-- Inspect a channel and run a program when the report is handed over. -/
  | inspectWith (channel : String) (tag : Nat) (program : List Command)
  | guarded (channel : String) (commands : List GuardCommand)
  | queue (queue : String) (command : QueueCommand)
  | arena (arena : String) (command : ArenaCommand)
  /-- Compare two tasks. -/
  | sameTask (a b : String)
  | sink (sink : String) (command : SinkCommand)

namespace Command

/-- The name of the channel a command is about. -/
def channel? : Command → Option String
  | create channel .. | load channel .. | send channel .. | receive channel .. | close channel
  | info channel | copy channel .. | drain channel .. | inspect channel .. | inspectInto channel ..
  | inspectWith channel .. | guarded channel .. => some channel
  | queue .. | arena .. | sameTask .. | sink .. => none

end Command

/-- All there is to see of a batch. -/
structure BatchView where
  /-- The batch. -/
  batch : Batch
  /-- Its elements. -/
  items : List Bytes
  /-- The elements looked up, where they exist. -/
  found : List (Option Bytes)
  deriving DecidableEq, Repr

/-- The reply to a command on an arena. -/
inductive ArenaReply where
  | inserted (task : TaskRef) (length : Nat)
  | removed (value : Option String) (length : Nat)
  | value (value : Option String)
  | isLive (live : Bool)
  | length (n : Nat)
  | text (s : String)
  deriving DecidableEq, Repr

/-- The reply to a command on a collection of reports. -/
inductive SinkReply where
  | reports (reports : List Report)
  | length (n : Nat)
  deriving DecidableEq, Repr

/-- The state of a channel in brief. -/
structure Standing where
  /-- How many elements it holds. -/
  count : Nat
  /-- The slot of the next element to be sent. -/
  sendIndex : Nat
  /-- The slot of the next element to be received. -/
  receiveIndex : Nat
  /-- Whether it is closed. -/
  closed : Bool
  /-- How many tasks wait to send. -/
  senders : Nat
  /-- How many tasks wait to receive. -/
  receivers : Nat
  deriving DecidableEq, Repr

/-- The brief state of a channel. -/
def Standing.of (ch : Channel) : Standing :=
  ⟨ch.count, ch.sendIndex, ch.receiveIndex, ch.closed, ch.senders.length, ch.receivers.length⟩

/-- How a command ended. -/
inductive Reply where
  /-- The number of the new channel. -/
  | created (outcome : Outcome Config.LoadError Nat)
  | sent (outcome : Outcome SendError Unit)
  | received (outcome : Outcome ReceiveError Unit) (out : Bytes)
  | closed (outcome : Outcome CloseError (List Waiter))
  | info (channel : Channel)
  | copied (outcome : Outcome Empty Unit) (target : Bytes)
  | drained (outcome : Outcome Empty (Option BatchView)) (requests : List Nat)
  | inspected (report : Report)
  /-- A report was added to a collection that now has `length`. -/
  | collected (report : Report) (length : Nat)
  /-- A report was handed to a program, which has `seen` it. The program's replies follow, each with
  the state of its channel. -/
  | passed (report seen : Report) (inner : List (Reply × Option Standing))
  | guarded (answers : List Channel.Answer) (fault : Option Fault)
  | queue (answer : WaitQueue.Answer)
  | arena (reply : ArenaReply)
  | sameTask (same : Bool)
  | sink (reply : SinkReply)
  /-- The command names something that does not exist. -/
  | unknown (name : String)

end ByteChannel.Session
