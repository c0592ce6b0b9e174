import ByteChannel.Bytes
import ByteChannel.Task.Arena

/-!
# Wait queues

Tasks that cannot go on are parked in a queue, in order of arrival. A parked sender may leave its
element with its place. Tasks can disappear while they wait; their places stay behind as *stale*
ones, which `WaitQueue.popLive` passes over.

## Main definitions

* `Waiter`, `WaitQueue`
* `WaitQueue.push`, `WaitQueue.pop`, `WaitQueue.popLive`, `WaitQueue.removeTask`
-/

namespace ByteChannel

/-- A parked task, with the element it wants to send, if it is a sender that left it. -/
structure Waiter where
  /-- The task. -/
  task : TaskRef
  /-- The element. -/
  element : Option Bytes
  deriving DecidableEq, Repr

namespace Waiter

/-- The diagnostic text of a parked task. -/
def describe (w : Waiter) : String :=
  let length := match w.element with
    | some element => s!"Some({element.length})"
    | none => "None"
  s!"Waiter \x7b task: {w.task.describe}, elem_len: {length} \x7d"

end Waiter

/-- Parked tasks, the one that came first at the front. -/
structure WaitQueue where
  /-- The tasks in order of arrival. -/
  waiters : List Waiter
  deriving DecidableEq, Repr

namespace WaitQueue

/-- The queue without tasks. -/
def empty : WaitQueue := ⟨[]⟩

/-- How many tasks are parked. -/
def length (q : WaitQueue) : Nat := q.waiters.length

/-- Park a task behind all others. -/
def push (q : WaitQueue) (w : Waiter) : WaitQueue := ⟨q.waiters ++ [w]⟩

/-- The task at the front. -/
def peek? (q : WaitQueue) : Option Waiter := q.waiters.head?

/-- Release the task at the front. -/
def pop (q : WaitQueue) : Option Waiter × WaitQueue :=
  match q.waiters with
  | w :: rest => (some w, ⟨rest⟩)
  | [] => (none, q)

/-- What releasing the first task that is still there comes to. -/
structure Popped where
  /-- The task released. -/
  waiter : Option Waiter
  /-- The queue that remains. -/
  queue : WaitQueue
  /-- The stale tasks passed over, which leave the queue too. -/
  discarded : List Waiter
  deriving DecidableEq, Repr

/-- Look at one task after the other, from the front: release it if `isLive` holds of it, and
otherwise discard it and go on. -/
def popLiveFrom (isLive : TaskRef → Bool) : List Waiter → Popped
  | [] => ⟨none, empty, []⟩
  | w :: rest =>
    if isLive w.task then ⟨some w, ⟨rest⟩, []⟩
    else
      let popped := popLiveFrom isLive rest
      { popped with discarded := w :: popped.discarded }

/-- Release the first task for which `isLive` holds, and discard those before it. -/
def popLive (isLive : TaskRef → Bool) (q : WaitQueue) : Popped :=
  popLiveFrom isLive q.waiters

/-- Take out the first place of a task, wherever it is in the queue. -/
def removeTask (q : WaitQueue) (t : TaskRef) : Option Waiter × WaitQueue :=
  (q.waiters.find? (·.task == t), ⟨q.waiters.eraseP (·.task == t)⟩)

/-- The diagnostic text of a queue. -/
def describe (q : WaitQueue) : String :=
  let waiters := ", ".intercalate (q.waiters.map Waiter.describe)
  s!"WaitQueue \x7b waiters: [{waiters}] \x7d"

end WaitQueue

end ByteChannel
