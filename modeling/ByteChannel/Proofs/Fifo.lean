import ByteChannel.Proofs.Copying
import ByteChannel.Proofs.Reachable

/-!
# A channel is a bounded queue

To a client that sends, receives, closes, drains and asks for the length and the flag, a channel is
a list with a flag: `Queue` is that machine, without indices, buffer or wrapping. The two are
compared by what they answer, over every sequence of requests from construction on.

The copier is any that computes some function `f` of an element. An element passes through it twice,
on its way in and on its way out, so the queue keeps `f e` and answers `f (f e)`. For the plain
copy both are `e`.

A request is an operation, and a reply is read off the result of one: the length and the flag are
what a guarded section finds when it looks at the state. So it is the ordinary runs of a channel
that are compared with the queue.

`Channel.queue` reads a channel as a queue, and each request commutes with it. The states that need
care are all covered by one view: full and empty channels differ by their count alone, a wrapped
ring reads as a list, and a drained channel, its indices reset, is again the empty list.

## Main definitions

* `Request`, `Reply` — what a client asks for, and what it is answered
* `Queue`, `Queue.serve`, `Queue.serveAll` — the abstract queue
* `Request.operation`, `Request.reply?` — the same requests on a channel

## Main results

* `Channel.Serving.agrees` — a request commutes with reading the channel as a queue
* `Channel.replies_performAll_eq_serveAll` — every sequence of requests is answered alike
-/

namespace ByteChannel

/-! ### Requests and replies -/

/-- What a client asks of a channel whose elements have `size` bytes. -/
inductive Request (size : Nat) where
  | send (element : Bytes) (sized : element.length = size)
  | receive (out : Bytes) (sized : out.length = size)
  | close
  | drain (minimum : Nat)
  | length
  | isClosed

/-- What a client is answered. -/
inductive Reply where
  | sent (outcome : Outcome SendError Unit)
  | received (outcome : Outcome ReceiveError Unit) (out : Bytes)
  | closed (outcome : Outcome CloseError (List Waiter))
  /-- The elements of a batch, if there is one. -/
  | drained (outcome : Outcome Empty (Option (List Bytes)))
  | length (n : Nat)
  | isClosed (closed : Bool)
  deriving DecidableEq

/-! ### The abstract queue -/

/-- A bounded queue: the elements it holds, the oldest first, and whether it is closed. -/
structure Queue where
  /-- The elements. -/
  items : List Bytes
  /-- Whether it is closed. -/
  closed : Bool
  deriving DecidableEq

namespace Queue

/-- The queue at the start. -/
def new : Queue := ⟨[], false⟩

/-- Serve a request, `f` being what becomes of an element each time it is moved. -/
def serve {size : Nat} (capacity : Nat) (f : Bytes → Bytes) (q : Queue) :
    Request size → Reply × Queue
  | .send element _ =>
    if q.closed then (.sent (.error (.closed element)), q)
    else if capacity ≤ q.items.length then (.sent (.error (.full element)), q)
    else (.sent (.ok ()), { q with items := q.items ++ [f element] })
  | .receive out _ =>
    match q.items with
    | oldest :: rest => (.received (.ok ()) (f oldest), { q with items := rest })
    | [] => (.received (.error (if q.closed then .closed else .empty)) out, q)
  | .close =>
    if q.closed then (.closed (.error .alreadyClosed), q)
    else (.closed (.ok []), { q with closed := true })
  | .drain minimum =>
    if q.items.length < minimum ∨ capacity = 0 then (.drained (.ok none), q)
    else (.drained (.ok (some (q.items.map f))), { q with items := [] })
  | .length => (.length q.items.length, q)
  | .isClosed => (.isClosed q.closed, q)

/-- Serve one request after the other. -/
def serveAll {size : Nat} (capacity : Nat) (f : Bytes → Bytes) (q : Queue) :
    List (Request size) → List Reply
  | [] => []
  | r :: rs =>
    let (reply, q) := q.serve capacity f r
    reply :: q.serveAll capacity f rs

end Queue

/-! ### The same requests on a channel -/

/-- The elements a drain's client sees. -/
def Batch.view : Outcome Empty (Option Batch) → Outcome Empty (Option (List Bytes))
  | .ok none => .ok none
  | .ok (some batch) =>
    match batch.items with
    | .ok items => .ok (some items)
    | .error fault => .fault fault
  | .fault fault => .fault fault

namespace Request

variable {size : Nat}

/-- The operation a request asks for. Drains get their buffer from the heap. -/
def operation : Request size → Operation
  | .send element _ => .send element
  | .receive out _ => .receive out
  | .close => .close
  | .drain minimum => .drain minimum Allocator.heap
  | .length | .isClosed => .guarded [.look]

/-- The reply to a request, if the result is that of its operation. -/
def reply? : Request size → Result → Option Reply
  | .send .., .sent outcome => some (.sent outcome)
  | .receive .., .received outcome out => some (.received outcome out)
  | .close, .closed outcome => some (.closed outcome)
  | .drain _, .drained outcome => some (.drained (Batch.view outcome))
  | .length, .guarded [.state ch] none => some (.length ch.count)
  | .isClosed, .guarded [.state ch] none => some (.isClosed ch.closed)
  | _, _ => none

end Request

namespace Channel

variable {σ : Type} {ch : Channel} {copier : Copier σ} {f : Bytes → Bytes} {capacity size : Nat}

/-! ### The squares -/

/-- A channel read as a queue. -/
def queue (ch : Channel) : Queue := ⟨ch.elements, ch.closed⟩

/-- What holds of a channel of which only such requests are made: it is a ring of the given shape,
the heap can hold a copy of its buffer, and no task is parked. -/
structure Serving (capacity size : Nat) (ch : Channel) : Prop where
  /-- It is a ring. -/
  ring : ch.Ring
  /-- It has the given capacity. -/
  capacity_eq : ch.capacity = capacity
  /-- Its elements have the given size. -/
  elementSize_eq : ch.elementSize = size
  /-- Its buffer can be allocated. -/
  allocatable : capacity * size ≤ Allocator.limit
  /-- No task is parked. -/
  queues_eq : ch.senders = .empty ∧ ch.receivers = .empty

theorem Serving.of_create {id : Nat} {config : Config} (created : create id config = .ok ch) :
    Serving config.capacity config.elementSize ch := by
  obtain ⟨_, allocatable, rfl⟩ := create_eq_ok_iff.mp created
  exact ⟨ring_fresh id config, rfl, rfl, allocatable, rfl, rfl⟩

/-- Serving goes on through moves that park no task. -/
theorem Serving.of_moves (serving : Serving capacity size ch) {ch' : Channel}
    (moves : Moves ch ch') (queues_eq : ch'.senders = .empty ∧ ch'.receivers = .empty) :
    Serving capacity size ch' where
  ring := moves.ring serving.ring
  capacity_eq := (capacity_of_shape_eq moves.shape_eq).trans serving.capacity_eq
  elementSize_eq := (elementSize_of_shape_eq moves.shape_eq).trans serving.elementSize_eq
  allocatable := serving.allocatable
  queues_eq := queues_eq

/-- What a request comes to on a channel is what is expected of the queue: the reply is the same,
the channel stands for the queue afterwards, and no task is parked. -/
structure Agrees (request : Request size) (done : Performed σ) (expected : Reply × Queue) :
    Prop where
  /-- The replies are the same. -/
  reply_eq : request.reply? done.result = some expected.1
  /-- The channel stands for the queue. -/
  queue_eq : done.channel.queue = expected.2
  /-- No task is parked. -/
  queues_eq : done.channel.senders = .empty ∧ done.channel.receivers = .empty

theorem Serving.agrees_send (serving : Serving capacity size ch)
    (computes : copier.Computes size f) (s : σ) (element : Bytes) (sized : element.length = size) :
    Agrees (.send element sized) (ch.perform copier s (.send element))
      (ch.queue.serve capacity f (.send element sized)) := by
  obtain ⟨ring, rfl, rfl, _, hqueues⟩ := serving
  have exit := ring.send_exit copier s element
  simp only [perform]
  generalize ch.send copier s element = r at exit ⊢
  cases exit with
  | wrongLength h => exact absurd sized h
  | closed _ h =>
    have expected : ch.queue.serve ch.capacity f (.send element sized)
        = (.sent (.error (.closed element)), ch.queue) := by
      simp [Queue.serve, queue, h]
    rw [expected]
    exact ⟨rfl, rfl, hqueues⟩
  | full _ isOpen h =>
    have expected : ch.queue.serve ch.capacity f (.send element sized)
        = (.sent (.error (.full element)), ch.queue) := by
      simp [Queue.serve, queue, isOpen, h]
    rw [expected]
    exact ⟨rfl, rfl, hqueues⟩
  | cutShort _ _ room fault h =>
    rw [sendCall, computes.fault_eq s _ element (ring.length_bytesAt_sendIndex room) sized] at h
    cases h
  | sent _ isOpen room h =>
    have hmade := ring.target_sendCall computes.yields room sized h
    have hlen : (f element).length = ch.elementSize := by
      rw [← hmade]
      exact ring.length_target_sendCall room copier s element
    have expected : ch.queue.serve ch.capacity f (.send element sized)
        = (.sent (.ok ()), ⟨ch.elements ++ [f element], ch.closed⟩) := by
      simp [Queue.serve, queue, isOpen, room]
    rw [expected, hmade]
    exact ⟨rfl, congrArg (Queue.mk · ch.closed) (ring.elements_pushed room hlen), hqueues⟩

theorem Serving.agrees_receive (serving : Serving capacity size ch)
    (computes : copier.Computes size f) (s : σ) (out : Bytes) (sized : out.length = size) :
    Agrees (.receive out sized) (ch.perform copier s (.receive out))
      (ch.queue.serve capacity f (.receive out sized)) := by
  obtain ⟨ring, rfl, rfl, _, hqueues⟩ := serving
  have exit := ring.receive_exit copier s out
  simp only [perform]
  generalize ch.receive copier s out = r at exit ⊢
  cases exit with
  | wrongLength h => exact absurd sized h
  | empty _ h =>
    have hnil : ch.elements = [] := List.eq_nil_of_length_eq_zero (by simpa using h)
    have expected : ch.queue.serve ch.capacity f (.receive out sized)
        = (.received (.error (if ch.closed then .closed else .empty)) out, ch.queue) := by
      simp [Queue.serve, queue, hnil]
    rw [expected]
    exact ⟨rfl, rfl, hqueues⟩
  | cutShort _ some_left fault h =>
    have hsource := ring.length_bytesAt_receiveIndex some_left
    rw [receiveCall, computes.fault_eq s out _ sized hsource] at h
    cases h
  | received _ some_left h =>
    have hmade := ring.target_receiveCall computes.yields some_left sized h
    have expected : ch.queue.serve ch.capacity f (.receive out sized)
        = (.received (.ok ()) (f (ch.bytesAt ch.receiveIndex)), ch.popped.queue) := by
      simp only [Queue.serve, queue, ring.elements_eq_cons some_left]
      rfl
    rw [expected, hmade]
    exact ⟨rfl, rfl, hqueues⟩

theorem Serving.agrees_close (serving : Serving capacity size ch) (s : σ) :
    Agrees (.close : Request size) (ch.perform copier s .close)
      (ch.queue.serve capacity f (.close : Request size)) := by
  obtain ⟨_, _, _, _, hsenders, hreceivers⟩ := serving
  have exit := close_exit s ch
  simp only [perform]
  generalize ch.close s = r at exit ⊢
  cases exit with
  | refused h =>
    have expected : ch.queue.serve capacity f (.close : Request size)
        = (.closed (.error .alreadyClosed), ch.queue) := by
      simp [Queue.serve, queue, h]
    rw [expected]
    exact ⟨rfl, rfl, hsenders, hreceivers⟩
  | done h =>
    have expected : ch.queue.serve capacity f (.close : Request size)
        = (.closed (.ok []), ⟨ch.elements, true⟩) := by
      simp [Queue.serve, queue, h]
    rw [expected, hsenders, hreceivers]
    exact ⟨rfl, rfl, rfl, rfl⟩

theorem Serving.agrees_drain (serving : Serving capacity size ch)
    (computes : copier.Computes size f) (s : σ) (minimum : Nat) :
    Agrees (.drain minimum : Request size) (ch.perform copier s (.drain minimum Allocator.heap))
      (ch.queue.serve capacity f (.drain minimum : Request size)) := by
  obtain ⟨ring, rfl, rfl, allocatable, hqueues⟩ := serving
  have hrequest : ch.count * ch.elementSize ≤ Allocator.limit :=
    (Nat.mul_le_mul_right _ ring.count_le).trans allocatable
  have hheap : Allocator.heap (ch.count * ch.elementSize)
      = .ok (Bytes.zeros (ch.count * ch.elementSize)) := if_pos hrequest
  have exit := drain_exit copier s ch minimum Allocator.heap
  simp only [perform]
  generalize ch.drain copier s minimum Allocator.heap = r at exit ⊢
  cases exit with
  | tooFew h =>
    have expected : ch.queue.serve ch.capacity f (.drain minimum : Request ch.elementSize)
        = (.drained (.ok none), ch.queue) := by
      simp [Queue.serve, queue, h]
    rw [expected]
    exact ⟨rfl, rfl, hqueues⟩
  | noBuffer _ fault h =>
    rw [hheap] at h
    cases h
  | unbuffered _ _ _ h =>
    have expected : ch.queue.serve ch.capacity f (.drain minimum : Request ch.elementSize)
        = (.drained (.ok none), ch.queue) := by
      simp [Queue.serve, queue, h]
    rw [expected]
    exact ⟨rfl, rfl, hqueues⟩
  | cutShort _ bytes allocated buffered fault h =>
    obtain rfl : Bytes.zeros (ch.count * ch.elementSize) = bytes :=
      Except.ok.inj (hheap.symm.trans allocated)
    have hnone : (ch.copyOut copier ch.occupied 0 s
        (Bytes.zeros (ch.count * ch.elementSize))).fault = none :=
      ring.copyOut_computes computes (ring.occupied_lt buffered) s
        (by simp [ring.length_occupied])
    rw [hnone] at h
    cases h
  | drained enough bytes _ buffered h =>
    have expected : ch.queue.serve ch.capacity f (.drain minimum : Request ch.elementSize)
        = (.drained (.ok (some (ch.elements.map f))), ⟨[], ch.closed⟩) := by
      simp [Queue.serve, queue, enough, Nat.ne_of_gt buffered]
    have hitems := ring.items_drained computes.yields buffered h
    rw [expected]
    exact ⟨by simp only [Request.reply?, Batch.view, hitems], rfl, hqueues⟩

/-- Every request commutes with reading the channel as a queue. -/
theorem Serving.agrees (serving : Serving capacity size ch) (computes : copier.Computes size f)
    (s : σ) (request : Request size) :
    Agrees request (ch.perform copier s request.operation)
      (ch.queue.serve capacity f request) := by
  cases request with
  | send element sized => exact serving.agrees_send computes s element sized
  | receive out sized => exact serving.agrees_receive computes s out sized
  | close => exact serving.agrees_close s
  | drain minimum => exact serving.agrees_drain computes s minimum
  | length =>
    have hlen : ch.count = ch.queue.items.length := ch.length_elements.symm
    exact ⟨congrArg (fun n => some (Reply.length n)) hlen, rfl, serving.queues_eq⟩
  | isClosed => exact ⟨rfl, rfl, serving.queues_eq⟩

/-- The squares one after the other. -/
theorem Serving.replies_eq (serving : Serving capacity size ch) (computes : copier.Computes size f)
    (s : σ) (requests : List (Request size)) :
    List.zipWith Request.reply? requests
        (ch.performAll copier s (requests.map Request.operation)).results
      = (ch.queue.serveAll capacity f requests).map some := by
  induction requests generalizing ch s with
  | nil => rfl
  | cons request requests ih =>
    obtain ⟨hreply, hqueue, hqueues⟩ := serving.agrees computes s request
    have moves := serving.ring.moves_perform copier s request.operation
    have hrest := ih (serving.of_moves moves hqueues) (ch.perform copier s request.operation).copier
    rw [hqueue] at hrest
    rw [Queue.serveAll, List.map_cons, List.map_cons, performAll, List.zipWith_cons_cons, hreply,
      hrest]

/-- **A channel is a bounded queue.** Whatever its capacity and element size, zero included, a
constructed channel answers every sequence of requests as the queue does that starts empty and
open. In particular no such request faults. -/
theorem replies_performAll_eq_serveAll {id : Nat} {config : Config}
    (created : create id config = .ok ch) (computes : copier.Computes config.elementSize f) (s : σ)
    (requests : List (Request config.elementSize)) :
    List.zipWith Request.reply? requests
        (ch.performAll copier s (requests.map Request.operation)).results
      = (Queue.new.serveAll config.capacity f requests).map some := by
  have hnew : ch.queue = Queue.new := by
    obtain ⟨_, _, rfl⟩ := create_eq_ok_iff.mp created
    rw [queue, elements_fresh]
    rfl
  rw [← hnew]
  exact (Serving.of_create created).replies_eq computes s requests

/-- Two slots that fill up and wrap around, an element that is refused, a drain of both elements,
and a channel that is closed with one element left in it. -/
theorem replies_performAll_eq_serveAll_wrapped :
    ∃ requests : List (Request 1),
      create 1 ⟨2, 1, 1⟩ = .ok (fresh 1 ⟨2, 1, 1⟩) ∧
      (Copier.plain Unit).Computes 1 (fun e => e) ∧
      List.zipWith Request.reply? requests ((fresh 1 ⟨2, 1, 1⟩).performAll (Copier.plain Unit) ()
          (requests.map Request.operation)).results
        = (Queue.new.serveAll 2 (fun e => e) requests).map some ∧
      Queue.new.serveAll 2 (fun e => e) requests =
        [.sent (.ok ()), .sent (.ok ()), .sent (.error (.full [3])), .received (.ok ()) [1],
          .sent (.ok ()), .length 2, .drained (.ok none), .drained (.ok (some [[2], [4]])),
          .sent (.ok ()), .closed (.ok []), .sent (.error (.closed [6])),
          .received (.ok ()) [5], .received (.error .closed) [0], .isClosed true] :=
  ⟨[.send [1] rfl, .send [2] rfl, .send [3] rfl, .receive [0] rfl, .send [4] rfl, .length,
      .drain 3, .drain 2, .send [5] rfl, .close, .send [6] rfl, .receive [0] rfl, .receive [0] rfl,
      .isClosed],
    by decide, Copier.plain_computes Unit 1,
    replies_performAll_eq_serveAll (by decide : create 1 ⟨2, 1, 1⟩ = _)
      (Copier.plain_computes Unit 1) () _,
    by decide⟩

end Channel

end ByteChannel
