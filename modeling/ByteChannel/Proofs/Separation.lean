import ByteChannel.Copier.Stock
import ByteChannel.Proofs.Ring
import ByteChannel.Proofs.Turns

/-!
# Elements and parked tasks do not interfere

A channel is two things in one record: a ring of elements, and two queues of parked tasks.
Operations on the one never look at the other, let alone change it. Closing is where they meet: it
sets a flag that decides what becomes of elements, and it releases the tasks.

The statement compares two runs. Take any run and leave out all operations on one of the two halves:
the operations that remain are answered as before, each of them, and find and leave their own half
as before. Only the list of tasks that a close releases depends on the operations on the tasks, of
course, and not on anything else.

Both halves are instances of one argument, `map_filter_turns`: if some relation between two channels
is kept when the first one alone does what is left out, and when both do what is kept, and if in the
second case the same is seen of both, then the run and its remainder look alike. No invariant of the
ring is needed for this. It is a matter of which fields an operation reads, and holds of all
channels and copiers, faults included.

## Main definitions

* `Channel.bare`, `Channel.waiting` — the two halves
* `Result.outline` — a result without the tasks that were released

## Main results

* `Channel.perform_apart` — operations on elements
* `Channel.guarded_apart`, `Channel.bare_perform` — operations on parked tasks
* `Channel.perform_congr_bare`, `Channel.perform_congr_waiting` — what an operation depends on
* `Channel.map_filter_turns` — leaving operations out of a run
* `Channel.elements_and_tasks_apart` — both halves, for every run
-/

namespace ByteChannel

/-- A result without the tasks that were released. -/
def Result.outline : Result → Result
  | .closed (.ok _) => .closed (.ok [])
  | result => result

namespace Channel

variable {σ : Type}

/-- The half that is about elements: the channel without its parked tasks. -/
def bare (ch : Channel) : Channel := { ch with senders := .empty, receivers := .empty }

/-- The half that is about parked tasks: the two queues, and the flag that says whether closing
releases them. -/
def waiting (ch : Channel) : Bool × WaitQueue × WaitQueue := (ch.closed, ch.senders, ch.receivers)

section Bare

variable (ch : Channel)

@[simp] theorem bare_capacity : ch.bare.capacity = ch.capacity := rfl
@[simp] theorem bare_elementSize : ch.bare.elementSize = ch.elementSize := rfl
@[simp] theorem bare_count : ch.bare.count = ch.count := rfl
@[simp] theorem bare_closed : ch.bare.closed = ch.closed := rfl
@[simp] theorem bare_slot (i : Nat) : ch.bare.slot i = ch.slot i := rfl
@[simp] theorem bare_occupied : ch.bare.occupied = ch.occupied := rfl

end Bare

/-! ### Operations on elements -/

section Traffic

variable (copier : Copier σ) (s : σ) (ch : Channel)

/-- Sending does the same whatever tasks are parked, and leaves them parked. -/
theorem send_apart (element : Bytes) {r : Step σ SendError Unit}
    (hr : ch.send copier s element = r) :
    ch.bare.send copier s element = { r with channel := r.channel.bare } ∧
      r.channel.waiting = ch.waiting := by
  have hslot : ch.bare.slot ch.bare.sendIndex = ch.slot ch.sendIndex := rfl
  subst hr
  simp only [send, hslot, bare_elementSize, bare_closed, bare_capacity, bare_count]
  split
  · exact ⟨rfl, rfl⟩
  · split
    · exact ⟨rfl, rfl⟩
    · split
      · exact ⟨rfl, rfl⟩
      · split
        · exact ⟨rfl, rfl⟩
        · split <;> exact ⟨rfl, rfl⟩

theorem receive_apart (out : Bytes) {r : Received σ} (hr : ch.receive copier s out = r) :
    ch.bare.receive copier s out = { r with channel := r.channel.bare } ∧
      r.channel.waiting = ch.waiting := by
  have hslot : ch.bare.slot ch.bare.receiveIndex = ch.slot ch.receiveIndex := rfl
  subst hr
  simp only [receive, hslot, bare_elementSize, bare_closed, bare_count]
  split
  · exact ⟨rfl, rfl⟩
  · split
    · exact ⟨rfl, rfl⟩
    · split
      · exact ⟨rfl, rfl⟩
      · split <;> exact ⟨rfl, rfl⟩

theorem copyOut_bare (is : List Nat) (j : Nat) (bytes : Bytes) :
    ch.bare.copyOut copier is j s bytes = ch.copyOut copier is j s bytes := by
  induction is generalizing j s bytes with
  | nil => rfl
  | cons i is ih => simp only [copyOut, bare_elementSize, bare_slot, ih]

theorem drain_apart (minimum : Nat) (allocator : Allocator) {r : Step σ Empty (Option Batch)}
    (hr : ch.drain copier s minimum allocator = r) :
    ch.bare.drain copier s minimum allocator = { r with channel := r.channel.bare } ∧
      r.channel.waiting = ch.waiting := by
  subst hr
  simp only [drain, copyOut_bare, bare_occupied, bare_elementSize, bare_capacity, bare_count]
  split
  · exact ⟨rfl, rfl⟩
  · split
    · exact ⟨rfl, rfl⟩
    · split
      · exact ⟨rfl, rfl⟩
      · split <;> exact ⟨rfl, rfl⟩

/-- An operation on elements does the same whatever tasks are parked, and leaves them parked. -/
theorem perform_apart {op : Operation} (traffic : op.isTraffic = true) {done : Performed σ}
    (hdone : ch.perform copier s op = done) :
    ch.bare.perform copier s op = { done with channel := done.channel.bare } ∧
      done.channel.waiting = ch.waiting := by
  subst hdone
  cases op with
  | send element =>
    obtain ⟨hbare, hwaiting⟩ := send_apart copier s ch element rfl
    exact ⟨by simp only [perform, hbare], hwaiting⟩
  | receive out =>
    obtain ⟨hbare, hwaiting⟩ := receive_apart copier s ch out rfl
    exact ⟨by simp only [perform, hbare], hwaiting⟩
  | drain minimum allocator =>
    obtain ⟨hbare, hwaiting⟩ := drain_apart copier s ch minimum allocator rfl
    exact ⟨by simp only [perform, hbare], hwaiting⟩
  | snapshot tag => exact ⟨rfl, rfl⟩
  | close | guarded | copy => cases traffic

end Traffic

/-! ### Operations on parked tasks -/

variable {ch ch' : Channel} {copier : Copier σ}

theorem waiting_eq_iff :
    ch.waiting = ch'.waiting ↔
      ch.closed = ch'.closed ∧ ch.senders = ch'.senders ∧ ch.receivers = ch'.receivers := by
  simp only [waiting, Prod.mk.injEq]

/-- An action on parked tasks leaves the elements alone, and does the same whatever these are. -/
theorem act_apart {action : Action} (parking : action.isParking = true)
    (same : ch.waiting = ch'.waiting) :
    ∃ acted acted', ch.act action = .ok acted ∧ ch'.act action = .ok acted' ∧
      acted.channel.bare = ch.bare ∧ acted.answer = acted'.answer ∧
      acted.channel.waiting = acted'.channel.waiting := by
  obtain ⟨hclosed, hsenders, hreceivers⟩ := waiting_eq_iff.mp same
  cases action with
  | senders action =>
    refine ⟨_, _, rfl, rfl, rfl, ?_, ?_⟩
    · simp only [hsenders]
    · simp only [waiting, hclosed, hsenders, hreceivers]
  | receivers action =>
    refine ⟨_, _, rfl, rfl, rfl, ?_, ?_⟩
    · simp only [hreceivers]
    · simp only [waiting, hclosed, hsenders, hreceivers]
  | look | slot | slots | setSlot => cases parking

theorem guarded_apart {actions : List Action}
    (parking : ∀ action ∈ actions, action.isParking = true) (same : ch.waiting = ch'.waiting) :
    (ch.guarded actions).channel.bare = ch.bare ∧
      (ch.guarded actions).answers = (ch'.guarded actions).answers ∧
      (ch.guarded actions).fault = (ch'.guarded actions).fault ∧
      (ch.guarded actions).channel.waiting = (ch'.guarded actions).channel.waiting := by
  induction actions generalizing ch ch' with
  | nil => exact ⟨rfl, rfl, rfl, same⟩
  | cons action actions ih =>
    obtain ⟨acted, acted', hact, hact', hbare, hanswer, hwaiting⟩ :=
      act_apart (parking action List.mem_cons_self) same
    obtain ⟨hbares, hanswers, hfault, hwaitings⟩ :=
      ih (fun later h => parking later (List.mem_cons_of_mem action h)) hwaiting
    simp only [guarded, hact, hact']
    exact ⟨hbares.trans hbare, by rw [hanswer, hanswers], hfault, hwaitings⟩

/-! ### Closing -/

/-- Whether a channel is closed, and what closing does to its elements, does not depend on the
parked tasks. -/
theorem close_congr_bare (s : σ) (same : ch.bare = ch'.bare) :
    (ch.perform copier s .close).result.outline = (ch'.perform copier s .close).result.outline ∧
      (ch.perform copier s .close).channel.bare = (ch'.perform copier s .close).channel.bare ∧
      (ch.perform copier s .close).copier = (ch'.perform copier s .close).copier := by
  have hclosed : ch.closed = ch'.closed := by rw [← bare_closed ch, same, bare_closed]
  have hshut : { ch.bare with closed := true } = { ch'.bare with closed := true } := by rw [same]
  simp only [perform, close, ← hclosed]
  split
  · exact ⟨rfl, same, rfl⟩
  · exact ⟨rfl, hshut, rfl⟩

/-- Which tasks closing releases does not depend on the elements. -/
theorem close_congr_waiting (s s' : σ) (same : ch.waiting = ch'.waiting) :
    (ch.perform copier s .close).result = (ch'.perform copier s' .close).result ∧
      (ch.perform copier s .close).channel.waiting
        = (ch'.perform copier s' .close).channel.waiting := by
  obtain ⟨hclosed, hsenders, hreceivers⟩ := waiting_eq_iff.mp same
  simp only [perform, close, ← hclosed, ← hsenders, ← hreceivers]
  split
  · exact ⟨rfl, same⟩
  · exact ⟨rfl, rfl⟩

/-! ### What an operation depends on -/

/-- An operation that is not about parked tasks depends on the elements only. -/
theorem perform_congr_bare (s : σ) {op : Operation} (kind : op.isTraffic = true ∨ op = .close)
    (same : ch.bare = ch'.bare) :
    (ch.perform copier s op).result.outline = (ch'.perform copier s op).result.outline ∧
      (ch.perform copier s op).channel.bare = (ch'.perform copier s op).channel.bare ∧
      (ch.perform copier s op).copier = (ch'.perform copier s op).copier := by
  rcases kind with traffic | rfl
  · have hboth := (perform_apart copier s ch traffic rfl).1
    rw [same, (perform_apart copier s ch' traffic rfl).1, Performed.mk.injEq] at hboth
    obtain ⟨hresult, hchannel, hcopier, -⟩ := hboth
    exact ⟨by rw [hresult], hchannel.symm, hcopier.symm⟩
  · exact close_congr_bare s same

/-- An operation that is not about elements depends on the parked tasks and the flag only. -/
theorem perform_congr_waiting (s s' : σ) {op : Operation}
    (kind : op = .close ∨ op.isParking = true) (same : ch.waiting = ch'.waiting) :
    (ch.perform copier s op).result = (ch'.perform copier s' op).result ∧
      (ch.perform copier s op).channel.waiting = (ch'.perform copier s' op).channel.waiting := by
  rcases kind with rfl | parking
  · exact close_congr_waiting s s' same
  · cases op with
    | guarded actions =>
      obtain ⟨-, hanswers, hfault, hwaiting⟩ := guarded_apart (List.all_eq_true.mp parking) same
      exact ⟨by simp only [perform, hanswers, hfault], hwaiting⟩
    | send | receive | close | drain | snapshot | copy => cases parking

/-- An operation on parked tasks leaves the elements, and the copier, alone. -/
theorem bare_perform (copier : Copier σ) (s : σ) {op : Operation} (parking : op.isParking = true) :
    (ch.perform copier s op).channel.bare = ch.bare ∧ (ch.perform copier s op).copier = s := by
  cases op with
  | guarded actions => exact ⟨(guarded_apart (List.all_eq_true.mp parking) rfl).1, rfl⟩
  | send | receive | close | drain | snapshot | copy => cases parking

/-! ### Leaving operations out -/

/-- **Leaving operations out of a run.** Let `Like` be a relation between two channels with the
states of their copiers that

* stays when the first one alone performs an operation that is not kept;
* stays when both perform an operation that is kept, and then the same is observed of both.

Then what is observed of the turns of a run with an operation that is kept is what is observed of
the run with only these operations. -/
theorem map_filter_turns {O : Type} (keep : Operation → Bool)
    (Like : Channel → σ → Channel → σ → Prop) {observe : Turn σ → O} {ops : List Operation}
    (dropped : ∀ op ∈ ops, keep op = false → ∀ ch s ch' s', Like ch s ch' s' →
      Like (ch.perform copier s op).channel (ch.perform copier s op).copier ch' s')
    (kept : ∀ op ∈ ops, keep op = true → ∀ ch s ch' s', Like ch s ch' s' →
      observe ⟨op, ch, ch.perform copier s op⟩ = observe ⟨op, ch', ch'.perform copier s' op⟩ ∧
      Like (ch.perform copier s op).channel (ch.perform copier s op).copier
        (ch'.perform copier s' op).channel (ch'.perform copier s' op).copier)
    {s s' : σ} (like : Like ch s ch' s') :
    ((ch.turns copier s ops).filter fun turn => keep turn.operation).map observe
      = (ch'.turns copier s' (ops.filter keep)).map observe := by
  induction ops generalizing ch s ch' s' with
  | nil => rfl
  | cons op ops ih =>
    have hdropped := fun later (h : later ∈ ops) => dropped later (List.mem_cons_of_mem op h)
    have hkept := fun later (h : later ∈ ops) => kept later (List.mem_cons_of_mem op h)
    cases hkeep : keep op with
    | true =>
      obtain ⟨hobserve, hlike⟩ := kept op List.mem_cons_self hkeep _ _ _ _ like
      have hrest := ih hdropped hkept hlike
      simp only [turns, List.filter_cons, hkeep, if_true, List.map_cons, hobserve, hrest]
    | false =>
      have hrest := ih hdropped hkept (dropped op List.mem_cons_self hkeep _ _ _ _ like)
      simp only [turns, List.filter_cons, hkeep, Bool.false_eq_true, if_false, hrest]

/-! ### Every run -/

/-- What a turn shows of the elements: how it ended, but for the tasks that were released, and the
channel it left behind, but for those that are parked. -/
def Turn.traffic (turn : Turn σ) : Operation × Result × Channel :=
  (turn.operation, turn.done.result.outline, turn.done.channel.bare)

/-- What a turn shows of the parked tasks: how it ended, and which tasks are parked then. -/
def Turn.parking (turn : Turn σ) : Operation × Result × Bool × WaitQueue × WaitQueue :=
  (turn.operation, turn.done.result, turn.done.channel.waiting)

/-- **Elements and parked tasks do not interfere.** Take any run of a channel in which elements are
sent, received, drained and reported on, tasks are parked and released, and the channel is closed,
with any copier and any allocators.

* Leave out all operations on parked tasks. The others end as before, but for the list of tasks that
  a close releases, and each leaves the same elements, indices, buffer and flag behind as before.
* Leave out all operations on elements. The others end as before, also the list of tasks that a
  close releases, and each leaves the same tasks parked as before. -/
theorem elements_and_tasks_apart (copier : Copier σ) (s : σ) (ch : Channel) {ops : List Operation}
    (kinds : ∀ op ∈ ops, op.isTraffic = true ∨ op = .close ∨ op.isParking = true) :
    ((ch.turns copier s ops).filter fun turn => !turn.operation.isParking).map Turn.traffic
      = (ch.turns copier s (ops.filter fun op => !op.isParking)).map Turn.traffic ∧
    ((ch.turns copier s ops).filter fun turn => !turn.operation.isTraffic).map Turn.parking
      = (ch.turns copier s (ops.filter fun op => !op.isTraffic)).map Turn.parking := by
  constructor
  · refine map_filter_turns (fun op => !op.isParking) (fun c t c' t' => c.bare = c'.bare ∧ t = t')
      ?_ ?_ ⟨rfl, rfl⟩
    · rintro op - hkeep c t c' t' ⟨hsame, rfl⟩
      obtain ⟨hbare, hcopier⟩ := bare_perform copier t (by simpa using hkeep)
      exact ⟨hbare.trans hsame, hcopier⟩
    · rintro op hop hkeep c t c' t' ⟨hsame, rfl⟩
      have hkind : op.isTraffic = true ∨ op = .close := by
        rcases kinds op hop with h | h | h
        · exact .inl h
        · exact .inr h
        · simp [h] at hkeep
      obtain ⟨hresult, hbare, hcopier⟩ := perform_congr_bare t hkind hsame
      exact ⟨by simp only [Turn.traffic, hresult, hbare], hbare, hcopier⟩
  · refine map_filter_turns (fun op => !op.isTraffic) (fun c _ c' _ => c.waiting = c'.waiting)
      ?_ ?_ rfl
    · intro op _ hkeep c t c' t' hsame
      exact (perform_apart copier t c (by simpa using hkeep) rfl).2.trans hsame
    · intro op hop hkeep c t c' t' hsame
      have hkind : op = .close ∨ op.isParking = true := by
        rcases kinds op hop with h | h
        · simp [h] at hkeep
        · exact h
      obtain ⟨hresult, hwaiting⟩ := perform_congr_waiting t t' hkind hsame
      exact ⟨by simp only [Turn.parking, hresult, hwaiting], hwaiting⟩

/-- A sender is parked twice and passed over, and a receiver is parked, between elements that come
and go through a copier that counts its calls. The close releases the receiver, also if no element
was ever sent, and the same elements come and go if no task was ever parked. -/
theorem elements_and_tasks_apart_released :
    ∃ (ops : List Operation) (ch : Channel),
      (∀ op ∈ ops, op.isTraffic = true ∨ op = .close ∨ op.isParking = true) ∧
      ((ch.turns Copier.counting 0 ops).filter fun turn => !turn.operation.isParking).map
          Turn.traffic
        = (ch.turns Copier.counting 0 (ops.filter fun op => !op.isParking)).map Turn.traffic ∧
      ((ch.turns Copier.counting 0 ops).filter fun turn => !turn.operation.isTraffic).map
          Turn.parking
        = (ch.turns Copier.counting 0 (ops.filter fun op => !op.isTraffic)).map Turn.parking ∧
      .closed (.ok [⟨⟨1, 0⟩, none⟩]) ∈ (ch.performAll Copier.counting 0 ops).results ∧
      (ch.performAll Copier.counting 0 (ops.filter fun op => !op.isParking)).results
        = [.sent (.ok ()), .sent (.ok ()), .received (.ok ()) [9],
            .reported ⟨5, 1, 2, 1, 1, some ⟨1, 0⟩⟩, .drained (.ok (some ⟨[12], 1, 1⟩)),
            .closed (.ok []), .sent (.error (.closed [7]))] ∧
      (ch.performAll Copier.counting 0 (ops.filter fun op => !op.isTraffic)).results
        = [.guarded [.queue (.pushed 1), .queue (.pushed 2)] none,
            .guarded [.queue (.waiter none), .queue (.pushed 1)] none,
            .closed (.ok [⟨⟨1, 0⟩, none⟩]), .guarded [.queue (.waiters [])] none] := by
  let ops : List Operation :=
    [.send [7], .guarded [.senders (.push ⟨⟨0, 0⟩, some [9]⟩), .senders (.push ⟨⟨0, 0⟩, none⟩)],
      .send [8], .receive [0],
      .guarded [.senders (.popLive fun _ => false), .receivers (.push ⟨⟨1, 0⟩, none⟩)],
      .snapshot 5, .drain 1 Allocator.heap, .close, .send [7], .guarded [.senders .list]]
  have kinds : ∀ op ∈ ops, op.isTraffic = true ∨ op = .close ∨ op.isParking = true := by
    simp [ops, Operation.isTraffic, Operation.isParking, Action.isParking]
  obtain ⟨hfirst, hsecond⟩ :=
    elements_and_tasks_apart Copier.counting 0 (fresh 1 ⟨2, 1, 1⟩) kinds
  exact ⟨ops, _, kinds, hfirst, hsecond, by decide, by decide, by decide⟩

end Channel

end ByteChannel
