import ByteChannel.Proofs.Exits
import ByteChannel.Proofs.Parking
import ByteChannel.Proofs.Separation

/-!
# A ledger of parked tasks

A task that is parked and never released hangs, and one that is released twice is resumed twice.
There are many ways out of a queue: a place may be popped from the front, be discarded because its
task is gone, be taken out of the middle, or be released with all others by a close. And there may
be many places that look the same. This module keeps account of them.

What happens in a queue is a sequence of events (`WaitQueue.Event`): a place is taken, or one is
left in one of three ways. The events of a run are read off what its operations were and what they
answered (`Channel.events`). A *ledger* has one entry for each place ever taken, in that order, and
an entry is marked when its place is left: the first one that is not marked yet and fits. So an
entry stands for one occurrence of a place, and its mark says in which way that place was left, or
that it is still taken.

All of the ways out take the first place that fits, so every event changes the queue in one of two
ways: a place is added at the end, or the first one that equals a given place is erased.
`WaitQueue.Served` states that some events lead from one queue to another in this manner. The events
of each operation do, so those of each run do, and therefore the ledger shows what was answered and
what is in the queue.

## Main definitions

* `WaitQueue.Event`, `WaitQueue.Fate`, `Channel.events` — what happens in a queue
* `WaitQueue.Ledger` — what became of each place
* `WaitQueue.Served` — queues that events lead to

## Main results

* `Channel.served_perform`, `Channel.served_performAll` — one operation, and a run
* `WaitQueue.Balanced.served` — the ledger is right
* `Channel.closed_performAll` — the first close closes
* `Channel.places_accounted_for` — all together
-/

namespace ByteChannel

namespace WaitQueue

/-! ### Events -/

/-- The ways in which a place in a queue can be left. -/
inductive Fate where
  /-- It was the answer to a request for a task. -/
  | returned
  /-- It was passed over, its task being gone. -/
  | discarded
  /-- It was released by a close. -/
  | released
  deriving DecidableEq

/-- What can happen in a queue. -/
inductive Event where
  /-- A place is taken. -/
  | joined (waiter : Waiter)
  /-- A place is left. -/
  | left (fate : Fate) (waiter : Waiter)
  deriving DecidableEq

/-- The place that is taken. -/
def Event.joined? : Event → Option Waiter
  | joined w => some w
  | left .. => none

/-- The place that is left in the given way. -/
def Event.left? (fate : Fate) : Event → Option Waiter
  | joined _ => none
  | left fate' w => if fate' = fate then some w else none

/-- The place that is left because it is an answer. -/
def Answer.events : Answer → List Event
  | .waiter (some w) => [.left .returned w]
  | _ => []

/-- What happens in a queue when an action on it is answered. Looking at the place at the front is
answered too, but does not take it out. -/
def events (q : WaitQueue) (action : Action) (answer : Answer) : List Event :=
  match action with
  | .push w => [.joined w]
  | .pop | .removeTask _ => answer.events
  | .popLive isLive => (q.popLive isLive).discarded.map (.left .discarded) ++ answer.events
  | .peek | .list | .length | .describe => []

/-! ### Ledgers -/

/-- An entry of a ledger: a place, and how it was left, if it was. -/
structure Entry where
  /-- The place. -/
  waiter : Waiter
  /-- How it was left. -/
  fate : Option Fate
  deriving DecidableEq

/-- One entry for each place that was ever taken, in order. -/
abbrev Ledger := List Entry

namespace Ledger

/-- Mark the first entry that is not marked yet and is for the given place. -/
def mark (l : Ledger) (fate : Fate) (w : Waiter) : Ledger := l.replace ⟨w, none⟩ ⟨w, some fate⟩

/-- Note an event. -/
def enter (l : Ledger) : Event → Ledger
  | .joined w => l ++ [⟨w, none⟩]
  | .left fate w => l.mark fate w

/-- The ledger that notes the given events. -/
def ofEvents (events : List Event) : Ledger := events.foldl enter []

/-- The places with the given mark, or those without one, in the order in which they were taken. -/
def part (l : Ledger) (fate : Option Fate) : List Waiter :=
  (l.filter fun entry => entry.fate = fate).map Entry.waiter

theorem part_cons (entry : Entry) (l : Ledger) (fate : Option Fate) :
    part (entry :: l) fate =
      if entry.fate = fate then entry.waiter :: l.part fate else l.part fate := by
  by_cases h : entry.fate = fate <;> simp [part, h]

theorem part_append (l l' : Ledger) (fate : Option Fate) :
    part (l ++ l') fate = l.part fate ++ l'.part fate := by
  simp [part]

theorem part_sublist (l : Ledger) (fate : Option Fate) :
    (l.part fate).Sublist (l.map Entry.waiter) :=
  List.filter_sublist.map Entry.waiter

/-! ### Marking an entry -/

theorem mark_cons_self (l : Ledger) (fate : Fate) (w : Waiter) :
    mark (⟨w, none⟩ :: l) fate w = ⟨w, some fate⟩ :: l :=
  List.replace_cons_self

theorem mark_cons_of_ne {entry : Entry} {w : Waiter} (h : entry ≠ ⟨w, none⟩) (l : Ledger)
    (fate : Fate) : mark (entry :: l) fate w = entry :: l.mark fate w := by
  rw [mark, List.replace_cons, beq_false_of_ne h.symm, mark]

theorem map_waiter_mark (l : Ledger) (fate : Fate) (w : Waiter) :
    (l.mark fate w).map Entry.waiter = l.map Entry.waiter := by
  induction l with
  | nil => rfl
  | cons entry l ih =>
    by_cases first : entry = ⟨w, none⟩
    · rw [first, mark_cons_self, List.map_cons, List.map_cons]
    · rw [mark_cons_of_ne first, List.map_cons, ih, List.map_cons]

/-- A place that is marked is no longer one of those that are taken. -/
theorem part_none_mark (l : Ledger) (fate : Fate) (w : Waiter) :
    (l.mark fate w).part none = (l.part none).erase w := by
  induction l with
  | nil => rfl
  | cons entry l ih =>
    by_cases first : entry = ⟨w, none⟩
    · rw [first, mark_cons_self]
      simp [part_cons]
    · rw [mark_cons_of_ne first, part_cons, part_cons, ih]
      split
      · next unmarked =>
        have other : entry.waiter ≠ w := fun h => first (by rw [← h, ← unmarked])
        rw [List.erase_cons_tail (by simpa using other)]
      · rfl

/-- A place that is marked becomes one of those with that mark. -/
theorem part_some_mark {l : Ledger} {w : Waiter} (taken : w ∈ l.part none) (fate fate' : Fate) :
    ((l.mark fate w).part (some fate')).Perm
      (l.part (some fate') ++ [Event.left fate w].filterMap (Event.left? fate')) := by
  induction l with
  | nil => cases taken
  | cons entry l ih =>
    by_cases first : entry = ⟨w, none⟩
    · rw [first, mark_cons_self, part_cons, part_cons]
      by_cases same : fate = fate'
      · simp [Event.left?, same, List.perm_append_singleton, List.Perm.symm]
      · simp [Event.left?, same]
    · have behind : w ∈ part l none := by
        rw [part_cons] at taken
        split at taken
        · next unmarked =>
          refine (List.mem_cons.mp taken).resolve_left fun h => first ?_
          rw [h, ← unmarked]
        · exact taken
      rw [mark_cons_of_ne first, part_cons, part_cons]
      split
      · exact (ih behind).cons _
      · exact ih behind

/-- An entry that is marked stays as it is. -/
theorem getElem?_enter {l : Ledger} {i : Nat} {entry : Entry} (h : l[i]? = some entry)
    (marked : entry.fate ≠ none) (event : Event) : (l.enter event)[i]? = some entry := by
  cases event with
  | joined w =>
    obtain ⟨hi, -⟩ := List.getElem?_eq_some_iff.mp h
    rw [enter, List.getElem?_append_left hi, h]
  | left fate w =>
    have other : entry ≠ ⟨w, none⟩ := fun same => marked (congrArg Entry.fate same)
    rw [enter, mark, List.getElem?_replace, h]
    simp [other]

theorem getElem?_foldl_enter {l : Ledger} {i : Nat} {entry : Entry} (h : l[i]? = some entry)
    (marked : entry.fate ≠ none) (events : List Event) :
    (events.foldl enter l)[i]? = some entry := by
  induction events generalizing l with
  | nil => exact h
  | cons event events ih => exact ih (getElem?_enter h marked event)

end Ledger

/-! ### What events do to a queue -/

/-- The events lead from the first queue to the second: a place that is taken is behind all others,
and one that is left is in the queue, and is the first that fits. -/
inductive Served : List Waiter → List Event → List Waiter → Prop
  | nil (ws : List Waiter) : Served ws [] ws
  | joined {ws ws' : List Waiter} {events : List Event} (w : Waiter) :
    Served (ws ++ [w]) events ws' → Served ws (.joined w :: events) ws'
  | left {ws ws' : List Waiter} {events : List Event} {w : Waiter} (fate : Fate) :
    w ∈ ws → Served (ws.erase w) events ws' → Served ws (.left fate w :: events) ws'

theorem Served.append {ws ws' ws'' : List Waiter} {events more : List Event}
    (served : Served ws events ws') (later : Served ws' more ws'') :
    Served ws (events ++ more) ws'' := by
  induction served with
  | nil => exact later
  | joined w _ ih => exact .joined w (ih later)
  | left fate taken _ ih => exact .left fate taken (ih later)

/-- All places at the front of a queue are left, one after the other. -/
theorem Served.left_front (fate : Fate) (front ws : List Waiter) :
    Served (front ++ ws) (front.map (.left fate)) ws := by
  induction front with
  | nil => exact .nil ws
  | cons w front ih =>
    refine .left fate List.mem_cons_self ?_
    rw [List.cons_append, List.erase_cons_head]
    exact ih

/-- The first place of a task is the first one of those that equal it. -/
theorem eraseP_eq_erase {p : Waiter → Bool} {ws : List Waiter} {w : Waiter}
    (h : ws.find? p = some w) : ws.eraseP p = ws.erase w := by
  induction ws with
  | nil => cases h
  | cons first ws ih =>
    by_cases hp : p first = true
    · rw [List.find?_cons_of_pos hp] at h
      obtain rfl := Option.some.inj h
      rw [List.eraseP_cons_of_pos hp, List.erase_cons_head]
    · rw [List.find?_cons_of_neg hp] at h
      have other : first ≠ w := by
        rintro rfl
        exact hp (List.find?_some h)
      rw [List.eraseP_cons_of_neg hp, List.erase_cons_tail (by simpa using other), ih h]

theorem served_act (q : WaitQueue) (action : Action) :
    Served q.waiters (q.events action (q.act action).1) (q.act action).2.1.waiters := by
  cases action with
  | push w => exact .joined w (.nil _)
  | pop =>
    obtain ⟨ws⟩ := q
    cases ws with
    | nil => exact .nil []
    | cons w ws => exact Served.left_front .returned [w] ws
  | popLive isLive =>
    have discarded := Served.left_front .discarded
      (q.waiters.takeWhile fun w => !isLive w.task) (q.waiters.dropWhile fun w => !isLive w.task)
    rw [List.takeWhile_append_dropWhile] at discarded
    simp only [events, act, popLive_eq]
    refine discarded.append ?_
    cases q.waiters.dropWhile fun w => !isLive w.task with
    | nil => exact .nil []
    | cons w ws => exact Served.left_front .returned [w] ws
  | removeTask t =>
    simp only [events, act, removeTask]
    cases h : q.waiters.find? (·.task == t) with
    | none =>
      rw [List.eraseP_of_forall_not (by simpa using h)]
      exact .nil q.waiters
    | some w =>
      rw [eraseP_eq_erase h]
      exact .left .returned (List.mem_of_find?_eq_some h) (.nil _)
  | peek | list | length | describe => exact .nil q.waiters

/-! ### The ledger is right -/

/-- The ledger has an entry for each place that was taken, the places without a mark are those in
the queue, and those with a mark are the ones that were left in that way. -/
structure Balanced (l : Ledger) (events : List Event) (ws : List Waiter) : Prop where
  /-- There is an entry for each place that was taken, in order. -/
  joined_eq : l.map Entry.waiter = events.filterMap Event.joined?
  /-- Those without a mark are the queue. -/
  queued_eq : l.part none = ws
  /-- Those with a mark are the places that were left in that way. -/
  left_perm : ∀ fate, (l.part (some fate)).Perm (events.filterMap (Event.left? fate))

theorem Balanced.joined {l : Ledger} {events : List Event} {ws : List Waiter}
    (balanced : Balanced l events ws) (w : Waiter) :
    Balanced (l.enter (.joined w)) (events ++ [.joined w]) (ws ++ [w]) where
  joined_eq := by simp [Ledger.enter, balanced.joined_eq, Event.joined?]
  queued_eq := by
    rw [Ledger.enter, Ledger.part_append, balanced.queued_eq]
    rfl
  left_perm fate := by
    rw [Ledger.enter, Ledger.part_append, List.filterMap_append]
    exact (balanced.left_perm fate).append (.refl [])

theorem Balanced.left {l : Ledger} {events : List Event} {ws : List Waiter} {w : Waiter}
    (balanced : Balanced l events ws) (taken : w ∈ ws) (fate : Fate) :
    Balanced (l.enter (.left fate w)) (events ++ [.left fate w]) (ws.erase w) where
  joined_eq := by
    rw [Ledger.enter, Ledger.map_waiter_mark, balanced.joined_eq]
    simp [Event.joined?]
  queued_eq := by rw [Ledger.enter, Ledger.part_none_mark, balanced.queued_eq]
  left_perm fate' := by
    rw [← balanced.queued_eq] at taken
    rw [List.filterMap_append]
    exact (Ledger.part_some_mark taken fate fate').trans
      ((balanced.left_perm fate').append (.refl _))

/-- **The ledger is right** as long as the events are what happens in the queue. -/
theorem Balanced.served {l : Ledger} {past events : List Event} {ws ws' : List Waiter}
    (balanced : Balanced l past ws) (served : Served ws events ws') :
    Balanced (events.foldl Ledger.enter l) (past ++ events) ws' := by
  induction served generalizing l past with
  | nil => simpa using balanced
  | joined w _ ih => simpa using ih (balanced.joined w)
  | left fate taken _ ih => simpa using ih (balanced.left taken fate)

end WaitQueue

namespace Channel

variable {σ : Type} {ch : Channel}

/-! ### The events of a run -/

/-- The two queues of a channel. -/
inductive Side where
  | senders
  | receivers
  deriving DecidableEq

/-- The tasks parked in one of the two queues. -/
def parked (ch : Channel) : Side → WaitQueue
  | .senders => ch.senders
  | .receivers => ch.receivers

/-- What happens in one of the queues when an action is answered. -/
def Action.events (ch : Channel) (side : Side) (action : Action) (answer : Answer) :
    List WaitQueue.Event :=
  match side, action, answer with
  | .senders, .senders action, .queue answer => ch.senders.events action answer
  | .receivers, .receivers action, .queue answer => ch.receivers.events action answer
  | _, _, _ => []

/-- What happens in one of the queues during a guarded section, up to the first fault. -/
def sectionEvents (side : Side) (ch : Channel) : List Action → List WaitQueue.Event
  | [] => []
  | action :: actions =>
    match ch.act action with
    | .error _ => []
    | .ok acted => action.events ch side acted.answer ++ acted.channel.sectionEvents side actions

/-- Those of the released tasks that were parked in one of the queues. The receivers come first. -/
def share (ch : Channel) (released : List Waiter) : Side → List Waiter
  | .senders => released.drop ch.receivers.length
  | .receivers => released.take ch.receivers.length

/-- What happens in one of the queues during one turn of a run. -/
def Turn.events (side : Side) (turn : Turn σ) : List WaitQueue.Event :=
  match turn.operation, turn.done.result with
  | .guarded actions, _ => turn.before.sectionEvents side actions
  | .close, .closed (.ok released) => (turn.before.share released side).map (.left .released)
  | _, _ => []

/-- What happens in one of the queues during a run. -/
def events (copier : Copier σ) (s : σ) (ch : Channel) (side : Side) (ops : List Operation) :
    List WaitQueue.Event :=
  (ch.turns copier s ops).flatMap (Turn.events side)

/-- The ledger of one of the queues after a run. -/
def ledger (copier : Copier σ) (s : σ) (ch : Channel) (side : Side) (ops : List Operation) :
    WaitQueue.Ledger :=
  .ofEvents (ch.events copier s side ops)

/-! ### The events lead to the queues -/

theorem served_channel_act {acted : Acted} {action : Action} (h : ch.act action = .ok acted)
    (side : Side) :
    WaitQueue.Served (ch.parked side).waiters (action.events ch side acted.answer)
      (acted.channel.parked side).waiters := by
  cases action with
  | look =>
    obtain rfl := Except.ok.inj h
    cases side <;> exact .nil _
  | slot | slots | setSlot =>
    obtain ⟨_, _, rfl⟩ := exists_of_map_eq_ok h
    cases side <;> exact .nil _
  | senders action =>
    obtain rfl := Except.ok.inj h
    cases side with
    | senders => exact ch.senders.served_act action
    | receivers => exact .nil _
  | receivers action =>
    obtain rfl := Except.ok.inj h
    cases side with
    | senders => exact .nil _
    | receivers => exact ch.receivers.served_act action

theorem served_guarded (ch : Channel) (side : Side) (actions : List Action) :
    WaitQueue.Served (ch.parked side).waiters (ch.sectionEvents side actions)
      ((ch.guarded actions).channel.parked side).waiters := by
  induction actions generalizing ch with
  | nil => exact .nil _
  | cons action actions ih =>
    rw [guarded, sectionEvents]
    cases h : ch.act action with
    | error fault => exact .nil _
    | ok acted => exact (served_channel_act h side).append (ih acted.channel)

theorem parked_eq_of_waiting_eq {ch' : Channel} (h : ch'.waiting = ch.waiting) (side : Side) :
    ch'.parked side = ch.parked side := by
  obtain ⟨-, hsenders, hreceivers⟩ := waiting_eq_iff.mp h
  cases side with
  | senders => exact hsenders
  | receivers => exact hreceivers

theorem share_released (ch : Channel) (side : Side) :
    ch.share (ch.receivers.waiters ++ ch.senders.waiters) side = (ch.parked side).waiters := by
  cases side with
  | senders => exact List.drop_left
  | receivers => exact List.take_left

/-- A close that is answered empties each queue from the front, and another one leaves it alone. -/
theorem served_close (copier : Copier σ) (s : σ) (ch : Channel) (side : Side) :
    WaitQueue.Served (ch.parked side).waiters
      (Turn.events side ⟨.close, ch, ch.perform copier s .close⟩)
      ((ch.perform copier s .close).channel.parked side).waiters := by
  have exit := close_exit s ch
  simp only [perform]
  generalize ch.close s = r at exit
  cases exit with
  | refused => exact .nil _
  | done =>
    have all := WaitQueue.Served.left_front .released (ch.parked side).waiters []
    rw [List.append_nil] at all
    simp only [Turn.events, share_released]
    cases side with
    | senders => exact all
    | receivers => exact all

/-- **One operation**: what happens in a queue leads to the queue that is left behind. -/
theorem served_perform (copier : Copier σ) (s : σ) (ch : Channel) (side : Side) (op : Operation) :
    WaitQueue.Served (ch.parked side).waiters (Turn.events side ⟨op, ch, ch.perform copier s op⟩)
      ((ch.perform copier s op).channel.parked side).waiters := by
  cases op with
  | send | receive | drain | snapshot =>
    rw [parked_eq_of_waiting_eq (perform_apart copier s ch rfl rfl).2]
    exact .nil _
  | close => exact served_close copier s ch side
  | guarded actions => exact served_guarded ch side actions
  | copy => exact .nil _

/-- **A run.** -/
theorem served_performAll (copier : Copier σ) (s : σ) (ch : Channel) (side : Side)
    (ops : List Operation) :
    WaitQueue.Served (ch.parked side).waiters (ch.events copier s side ops)
      ((ch.performAll copier s ops).channel.parked side).waiters := by
  induction ops generalizing ch s with
  | nil => exact .nil _
  | cons op ops ih => exact (served_perform copier s ch side op).append (ih _ _)

/-! ### The first close -/

theorem closed_act {acted : Acted} {action : Action} (h : ch.act action = .ok acted) :
    acted.channel.closed = ch.closed := by
  cases action with
  | look | senders | receivers =>
    obtain rfl := Except.ok.inj h
    rfl
  | slot | slots | setSlot =>
    obtain ⟨_, _, rfl⟩ := exists_of_map_eq_ok h
    rfl

theorem closed_guarded (ch : Channel) (actions : List Action) :
    (ch.guarded actions).channel.closed = ch.closed := by
  induction actions generalizing ch with
  | nil => rfl
  | cons action actions ih =>
    rw [guarded]
    cases h : ch.act action with
    | error fault => rfl
    | ok acted => exact (ih acted.channel).trans (closed_act h)

theorem perform_close_of_open (isOpen : ch.closed = false) (copier : Copier σ) (s : σ) :
    (ch.perform copier s .close).result =
        .closed (.ok (ch.receivers.waiters ++ ch.senders.waiters)) ∧
      (ch.perform copier s .close).channel =
        { ch with closed := true, senders := .empty, receivers := .empty } := by
  simp [perform, close, isOpen]

theorem perform_close_of_closed (isClosed : ch.closed = true) (copier : Copier σ) (s : σ) :
    (ch.perform copier s .close).result = .closed (.error .alreadyClosed) ∧
      (ch.perform copier s .close).channel = ch := by
  simp [perform, close, isClosed]

theorem closed_perform (copier : Copier σ) (s : σ) (ch : Channel) (op : Operation) :
    (ch.perform copier s op).channel.closed = true ↔ ch.closed = true ∨ op = .close := by
  by_cases traffic : op.isTraffic = true
  · obtain ⟨hclosed, -⟩ := waiting_eq_iff.mp (perform_apart copier s ch traffic rfl).2
    have other : op ≠ .close := by
      rintro rfl
      cases traffic
    simp [hclosed, other]
  · cases op with
    | send | receive | drain | snapshot => exact absurd rfl traffic
    | close =>
      cases h : ch.closed with
      | true => simp [perform_close_of_closed h, h]
      | false => simp [perform_close_of_open h]
    | guarded actions => simp [perform, closed_guarded]
    | copy => simp [perform]

/-- **The first close closes**, and nothing else does. -/
theorem closed_performAll (copier : Copier σ) (s : σ) (ch : Channel) (ops : List Operation) :
    (ch.performAll copier s ops).channel.closed = true ↔ ch.closed = true ∨ .close ∈ ops := by
  induction ops generalizing ch s with
  | nil => simp [performAll]
  | cons op ops ih =>
    rw [performAll, ih, closed_perform, List.mem_cons, or_assoc]
    simp only [eq_comm]

/-! ### Every run -/

theorem balanced_ledger {id : Nat} {config : Config} (created : create id config = .ok ch)
    (copier : Copier σ) (s : σ) (side : Side) (ops : List Operation) :
    WaitQueue.Balanced (ch.ledger copier s side ops) (ch.events copier s side ops)
      ((ch.performAll copier s ops).channel.parked side).waiters := by
  obtain ⟨_, _, rfl⟩ := create_eq_ok_iff.mp created
  have started : WaitQueue.Balanced [] [] ((fresh id config).parked side).waiters := by
    cases side <;> exact ⟨rfl, rfl, fun _ => .refl []⟩
  exact started.served (served_performAll copier s _ side ops)

/-- What is marked stays so. -/
theorem getElem?_ledger_append {copier : Copier σ} {s : σ} {side : Side} {ops : List Operation}
    {i : Nat} {entry : WaitQueue.Entry} (h : (ch.ledger copier s side ops)[i]? = some entry)
    (marked : entry.fate ≠ none) (more : List Operation) :
    (ch.ledger copier s side (ops ++ more))[i]? = some entry := by
  rw [ledger, events, turns_append, List.flatMap_append, WaitQueue.Ledger.ofEvents,
    List.foldl_append]
  exact WaitQueue.Ledger.getElem?_foldl_enter h marked _

/-- **Every place is accounted for.** Let a constructed channel go through any operations, with any
copier and any allocators, in which tasks are parked, looked for and taken out in any way, and then
through any more. For each of its two queues there is a ledger of the first part, with one entry for
each place that was taken, in order, and one mark or none for each entry.

* The places with a mark are those that were answered, discarded, or released by a close, as the
  mark says, and no others were.
* The places without a mark are those in the queue, and no others are, in the order in which they
  were taken.
* What is marked stays so in the second part.

If the first part has no close, a close after it is answered with all parked receivers and then all
parked senders, in order, and leaves both queues empty. If it has one, a close after it is refused
and leaves the queues, and all else, as they are. -/
theorem places_accounted_for {id : Nat} {config : Config} (created : create id config = .ok ch)
    (copier : Copier σ) (s : σ) (ops more : List Operation) :
    let run := ch.performAll copier s ops
    let closing := run.channel.perform copier run.copier .close
    (∀ side : Side,
      WaitQueue.Balanced (ch.ledger copier s side ops) (ch.events copier s side ops)
        (run.channel.parked side).waiters ∧
      (run.channel.parked side).waiters.Sublist
        ((ch.events copier s side ops).filterMap WaitQueue.Event.joined?) ∧
      ∀ (i : Nat) (entry : WaitQueue.Entry), (ch.ledger copier s side ops)[i]? = some entry →
        entry.fate ≠ none → (ch.ledger copier s side (ops ++ more))[i]? = some entry) ∧
    (.close ∉ ops →
      closing.result =
        .closed (.ok (run.channel.receivers.waiters ++ run.channel.senders.waiters)) ∧
      closing.channel =
        { run.channel with closed := true, senders := .empty, receivers := .empty }) ∧
    (.close ∈ ops →
      closing.result = .closed (.error .alreadyClosed) ∧ closing.channel = run.channel) := by
  intro run closing
  refine ⟨fun side => ?_, fun absent => ?_, fun present => ?_⟩
  · have balanced := balanced_ledger created copier s side ops
    refine ⟨balanced, ?_, fun i entry h marked => getElem?_ledger_append h marked more⟩
    rw [← balanced.queued_eq, ← balanced.joined_eq]
    exact WaitQueue.Ledger.part_sublist _ none
  · have started : ch.closed = false := by
      obtain ⟨_, _, rfl⟩ := create_eq_ok_iff.mp created
      rfl
    have isOpen : run.channel.closed = false := by
      rw [← Bool.not_eq_true, closed_performAll, started]
      simpa using absent
    exact perform_close_of_open isOpen copier run.copier
  · have isClosed := (closed_performAll copier s ch ops).mpr (.inr present)
    exact perform_close_of_closed isClosed copier run.copier

/-- One task takes four places. Its first place is popped, two are discarded and one is released by
the close; another task is taken out of the middle, and parks again after the close. -/
theorem places_accounted_for_all_ways :
    ∃ (ch : Channel) (ops more : List Operation),
      let copier := Copier.plain Unit
      let run := ch.performAll copier () (ops ++ more)
      ((ch.performAll copier () ops).channel.perform copier () .close).result =
        .closed (.ok [⟨⟨3, 0⟩, none⟩, ⟨⟨0, 0⟩, none⟩]) ∧
      WaitQueue.Balanced (ch.ledger copier () .senders (ops ++ more))
        (ch.events copier () .senders (ops ++ more)) run.channel.senders.waiters ∧
      ch.ledger copier () .senders (ops ++ more) =
        [⟨⟨⟨0, 0⟩, none⟩, some .returned⟩, ⟨⟨⟨1, 0⟩, some [9]⟩, some .returned⟩,
          ⟨⟨⟨0, 0⟩, none⟩, some .discarded⟩, ⟨⟨⟨0, 0⟩, none⟩, some .discarded⟩,
          ⟨⟨⟨2, 0⟩, none⟩, some .returned⟩, ⟨⟨⟨0, 0⟩, none⟩, some .released⟩,
          ⟨⟨⟨1, 0⟩, some [9]⟩, none⟩] ∧
      (run.channel.perform copier run.copier .close).channel = run.channel := by
  let ops : List Operation :=
    [.guarded [.senders (.push ⟨⟨0, 0⟩, none⟩), .senders (.push ⟨⟨1, 0⟩, some [9]⟩),
        .senders (.push ⟨⟨0, 0⟩, none⟩), .senders (.push ⟨⟨0, 0⟩, none⟩),
        .senders (.push ⟨⟨2, 0⟩, none⟩), .senders (.removeTask ⟨1, 0⟩)],
      .send [7], .guarded [.senders .pop, .senders (.popLive fun t => t.index != 0)],
      .guarded [.senders (.push ⟨⟨0, 0⟩, none⟩), .receivers (.push ⟨⟨3, 0⟩, none⟩)]]
  let more : List Operation := [.close, .guarded [.senders (.push ⟨⟨1, 0⟩, some [9]⟩)]]
  have created : create 1 ⟨2, 1, 1⟩ = .ok (fresh 1 ⟨2, 1, 1⟩) := by decide
  obtain ⟨-, answered, -⟩ := places_accounted_for created (Copier.plain Unit) () ops more
  obtain ⟨balanced, -, refused⟩ :=
    places_accounted_for created (Copier.plain Unit) () (ops ++ more) []
  refine ⟨fresh 1 ⟨2, 1, 1⟩, ops, more, (answered ?_).1, (balanced .senders).1, by decide,
    (refused ?_).2⟩
  · simp [ops]
  · simp [ops, more]

end Channel

end ByteChannel
