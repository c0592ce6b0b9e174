import ByteChannel.Channel.Guard
import ByteChannel.Proofs.Registry
import Mathlib.Data.List.TakeWhile

/-!
# Releasing parked tasks

A place in a wait queue outlives its task: the task may be removed from the arena while it is
parked, and its slot may be given to another one. What is released must then be a task that is still
there, and what is passed over must be a place of a task that is gone, not of the one that is in its
slot now.

The first half concerns one call on any queue and any arena. `WaitQueue.popLive` is a loop that
looks at one place after the other; `popLive_eq` says what all its turns come to, by splitting the
queue at the first place whose task is registered.

The second half needs the past of the arena. An arena and a queue are used side by side
(`Arena.Parked`), with requests to both in any order, and a task is only parked under a reference
that the arena has issued. References stay issued, so every place in the queue has one
(`Parked.issued`), and by `Tracks.isLive_iff` such a reference fails to resolve for one reason only.

## Main definitions

* `Arena.staleFront`, `Arena.behindStale` — a queue split at the first registered task
* `Arena.Parked` — an arena and a queue of its tasks

## Main results

* `WaitQueue.popLive_eq` — the loop
* `Arena.Parked.follows`, `Arena.Parked.issued` — what holds in every run
* `Arena.popLive_releases` — the first registered task is released, and only removed ones are
  discarded
-/

namespace ByteChannel

namespace WaitQueue

/-! ### The loop -/

theorem popLiveFrom_eq (isLive : TaskRef → Bool) (waiters : List Waiter) :
    popLiveFrom isLive waiters =
      ⟨(waiters.dropWhile fun w => !isLive w.task).head?,
        ⟨(waiters.dropWhile fun w => !isLive w.task).tail⟩,
        waiters.takeWhile fun w => !isLive w.task⟩ := by
  induction waiters with
  | nil => rfl
  | cons w rest ih =>
    cases live : isLive w.task with
    | true => simp [popLiveFrom, live]
    | false => simp [popLiveFrom, live, ih]

/-- **The loop** stops at the first registered task, and splits the queue there. -/
theorem popLive_eq (isLive : TaskRef → Bool) (q : WaitQueue) :
    q.popLive isLive =
      ⟨(q.waiters.dropWhile fun w => !isLive w.task).head?,
        ⟨(q.waiters.dropWhile fun w => !isLive w.task).tail⟩,
        q.waiters.takeWhile fun w => !isLive w.task⟩ :=
  popLiveFrom_eq isLive q.waiters

/-- A place that is in a queue after an action was in it before, or was just taken. -/
theorem mem_waiters_act {q : WaitQueue} {action : Action} {w : Waiter}
    (h : w ∈ (q.act action).2.1.waiters) : w ∈ q.waiters ∨ action = .push w := by
  cases action with
  | push w' =>
    rcases List.mem_append.mp h with old | new
    · exact .inl old
    · exact .inr (congrArg Action.push (List.mem_singleton.mp new).symm)
  | pop =>
    obtain ⟨waiters⟩ := q
    cases waiters with
    | nil => exact .inl h
    | cons first rest => exact .inl (List.mem_cons_of_mem first h)
  | popLive isLive =>
    simp only [act, popLive_eq] at h
    exact .inl ((List.dropWhile_sublist _).subset (List.mem_of_mem_tail h))
  | removeTask t => exact .inl (List.mem_of_mem_eraseP h)
  | peek | list | length | describe => exact .inl h

end WaitQueue

namespace Arena

variable {α : Type}

/-! ### A queue split at its first registered task -/

/-- The places at the front of a queue whose tasks are not registered. -/
def staleFront (a : Arena α) (q : WaitQueue) : List Waiter :=
  q.waiters.takeWhile fun w => !a.isLive w.task

/-- The places from the first one whose task is registered. -/
def behindStale (a : Arena α) (q : WaitQueue) : List Waiter :=
  q.waiters.dropWhile fun w => !a.isLive w.task

theorem mem_of_mem_staleFront {a : Arena α} {q : WaitQueue} {w : Waiter}
    (h : w ∈ a.staleFront q) : w ∈ q.waiters :=
  (List.takeWhile_sublist _).subset h

theorem isLive_of_mem_staleFront {a : Arena α} {q : WaitQueue} {w : Waiter}
    (h : w ∈ a.staleFront q) : a.isLive w.task = false := by
  simpa using List.mem_takeWhile_imp h

theorem isLive_of_head?_behindStale {a : Arena α} {q : WaitQueue} {w : Waiter}
    (h : (a.behindStale q).head? = some w) : a.isLive w.task = true := by
  have hfirst := List.head?_dropWhile_not (fun w : Waiter => !a.isLive w.task) q.waiters
  rw [← behindStale, h] at hfirst
  simpa using hfirst

/-! ### An arena and a queue of its tasks -/

/-- An arena and a queue that began empty, after requests to both in any order, and the history of
the arena. A task is parked only under a reference that the arena has issued. -/
inductive Parked : Arena α → WaitQueue → List (Step α) → Prop
  | empty : Parked empty .empty []
  | arena {a : Arena α} {q : WaitQueue} {history : List (Step α)} (action : Action α) :
    Parked a q history → Parked (a.act action).2 q (history ++ [⟨action, (a.act action).1⟩])
  | queue {a : Arena α} {q : WaitQueue} {history : List (Step α)} (action : WaitQueue.Action) :
    Parked a q history → (∀ w, action = .push w → w.task ∈ issued history) →
      Parked a (q.act action).2.1 history

variable {a : Arena α} {q : WaitQueue} {history : List (Step α)}

theorem Parked.follows (parked : Parked a q history) : a.Follows history := by
  induction parked with
  | empty => exact follows_empty
  | arena action _ ih => exact ih.act action
  | queue _ _ _ ih => exact ih

theorem Parked.issued (parked : Parked a q history) {w : Waiter} (hw : w ∈ q.waiters) :
    w.task ∈ issued history := by
  induction parked with
  | empty => cases hw
  | arena action _ ih =>
    rw [Arena.issued, List.filterMap_append]
    exact List.mem_append_left _ (ih hw)
  | queue action _ hpush ih =>
    rcases WaitQueue.mem_waiters_act hw with old | new
    · exact ih old
    · exact hpush w new

/-- A place of a task that is not registered is one of a task that was removed. -/
theorem Parked.mem_removed (parked : Parked a q history) {w : Waiter} (hw : w ∈ q.waiters)
    (stale : a.isLive w.task = false) : w.task ∈ removed history := by
  by_contra present
  have live := parked.follows.tracks.isLive_iff.mpr ⟨parked.issued hw, present⟩
  rw [stale] at live
  cases live

/-- **Releasing parked tasks.** Let a queue be split, for any arena, at the first place whose task
is registered. That place is released, if there is one, and what is behind it is left in the queue;
the places before it are discarded, each with a notice of its slot and generation, in order. If
arena and queue were used together, with tasks of the arena parked, and fewer than `2 ^ 64` tasks
were removed, then the task released has been registered and not been removed, those discarded have
been removed, and generations stay below `2 ^ 64`. -/
theorem popLive_releases (a : Arena α) (q : WaitQueue) :
    (∃ notices, q.act (.popLive a.isLive) =
        (.waiter (a.behindStale q).head?, ⟨(a.behindStale q).tail⟩, notices) ∧
      notices.map (fun n => (n.message, n.data)) = (a.staleFront q).map fun w =>
        ("discarding stale waiter",
          [("index", .number w.task.index), ("generation", .number w.task.generation)])) ∧
    ∀ history, Parked a q history → (removed history).length < Config.sizeLimit →
      (∀ w, (a.behindStale q).head? = some w →
        w.task ∈ issued history ∧ w.task ∉ removed history) ∧
      (∀ w ∈ a.staleFront q, w.task ∈ removed history) ∧
      ∀ (i : Nat) (slot : Slot α), a.slots[i]? = some slot →
        slot.generation < Config.sizeLimit := by
  refine ⟨⟨(a.staleFront q).map fun w => .stale w.task, ?_, ?_⟩, fun history parked few => ?_⟩
  · simp only [WaitQueue.act, WaitQueue.popLive_eq, staleFront, behindStale]
  · rw [List.map_map]
    rfl
  · have tracks := parked.follows.tracks
    refine ⟨fun w hw => ?_, fun w hw => ?_, fun i slot hslot => ?_⟩
    · exact tracks.isLive_iff.mp (isLive_of_head?_behindStale hw)
    · exact parked.mem_removed (mem_of_mem_staleFront hw) (isLive_of_mem_staleFront hw)
    · exact Nat.lt_of_le_of_lt (tracks.generation_le i slot hslot) few

/-- Two tasks are parked. The first one is removed, and its slot goes to a third task, which is
parked behind them. The second task is released, and the first place is discarded though its slot is
in use. -/
theorem popLive_releases_reused :
    ∃ (a : Arena Nat) (q : WaitQueue) (history : List (Step Nat)),
      Parked a q history ∧ (removed history).length < Config.sizeLimit ∧
      q.waiters.map Waiter.task = [⟨0, 0⟩, ⟨1, 0⟩, ⟨0, 1⟩] ∧ a.get? ⟨0, 1⟩ = some 7 ∧
      (q.act (.popLive a.isLive)).1 = .waiter (some ⟨⟨1, 0⟩, none⟩) ∧
      (⟨1, 0⟩ ∈ issued history ∧ ⟨1, 0⟩ ∉ removed history) ∧ ⟨0, 0⟩ ∈ removed history := by
  have both : Parked (α := Nat) _ _ _ := (Parked.empty.arena (.insert 5)).arena (.insert 6)
  have first := both.queue (.push ⟨⟨0, 0⟩, none⟩) (by rintro w ⟨⟩; decide)
  have second := first.queue (.push ⟨⟨1, 0⟩, none⟩) (by rintro w ⟨⟩; decide)
  have reused := (second.arena (.remove ⟨0, 0⟩)).arena (.insert 7)
  have parked := reused.queue (.push ⟨⟨0, 1⟩, none⟩) (by rintro w ⟨⟩; decide)
  obtain ⟨-, together⟩ := popLive_releases _ _
  obtain ⟨released, discarded, -⟩ := together _ parked (by decide)
  exact ⟨_, _, _, parked, by decide, rfl, rfl, rfl, released ⟨⟨1, 0⟩, none⟩ rfl,
    discarded ⟨⟨0, 0⟩, none⟩ (by decide)⟩

end Arena

end ByteChannel
