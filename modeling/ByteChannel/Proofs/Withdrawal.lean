import ByteChannel.Proofs.Parking

/-!
# Two ways out of a wait queue

A task that no longer wants to wait can be withdrawn in two ways. Its place can be taken out of the
queue, or the task can be removed from its arena, and then its places stay behind until they are
passed over. The two must come to the same for all the others: they are released as if the task had
never been parked, and in the order in which they came.

What there is to compare is the whole sequence of tasks that a queue will release, one after the
other, if nobody interferes. `WaitQueue.releaseAll` obtains it by releasing until there is nothing
left to release, and `WaitQueue.releaseAll_eq` says what the repeated loop comes to: the queue
without its stale places. From there on the two ways out are a place erased from a list and a list
filtered once more.

A task may be parked several times. Taking out a place concerns the first one only, and removing the
task concerns all of them.

## Main definitions

* `WaitQueue.releaseAll` — all tasks that a queue will release

## Main results

* `WaitQueue.releaseAll_eq` — they are the registered ones, in order
* `WaitQueue.removeTask_cases` — what taking out a place does
* `Arena.withdrawals_agree` — the two ways out
-/

namespace ByteChannel

namespace WaitQueue

variable {isLive : TaskRef → Bool} {q : WaitQueue} {w : Waiter} {t : TaskRef}

/-! ### Releasing until nothing is left -/

/-- A release splits the queue: stale places, the one that is released, and what remains. -/
theorem exists_split_of_popLive (h : (q.popLive isLive).waiter = some w) :
    ∃ stale, q.waiters = stale ++ w :: (q.popLive isLive).queue.waiters ∧
      (∀ v ∈ stale, isLive v.task = false) ∧ isLive w.task = true := by
  rw [popLive_eq] at h ⊢
  dsimp only at h ⊢
  have hbehind := List.cons_head?_tail h
  have hfirst := List.head?_dropWhile_not (fun v : Waiter => !isLive v.task) q.waiters
  rw [h] at hfirst
  refine ⟨q.waiters.takeWhile fun v => !isLive v.task, ?_, fun v hv => ?_, by simpa using hfirst⟩
  · rw [hbehind, List.takeWhile_append_dropWhile]
  · simpa using List.mem_takeWhile_imp hv

/-- Where nothing is released, every place is stale. -/
theorem isLive_of_popLive_none (h : (q.popLive isLive).waiter = none) :
    ∀ v ∈ q.waiters, isLive v.task = false := by
  rw [popLive_eq] at h
  have hall := List.dropWhile_eq_nil_iff.mp (List.head?_eq_none_iff.mp h)
  intro v hv
  simpa using hall v hv

theorem length_popLive_lt (h : (q.popLive isLive).waiter = some w) :
    (q.popLive isLive).queue.length < q.length := by
  obtain ⟨stale, hsplit, -, -⟩ := exists_split_of_popLive h
  rw [length, length, hsplit, List.length_append, List.length_cons]
  omega

/-- The tasks that are released when a queue is asked to release one again and again, until it has
none. -/
def releaseAll (isLive : TaskRef → Bool) (q : WaitQueue) : List Waiter :=
  match _h : (q.popLive isLive).waiter with
  | some w => w :: releaseAll isLive (q.popLive isLive).queue
  | none => []
termination_by q.length
decreasing_by exact length_popLive_lt ‹_›

theorem releaseAll_of_some (h : (q.popLive isLive).waiter = some w) :
    q.releaseAll isLive = w :: (q.popLive isLive).queue.releaseAll isLive := by
  rw [releaseAll]
  split <;> simp_all

theorem releaseAll_of_none (h : (q.popLive isLive).waiter = none) : q.releaseAll isLive = [] := by
  rw [releaseAll]
  split <;> simp_all

/-- **All releases.** They are the places of registered tasks, in the order of the queue. -/
theorem releaseAll_eq (isLive : TaskRef → Bool) (q : WaitQueue) :
    q.releaseAll isLive = q.waiters.filter fun w => isLive w.task := by
  induction q using releaseAll.induct isLive with
  | case1 q w h ih =>
    obtain ⟨stale, hsplit, hstale, live⟩ := exists_split_of_popLive h
    have hnone : stale.filter (fun w => isLive w.task) = [] := by
      simpa [List.filter_eq_nil_iff] using hstale
    rw [releaseAll_of_some h, ih, hsplit, List.filter_append, hnone]
    simp [live]
  | case2 q h =>
    rw [releaseAll_of_none h]
    symm
    simpa [List.filter_eq_nil_iff] using isLive_of_popLive_none h

/-! ### Taking out a place -/

/-- **Taking out a place.** Either the task is not parked, and there is no answer and no change; or
its first place is the answer, and the other places stay in order. -/
theorem removeTask_cases (q : WaitQueue) (t : TaskRef) :
    ((∀ w ∈ q.waiters, w.task ≠ t) ∧ q.removeTask t = (none, q)) ∨
      ∃ before w after, q.waiters = before ++ w :: after ∧ w.task = t ∧
        (∀ v ∈ before, v.task ≠ t) ∧ q.removeTask t = (some w, ⟨before ++ after⟩) := by
  by_cases parked : ∃ w ∈ q.waiters, w.task = t
  · right
    obtain ⟨v, hv, hvt⟩ := parked
    obtain ⟨w, before, after, hbefore, hw, hsplit, herase⟩ :=
      List.exists_of_eraseP (p := fun w : Waiter => w.task == t) hv (by simpa using hvt)
    have hfirst : q.waiters.find? (·.task == t) = some w := by
      rw [List.find?_eq_some_iff_append]
      exact ⟨hw, before, after, hsplit, fun u hu => by simpa using hbefore u hu⟩
    refine ⟨before, w, after, hsplit, by simpa using hw,
      fun u hu => by simpa using hbefore u hu, ?_⟩
    rw [removeTask, hfirst, herase]
  · left
    have absent : ∀ w ∈ q.waiters, w.task ≠ t := fun w hw ht => parked ⟨w, hw, ht⟩
    have hfirst : q.waiters.find? (·.task == t) = none := by
      simpa [List.find?_eq_none] using absent
    have herase : q.waiters.eraseP (·.task == t) = q.waiters :=
      List.eraseP_of_forall_not fun w hw => by simpa using absent w hw
    refine ⟨absent, ?_⟩
    rw [removeTask, hfirst, herase]

/-- A place of a task that is not registered is missed by nobody. -/
theorem releaseAll_removeTask_of_stale (stale : isLive t = false) (q : WaitQueue) :
    (q.removeTask t).2.releaseAll isLive = q.releaseAll isLive := by
  rcases q.removeTask_cases t with ⟨_, hremoved⟩ | ⟨before, w, after, hsplit, hw, _, hremoved⟩
  · rw [hremoved]
  · rw [hremoved, releaseAll_eq, releaseAll_eq, hsplit, List.filter_append, List.filter_append]
    simp [hw, stale]

/-- Taking out a place of a registered task takes out its first release. -/
theorem releaseAll_removeTask_of_live (live : isLive t = true) (q : WaitQueue) :
    (q.removeTask t).2.releaseAll isLive = (q.releaseAll isLive).eraseP (·.task == t) := by
  have hsame : (fun w : Waiter => w.task == t && isLive w.task) = fun w => w.task == t := by
    funext w
    by_cases hw : w.task = t <;> simp [hw, live]
  rw [releaseAll_eq, releaseAll_eq, List.eraseP_filter, hsame]
  rfl

end WaitQueue

namespace Arena

variable {α : Type}

theorem isLive_remove (a : Arena α) (t u : TaskRef) :
    (a.remove t).2.isLive u = (decide (u ≠ t) && a.isLive u) := by
  rw [isLive, isLive, get?_remove]
  by_cases hu : u = t <;> simp [hu]

/-- **The two ways out agree.** For any arena, queue and task, registered or not and parked once,
several times or not at all:

* what a queue releases until there is nothing left are the places of registered tasks, in order;
* taking out a place of the task answers with its first place and keeps the others in order, or does
  nothing if it has none;
* from then on the queue releases what it would have released, less the first release of the task if
  that is registered;
* after the task was removed from the arena instead, the queue releases what it would have released,
  less all releases of the task. -/
theorem withdrawals_agree (a : Arena α) (q : WaitQueue) (t : TaskRef) :
    q.releaseAll a.isLive = q.waiters.filter (fun w => a.isLive w.task) ∧
    (((∀ w ∈ q.waiters, w.task ≠ t) ∧ q.removeTask t = (none, q)) ∨
      ∃ before w after, q.waiters = before ++ w :: after ∧ w.task = t ∧
        (∀ v ∈ before, v.task ≠ t) ∧ q.removeTask t = (some w, ⟨before ++ after⟩)) ∧
    (q.removeTask t).2.releaseAll a.isLive =
      (if a.isLive t then (q.releaseAll a.isLive).eraseP (·.task == t)
        else q.releaseAll a.isLive) ∧
    ∀ v a', a.remove t = (some v, a') →
      q.releaseAll a'.isLive = (q.releaseAll a.isLive).filter (fun w => w.task ≠ t) := by
  refine ⟨q.releaseAll_eq a.isLive, q.removeTask_cases t, ?_, fun v a' removed => ?_⟩
  · cases live : a.isLive t with
    | true => exact WaitQueue.releaseAll_removeTask_of_live live q
    | false => exact WaitQueue.releaseAll_removeTask_of_stale live q
  · have ha' : a' = (a.remove t).2 := by rw [removed]
    rw [ha', WaitQueue.releaseAll_eq, WaitQueue.releaseAll_eq, List.filter_filter]
    simp only [isLive_remove]

/-- Three tasks, the second of them removed already, and a queue where the first and the second one
stand twice. -/
theorem withdrawals_agree_repeated :
    ∃ (a a' : Arena Nat) (q : WaitQueue),
      q.waiters.map Waiter.task = [⟨1, 0⟩, ⟨0, 0⟩, ⟨2, 0⟩, ⟨0, 0⟩, ⟨1, 0⟩] ∧
      a.isLive ⟨1, 0⟩ = false ∧ a.remove ⟨0, 0⟩ = (some 5, a') ∧
      (q.releaseAll a.isLive).map Waiter.task = [⟨0, 0⟩, ⟨2, 0⟩, ⟨0, 0⟩] ∧
      ((q.removeTask ⟨0, 0⟩).2.releaseAll a.isLive).map Waiter.task = [⟨2, 0⟩, ⟨0, 0⟩] ∧
      (q.releaseAll a'.isLive).map Waiter.task = [⟨2, 0⟩] := by
  let a : Arena Nat := ⟨[⟨0, some 5⟩, ⟨1, none⟩, ⟨0, some 7⟩], [1], 2⟩
  let q : WaitQueue := ⟨[⟨⟨1, 0⟩, none⟩, ⟨⟨0, 0⟩, some [9]⟩, ⟨⟨2, 0⟩, none⟩, ⟨⟨0, 0⟩, none⟩,
    ⟨⟨1, 0⟩, none⟩]⟩
  obtain ⟨hall, -, hout, hgone⟩ := withdrawals_agree a q ⟨0, 0⟩
  have hgone := hgone 5 _ rfl
  rw [hall] at hout hgone
  exact ⟨a, _, q, rfl, rfl, rfl, by rw [hall]; rfl, by rw [hout]; rfl, by rw [hgone]; rfl⟩

end Arena

end ByteChannel
