import ByteChannel.Proofs.Registry
import Mathlib.Order.Bounds.Basic

/-!
# An arena has as many slots as it ever needed at once

An arena keeps three records of what is free. The slots themselves have a task or none, the free
slots are listed, and the tasks are counted. An action changes the three one after the other, and
stops half-way through its checks if the reference it was given does not resolve. The records agree
after every action all the same.

Because they agree, a new slot is added only if every slot has a task. So the number of slots is the
largest number of tasks that there ever were at one time, which is a fact about a whole run. It is
proved as one about each action: the number of slots after an action is the larger of the number of
slots before it and the number of tasks after it.

The generation of a slot counts the tasks that were removed from it. For a slot that does not exist
yet both numbers are zero, so nothing has to be said about new slots.

## Main definitions

* `Arena.ActExit` — everything that an action can do
* `Arena.Tallied` — the three records agree in number
* `Arena.livesDuring` — how many tasks there were in the course of a run
* `Arena.Accounts` — the invariant

## Main results

* `Arena.Sound.act_exit` — an action does nothing else
* `Arena.ActExit.length_eq_max` — how the number of slots grows
* `Arena.Accounts.exit`, `Arena.accounts_run` — an action and a run keep the accounts
* `Arena.run_is_compact` — what they come to
-/

namespace ByteChannel

namespace Arena

variable {α : Type} {a a' : Arena α} {removed? : Option TaskRef}

/-! ### What an action can do -/

/-- The ways to end for an action: the reference whose task it removes, and the arena that it
leaves. -/
inductive ActExit (a : Arena α) : Option TaskRef → Arena α → Prop
  /-- Nothing was asked for but an answer, or the reference does not resolve. -/
  | unchanged : ActExit a none a
  /-- A task was replaced. -/
  | replaced {t : TaskRef} {old : α} (h : a.get? t = some old) (v : α) :
    ActExit a none { a with slots := a.slots.set t.index ⟨t.generation, some v⟩ }
  /-- A task was put into a new slot. -/
  | grown (h : a.free = []) (v : α) :
    ActExit a none ⟨a.slots ++ [⟨0, some v⟩], [], a.live + 1⟩
  /-- A task was put into a free slot. -/
  | filled {t : TaskRef} {free : List Nat} (h : a.free = t.index :: free)
      (hslot : a.slots[t.index]? = some ⟨t.generation, none⟩) (v : α) :
    ActExit a none ⟨a.slots.set t.index ⟨t.generation, some v⟩, free, a.live + 1⟩
  /-- A task was removed. -/
  | freed {t : TaskRef} {v : α} (h : a.get? t = some v) :
    ActExit a (some t)
      ⟨a.slots.set t.index ⟨t.generation + 1, none⟩, t.index :: a.free, a.live - 1⟩

theorem Sound.act_exit (sound : a.Sound) (action : Action α) :
    ActExit a (Step.removed? ⟨action, (a.act action).1⟩) (a.act action).2 := by
  cases action with
  | insert v =>
    obtain ⟨⟨t, a'⟩, h⟩ : ∃ r, a.insert v = r := ⟨_, rfl⟩
    rw [act_insert h]
    rcases sound.insert_cases h with ⟨hfree, -, rfl⟩ | ⟨free, hfree, hslot, rfl⟩
    · exact .grown hfree v
    · exact .filled hfree hslot v
  | remove t =>
    rw [act_remove]
    cases h : a.get? t with
    | none =>
      rw [remove_of_get?_none h]
      exact .unchanged
    | some v =>
      rw [remove_of_get? h]
      exact .freed h
  | update t f =>
    rw [act_update]
    cases h : a.get? t with
    | none =>
      rw [update_of_get?_none h]
      exact .unchanged
    | some v =>
      rw [update_of_get? h, set_of_get? h]
      exact .replaced h (f v)
  | get | isLive | length => exact .unchanged

/-! ### The three records -/

/-- The slots with a task are as many as there are tasks, and the others as many as are listed. -/
structure Tallied (a : Arena α) : Prop where
  /-- The slots with a task are counted. -/
  live_eq : a.live = a.slots.countP (·.value.isSome)
  /-- The slots without a task are listed. -/
  live_add_free : a.live + a.free.length = a.slots.length

theorem tallied_empty : (empty : Arena α).Tallied := ⟨rfl, rfl⟩

/-- A slot that is written over counts no longer for what it was, but for what it is. -/
theorem countP_set_slot {i : Nat} {old : Slot α} (h : a.slots[i]? = some old) (slot : Slot α) :
    (a.slots.set i slot).countP (·.value.isSome) + old.value.isSome.toNat =
      a.slots.countP (·.value.isSome) + slot.value.isSome.toNat := by
  obtain ⟨hi, rfl⟩ := List.getElem?_eq_some_iff.mp h
  have hcounted : a.slots[i].value.isSome.toNat ≤ a.slots.countP (·.value.isSome) := by
    cases hold : a.slots[i].value.isSome with
    | false => exact Nat.zero_le _
    | true => exact List.countP_pos_iff.mpr ⟨_, List.getElem_mem hi, hold⟩
  have toNat_eq (b : Bool) : (if b = true then 1 else 0) = b.toNat := by cases b <;> rfl
  rw [List.countP_set hi, toNat_eq, toNat_eq]
  omega

/-- If a reference resolves, there is a task to be counted off. -/
theorem Tallied.live_pos (tallied : a.Tallied) {t : TaskRef} {v : α} (h : a.get? t = some v) :
    0 < a.live := by
  rw [tallied.live_eq, List.countP_pos_iff]
  exact ⟨_, List.mem_of_getElem? (get?_eq_some_iff.mp h), rfl⟩

theorem ActExit.tallied (exit : ActExit a removed? a') (tallied : a.Tallied) : a'.Tallied := by
  have hlive := tallied.live_eq
  have hfree := tallied.live_add_free
  cases exit with
  | unchanged => exact tallied
  | @replaced t old h v =>
    have hcount := countP_set_slot (get?_eq_some_iff.mp h) ⟨t.generation, some v⟩
    refine ⟨?_, ?_⟩
    · simp only [Option.isSome_some] at hcount ⊢
      omega
    · rw [List.length_set]
      exact hfree
  | grown h v =>
    rw [h] at hfree
    refine ⟨?_, ?_⟩
    · rw [List.countP_append, hlive]
      rfl
    · simp only [List.length_append, List.length_nil, List.length_singleton] at hfree ⊢
      omega
  | @filled t free h hslot v =>
    have hcount := countP_set_slot hslot ⟨t.generation, some v⟩
    rw [h] at hfree
    refine ⟨?_, ?_⟩
    · simp only [Option.isSome_some, Option.isSome_none, Bool.toNat_true, Bool.toNat_false]
        at hcount ⊢
      omega
    · simp only [List.length_set, List.length_cons] at hfree ⊢
      omega
  | @freed t v h =>
    have hcount := countP_set_slot (get?_eq_some_iff.mp h) ⟨t.generation + 1, none⟩
    have hpos := tallied.live_pos h
    refine ⟨?_, ?_⟩
    · simp only [Option.isSome_some, Option.isSome_none, Bool.toNat_true, Bool.toNat_false]
        at hcount ⊢
      omega
    · simp only [List.length_set, List.length_cons]
      omega

/-- An arena that has a free slot gets no new one. -/
theorem ActExit.length_of_free (exit : ActExit a removed? a') (h : a.free ≠ []) :
    a'.slots.length = a.slots.length := by
  cases exit with
  | grown hfree v => exact absurd hfree h
  | unchanged => rfl
  | replaced | filled | freed => exact List.length_set

/-- **How the number of slots grows**: to what the tasks need, if that is more than there are. -/
theorem ActExit.length_eq_max (exit : ActExit a removed? a') (tallied : a.Tallied) :
    a'.slots.length = max a'.live a.slots.length := by
  have hfree := tallied.live_add_free
  have hfree' := (exit.tallied tallied).live_add_free
  cases exit with
  | grown h v =>
    -- every slot has a task, and so there are as many tasks as slots
    rw [h, List.length_nil] at hfree
    simp only [List.length_append, List.length_singleton]
    omega
  | unchanged => omega
  | replaced | filled | freed =>
    rw [List.length_set] at hfree' ⊢
    omega

/-! ### Generations -/

theorem Put.generationAt_eq {i : Nat} {slot : Slot α} (put : Put a a' i slot) (j : Nat) :
    a'.generationAt j = if j = i then slot.generation else a.generationAt j := by
  rw [generationAt, put]
  split
  · rfl
  · rfl

theorem Put.generationAt_of_eq {i : Nat} {slot : Slot α} (put : Put a a' i slot)
    (h : a.generationAt i = slot.generation) (j : Nat) :
    a'.generationAt j = a.generationAt j := by
  rw [put.generationAt_eq]
  split
  next hj => rw [hj, h]
  next => rfl

/-- An action advances the generation of the slot whose task it removes, and no other. -/
theorem ActExit.generationAt_eq (exit : ActExit a removed? a') (i : Nat) :
    a'.generationAt i = a.generationAt i + removed?.toList.countP (·.index == i) := by
  cases exit with
  | unchanged => rfl
  | replaced h v =>
    have hslot := get?_eq_some_iff.mp h
    refine Put.generationAt_of_eq (put_set_slots hslot) ?_ i
    exact generationAt_of_getElem? hslot
  | grown h v =>
    have hnew : a.generationAt a.slots.length = 0 := by simp [generationAt]
    exact Put.generationAt_of_eq put_append hnew i
  | filled h hslot v =>
    refine Put.generationAt_of_eq (put_set_slots hslot) ?_ i
    exact generationAt_of_getElem? hslot
  | @freed t v h =>
    have hslot := get?_eq_some_iff.mp h
    rw [(put_set_slots hslot).generationAt_eq]
    by_cases hi : i = t.index
    · rw [if_pos hi, hi, generationAt_of_getElem? hslot]
      simp
    · rw [if_neg hi]
      simp [Ne.symm hi]

/-! ### Runs -/

/-- A run with one more action. -/
theorem run_concat (a : Arena α) (actions : List (Action α)) (action : Action α) :
    a.run (actions ++ [action]) =
      ((a.run actions).1 ++ [⟨action, ((a.run actions).2.act action).1⟩],
        ((a.run actions).2.act action).2) := by
  induction actions generalizing a with
  | nil => rfl
  | cons first actions ih =>
    have hrest := ih (a.act first).2
    simp only [List.cons_append, run, hrest]

/-- How many tasks there were at some time in the course of a run that begins with an empty arena:
before it, or after one of its actions. -/
def livesDuring (actions : List (Action α)) : Set Nat :=
  {n | ∃ earlier, earlier <+: actions ∧ (empty.run earlier).2.live = n}

theorem livesDuring_nil : livesDuring ([] : List (Action α)) = {0} := by
  ext n
  simp [livesDuring, run, empty, eq_comm]

theorem livesDuring_concat (actions : List (Action α)) (action : Action α) :
    livesDuring (actions ++ [action]) =
      Insert.insert (empty.run (actions ++ [action])).2.live (livesDuring actions) := by
  ext n
  simp only [livesDuring, Set.mem_ofPred_eq, List.prefix_concat_iff, Set.mem_insert_iff]
  constructor
  · rintro ⟨earlier, rfl | hearlier, rfl⟩
    · exact .inl rfl
    · exact .inr ⟨earlier, hearlier, rfl⟩
  · rintro (rfl | ⟨earlier, hearlier, rfl⟩)
    · exact ⟨_, .inl rfl, rfl⟩
    · exact ⟨earlier, .inr hearlier, rfl⟩

/-- What the records of an arena say of its past: the tasks that were removed, and how many tasks
there were at some time or other. -/
structure Accounts (a : Arena α) (removed : List TaskRef) (lives : Set Nat) : Prop where
  /-- The records agree. -/
  tallied : a.Tallied
  /-- A generation counts the tasks removed from a slot. -/
  generationAt_eq : ∀ i, a.generationAt i = removed.countP (·.index == i)
  /-- There are as many slots as there ever were tasks at one time. -/
  isGreatest : IsGreatest lives a.slots.length

theorem accounts_empty : (empty : Arena α).Accounts [] {0} where
  tallied := tallied_empty
  generationAt_eq _ := rfl
  isGreatest := isGreatest_singleton

/-- **An action** keeps the accounts. -/
theorem Accounts.exit {removed : List TaskRef} {lives : Set Nat}
    (accounts : a.Accounts removed lives) (exit : ActExit a removed? a') :
    a'.Accounts (removed ++ removed?.toList) (Insert.insert a'.live lives) where
  tallied := exit.tallied accounts.tallied
  generationAt_eq i := by
    rw [exit.generationAt_eq, accounts.generationAt_eq, List.countP_append]
  isGreatest := by
    rw [exit.length_eq_max accounts.tallied]
    exact accounts.isGreatest.insert a'.live

theorem sound_run (actions : List (Action α)) : (empty.run actions).2.Sound :=
  (follows_empty.run actions).tracks.sound

/-- **A run** keeps the accounts. -/
theorem accounts_run (actions : List (Action α)) :
    (empty.run actions).2.Accounts (removed (empty.run actions).1) (livesDuring actions) := by
  induction actions using List.reverseRecOn with
  | nil =>
    rw [livesDuring_nil]
    exact accounts_empty
  | append_singleton actions action ih =>
    have hexit := ih.exit ((sound_run actions).act_exit action)
    rw [livesDuring_concat, run_concat, removed_concat]
    exact hexit

/-- **An arena has as many slots as it ever needed at once.** Let an empty arena be asked anything
in any order, with references of any kind, and let fewer than `2 ^ 64` tasks be removed. Then its
free list names the slots without a task, each once. The number of tasks it keeps is that of the
slots with one, and together with the free list it makes up all slots. The generation of a slot is
the number of tasks that were removed from it, and stays below `2 ^ 64`. The number of slots is the
largest number of tasks that there were at one time.

So a new task is put into a slot that exists and has none, or into a new one at the end, and no
other slot is touched. Where a task is removed, there was one to be counted off. While a slot is
without a task, no action adds another slot. -/
theorem run_is_compact {actions : List (Action α)} {history : List (Step α)} {a : Arena α}
    (h : empty.run actions = (history, a)) (few : (removed history).length < Config.sizeLimit) :
    (a.free.Nodup ∧ ∀ i, i ∈ a.free ↔ ∃ generation, a.slots[i]? = some ⟨generation, none⟩) ∧
      (a.live = a.slots.countP (·.value.isSome) ∧ a.live + a.free.length = a.slots.length) ∧
      (∀ (i : Nat) (slot : Slot α), a.slots[i]? = some slot →
        slot.generation = (removed history).countP (·.index == i) ∧
          slot.generation < Config.sizeLimit) ∧
      IsGreatest (livesDuring actions) a.slots.length ∧
      (∀ v t a', a.insert v = (t, a') →
        (a.slots[t.index]? = some ⟨t.generation, none⟩ ∨
          a.free = [] ∧ t = ⟨a.slots.length, 0⟩) ∧
        Put a a' t.index ⟨t.generation, some v⟩) ∧
      (∀ t v, a.get? t = some v → (a.remove t).2.live + 1 = a.live) ∧
      ((∃ slot ∈ a.slots, slot.value = none) →
        ∀ action, (a.act action).2.slots.length = a.slots.length) := by
  have sound : a.Sound := by
    have hrun := sound_run actions
    rw [h] at hrun
    exact hrun
  have accounts : a.Accounts (removed history) (livesDuring actions) := by
    have hrun := accounts_run actions
    rw [h] at hrun
    exact hrun
  have tallied := accounts.tallied
  refine ⟨⟨sound.free_nodup, sound.mem_free_iff⟩, ⟨tallied.live_eq, tallied.live_add_free⟩, ?_,
    accounts.isGreatest, ?_, ?_, ?_⟩
  · intro i slot hslot
    have hgeneration : slot.generation = (removed history).countP (·.index == i) := by
      rw [← generationAt_of_getElem? hslot, accounts.generationAt_eq]
    refine ⟨hgeneration, ?_⟩
    rw [hgeneration]
    exact Nat.lt_of_le_of_lt List.countP_le_length few
  · intro v t a' hinsert
    refine ⟨?_, sound.put_insert hinsert⟩
    rcases sound.insert_cases hinsert with ⟨hfree, ht, -⟩ | ⟨_, -, hslot, -⟩
    · exact .inr ⟨hfree, ht⟩
    · exact .inl hslot
  · intro t v hget
    rw [remove_of_get? hget]
    exact Nat.sub_add_cancel (tallied.live_pos hget)
  · rintro ⟨⟨generation, value⟩, hmem, rfl⟩ action
    obtain ⟨i, hi⟩ := List.mem_iff_getElem?.mp hmem
    have hfree : i ∈ a.free := (sound.mem_free_iff i).mpr ⟨generation, hi⟩
    exact (sound.act_exit action).length_of_free (List.ne_nil_of_mem hfree)

/-- Three tasks at once, and then slots that are freed, filled and freed again. References are used
again after their task has gone, and one was never issued. -/
def churning : List (Action Nat) :=
  [.insert 5, .insert 6, .insert 7, .remove ⟨1, 0⟩, .remove ⟨1, 0⟩, .insert 8,
    .update ⟨1, 0⟩ (· + 1), .update ⟨1, 1⟩ (· + 1), .remove ⟨1, 1⟩, .remove ⟨1, 1⟩, .remove ⟨0, 0⟩,
    .remove ⟨3, 0⟩]

theorem run_is_compact_churning :
    ∃ history a, empty.run churning = (history, a) ∧
      (removed history).length < Config.sizeLimit ∧
      removed history = [⟨1, 0⟩, ⟨1, 1⟩, ⟨0, 0⟩] ∧
      a = ⟨[⟨1, none⟩, ⟨2, none⟩, ⟨0, some 7⟩], [0, 1], 1⟩ ∧
      IsGreatest (livesDuring churning) 3 ∧
      (a.remove ⟨2, 0⟩).2.live + 1 = 1 ∧
      ∀ action, (a.act action).2.slots.length = 3 := by
  have few : (removed (empty.run churning).1).length < Config.sizeLimit := by decide
  obtain ⟨-, -, -, hgreatest, -, hremove, hgrow⟩ := run_is_compact rfl few
  exact ⟨_, _, rfl, few, rfl, rfl, hgreatest, hremove _ 7 rfl, hgrow ⟨⟨1, none⟩, by decide, rfl⟩⟩

end Arena

end ByteChannel
