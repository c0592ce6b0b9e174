import ByteChannel.Task.Arena
import Mathlib.Data.List.Nodup

/-!
# The references an arena has issued

An arena keeps no record of the references it gave out, and yet its slots tell them all. A slot of
generation `g` has issued the reference of every lower generation, and these are *retired*: the task
was removed. The reference of generation `g` itself is issued if there is a task in the slot, and
is yet to come if there is none. So what an operation does to the past of an arena can be said, and
proved, without looking at more than one slot.

Each operation that changes an arena changes one slot of it. `Arena.Put` says which one and what is
in it afterwards; how references resolve then follows by comparing an index and a generation.

## Main definitions

* `Arena.Sound` — the free slots are those without a task
* `Arena.Retired`, `Arena.Issued` — the references of the past
* `Arena.Put` — two arenas that differ in one slot
* `Arena.Tracks` — an arena whose past is given by two lists

## Main results

* `Arena.Sound.put_insert`, `Arena.put_remove`, `Arena.put_set` — what the operations do
* `Arena.Sound.get?_insert`, `Arena.get?_remove`, `Arena.get?_set` — how references resolve then
* `Arena.Tracks.insert`, `Arena.Tracks.remove`, `Arena.Tracks.set` — how the past grows
* `Arena.Tracks.isLive_iff` — a reference resolves if it was issued and is not retired
-/

namespace ByteChannel

theorem TaskRef.eq_iff {t u : TaskRef} :
    t = u ↔ t.index = u.index ∧ t.generation = u.generation := by
  cases t
  cases u
  simp

namespace Arena

variable {α : Type} {a a' : Arena α} {t u : TaskRef} {v : α}

/-! ### One slot -/

theorem get?_eq_some_iff : a.get? t = some v ↔ a.slots[t.index]? = some ⟨t.generation, some v⟩ := by
  unfold get?
  cases a.slots[t.index]? with
  | none => simp
  | some slot =>
    obtain ⟨generation, value⟩ := slot
    by_cases h : generation = t.generation <;> simp [h]

theorem generationAt_of_getElem? {i generation : Nat} {value : Option α}
    (h : a.slots[i]? = some ⟨generation, value⟩) : a.generationAt i = generation := by
  rw [generationAt, h]
  rfl

/-- The arena `a'` is `a` as far as slots go, but that slot `i` is now `slot`. -/
def Put (a a' : Arena α) (i : Nat) (slot : Slot α) : Prop :=
  ∀ j, a'.slots[j]? = if j = i then some slot else a.slots[j]?

theorem Put.get?_of_ne {i : Nat} {slot : Slot α} (put : Put a a' i slot) (h : u.index ≠ i) :
    a'.get? u = a.get? u := by
  rw [get?, get?, put, if_neg h]

theorem Put.get?_of_eq {i : Nat} {slot : Slot α} (put : Put a a' i slot) (h : u.index = i) :
    a'.get? u = if slot.generation = u.generation then slot.value else none := by
  rw [get?, put, if_pos h]

theorem put_set_slots {i : Nat} {old slot : Slot α} {free : List Nat} {live : Nat}
    (h : a.slots[i]? = some old) : Put a ⟨a.slots.set i slot, free, live⟩ i slot := by
  intro j
  have hi : i < a.slots.length := (List.getElem?_eq_some_iff.mp h).1
  by_cases hj : j = i
  · rw [if_pos hj, hj, List.getElem?_set_self hi]
  · rw [if_neg hj, List.getElem?_set_ne (Ne.symm hj)]

theorem put_append {slot : Slot α} {free : List Nat} {live : Nat} :
    Put a ⟨a.slots ++ [slot], free, live⟩ a.slots.length slot := by
  intro j
  dsimp only
  rcases Nat.lt_trichotomy j a.slots.length with hj | rfl | hj
  · rw [List.getElem?_append_left hj, if_neg (Nat.ne_of_lt hj)]
  · simp
  · rw [if_neg (Nat.ne_of_gt hj), List.getElem?_eq_none (Nat.le_of_lt hj),
      List.getElem?_eq_none (by rw [List.length_append]; exact hj)]

/-! ### The past -/

/-- The slot that a reference names has moved on to a later generation. -/
def Retired (a : Arena α) (t : TaskRef) : Prop :=
  ∃ slot, a.slots[t.index]? = some slot ∧ t.generation < slot.generation

/-- A reference was given out, and is retired or resolves. -/
def Issued (a : Arena α) (t : TaskRef) : Prop := a.Retired t ∨ a.isLive t = true

theorem Put.retired_of_ne {i : Nat} {slot : Slot α} (put : Put a a' i slot) (h : u.index ≠ i) :
    a'.Retired u ↔ a.Retired u := by
  rw [Retired, Retired, put, if_neg h]

theorem Put.retired_of_eq {i : Nat} {slot : Slot α} (put : Put a a' i slot) (h : u.index = i) :
    a'.Retired u ↔ u.generation < slot.generation := by
  rw [Retired, put, if_pos h]
  simp

theorem retired_iff_of_getElem? {slot : Slot α} (h : a.slots[t.index]? = some slot) :
    a.Retired t ↔ t.generation < slot.generation := by
  rw [Retired, h]
  simp

/-- A reference that resolves is not retired. -/
theorem not_retired_of_get? (h : a.get? t = some v) : ¬ a.Retired t := by
  rw [retired_iff_of_getElem? (get?_eq_some_iff.mp h)]
  exact Nat.lt_irrefl _

/-! ### Soundness -/

/-- The free slots of an arena are those without a task, each listed once. -/
structure Sound (a : Arena α) : Prop where
  /-- No slot is listed twice. -/
  free_nodup : a.free.Nodup
  /-- A slot is listed if it exists and has no task. -/
  mem_free_iff : ∀ i, i ∈ a.free ↔ ∃ generation, a.slots[i]? = some ⟨generation, none⟩

theorem sound_empty : (empty : Arena α).Sound :=
  ⟨List.nodup_nil, by simp [empty]⟩

/-- The place of a reference that is yet to come: a slot without a task that has its generation, or
the first generation of a slot that does not exist yet. -/
def Vacant (a : Arena α) (t : TaskRef) : Prop :=
  (a.slots[t.index]? = none ∧ t.generation = 0) ∨ a.slots[t.index]? = some ⟨t.generation, none⟩

theorem Vacant.get?_eq_none (vacant : a.Vacant t) (h : u.index = t.index) : a.get? u = none := by
  rw [get?, h]
  rcases vacant with ⟨hslot, _⟩ | hslot <;> simp [hslot]

theorem Vacant.retired_iff (vacant : a.Vacant t) (h : u.index = t.index) :
    a.Retired u ↔ u.generation < t.generation := by
  rcases vacant with ⟨hslot, hzero⟩ | hslot
  · rw [Retired, h, hslot, hzero]
    simp
  · rw [← h] at hslot
    exact retired_iff_of_getElem? hslot

/-! ### Registering a task -/

/-- A new task goes into a new slot if none is free, and otherwise into the one that was freed
last. -/
theorem Sound.insert_cases (sound : a.Sound) (h : a.insert v = (t, a')) :
    (a.free = [] ∧ t = ⟨a.slots.length, 0⟩ ∧ a' = ⟨a.slots ++ [⟨0, some v⟩], [], a.live + 1⟩) ∨
      ∃ free, a.free = t.index :: free ∧ a.slots[t.index]? = some ⟨t.generation, none⟩ ∧
        a' = ⟨a.slots.set t.index ⟨t.generation, some v⟩, free, a.live + 1⟩ := by
  unfold Arena.insert at h
  cases hfree : a.free with
  | nil =>
    simp only [hfree, Prod.mk.injEq] at h
    obtain ⟨rfl, rfl⟩ := h
    exact .inl ⟨rfl, rfl, rfl⟩
  | cons i free =>
    obtain ⟨generation, hslot⟩ := (sound.mem_free_iff i).mp (by simp [hfree])
    have hslots : (a.slots.modify i fun slot => { slot with value := some v })
        = a.slots.set i ⟨generation, some v⟩ := by
      rw [List.modify_eq_set_getElem?, hslot]
      rfl
    simp only [hfree, generationAt_of_getElem? hslot, hslots, Prod.mk.injEq] at h
    obtain ⟨rfl, rfl⟩ := h
    exact .inr ⟨free, rfl, hslot, rfl⟩

theorem Sound.vacant_insert (sound : a.Sound) (h : a.insert v = (t, a')) : a.Vacant t := by
  rcases sound.insert_cases h with ⟨_, rfl, _⟩ | ⟨_, _, hslot, _⟩
  · exact .inl ⟨List.getElem?_eq_none (Nat.le_refl _), rfl⟩
  · exact .inr hslot

theorem Sound.put_insert (sound : a.Sound) (h : a.insert v = (t, a')) :
    Put a a' t.index ⟨t.generation, some v⟩ := by
  rcases sound.insert_cases h with ⟨_, rfl, rfl⟩ | ⟨_, _, hslot, rfl⟩
  · exact put_append
  · exact put_set_slots hslot

theorem Sound.get?_insert (sound : a.Sound) (h : a.insert v = (t, a')) (u : TaskRef) :
    a'.get? u = if u = t then some v else a.get? u := by
  have put := sound.put_insert h
  by_cases hi : u.index = t.index
  · rw [put.get?_of_eq hi, (sound.vacant_insert h).get?_eq_none hi]
    simp [TaskRef.eq_iff, hi, eq_comm]
  · rw [put.get?_of_ne hi, if_neg fun hu => hi (congrArg TaskRef.index hu)]

/-- A reference is new when it is issued. -/
theorem Sound.not_issued_insert (sound : a.Sound) (h : a.insert v = (t, a')) : ¬ a.Issued t := by
  have vacant := sound.vacant_insert h
  rintro (retired | live)
  · exact Nat.lt_irrefl _ ((vacant.retired_iff rfl).mp retired)
  · rw [isLive, vacant.get?_eq_none rfl] at live
    cases live

theorem Sound.retired_insert (sound : a.Sound) (h : a.insert v = (t, a')) (u : TaskRef) :
    a'.Retired u ↔ a.Retired u := by
  have put := sound.put_insert h
  by_cases hi : u.index = t.index
  · rw [put.retired_of_eq hi, (sound.vacant_insert h).retired_iff hi]
  · exact put.retired_of_ne hi

theorem Sound.issued_insert (sound : a.Sound) (h : a.insert v = (t, a')) (u : TaskRef) :
    a'.Issued u ↔ u = t ∨ a.Issued u := by
  rw [Issued, Issued, sound.retired_insert h, isLive, isLive, sound.get?_insert h]
  by_cases hu : u = t <;> simp [hu]

/-- The slot of the new task is free no longer; all others are as they were. -/
theorem Sound.mem_free_insert (sound : a.Sound) (h : a.insert v = (t, a')) (i : Nat) :
    i ∈ a'.free ↔ i ∈ a.free ∧ i ≠ t.index := by
  rcases sound.insert_cases h with ⟨hfree, _, rfl⟩ | ⟨free, hfree, _, rfl⟩
  · simp [hfree]
  · have hnodup := sound.free_nodup
    rw [hfree] at hnodup ⊢
    have hnot : t.index ∉ free := (List.nodup_cons.mp hnodup).1
    constructor
    · intro hi
      exact ⟨List.mem_cons_of_mem _ hi, fun heq => hnot (heq ▸ hi)⟩
    · rintro ⟨hi, hne⟩
      exact (List.mem_cons.mp hi).resolve_left hne

theorem Sound.insert (sound : a.Sound) (h : a.insert v = (t, a')) : a'.Sound where
  free_nodup := by
    rcases sound.insert_cases h with ⟨_, _, rfl⟩ | ⟨free, hfree, _, rfl⟩
    · exact List.nodup_nil
    · have hnodup := sound.free_nodup
      rw [hfree] at hnodup
      exact (List.nodup_cons.mp hnodup).2
  mem_free_iff i := by
    rw [sound.mem_free_insert h, sound.put_insert h]
    by_cases hi : i = t.index
    · simp [hi]
    · simp [hi, sound.mem_free_iff]

/-! ### Removing a task -/

theorem remove_of_get? (h : a.get? t = some v) :
    a.remove t =
      (some v, ⟨a.slots.set t.index ⟨t.generation + 1, none⟩, t.index :: a.free, a.live - 1⟩) := by
  rw [remove, h]

theorem remove_of_get?_none (h : a.get? t = none) : a.remove t = (none, a) := by
  rw [remove, h]

/-- Removing answers with the task, if there is one. -/
@[simp] theorem fst_remove (a : Arena α) (t : TaskRef) : (a.remove t).1 = a.get? t := by
  cases h : a.get? t with
  | none => rw [remove_of_get?_none h]
  | some v => rw [remove_of_get? h]

theorem put_remove (h : a.get? t = some v) :
    Put a (a.remove t).2 t.index ⟨t.generation + 1, none⟩ := by
  rw [remove_of_get? h]
  exact put_set_slots (get?_eq_some_iff.mp h)

/-- In the slot of a task no other reference resolves. -/
theorem get?_eq_none_of_index_eq (h : a.get? t = some v) (hi : u.index = t.index) (hu : u ≠ t) :
    a.get? u = none := by
  rw [get?, hi, get?_eq_some_iff.mp h]
  exact if_neg fun hg => hu (TaskRef.eq_iff.mpr ⟨hi, hg.symm⟩)

theorem get?_remove (a : Arena α) (t u : TaskRef) :
    (a.remove t).2.get? u = if u = t then none else a.get? u := by
  cases h : a.get? t with
  | none =>
    rw [remove_of_get?_none h]
    by_cases hu : u = t <;> simp [hu, h]
  | some v =>
    have put := put_remove h
    by_cases hi : u.index = t.index
    · rw [put.get?_of_eq hi]
      by_cases hu : u = t
      · simp [hu]
      · simp [hu, get?_eq_none_of_index_eq h hi hu]
    · rw [put.get?_of_ne hi, if_neg fun hu => hi (congrArg TaskRef.index hu)]

/-- What was removed is retired, and nothing else becomes so. -/
theorem retired_remove (h : a.get? t = some v) (u : TaskRef) :
    (a.remove t).2.Retired u ↔ u = t ∨ a.Retired u := by
  have put := put_remove h
  by_cases hi : u.index = t.index
  · have hslot := get?_eq_some_iff.mp h
    rw [← hi] at hslot
    rw [put.retired_of_eq hi, retired_iff_of_getElem? hslot, TaskRef.eq_iff]
    dsimp only
    omega
  · rw [put.retired_of_ne hi]
    have hu : u ≠ t := fun hu => hi (congrArg TaskRef.index hu)
    simp [hu]

/-- Removing issues nothing and forgets nothing. -/
theorem issued_remove (h : a.get? t = some v) (u : TaskRef) :
    (a.remove t).2.Issued u ↔ a.Issued u := by
  rw [Issued, Issued, retired_remove h, isLive, isLive, get?_remove]
  by_cases hu : u = t
  · simp [hu, h]
  · simp [hu]

theorem Sound.remove (sound : a.Sound) (t : TaskRef) : (a.remove t).2.Sound := by
  cases h : a.get? t with
  | none =>
    rw [remove_of_get?_none h]
    exact sound
  | some v =>
    have hslot := get?_eq_some_iff.mp h
    have hused : t.index ∉ a.free := by
      intro hi
      obtain ⟨generation, hfree⟩ := (sound.mem_free_iff t.index).mp hi
      rw [hslot] at hfree
      cases hfree
    have hfree : (a.remove t).2.free = t.index :: a.free := by rw [remove_of_get? h]
    refine ⟨?_, fun i => ?_⟩
    · rw [hfree]
      exact List.nodup_cons.mpr ⟨hused, sound.free_nodup⟩
    · rw [hfree, List.mem_cons, put_remove h, sound.mem_free_iff]
      by_cases hi : i = t.index <;> simp [hi]

/-! ### Replacing a task -/

theorem set_of_get? {old : α} (h : a.get? t = some old) (v : α) :
    a.set t v = (some old, { a with slots := a.slots.set t.index ⟨t.generation, some v⟩ }) := by
  rw [set, h]

theorem put_set {old : α} (h : a.get? t = some old) (v : α) :
    Put a (a.set t v).2 t.index ⟨t.generation, some v⟩ := by
  rw [set_of_get? h]
  exact put_set_slots (get?_eq_some_iff.mp h)

theorem get?_set {old : α} (h : a.get? t = some old) (v : α) (u : TaskRef) :
    (a.set t v).2.get? u = if u = t then some v else a.get? u := by
  have put := put_set h v
  by_cases hi : u.index = t.index
  · rw [put.get?_of_eq hi]
    by_cases hu : u = t
    · simp [hu]
    · have hgeneration : t.generation ≠ u.generation := fun hg =>
        hu (TaskRef.eq_iff.mpr ⟨hi, hg.symm⟩)
      rw [if_neg hgeneration, if_neg hu, get?_eq_none_of_index_eq h hi hu]
  · rw [put.get?_of_ne hi, if_neg fun hu => hi (congrArg TaskRef.index hu)]

theorem retired_set {old : α} (h : a.get? t = some old) (v : α) (u : TaskRef) :
    (a.set t v).2.Retired u ↔ a.Retired u := by
  have put := put_set h v
  by_cases hi : u.index = t.index
  · have hslot := get?_eq_some_iff.mp h
    rw [← hi] at hslot
    rw [put.retired_of_eq hi, retired_iff_of_getElem? hslot]
  · exact put.retired_of_ne hi

theorem issued_set {old : α} (h : a.get? t = some old) (v : α) (u : TaskRef) :
    (a.set t v).2.Issued u ↔ a.Issued u := by
  rw [Issued, Issued, retired_set h, isLive, isLive, get?_set h]
  by_cases hu : u = t <;> simp [hu, h]

theorem Sound.set (sound : a.Sound) {old : α} (h : a.get? t = some old) (v : α) :
    (a.set t v).2.Sound := by
  have hfree : (a.set t v).2.free = a.free := by rw [set_of_get? h]
  refine ⟨by rw [hfree]; exact sound.free_nodup, fun i => ?_⟩
  rw [hfree, sound.mem_free_iff, put_set h v]
  by_cases hi : i = t.index
  · simp [hi, get?_eq_some_iff.mp h]
  · simp [hi]

/-! ### The past as two lists -/

/-- The arena has issued the references in `issued`, and those in `removed` were removed from it. No
slot has seen more tasks go than were removed in all. -/
structure Tracks (a : Arena α) (issued removed : List TaskRef) : Prop where
  /-- The arena is sound. -/
  sound : a.Sound
  /-- The first list is what was issued. -/
  mem_issued_iff : ∀ t, t ∈ issued ↔ a.Issued t
  /-- The second list is what is retired. -/
  mem_removed_iff : ∀ t, t ∈ removed ↔ a.Retired t
  /-- Generations are counted by removals. -/
  generation_le : ∀ (i : Nat) (slot : Slot α), a.slots[i]? = some slot →
    slot.generation ≤ removed.length

variable {issued removed : List TaskRef}

theorem tracks_empty : (empty : Arena α).Tracks [] [] where
  sound := sound_empty
  mem_issued_iff t := by simp [Issued, Retired, isLive, get?, empty]
  mem_removed_iff t := by simp [Retired, empty]
  generation_le i slot h := by simp [empty] at h

theorem Tracks.perm (tracks : a.Tracks issued removed) {issued' removed' : List TaskRef}
    (hissued : issued.Perm issued') (hremoved : removed.Perm removed') :
    a.Tracks issued' removed' where
  sound := tracks.sound
  mem_issued_iff t := by rw [← hissued.mem_iff, tracks.mem_issued_iff]
  mem_removed_iff t := by rw [← hremoved.mem_iff, tracks.mem_removed_iff]
  generation_le i slot h := hremoved.length_eq ▸ tracks.generation_le i slot h

/-- A slot that is put does not break the count, if its own generation does not. -/
theorem Put.generation_le {i n : Nat} {slot : Slot α} (put : Put a a' i slot)
    (hslot : slot.generation ≤ n)
    (h : ∀ (j : Nat) (s : Slot α), a.slots[j]? = some s → s.generation ≤ n) (j : Nat)
    (s : Slot α) (hs : a'.slots[j]? = some s) : s.generation ≤ n := by
  rw [put] at hs
  by_cases hj : j = i
  · rw [if_pos hj] at hs
    obtain rfl := Option.some.inj hs
    exact hslot
  · rw [if_neg hj] at hs
    exact h j s hs

/-- **Registering a task** issues a reference that was never issued before. -/
theorem Tracks.insert (tracks : a.Tracks issued removed) (h : a.insert v = (t, a')) :
    t ∉ issued ∧ a'.Tracks (t :: issued) removed := by
  have sound := tracks.sound
  refine ⟨fun ht => sound.not_issued_insert h ((tracks.mem_issued_iff t).mp ht), sound.insert h, ?_,
    ?_, ?_⟩
  · intro u
    rw [List.mem_cons, tracks.mem_issued_iff, sound.issued_insert h]
  · intro u
    rw [tracks.mem_removed_iff, sound.retired_insert h]
  · have hgeneration : t.generation ≤ removed.length := by
      rcases sound.vacant_insert h with ⟨_, hzero⟩ | hslot
      · omega
      · exact tracks.generation_le _ _ hslot
    exact (sound.put_insert h).generation_le hgeneration tracks.generation_le

/-- **Removing a task** retires its reference, and no other. -/
theorem Tracks.remove (tracks : a.Tracks issued removed) (h : a.get? t = some v) :
    (a.remove t).2.Tracks issued (t :: removed) where
  sound := tracks.sound.remove t
  mem_issued_iff u := by rw [tracks.mem_issued_iff, issued_remove h]
  mem_removed_iff u := by rw [List.mem_cons, tracks.mem_removed_iff, retired_remove h]
  generation_le := by
    have hgeneration := tracks.generation_le _ _ (get?_eq_some_iff.mp h)
    refine (put_remove h).generation_le (Nat.succ_le_succ hgeneration) fun j s hs => ?_
    exact Nat.le_succ_of_le (tracks.generation_le j s hs)

/-- **Replacing a task** leaves the past alone. -/
theorem Tracks.set (tracks : a.Tracks issued removed) {old : α} (h : a.get? t = some old) (v : α) :
    (a.set t v).2.Tracks issued removed where
  sound := tracks.sound.set h v
  mem_issued_iff u := by rw [tracks.mem_issued_iff, issued_set h]
  mem_removed_iff u := by rw [tracks.mem_removed_iff, retired_set h]
  generation_le := by
    have hgeneration := tracks.generation_le _ _ (get?_eq_some_iff.mp h)
    exact (put_set h v).generation_le hgeneration tracks.generation_le

/-- A reference resolves exactly if it was issued and not removed. -/
theorem Tracks.isLive_iff (tracks : a.Tracks issued removed) :
    a.isLive t = true ↔ t ∈ issued ∧ t ∉ removed := by
  rw [tracks.mem_issued_iff, tracks.mem_removed_iff]
  constructor
  · intro live
    obtain ⟨v, hv⟩ := Option.isSome_iff_exists.mp live
    exact ⟨.inr live, not_retired_of_get? hv⟩
  · rintro ⟨retired | live, hnot⟩
    · exact absurd retired hnot
    · exact live

end Arena

end ByteChannel
