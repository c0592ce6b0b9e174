import ByteChannel.Config
import ByteChannel.Proofs.References
import Mathlib.Data.Finmap

/-!
# An arena is a table whose keys are never used twice

Seen from outside, an arena binds references to tasks. It answers every request as a finite map
would that is looked up, changed and erased at the reference in the request; only the reference
under which a new task is bound is the arena's own choice. That choice is always a new one. This is
what makes a reference safe to keep: once its task is removed it is bound to nothing ever after,
also when its slot has been given to many other tasks since, and a request for it does nothing to
them.

A *history* lists what was asked and what was answered. The map is described by `ServesAll`, which
admits a history if the answers are right, and says nothing of slots, generations or free lists. The
proof follows a run and keeps three things about the arena and the history so far (`Arena.Follows`):
the arena's past is what the history says was issued and removed, no reference was issued twice, and
the map agrees with the arena on every reference there is, of this arena or not.

## Main definitions

* `Arena.Step.issued?`, `Arena.Step.removed?` — what a history tells
* `Arena.Serves`, `Arena.ServesAll` — the map
* `Arena.Follows` — the invariant

## Main results

* `Arena.Follows.act`, `Arena.Follows.run` — a step and a run keep it
* `Arena.servesAll_run` — the refinement
-/

namespace ByteChannel

namespace Arena

variable {α : Type}

/-! ### Changing a task -/

theorem update_of_get? {a : Arena α} {t : TaskRef} {v : α} (h : a.get? t = some v) (f : α → α) :
    a.update t f = a.set t (f v) := by
  rw [update, h]

theorem update_of_get?_none {a : Arena α} {t : TaskRef} (h : a.get? t = none) (f : α → α) :
    a.update t f = (none, a) := by
  rw [update, h]

@[simp] theorem fst_update (a : Arena α) (t : TaskRef) (f : α → α) :
    (a.update t f).1 = a.get? t := by
  cases h : a.get? t with
  | none => rw [update_of_get?_none h]
  | some v => rw [update_of_get? h, set_of_get? h]

theorem get?_update_of_ne (a : Arena α) {t u : TaskRef} (hu : u ≠ t) (f : α → α) :
    (a.update t f).2.get? u = a.get? u := by
  cases h : a.get? t with
  | none => rw [update_of_get?_none h]
  | some v => rw [update_of_get? h, get?_set h, if_neg hu]

theorem Tracks.update {a : Arena α} {issued removed : List TaskRef}
    (tracks : a.Tracks issued removed) (t : TaskRef) (f : α → α) :
    (a.update t f).2.Tracks issued removed := by
  cases h : a.get? t with
  | none =>
    rw [update_of_get?_none h]
    exact tracks
  | some v =>
    rw [update_of_get? h]
    exact tracks.set h (f v)

/-! ### Requests -/

theorem act_insert {a a' : Arena α} {t : TaskRef} {v : α} (h : a.insert v = (t, a')) :
    a.act (.insert v) = (.issued t, a') := by
  simp only [act, h]

theorem act_remove (a : Arena α) (t : TaskRef) :
    a.act (.remove t) = (.value (a.get? t), (a.remove t).2) := by
  simp only [act, fst_remove]

theorem act_update (a : Arena α) (t : TaskRef) (f : α → α) :
    a.act (.update t f) = (.value (a.get? t), (a.update t f).2) := by
  simp only [act, fst_update]

/-- The reference that an action is about. -/
def Action.task? : Action α → Option TaskRef
  | .remove t | .get t | .update t _ | .isLive t => some t
  | .insert _ | .length => none

/-- The reference that was issued in a step. -/
def Step.issued? : Step α → Option TaskRef
  | ⟨_, .issued t⟩ => some t
  | _ => none

/-- The reference whose task was removed in a step. -/
def Step.removed? : Step α → Option TaskRef
  | ⟨.remove t, .value (some _)⟩ => some t
  | _ => none

/-! ### The map -/

/-- What references are bound to. -/
abbrev Bindings (α : Type) := Finmap fun _ : TaskRef => α

/-- The answer in a step is that of the map, and what the map is then. A new task may be bound to
any reference. -/
inductive Serves : Bindings α → Step α → Bindings α → Prop
  | insert (m : Bindings α) (v : α) (t : TaskRef) :
    Serves m ⟨.insert v, .issued t⟩ (m.insert t v)
  | remove (m : Bindings α) (t : TaskRef) :
    Serves m ⟨.remove t, .value (m.lookup t)⟩ (m.erase t)
  | get (m : Bindings α) (t : TaskRef) :
    Serves m ⟨.get t, .value (m.lookup t)⟩ m
  | update (m : Bindings α) (t : TaskRef) (f : α → α) :
    Serves m ⟨.update t f, .value (m.lookup t)⟩
      (match m.lookup t with
        | some v => m.insert t (f v)
        | none => m)
  | isLive (m : Bindings α) (t : TaskRef) :
    Serves m ⟨.isLive t, .live (m.lookup t).isSome⟩ m
  | length (m : Bindings α) :
    Serves m ⟨.length, .length m.keys.card⟩ m

/-- All answers in a history are those of a map that was empty at first, and what the map is in the
end. -/
inductive ServesAll : List (Step α) → Bindings α → Prop
  | nil : ServesAll [] ∅
  | snoc {history : List (Step α)} {step : Step α} {m m' : Bindings α} :
    ServesAll history m → Serves m step m' → ServesAll (history ++ [step]) m'

/-- The map binds what the arena resolves. -/
structure Mirrors (a : Arena α) (m : Bindings α) : Prop where
  /-- Every reference is bound to the task it resolves to. -/
  lookup : ∀ t, m.lookup t = a.get? t
  /-- There are as many bindings as tasks. -/
  card : m.keys.card = a.live

variable {a a' : Arena α} {m : Bindings α} {t u : TaskRef} {v : α}

theorem Mirrors.mem_keys (mirrors : a.Mirrors m) (h : a.get? t = some v) : t ∈ m.keys := by
  rw [Finmap.mem_keys, ← Finmap.lookup_isSome, mirrors.lookup, h]
  rfl

theorem Mirrors.notMem_keys (mirrors : a.Mirrors m) (h : a.get? t = none) : t ∉ m.keys := by
  rw [Finmap.mem_keys, ← Finmap.lookup_eq_none, mirrors.lookup, h]

theorem keys_insert (m : Bindings α) (t : TaskRef) (v : α) :
    (m.insert t v).keys = Insert.insert t m.keys := by
  ext u
  rw [Finmap.mem_keys, Finmap.mem_insert, Finset.mem_insert, Finmap.mem_keys]

theorem lookup_insert_eq_ite (m : Bindings α) (t : TaskRef) (v : α) (u : TaskRef) :
    (m.insert t v).lookup u = if u = t then some v else m.lookup u := by
  by_cases hu : u = t
  · rw [if_pos hu, hu, Finmap.lookup_insert]
  · rw [if_neg hu, Finmap.lookup_insert_of_ne m hu]

/-- Binding a new task to the reference that the arena issued keeps map and arena together. -/
theorem Mirrors.insert (mirrors : a.Mirrors m) (sound : a.Sound) (h : a.insert v = (t, a')) :
    a'.Mirrors (m.insert t v) where
  lookup u := by rw [lookup_insert_eq_ite, mirrors.lookup, sound.get?_insert h]
  card := by
    have absent : t ∉ m.keys := mirrors.notMem_keys ((sound.vacant_insert h).get?_eq_none rfl)
    have hlive : a'.live = a.live + 1 := by
      rcases sound.insert_cases h with ⟨_, _, rfl⟩ | ⟨_, _, _, rfl⟩ <;> rfl
    rw [keys_insert, Finset.card_insert_of_notMem absent, mirrors.card, hlive]

theorem Mirrors.remove (mirrors : a.Mirrors m) (t : TaskRef) :
    (a.remove t).2.Mirrors (m.erase t) where
  lookup u := by
    rw [get?_remove]
    by_cases hu : u = t
    · rw [if_pos hu, hu, Finmap.lookup_erase]
    · rw [if_neg hu, Finmap.lookup_erase_ne hu, mirrors.lookup]
  card := by
    rw [Finmap.keys_erase]
    cases h : a.get? t with
    | none =>
      rw [Finset.erase_eq_of_notMem (mirrors.notMem_keys h), mirrors.card, remove_of_get?_none h]
    | some v => rw [Finset.card_erase_of_mem (mirrors.mem_keys h), mirrors.card, remove_of_get? h]

theorem Mirrors.set (mirrors : a.Mirrors m) {old : α} (h : a.get? t = some old) (v : α) :
    (a.set t v).2.Mirrors (m.insert t v) where
  lookup u := by rw [lookup_insert_eq_ite, mirrors.lookup, get?_set h]
  card := by
    rw [keys_insert, Finset.insert_eq_of_mem (mirrors.mem_keys h), mirrors.card, set_of_get? h]

theorem Mirrors.update (mirrors : a.Mirrors m) (t : TaskRef) (f : α → α) :
    (a.update t f).2.Mirrors
      (match m.lookup t with
        | some v => m.insert t (f v)
        | none => m) := by
  rw [mirrors.lookup]
  cases h : a.get? t with
  | none =>
    rw [update_of_get?_none h]
    exact mirrors
  | some v =>
    rw [update_of_get? h]
    exact mirrors.set h (f v)

/-! ### Histories -/

/-- The references issued in a history. -/
def issued (history : List (Step α)) : List TaskRef := history.filterMap Step.issued?

/-- The references whose tasks were removed in a history. -/
def removed (history : List (Step α)) : List TaskRef := history.filterMap Step.removed?

theorem issued_concat (history : List (Step α)) (step : Step α) :
    issued (history ++ [step]) = issued history ++ step.issued?.toList := by
  cases h : step.issued? <;> simp [issued, h]

theorem removed_concat (history : List (Step α)) (step : Step α) :
    removed (history ++ [step]) = removed history ++ step.removed?.toList := by
  cases h : step.removed? <;> simp [removed, h]

/-- The arena is what the history made of an empty one. -/
structure Follows (a : Arena α) (history : List (Step α)) : Prop where
  /-- The arena's past is in the history. -/
  tracks : a.Tracks (issued history) (removed history)
  /-- No reference was issued twice. -/
  nodup : (issued history).Nodup
  /-- The answers are those of a map that agrees with the arena. -/
  served : ∃ m, ServesAll history m ∧ a.Mirrors m

theorem follows_empty : (empty : Arena α).Follows [] where
  tracks := tracks_empty
  nodup := List.nodup_nil
  served := ⟨∅, .nil, fun _ => rfl, rfl⟩

variable {history : List (Step α)}

/-- A step is added to a history if the arena's past grows by what the step issues and removes, and
the map can serve it. -/
theorem Follows.snoc (follows : a.Follows history) (step : Step α)
    (tracks : a'.Tracks (step.issued?.toList ++ issued history)
      (step.removed?.toList ++ removed history))
    (fresh : ∀ t, step.issued? = some t → t ∉ issued history)
    (served : ∀ m, a.Mirrors m → ∃ m', Serves m step m' ∧ a'.Mirrors m') :
    a'.Follows (history ++ [step]) := by
  obtain ⟨m, all, mirrors⟩ := follows.served
  obtain ⟨m', one, mirrors'⟩ := served m mirrors
  refine ⟨?_, ?_, m', all.snoc one, mirrors'⟩
  · -- the step is last in the history, and what it adds to the past comes first
    rw [issued_concat, removed_concat]
    exact tracks.perm List.perm_append_comm List.perm_append_comm
  · rw [issued_concat]
    cases h : step.issued? with
    | none => simpa using follows.nodup
    | some t => exact List.nodup_append_comm.mp (List.nodup_cons.mpr ⟨fresh t h, follows.nodup⟩)

/-- **A step** of an arena is added to its history. -/
theorem Follows.act (follows : a.Follows history) (action : Action α) :
    (a.act action).2.Follows (history ++ [⟨action, (a.act action).1⟩]) := by
  have tracks := follows.tracks
  cases action with
  | insert v =>
    obtain ⟨⟨t, a'⟩, h⟩ : ∃ r, a.insert v = r := ⟨_, rfl⟩
    obtain ⟨fresh, tracks'⟩ := tracks.insert h
    rw [act_insert h]
    refine follows.snoc ⟨.insert v, .issued t⟩ tracks' ?_ fun m mirrors => ?_
    · rintro u ⟨⟩
      exact fresh
    · exact ⟨_, .insert m v t, mirrors.insert tracks.sound h⟩
  | remove t =>
    rw [act_remove]
    refine follows.snoc ⟨.remove t, .value (a.get? t)⟩ ?_ (by rintro _ ⟨⟩) fun m mirrors => ?_
    · cases h : a.get? t with
      | none =>
        rw [remove_of_get?_none h]
        exact tracks
      | some v => exact tracks.remove h
    · rw [← mirrors.lookup]
      exact ⟨_, .remove m t, mirrors.remove t⟩
  | get t =>
    refine follows.snoc ⟨.get t, .value (a.get? t)⟩ tracks (by rintro _ ⟨⟩) fun m mirrors => ?_
    rw [← mirrors.lookup]
    exact ⟨m, .get m t, mirrors⟩
  | update t f =>
    rw [act_update]
    refine follows.snoc ⟨.update t f, .value (a.get? t)⟩ (tracks.update t f) (by rintro _ ⟨⟩)
      fun m mirrors => ?_
    rw [← mirrors.lookup]
    exact ⟨_, .update m t f, mirrors.update t f⟩
  | isLive t =>
    refine follows.snoc ⟨.isLive t, .live (a.isLive t)⟩ tracks (by rintro _ ⟨⟩)
      fun m mirrors => ?_
    rw [isLive, ← mirrors.lookup]
    exact ⟨m, .isLive m t, mirrors⟩
  | length =>
    refine follows.snoc ⟨.length, .length a.live⟩ tracks (by rintro _ ⟨⟩) fun m mirrors => ?_
    rw [← mirrors.card]
    exact ⟨m, .length m, mirrors⟩

/-- **A run** of an arena is added to its history. -/
theorem Follows.run (follows : a.Follows history) (actions : List (Action α)) :
    (a.run actions).2.Follows (history ++ (a.run actions).1) := by
  induction actions generalizing a history with
  | nil => simpa [Arena.run] using follows
  | cons action actions ih =>
    have hrun := ih (follows.act action)
    rw [List.append_assoc] at hrun
    exact hrun

/-- A request for one reference does nothing to another, and neither does issuing one. -/
theorem Sound.get?_act (sound : a.Sound) {action : Action α} (hother : action.task? ≠ some u)
    (hissued : (a.act action).1 ≠ .issued u) : (a.act action).2.get? u = a.get? u := by
  cases action with
  | insert v =>
    obtain ⟨⟨t, a'⟩, h⟩ : ∃ r, a.insert v = r := ⟨_, rfl⟩
    rw [act_insert h] at hissued ⊢
    rw [sound.get?_insert h, if_neg fun hu => hissued (congrArg Answer.issued hu.symm)]
  | remove t =>
    have hu : u ≠ t := fun hu => hother (congrArg some hu.symm)
    rw [act_remove, get?_remove, if_neg hu]
  | update t f =>
    have hu : u ≠ t := fun hu => hother (congrArg some hu.symm)
    rw [act_update, get?_update_of_ne a hu]
  | get | isLive | length => rfl

/-- **An arena is a table whose keys are never used twice.** Let an empty arena be asked anything in
any order, with references that it issued, that are stale or that were never its own, and let fewer
than `2 ^ 64` tasks be removed. Then the answers are those of a finite map that begins empty and in
the end binds every reference to what the arena resolves it to, with as many bindings as the arena
counts tasks. No reference was issued twice, and one whose task was removed does not resolve. A
further request changes the task of no reference but the one it is about or the one it issues.
Generations stay below `2 ^ 64`. -/
theorem servesAll_run {actions : List (Action α)} {history : List (Step α)} {a : Arena α}
    (h : empty.run actions = (history, a)) (few : (removed history).length < Config.sizeLimit) :
    (∃ m, ServesAll history m ∧ (∀ t, m.lookup t = a.get? t) ∧ m.keys.card = a.live) ∧
      (issued history).Nodup ∧
      (∀ t ∈ removed history, a.get? t = none) ∧
      (∀ action u, Action.task? action ≠ some u → (a.act action).1 ≠ .issued u →
        (a.act action).2.get? u = a.get? u) ∧
      ∀ (i : Nat) (slot : Slot α), a.slots[i]? = some slot →
        slot.generation < Config.sizeLimit := by
  have follows : a.Follows history := by
    have hrun := follows_empty.run actions
    rw [h] at hrun
    exact hrun
  have tracks := follows.tracks
  obtain ⟨m, all, mirrors⟩ := follows.served
  refine ⟨⟨m, all, mirrors.lookup, mirrors.card⟩, follows.nodup, fun t ht => ?_,
    fun action u => tracks.sound.get?_act, fun i slot hslot => ?_⟩
  · have hdead : ¬ a.isLive t = true := fun live => (tracks.isLive_iff.mp live).2 ht
    simpa [isLive] using hdead
  · exact Nat.lt_of_le_of_lt (tracks.generation_le i slot hslot) few

/-- A slot that is used three times. Its first reference is asked for again while the later tasks
are in it, and so is a reference to a slot that does not exist. -/
def reusing : List (Action Nat) :=
  [.insert 5, .insert 6, .remove ⟨0, 0⟩, .insert 7, .update ⟨0, 0⟩ (· + 1), .update ⟨0, 1⟩ (· + 1),
    .remove ⟨0, 0⟩, .remove ⟨0, 1⟩, .remove ⟨0, 1⟩, .insert 8, .isLive ⟨0, 1⟩, .get ⟨2, 0⟩, .length]

theorem servesAll_run_reusing :
    ∃ history a, empty.run reusing = (history, a) ∧
      history.map Step.answer = [.issued ⟨0, 0⟩, .issued ⟨1, 0⟩, .value (some 5), .issued ⟨0, 1⟩,
        .value none, .value (some 7), .value none, .value (some 8), .value none, .issued ⟨0, 2⟩,
        .live false, .value none, .length 2] ∧
      (removed history).length < Config.sizeLimit ∧
      (∃ m, ServesAll history m ∧ m.lookup ⟨0, 2⟩ = some 8 ∧ m.keys.card = 2) ∧
      a.get? ⟨0, 0⟩ = none ∧ a.get? ⟨0, 1⟩ = none := by
  have few : (removed (empty.run reusing).1).length < Config.sizeLimit := by decide
  obtain ⟨⟨m, all, hlookup, hcard⟩, -, hgone, -⟩ := servesAll_run rfl few
  exact ⟨_, _, rfl, rfl, few, ⟨m, all, hlookup _, hcard⟩, hgone _ (by decide), hgone _ (by decide)⟩

end Arena

end ByteChannel
