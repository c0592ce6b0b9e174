/-!
# Task references and arenas

An *arena* registers tasks and issues a reference for each. A reference names a slot and the slot's
*generation* at the time. Slots are used again after their task is removed, but removal advances the
generation, so an old reference never resolves to the slot's next task.

Free slots are kept on a stack: the slot freed last is used first.

All requests are put into one type, so that one can speak of sequences of them. A *history* lists
what was asked and what was answered.

## Main definitions

* `TaskRef`, `Arena`
* `Arena.insert`, `Arena.remove`, `Arena.get?`, `Arena.set`, `Arena.update`, `Arena.isLive`
* `Arena.Action`, `Arena.Answer`, `Arena.act` — requests and their answers
* `Arena.run` — one request after the other, with their history
-/

namespace ByteChannel

/-- A reference to a task: a slot of an arena and the slot's generation. -/
structure TaskRef where
  /-- The slot. -/
  index : Nat
  /-- How many tasks had left the slot when the reference was issued. -/
  generation : Nat
  deriving DecidableEq, Repr

namespace TaskRef

/-- The diagnostic text of a reference. -/
def describe (t : TaskRef) : String :=
  s!"TaskRef \x7b index: {t.index}, generation: {t.generation} \x7d"

end TaskRef

namespace Arena

/-- A place for one task. -/
structure Slot (α : Type) where
  /-- How many tasks have left it. -/
  generation : Nat
  /-- The task in it, if there is one. -/
  value : Option α
  deriving DecidableEq, Repr

end Arena

/-- A register of tasks. -/
structure Arena (α : Type) where
  /-- All slots ever used. -/
  slots : List (Arena.Slot α)
  /-- The slots without a task, the one freed last first. -/
  free : List Nat
  /-- How many tasks are registered. -/
  live : Nat
  deriving DecidableEq, Repr

namespace Arena

variable {α : Type}

/-- The arena without tasks. -/
def empty : Arena α := ⟨[], [], 0⟩

/-- The task that a reference names, unless it has been removed. -/
def get? (a : Arena α) (t : TaskRef) : Option α :=
  match a.slots[t.index]? with
  | some slot => if slot.generation = t.generation then slot.value else none
  | none => none

/-- Whether a reference names a registered task. -/
def isLive (a : Arena α) (t : TaskRef) : Bool :=
  (a.get? t).isSome

/-- The generation of a slot. -/
def generationAt (a : Arena α) (i : Nat) : Nat :=
  (a.slots[i]?.map (·.generation)).getD 0

/-- Register a task, in the slot freed last if there is one. -/
def insert (a : Arena α) (v : α) : TaskRef × Arena α :=
  match a.free with
  | i :: free =>
    (⟨i, a.generationAt i⟩,
      ⟨a.slots.modify i fun slot => { slot with value := some v }, free, a.live + 1⟩)
  | [] => (⟨a.slots.length, 0⟩, ⟨a.slots ++ [⟨0, some v⟩], [], a.live + 1⟩)

/-- Take a task out, which ends the validity of its reference. -/
def remove (a : Arena α) (t : TaskRef) : Option α × Arena α :=
  match a.get? t with
  | some v =>
    (some v, ⟨a.slots.set t.index ⟨t.generation + 1, none⟩, t.index :: a.free, a.live - 1⟩)
  | none => (none, a)

/-- Replace a registered task, and answer the one that was there. -/
def set (a : Arena α) (t : TaskRef) (v : α) : Option α × Arena α :=
  match a.get? t with
  | some old => (some old, { a with slots := a.slots.set t.index ⟨t.generation, some v⟩ })
  | none => (none, a)

/-- Change a registered task in place, and answer it as it was. Whoever has got hold of the task may
change it at will; `f` says what becomes of it. -/
def update (a : Arena α) (t : TaskRef) (f : α → α) : Option α × Arena α :=
  match a.get? t with
  | some v => a.set t (f v)
  | none => (none, a)

/-- The diagnostic text of an arena, given that of its tasks. -/
def describe (show? : α → String) (a : Arena α) : String :=
  let slot (s : Slot α) : String :=
    let value := match s.value with
      | some v => s!"Some({show? v})"
      | none => "None"
    s!"ArenaSlot \x7b generation: {s.generation}, value: {value} \x7d"
  let slots := ", ".intercalate (a.slots.map slot)
  let free := ", ".intercalate (a.free.reverse.map toString)
  s!"TaskArena \x7b slots: [{slots}], free: [{free}], live: {a.live} \x7d"

/-! ### Requests -/

/-- Something to do with an arena. -/
inductive Action (α : Type) where
  | insert (v : α)
  | remove (t : TaskRef)
  | get (t : TaskRef)
  | update (t : TaskRef) (f : α → α)
  | isLive (t : TaskRef)
  | length

/-- The answer to an action on an arena. -/
inductive Answer (α : Type) where
  /-- The reference of a new task. -/
  | issued (t : TaskRef)
  /-- A task, or none. -/
  | value (v : Option α)
  /-- Whether there is a task. -/
  | live (b : Bool)
  /-- How many tasks there are. -/
  | length (n : Nat)
  deriving DecidableEq

/-- Do something with an arena. -/
def act (a : Arena α) : Action α → Answer α × Arena α
  | .insert v =>
    let (t, a) := a.insert v
    (.issued t, a)
  | .remove t =>
    let (v, a) := a.remove t
    (.value v, a)
  | .get t => (.value (a.get? t), a)
  | .update t f =>
    let (v, a) := a.update t f
    (.value v, a)
  | .isLive t => (.live (a.isLive t), a)
  | .length => (.length a.live, a)

/-- One line of a history. -/
structure Step (α : Type) where
  /-- What was asked. -/
  action : Action α
  /-- What was answered. -/
  answer : Answer α

/-- Do one thing after the other, and write the history. -/
def run (a : Arena α) : List (Action α) → List (Step α) × Arena α
  | [] => ([], a)
  | action :: actions =>
    let (answer, a) := a.act action
    let (history, a) := a.run actions
    (⟨action, answer⟩ :: history, a)

end Arena

end ByteChannel
