import ByteChannel.Channel.Operation

/-!
# Runs turn by turn

`Channel.performAll` gives the results of a run and the channel at its end. What happens in between
is wanted too: which channel an operation found, and which one it left behind. A *turn* is one
operation of a run with both of these, and `Channel.turns` lists the turns of a run in order.

A run that goes on is one run: the turns, results and final state of `ops ++ more` are those of
`ops` followed by those of `more` from where `ops` ended.

Operations are of three kinds that do not overlap. Some are about the elements, some are about
parked tasks, and closing is about both.

## Main definitions

* `Operation.isTraffic`, `Operation.isParking` — the two kinds besides closing
* `Channel.Turn`, `Channel.turns`

## Main results

* `Channel.performAll_append`, `Channel.turns_append` — a run that goes on
-/

namespace ByteChannel

/-! ### Kinds of operations -/

/-- Whether an operation is about the elements: it moves some, or tells how many there are and
where. -/
def Operation.isTraffic : Operation → Bool
  | .send _ | .receive _ | .drain .. | .snapshot _ => true
  | .close | .guarded _ | .copy _ => false

/-- Whether an action is about parked tasks. -/
def Channel.Action.isParking : Channel.Action → Bool
  | .senders _ | .receivers _ => true
  | .look | .slot _ | .slots | .setSlot .. => false

/-- Whether an operation is about parked tasks: a guarded section that does nothing else. -/
def Operation.isParking : Operation → Bool
  | .guarded actions => actions.all Channel.Action.isParking
  | _ => false

namespace Effects

theorem append_assoc (a b c : Effects) : a ++ b ++ c = a ++ (b ++ c) := by
  change append (append a b) c = append a (append b c)
  simp only [append, List.append_assoc]

end Effects

namespace Channel

variable {σ : Type}

/-! ### Turns -/

/-- One operation of a run. -/
structure Turn (σ : Type) where
  /-- The operation. -/
  operation : Operation
  /-- The channel it found. -/
  before : Channel
  /-- What it left behind. -/
  done : Performed σ

/-- The turns of a run. -/
def turns (copier : Copier σ) (s : σ) (ch : Channel) : List Operation → List (Turn σ)
  | [] => []
  | op :: ops =>
    let done := ch.perform copier s op
    ⟨op, ch, done⟩ :: done.channel.turns copier done.copier ops

/-! ### Runs that go on -/

theorem performAll_append (copier : Copier σ) (s : σ) (ch : Channel) (ops more : List Operation) :
    ch.performAll copier s (ops ++ more) =
      let first := ch.performAll copier s ops
      let rest := first.channel.performAll copier first.copier more
      ⟨first.results ++ rest.results, rest.channel, rest.copier,
        first.effects ++ rest.effects⟩ := by
  induction ops generalizing ch s with
  | nil => rfl
  | cons op ops ih =>
    rw [List.cons_append, performAll, ih]
    simp only [performAll, List.cons_append, Effects.append_assoc]

theorem turns_append (copier : Copier σ) (s : σ) (ch : Channel) (ops more : List Operation) :
    ch.turns copier s (ops ++ more) =
      let first := ch.performAll copier s ops
      ch.turns copier s ops ++ first.channel.turns copier first.copier more := by
  induction ops generalizing ch s with
  | nil => rfl
  | cons op ops ih =>
    rw [List.cons_append, turns, ih]
    simp only [turns, performAll, List.cons_append]

end Channel

end ByteChannel
