import ByteChannel.Copier.Stock
import ByteChannel.Proofs.Reachable
import ByteChannel.Proofs.Turns

/-!
# Closing is permanent

A closed channel never opens again, takes no further element, and can only become emptier. Once it
is both closed and empty it is *exhausted*, and then nothing comes out of it any more.

These are facts about all that can still happen after a point of a run, and they follow from what
the moves can do: a move never clears the flag, and the one move that adds an element asks for an
open channel. So no operation has to be looked at again, however it ends. What remains is to read
off the results at which point a run is: a close that was answered leaves a closed channel behind,
and a receive is told that the channel is closed by an exhausted one only.

## Main definitions

* `Result.isClosing` — the results of a close that closed the channel
* `Channel.Exhausted` — closed and empty

## Main results

* `Channel.Moves.closed`, `Channel.Moves.exhausted` — what moves preserve
* `Channel.Ring.closed_of_mem`, `Channel.Ring.exhausted_of_mem` — what results tell of the channel
* `Channel.closing_is_permanent` — all of it, for every run and every way it goes on
-/

namespace ByteChannel

/-- Whether a result is that of a close that closed the channel. -/
def Result.isClosing : Result → Bool
  | .closed (.ok _) => true
  | _ => false

namespace Channel

variable {σ : Type} {ch ch' : Channel} {copier : Copier σ}

/-- A channel that is closed and holds no element. -/
structure Exhausted (ch : Channel) : Prop where
  /-- It is closed. -/
  closed_eq : ch.closed = true
  /-- It is empty. -/
  count_eq : ch.count = 0

/-! ### What moves preserve -/

/-- No move opens a closed channel, or adds an element to it. -/
theorem Move.closed (move : Move ch ch') (h : ch.closed = true) :
    ch'.closed = true ∧ ch'.count ≤ ch.count := by
  cases move with
  | overwrite | park => exact ⟨h, Nat.le_refl _⟩
  | push _ isOpen =>
    rw [h] at isOpen
    cases isOpen
  | pop => exact ⟨h, Nat.sub_le _ _⟩
  | empty => exact ⟨h, Nat.zero_le _⟩
  | close => exact ⟨rfl, Nat.le_refl _⟩

theorem Moves.closed (moves : Moves ch ch') (h : ch.closed = true) :
    ch'.closed = true ∧ ch'.count ≤ ch.count := by
  induction moves with
  | refl => exact ⟨h, Nat.le_refl _⟩
  | tail _ move ih =>
    obtain ⟨hclosed, hle⟩ := move.closed ih.1
    exact ⟨hclosed, hle.trans ih.2⟩

theorem Moves.exhausted (moves : Moves ch ch') (h : ch.Exhausted) : ch'.Exhausted := by
  obtain ⟨hclosed, hle⟩ := moves.closed h.closed_eq
  refine ⟨hclosed, ?_⟩
  have hzero := h.count_eq
  omega

/-! ### What results tell of the channel -/

/-- An operation that closes the channel found it open and leaves it closed. -/
theorem closed_of_isClosing {s : σ} {op : Operation}
    (h : (ch.perform copier s op).result.isClosing = true) :
    ch.closed = false ∧ (ch.perform copier s op).channel.closed = true := by
  cases op with
  | close =>
    have exit := close_exit s ch
    simp only [perform] at h ⊢
    generalize ch.close s = r at exit h ⊢
    cases exit with
    | refused => cases h
    | done isOpen => exact ⟨isOpen, rfl⟩
  | send | receive | drain | snapshot | guarded | copy => cases h

/-- A receive that is told the channel is closed found it exhausted. -/
theorem Ring.exhausted_of_received (ring : ch.Ring) {s : σ} {op : Operation} {out : Bytes}
    (h : (ch.perform copier s op).result = .received (.error .closed) out) : ch.Exhausted := by
  cases op with
  | receive target =>
    have exit := ring.receive_exit copier s target
    simp only [perform] at h
    generalize ch.receive copier s target = r at exit h
    cases exit with
    | wrongLength | cutShort | received => cases h
    | empty _ hzero =>
      refine ⟨?_, hzero⟩
      by_contra isOpen
      simp [isOpen] at h
  | send | close | drain | snapshot | guarded | copy => cases h

/-- After a run in which a close was answered, the channel is closed. -/
theorem Ring.closed_of_mem (ring : ch.Ring) {s : σ} {ops : List Operation} {result : Result}
    (hmem : result ∈ (ch.performAll copier s ops).results) (h : result.isClosing = true) :
    (ch.performAll copier s ops).channel.closed = true := by
  induction ops generalizing ch s with
  | nil => cases hmem
  | cons op ops ih =>
    have hring := (ring.moves_perform copier s op).ring ring
    rcases List.mem_cons.mp hmem with rfl | hmem
    · exact ((hring.moves_performAll copier _ ops).closed (closed_of_isClosing h).2).1
    · exact ih hring hmem

/-- After a run in which a receive was told that the channel is closed, it is exhausted. -/
theorem Ring.exhausted_of_mem (ring : ch.Ring) {s : σ} {ops : List Operation} {out : Bytes}
    (hmem : .received (.error .closed) out ∈ (ch.performAll copier s ops).results) :
    (ch.performAll copier s ops).channel.Exhausted := by
  induction ops generalizing ch s with
  | nil => cases hmem
  | cons op ops ih =>
    rcases List.mem_cons.mp hmem with h | hmem
    · exact (ring.moves_performAll copier s (op :: ops)).exhausted
        (ring.exhausted_of_received h.symm)
    · exact ih ((ring.moves_perform copier s op).ring ring) hmem

/-- A channel is closed once at most, and not at all if it is closed already. -/
theorem Ring.countP_isClosing (ring : ch.Ring) (copier : Copier σ) (s : σ) (ops : List Operation) :
    (ch.performAll copier s ops).results.countP Result.isClosing
      ≤ if ch.closed then 0 else 1 := by
  induction ops generalizing ch s with
  | nil => exact Nat.zero_le _
  | cons op ops ih =>
    have moves := ring.moves_perform copier s op
    have hrest := ih (moves.ring ring) (ch.perform copier s op).copier
    rw [performAll, List.countP_cons]
    by_cases h : (ch.perform copier s op).result.isClosing = true
    · obtain ⟨isOpen, hclosed⟩ := closed_of_isClosing h
      rw [hclosed, if_pos rfl] at hrest
      rw [if_pos h, isOpen, if_neg Bool.false_ne_true]
      omega
    · rw [if_neg h, Nat.add_zero]
      refine hrest.trans ?_
      by_cases hclosed : ch.closed = true
      · rw [(moves.closed hclosed).1, hclosed]
      · rw [if_neg hclosed]
        split
        · exact Nat.zero_le 1
        · exact Nat.le_refl 1

/-! ### What closed and exhausted channels do -/

theorem perform_send_of_closed (h : ch.closed = true) (s : σ) {element : Bytes}
    (sized : element.length = ch.elementSize) :
    ch.perform copier s (.send element) = ⟨.sent (.error (.closed element)), ch, s, {}⟩ := by
  simp [perform, send, sized, h]

theorem Exhausted.perform_receive (h : ch.Exhausted) (s : σ) {out : Bytes}
    (sized : out.length = ch.elementSize) :
    ch.perform copier s (.receive out) = ⟨.received (.error .closed) out, ch, s, {}⟩ := by
  simp [perform, receive, sized, h.closed_eq, h.count_eq]

/-- A batch has as many elements as the channel held. -/
theorem DrainExit.length_eq {s : σ} {minimum : Nat} {allocator : Allocator}
    {r : Step σ Empty (Option Batch)} (exit : DrainExit copier s ch minimum allocator r)
    {batch : Batch} (h : r.outcome = .ok (some batch)) : batch.length = ch.count := by
  cases exit with
  | tooFew | noBuffer | unbuffered | cutShort => cases h
  | drained =>
    obtain rfl := Option.some.inj (Outcome.ok.inj h)
    rfl

/-! ### Every run -/

/-- **Closing is permanent.** Let a constructed channel go through any operations, with any copier
and any allocators and however each of the operations ended, and then through any more. At most one
close is answered. If one was answered in the first part, then at the end

* the channel is closed, and holds no more elements than at the end of the first part;
* sending an element of the right size is refused, the element handed back, and changes nothing.

If in the first part a receive was told that the channel is closed, then at the end

* receiving into an output of the right size is told so again;
* no drain yields an element. -/
theorem closing_is_permanent {id : Nat} {config : Config} (created : create id config = .ok ch)
    (copier : Copier σ) (s : σ) (before after : List Operation) {mid late : Run σ}
    (hmid : ch.performAll copier s before = mid)
    (hlate : ch.performAll copier s (before ++ after) = late) :
    late.results.countP Result.isClosing ≤ 1 ∧
    ((∃ released, .closed (.ok released) ∈ mid.results) →
      late.channel.closed = true ∧ late.channel.count ≤ mid.channel.count ∧
      ∀ element, element.length = config.elementSize →
        late.channel.perform copier late.copier (.send element)
          = ⟨.sent (.error (.closed element)), late.channel, late.copier, {}⟩) ∧
    ((∃ out, .received (.error .closed) out ∈ mid.results) →
      (∀ out, out.length = config.elementSize →
        late.channel.perform copier late.copier (.receive out)
          = ⟨.received (.error .closed) out, late.channel, late.copier, {}⟩) ∧
      ∀ minimum allocator batch,
        (late.channel.perform copier late.copier (.drain minimum allocator)).result
          = .drained (.ok (some batch)) → batch.length = 0) := by
  obtain ⟨_, _, rfl⟩ := create_eq_ok_iff.mp created
  have ring := ring_fresh id config
  have first : Moves (fresh id config) mid.channel := by
    rw [← hmid]
    exact ring.moves_performAll copier s before
  have second : Moves mid.channel late.channel := by
    rw [← hlate, performAll_append, hmid]
    exact (first.ring ring).moves_performAll copier mid.copier after
  have hsize : late.channel.elementSize = config.elementSize :=
    elementSize_of_shape_eq (Moves.shape_eq (first.trans second))
  refine ⟨?_, ?_, ?_⟩
  · have h := ring.countP_isClosing copier s (before ++ after)
    rwa [hlate] at h
  · rintro ⟨released, hmem⟩
    have hclosed : mid.channel.closed = true := by
      rw [← hmid] at hmem ⊢
      exact ring.closed_of_mem hmem rfl
    obtain ⟨hstill, hle⟩ := second.closed hclosed
    refine ⟨hstill, hle, fun element sized => ?_⟩
    exact perform_send_of_closed hstill late.copier (sized.trans hsize.symm)
  · rintro ⟨out, hmem⟩
    have hexhausted : mid.channel.Exhausted := by
      rw [← hmid] at hmem ⊢
      exact ring.exhausted_of_mem hmem
    have hstill := second.exhausted hexhausted
    refine ⟨fun out sized => ?_, fun minimum allocator batch h => ?_⟩
    · exact hstill.perform_receive late.copier (sized.trans hsize.symm)
    · have exit := drain_exit copier late.copier late.channel minimum allocator
      rw [exit.length_eq (Result.drained.inj h)]
      exact hstill.count_eq

/-- A channel that is closed with one element left in it, and received from until it says so. Then a
slot is overwritten, a task is parked, and the channel is closed and drained once more: there is a
batch, made from too long a buffer, but no element is in it. -/
theorem closing_is_permanent_exhausted :
    ∃ (before after : List Operation) (mid late : Run Unit) (batch : Batch),
      create 1 ⟨2, 1, 1⟩ = .ok (fresh 1 ⟨2, 1, 1⟩) ∧
      (fresh 1 ⟨2, 1, 1⟩).performAll (Copier.trapping Unit) () before = mid ∧
      (fresh 1 ⟨2, 1, 1⟩).performAll (Copier.trapping Unit) () (before ++ after) = late ∧
      .closed (.ok []) ∈ mid.results ∧ .received (.error .closed) [0] ∈ mid.results ∧
      late.channel.buffer = some [9, 0] ∧ late.channel.closed = true ∧
      late.channel.perform (Copier.trapping Unit) late.copier (.send [8])
        = ⟨.sent (.error (.closed [8])), late.channel, late.copier, {}⟩ ∧
      late.channel.perform (Copier.trapping Unit) late.copier (.receive [0])
        = ⟨.received (.error .closed) [0], late.channel, late.copier, {}⟩ ∧
      (late.channel.perform (Copier.trapping Unit) late.copier
        (.drain 0 (Allocator.long 1 0xee))).result = .drained (.ok (some batch)) ∧
      batch.bytes = [0xee] ∧ batch.length = 0 := by
  have created : create 1 ⟨2, 1, 1⟩ = .ok (fresh 1 ⟨2, 1, 1⟩) := by decide
  obtain ⟨-, hclosed, hexhausted⟩ :=
    closing_is_permanent created (Copier.trapping Unit) ()
      [.send [7], .close, .send [0xff], .receive [0], .receive [0]]
      [.guarded [.setSlot 0 [9], .receivers (.push ⟨⟨0, 0⟩, none⟩)], .close,
        .drain 0 Allocator.heap] rfl rfl
  obtain ⟨hflag, -, hsend⟩ := hclosed ⟨[], by decide⟩
  obtain ⟨hreceive, hdrain⟩ := hexhausted ⟨[0], by decide⟩
  exact ⟨_, _, _, _, ⟨[0xee], 1, 0⟩, created, rfl, rfl, by decide, by decide, by decide, hflag,
    hsend [8] rfl, hreceive [0] rfl, by decide, rfl, hdrain 0 (Allocator.long 1 0xee) _ (by decide)⟩

end Channel

end ByteChannel
