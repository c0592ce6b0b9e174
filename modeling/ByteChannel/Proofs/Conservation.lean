import ByteChannel.Copier.Stock
import ByteChannel.Proofs.Copying
import ByteChannel.Proofs.Reachable
import Mathlib.Data.List.Infix

/-!
# No element is lost, repeated or reordered

Any number of clients work on one channel, and all that is known of their schedule is that their
operations come one after the other. The copier copies exactly or faults, as it pleases at each
call, and may have written anything by the time it faults. Allocators give what they give.

Against this the books balance after every step: the elements that were accepted are those that were
taken, in the same order, followed by those the channel holds. An operation that refused or was cut
short appears on neither side.

The law is proved of a single operation, in the form `held ++ in = out ++ held'`, and added up over
a run. Everything else is read off the sum: what was taken is the beginning of what was accepted, a
batch is a piece of it, and the elements of one client keep their order because all of them do.

## Main definitions

* `Operation.keepsSlots` — the operations that move whole elements only
* `Operation.accepted`, `Result.taken` — what one operation puts in and takes out
* `accepted`, `taken` — the same of a whole schedule
* `delivered` — what was taken, with the clients it is from

## Main results

* `Channel.Ring.conserves` — the books of one operation
* `Channel.accepted_eq_taken_append_elements` — the books of every schedule
-/

namespace ByteChannel

/-- Whether an action leaves the bytes of all slots alone. -/
def Channel.Action.keepsSlots : Channel.Action → Bool
  | .setSlot .. => false
  | _ => true

/-- Whether an operation never writes into a slot but to send an element. Only guarded sections
can. -/
def Operation.keepsSlots : Operation → Bool
  | .guarded actions => actions.all Channel.Action.keepsSlots
  | _ => true

/-- The element an operation put into the channel, if it is a send that succeeded. -/
def Operation.accepted : Operation → Result → List Bytes
  | .send element, .sent (.ok ()) => [element]
  | _, _ => []

/-- The elements an operation took out of the channel and answered with. -/
def Result.taken : Result → List Bytes
  | .received (.ok ()) out => [out]
  | .drained (.ok (some batch)) =>
    match batch.items with
    | .ok items => items
    | .error _ => []
  | _ => []

/-- The elements accepted in the course of a schedule, each with the client that sent it. -/
def accepted {ι : Type} (schedule : List (ι × Operation)) (results : List Result) :
    List (ι × Bytes) :=
  (schedule.zip results).flatMap fun step =>
    (step.1.2.accepted step.2).map fun element => (step.1.1, element)

/-- The elements taken in the course of a run. -/
def taken (results : List Result) : List Bytes :=
  results.flatMap Result.taken

/-- The elements taken in the course of a schedule, each with the client whose element is due: what
is taken first is put down to the client whose element was accepted first, and so on. -/
def delivered {ι : Type} (schedule : List (ι × Operation)) (results : List Result) :
    List (ι × Bytes) :=
  ((accepted schedule results).map Prod.fst).zip (taken results)

/-- The copier that faults on some elements copies all others exactly. -/
theorem Copier.trapping_yields (σ : Type) (size : Nat) :
    (trapping σ).Yields size fun e => e := by
  intro s target source ht hs h
  simp only [trapping] at h ⊢
  split at h
  · cases h
  · rename_i hplain
    rw [if_neg hplain]
    exact congrArg Copied.target (plain_ok s ⟨size, target, source⟩ ht hs)

namespace Channel

variable {σ : Type} {ch : Channel} {copier : Copier σ} {s : σ}

/-! ### The books of one operation -/

theorem elements_act {acted : Acted} {action : Action} (h : ch.act action = .ok acted)
    (keeps : action.keepsSlots = true) : acted.channel.elements = ch.elements := by
  cases action with
  | look =>
    obtain rfl := Except.ok.inj h
    rfl
  | slot i =>
    obtain ⟨_, _, rfl⟩ := exists_of_map_eq_ok h
    rfl
  | slots =>
    obtain ⟨_, _, rfl⟩ := exists_of_map_eq_ok h
    rfl
  | setSlot i bytes => cases keeps
  | senders action =>
    obtain rfl := Except.ok.inj h
    rfl
  | receivers action =>
    obtain rfl := Except.ok.inj h
    rfl

theorem elements_guarded {actions : List Action}
    (keeps : ∀ action ∈ actions, action.keepsSlots = true) :
    (ch.guarded actions).channel.elements = ch.elements := by
  induction actions generalizing ch with
  | nil => rfl
  | cons action actions ih =>
    rw [guarded]
    cases h : ch.act action with
    | error fault => rfl
    | ok acted =>
      have hfirst := elements_act h (keeps action List.mem_cons_self)
      have hrest : (acted.channel.guarded actions).channel.elements = acted.channel.elements :=
        ih fun a ha => keeps a (List.mem_cons_of_mem action ha)
      exact hrest.trans hfirst

theorem SendExit.conserves {element : Bytes} {r : Step σ SendError Unit}
    (exit : SendExit copier s ch element r) (ring : ch.Ring)
    (exact_copy : copier.Yields ch.elementSize fun e => e) :
    ch.elements ++ (Operation.send element).accepted (.sent r.outcome)
      = (Result.sent r.outcome).taken ++ r.channel.elements := by
  cases exit with
  | wrongLength | closed | full => exact List.append_nil _
  | cutShort _ _ room fault h =>
    have hsized := ring.length_target_sendCall room copier s element
    have hkept := ring.elements_setSlot_sendIndex room hsized
    exact (List.append_nil _).trans hkept.symm
  | sent sized _ room h =>
    rw [ring.target_sendCall exact_copy room sized h]
    exact (ring.elements_pushed room sized).symm

theorem ReceiveExit.conserves {out : Bytes} {r : Received σ}
    (exit : ReceiveExit copier s ch out r) (ring : ch.Ring)
    (exact_copy : copier.Yields ch.elementSize fun e => e) :
    ch.elements ++ (Operation.receive out).accepted (.received r.outcome r.out)
      = (Result.received r.outcome r.out).taken ++ r.channel.elements := by
  cases exit with
  | wrongLength | empty | cutShort => exact List.append_nil _
  | received sized some_left h =>
    rw [ring.target_receiveCall exact_copy some_left sized h]
    exact (List.append_nil _).trans (ring.elements_eq_cons some_left)

theorem CloseExit.conserves {r : Step σ CloseError (List Waiter)} (exit : CloseExit s ch r) :
    r.channel.elements = ch.elements := by
  cases exit <;> rfl

/-- A batch that was answered can be read. -/
theorem DrainExit.items_eq {minimum : Nat} {allocator : Allocator}
    {r : Step σ Empty (Option Batch)} (exit : DrainExit copier s ch minimum allocator r)
    (ring : ch.Ring) (exact_copy : copier.Yields ch.elementSize fun e => e) {batch : Batch}
    (h : r.outcome = .ok (some batch)) : batch.items = .ok ch.elements := by
  cases exit with
  | tooFew | noBuffer | unbuffered | cutShort => cases h
  | drained _ bytes _ buffered hfault =>
    obtain rfl := Option.some.inj (Outcome.ok.inj h)
    rw [ring.items_drained exact_copy buffered hfault, List.map_id']

theorem DrainExit.conserves {minimum : Nat} {allocator : Allocator}
    {r : Step σ Empty (Option Batch)} (exit : DrainExit copier s ch minimum allocator r)
    (ring : ch.Ring) (exact_copy : copier.Yields ch.elementSize fun e => e) :
    ch.elements ++ (Operation.drain minimum allocator).accepted (.drained r.outcome)
      = (Result.drained r.outcome).taken ++ r.channel.elements := by
  have hitems : ∀ batch, r.outcome = .ok (some batch) → batch.items = .ok ch.elements :=
    fun _ h => exit.items_eq ring exact_copy h
  cases exit with
  | tooFew | noBuffer | unbuffered | cutShort => exact List.append_nil _
  | drained =>
    simp only [Result.taken, hitems _ rfl, Operation.accepted, elements_emptied]

/-- **The books of one operation.** What the channel held and what was put in is what was taken out
and what it holds now. -/
theorem Ring.conserves (ring : ch.Ring) (exact_copy : copier.Yields ch.elementSize fun e => e)
    (s : σ) (op : Operation) (keeps : op.keepsSlots = true) :
    ch.elements ++ op.accepted (ch.perform copier s op).result
      = (ch.perform copier s op).result.taken ++ (ch.perform copier s op).channel.elements := by
  cases op with
  | send element => exact (ring.send_exit copier s element).conserves ring exact_copy
  | receive out => exact (ring.receive_exit copier s out).conserves ring exact_copy
  | close => exact (List.append_nil _).trans (close_exit s ch).conserves.symm
  | drain minimum allocator =>
    exact (drain_exit copier s ch minimum allocator).conserves ring exact_copy
  | snapshot tag => exact List.append_nil _
  | guarded actions =>
    have hkept : (ch.guarded actions).channel.elements = ch.elements :=
      elements_guarded (List.all_eq_true.mp keeps)
    exact (List.append_nil _).trans hkept.symm
  | copy call => exact List.append_nil _

/-! ### The books of a schedule -/

/-- The books of a whole schedule, the single ones added up. -/
theorem Ring.conserves_all {ι : Type} (ring : ch.Ring)
    (exact_copy : copier.Yields ch.elementSize fun e => e) (s : σ)
    (schedule : List (ι × Operation)) (keeps : ∀ step ∈ schedule, step.2.keepsSlots = true) :
    ch.elements ++ (accepted schedule
        (ch.performAll copier s (schedule.map Prod.snd)).results).map Prod.snd
      = taken (ch.performAll copier s (schedule.map Prod.snd)).results
        ++ (ch.performAll copier s (schedule.map Prod.snd)).channel.elements := by
  induction schedule generalizing ch s with
  | nil => exact List.append_nil _
  | cons step schedule ih =>
    have hfirst := ring.conserves exact_copy s step.2 (keeps step List.mem_cons_self)
    have moves := ring.moves_perform copier s step.2
    rw [← elementSize_of_shape_eq moves.shape_eq] at exact_copy
    have hrest := ih (moves.ring ring) exact_copy (ch.perform copier s step.2).copier
      fun later h => keeps later (List.mem_cons_of_mem step h)
    have hsplit : ∀ (result : Result) (results : List Result),
        (accepted (step :: schedule) (result :: results)).map Prod.snd
          = step.2.accepted result ++ (accepted schedule results).map Prod.snd := by
      intro result results
      simp [accepted, List.map_map, Function.comp_def]
    simp only [List.map_cons, performAll, hsplit, taken, List.flatMap_cons, List.append_assoc]
    rw [← List.append_assoc, hfirst, List.append_assoc, hrest, taken]

/-- Every batch of a run can be read. -/
theorem Ring.exists_items (ring : ch.Ring) (exact_copy : copier.Yields ch.elementSize fun e => e)
    (s : σ) (ops : List Operation) {batch : Batch}
    (h : .drained (.ok (some batch)) ∈ (ch.performAll copier s ops).results) :
    ∃ items, batch.items = .ok items := by
  induction ops generalizing ch s with
  | nil => cases h
  | cons op ops ih =>
    have moves := ring.moves_perform copier s op
    rcases List.mem_cons.mp h with h | h
    · cases op with
      | drain minimum allocator =>
        have exit := drain_exit copier s ch minimum allocator
        exact ⟨_, exit.items_eq ring exact_copy (Result.drained.inj h).symm⟩
      | send | receive | close | snapshot | guarded | copy => cases h
    · rw [← elementSize_of_shape_eq moves.shape_eq] at exact_copy
      exact ih (moves.ring ring) exact_copy _ h

/-- What one operation took lies in one piece in what all of them took. -/
theorem taken_infix {result : Result} {results : List Result} (h : result ∈ results) :
    result.taken <:+: taken results := by
  rw [taken, List.flatMap_def]
  exact List.infix_of_mem_flatten (List.mem_map_of_mem h)

/-- Labels put in front of the first elements of a list that has labels are the labels they have. -/
theorem zip_map_fst_of_map_snd {ι α : Type} {l : List (ι × α)} {first rest : List α}
    (h : l.map Prod.snd = first ++ rest) :
    (l.map Prod.fst).zip first = l.take first.length := by
  induction first generalizing l with
  | nil => simp
  | cons a first ih =>
    obtain ⟨p, l, rfl, rfl, htail⟩ := List.map_eq_cons_iff.mp h
    simp [ih htail]

/-- **No element is lost, repeated or reordered.** After every schedule of any clients, with a
copier that copies exactly or faults:

* what was accepted is what was taken, followed by what the channel holds;
* so each delivery is that of an accepted element, the `n`-th one of the `n`-th, and none is
  delivered twice;
* every batch can be read, and is one piece of what was accepted;
* every element that was taken is that of the client whose turn it was, and what was delivered of a
  client's elements is the beginning of what it sent, in the order it sent them. -/
theorem accepted_eq_taken_append_elements {ι : Type} [DecidableEq ι] {id : Nat} {config : Config}
    (created : create id config = .ok ch)
    (exact_copy : copier.Yields config.elementSize fun e => e) (s : σ)
    (schedule : List (ι × Operation)) (keeps : ∀ step ∈ schedule, step.2.keepsSlots = true)
    {run : Run σ} (ran : ch.performAll copier s (schedule.map Prod.snd) = run) :
    run.channel.content = .ok run.channel.elements ∧
      (accepted schedule run.results).map Prod.snd = taken run.results ++ run.channel.elements ∧
      ((accepted schedule run.results).take (taken run.results).length).map Prod.snd
        = taken run.results ∧
      (∀ batch, .drained (.ok (some batch)) ∈ run.results →
        ∃ items, batch.items = .ok items ∧
          items <:+: (accepted schedule run.results).map Prod.snd) ∧
      (delivered schedule run.results).map Prod.snd = taken run.results ∧
      ∀ client,
        (delivered schedule run.results).filter (·.1 = client)
          <+: (accepted schedule run.results).filter (·.1 = client) := by
  obtain ⟨_, _, rfl⟩ := create_eq_ok_iff.mp created
  have ring := ring_fresh id config
  have hfinal : run.channel.Ring := by
    rw [← ran]
    exact (ring.moves_performAll copier s _).ring ring
  have hbooks : (accepted schedule run.results).map Prod.snd
      = taken run.results ++ run.channel.elements := by
    have h := ring.conserves_all exact_copy s schedule keeps
    rwa [elements_fresh, List.nil_append, ran] at h
  have hdelivered : delivered schedule run.results
      = (accepted schedule run.results).take (taken run.results).length :=
    zip_map_fst_of_map_snd hbooks
  have hfirst : ((accepted schedule run.results).take (taken run.results).length).map Prod.snd
      = taken run.results := by
    rw [List.map_take, hbooks, List.take_left]
  refine ⟨hfinal.content_eq, hbooks, hfirst, ?_, by rw [hdelivered, hfirst], ?_⟩
  · intro batch hbatch
    obtain ⟨items, hitems⟩ : ∃ items, batch.items = .ok items := by
      rw [← ran] at hbatch
      exact ring.exists_items exact_copy s _ hbatch
    have hpiece : items <:+: taken run.results := by
      have h := taken_infix hbatch
      rwa [Result.taken, hitems] at h
    refine ⟨items, hitems, ?_⟩
    rw [hbooks]
    exact hpiece.trans (List.prefix_append _ _).isInfix
  · intro client
    rw [hdelivered]
    exact (List.take_prefix _ _).filter _

/-- Two clients on two slots. A send is cut short, a drain gets too short a buffer and another one
too long a buffer, and a send comes after the channel was closed. -/
theorem accepted_eq_taken_append_elements_two_clients :
    ∃ (schedule : List (Nat × Operation)) (run : Run Unit),
      create 1 ⟨2, 1, 1⟩ = .ok (fresh 1 ⟨2, 1, 1⟩) ∧
      (Copier.trapping Unit).Yields 1 (fun e => e) ∧
      (∀ step ∈ schedule, step.2.keepsSlots = true) ∧
      (fresh 1 ⟨2, 1, 1⟩).performAll (Copier.trapping Unit) () (schedule.map Prod.snd) = run ∧
      (accepted schedule run.results).map Prod.snd = taken run.results ++ run.channel.elements ∧
      accepted schedule run.results = [(0, [1]), (1, [2]), (0, [3]), (0, [4])] ∧
      delivered schedule run.results = [(0, [1]), (1, [2]), (0, [3])] ∧
      taken run.results = [[1], [2], [3]] ∧ run.channel.elements = [[4]] :=
  ⟨[(0, .send [1]), (1, .send [0xff]), (1, .send [2]), (1, .receive [0]), (0, .send [3]),
      (0, .drain 1 Allocator.short), (1, .drain 2 (Allocator.long 3 0xee)), (0, .send [4]),
      (1, .close), (0, .send [5])],
    _, by decide, Copier.trapping_yields Unit 1, by decide, rfl,
    (accepted_eq_taken_append_elements (by decide : create 1 ⟨2, 1, 1⟩ = _)
      (Copier.trapping_yields Unit 1) () _ (by decide) rfl).2.1,
    by decide, by decide, by decide, by decide⟩

end Channel

end ByteChannel
