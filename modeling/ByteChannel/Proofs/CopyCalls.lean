import ByteChannel.Proofs.Checked

/-!
# What is asked of a copier

A copier is foreign code, and it is told that it will be handed strings of exactly the element size.
Nothing in a channel checks this before a call: it holds because the buffer, the slots, the lengths
that sending and receiving insist on and the pieces a drain cuts its buffer into all agree. This
module says so of every request of every operation, also of those that are cut short, and says which
requests there are.

An operation lists its requests among its effects. That these are the ones the copier gets is seen
by letting the copier itself write them down (`Copier.recording`): it answers as before, so
everything goes as before, and at the end of a run it has written down just what the run lists.

The requests of a drain are the ones that need an argument. They are made one after the other on a
buffer that the copier has been writing into, yet each is shown the bytes the allocator gave, since
what was written before lies in other places. `Channel.drainCalls` lists them in terms of that first
buffer; the loop makes a beginning of the list, and all of it unless it is cut short.

A copier with a state can count its calls. Over a run without faults it counts the elements that
moved: one for each that was sent, and one for each that was received or drained.

## Main definitions

* `CopyCall.Fits` — a request between strings of the element size
* `Copier.recording` — a copier that keeps a record of its requests
* `Channel.drainCalls` — the requests of a drain
* `Result.isSent`, `Result.takenCount`, `Result.movedCount` — the elements that an operation moved

## Main results

* `Channel.performAll_recording` — the requests that a run lists are those the copier gets
* `Channel.Ring.calls_copyOut` — the requests of a drain's loop
* `Channel.Ring.fits_performAll`, `Channel.Ring.length_calls_performAll` — the requests of a run
* `Channel.Reachable.calls_of_operations` — all of it
-/

namespace ByteChannel

/-- A request that suits elements of `size` bytes: it says so, and its strings have that length. -/
structure CopyCall.Fits (size : Nat) (call : CopyCall) : Prop where
  /-- It names the size. -/
  size_eq : call.size = size
  /-- The destination has the size. -/
  length_target : call.target.length = size
  /-- So has the source. -/
  length_source : call.source.length = size

/-- Whether a result is that of a send that succeeded. -/
def Result.isSent : Result → Bool
  | .sent (.ok ()) => true
  | _ => false

/-- How many elements an operation took out of the channel. -/
def Result.takenCount : Result → Nat
  | .received (.ok ()) _ => 1
  | .drained (.ok (some batch)) => batch.length
  | _ => 0

/-- How many elements an operation moved, into the channel or out of it. -/
def Result.movedCount (result : Result) : Nat :=
  (if result.isSent then 1 else 0) + result.takenCount

/-- The same copier, with a list of all requests it was given beside its state. -/
def Copier.recording {σ : Type} (copier : Copier σ) : Copier (σ × List CopyCall) where
  copy s call :=
    let copied := copier.copy s.1 call
    ⟨(copied.state, s.2 ++ [call]), copied.target, copied.fault⟩
  length_target s call := copier.length_target s.1 call

/-- A piece of full size ends inside the string. -/
theorem Bytes.place_end_le_of_length_window {b : Bytes} {j size : Nat}
    (h : (b.window (j * size) size).length = size) : j * size + size ≤ b.length := by
  rw [length_window] at h
  rcases Nat.eq_zero_or_pos size with rfl | hpos
  · simp
  · omega

namespace Channel

variable {σ : Type} {ch : Channel} {copier : Copier σ} {s : σ}

/-! ### A copier that keeps a record -/

theorem copy_recording (copier : Copier σ) (s : σ) (earlier : List CopyCall) (call : CopyCall) :
    copier.recording.copy (s, earlier) call =
      ⟨((copier.copy s call).state, earlier ++ [call]), (copier.copy s call).target,
        (copier.copy s call).fault⟩ := rfl

theorem copyOut_recording (copier : Copier σ) (ch : Channel) (is : List Nat) (j : Nat) (s : σ)
    (earlier : List CopyCall) (bytes : Bytes) :
    ch.copyOut copier.recording is j (s, earlier) bytes =
      let out := ch.copyOut copier is j s bytes
      ⟨out.bytes, (out.copier, earlier ++ out.calls), out.calls, out.fault⟩ := by
  induction is generalizing j s earlier bytes with
  | nil => simp [copyOut]
  | cons i is ih =>
    simp only [copyOut]
    split
    · simp
    · simp
    · simp only [copy_recording]
      split
      · rfl
      · simp [ih]

theorem send_recording (copier : Copier σ) (ch : Channel) (s : σ) (earlier : List CopyCall)
    (element : Bytes) :
    ch.send copier.recording (s, earlier) element =
      let r := ch.send copier s element
      ⟨r.outcome, r.channel, (r.copier, earlier ++ r.effects.calls), r.effects⟩ := by
  simp only [send, copy_recording]
  split
  · simp
  split
  · simp
  split
  · simp
  split
  · simp
  split
  · rfl
  · rfl

theorem receive_recording (copier : Copier σ) (ch : Channel) (s : σ) (earlier : List CopyCall)
    (out : Bytes) :
    ch.receive copier.recording (s, earlier) out =
      let r := ch.receive copier s out
      ⟨⟨r.outcome, r.channel, (r.copier, earlier ++ r.effects.calls), r.effects⟩, r.out⟩ := by
  simp only [receive, copy_recording]
  split
  · simp
  split
  · simp
  split
  · simp
  split
  · rfl
  · rfl

theorem drain_recording (copier : Copier σ) (ch : Channel) (s : σ) (earlier : List CopyCall)
    (minimum : Nat) (allocator : Allocator) :
    ch.drain copier.recording (s, earlier) minimum allocator =
      let r := ch.drain copier s minimum allocator
      ⟨r.outcome, r.channel, (r.copier, earlier ++ r.effects.calls), r.effects⟩ := by
  simp only [drain, copyOut_recording]
  split
  · simp
  split
  · simp
  split
  · simp
  split
  · rfl
  · rfl

theorem close_recording (ch : Channel) (s : σ) (earlier : List CopyCall) :
    ch.close (s, earlier) =
      let r := ch.close s
      ⟨r.outcome, r.channel, (r.copier, earlier ++ r.effects.calls), r.effects⟩ := by
  simp only [close]
  split <;> simp

/-- One operation: the copier has written down the requests that the operation lists. -/
theorem perform_recording (copier : Copier σ) (ch : Channel) (s : σ) (earlier : List CopyCall)
    (op : Operation) :
    ch.perform copier.recording (s, earlier) op =
      let done := ch.perform copier s op
      ⟨done.result, done.channel, (done.copier, earlier ++ done.effects.calls), done.effects⟩ := by
  cases op with
  | send element => simp only [perform, send_recording]
  | receive out => simp only [perform, receive_recording]
  | close => simp only [perform, close_recording]
  | drain minimum allocator => simp only [perform, drain_recording]
  | snapshot tag => simp [perform]
  | guarded actions => simp [perform]
  | copy call => simp only [perform, copy_recording]

/-- **A run with a recording copier.** It goes as it goes without the record, and at its end the
record has grown by exactly the requests that the run lists. -/
theorem performAll_recording (copier : Copier σ) (ch : Channel) (s : σ) (earlier : List CopyCall)
    (ops : List Operation) :
    ch.performAll copier.recording (s, earlier) ops =
      let run := ch.performAll copier s ops
      ⟨run.results, run.channel, (run.copier, earlier ++ run.effects.calls), run.effects⟩ := by
  induction ops generalizing ch s earlier with
  | nil => simp [performAll]
  | cons op ops ih =>
    have hcalls (first rest : Effects) : (first ++ rest).calls = first.calls ++ rest.calls := rfl
    simp only [performAll, perform_recording, ih, hcalls, List.append_assoc]

/-! ### The loop of a drain -/

/-- The requests for copying the given slots into a buffer, as its elements number `j` and on. All
of them show the buffer as it is before the first. -/
def drainCalls (ch : Channel) (bytes : Bytes) (is : List Nat) (j : Nat) : List CopyCall :=
  (is.zipIdx j).map fun p => ch.drainCall p.1 p.2 bytes

theorem drainCalls_cons (ch : Channel) (bytes : Bytes) (i : Nat) (is : List Nat) (j : Nat) :
    ch.drainCalls bytes (i :: is) j = ch.drainCall i j bytes :: ch.drainCalls bytes is (j + 1) := by
  simp [drainCalls, List.zipIdx_cons]

@[simp] theorem length_drainCalls (ch : Channel) (bytes : Bytes) (is : List Nat) (j : Nat) :
    (ch.drainCalls bytes is j).length = is.length := by
  simp [drainCalls]

theorem getElem?_drainCalls (ch : Channel) (bytes : Bytes) (is : List Nat) (j k : Nat) :
    (ch.drainCalls bytes is j)[k]? = is[k]?.map fun i => ch.drainCall i (j + k) bytes := by
  simp [drainCalls, List.getElem?_zipIdx, Function.comp_def]

/-- What was written into one place is not shown to a request about a later one. -/
theorem drainCalls_overwrite {bytes chunk : Bytes} {j : Nat}
    (fits : j * ch.elementSize + ch.elementSize ≤ bytes.length)
    (sized : chunk.length = ch.elementSize) (is : List Nat) :
    ch.drainCalls (bytes.overwrite (j * ch.elementSize) chunk) is (j + 1)
      = ch.drainCalls bytes is (j + 1) := by
  refine List.map_congr_left ?_
  rintro ⟨i, k⟩ hmem
  have hk : j + 1 ≤ k := List.le_snd_of_mem_zipIdx hmem
  have hwindow : (bytes.overwrite (j * ch.elementSize) chunk).window (k * ch.elementSize)
      ch.elementSize = bytes.window (k * ch.elementSize) ch.elementSize := by
    refine Bytes.window_overwrite_of_apart (by omega) ?_
    rw [sized]
    exact Bytes.places_apart (by omega)
  simp only [drainCall, hwindow]

theorem Ring.fits_drainCall (ring : ch.Ring) {i j : Nat} (hi : i < ch.capacity) {bytes : Bytes}
    (fits : j * ch.elementSize + ch.elementSize ≤ bytes.length) :
    (ch.drainCall i j bytes).Fits ch.elementSize :=
  ⟨rfl, Bytes.length_window_of_le fits, ring.length_bytesAt hi⟩

/-- **The requests of the loop.** They are the first ones of `drainCalls`, all of them fit, and if
nothing cut the loop short there are no others. -/
theorem Ring.calls_copyOut (ring : ch.Ring) (copier : Copier σ) {is : List Nat}
    (slots : ∀ i ∈ is, i < ch.capacity) (j : Nat) (s : σ) (bytes : Bytes) {out : CopiedOut σ}
    (hout : ch.copyOut copier is j s bytes = out) :
    out.calls <+: ch.drainCalls bytes is j ∧ (∀ call ∈ out.calls, call.Fits ch.elementSize) ∧
      (out.fault = none → out.calls = ch.drainCalls bytes is j) := by
  induction is generalizing j s bytes out with
  | nil =>
    subst hout
    exact ⟨List.prefix_rfl, by simp [copyOut], fun _ => rfl⟩
  | cons i is ih =>
    have hi : i < ch.capacity := slots i List.mem_cons_self
    rw [drainCalls_cons]
    by_cases fits : j * ch.elementSize + ch.elementSize ≤ bytes.length
    · have hfits := ring.fits_drainCall hi fits
      rw [ring.copyOut_cons copier hi is s fits] at hout
      cases hfault : (copier.copy s (ch.drainCall i j bytes)).fault with
      | some fault =>
        simp only [hfault] at hout
        subst hout
        refine ⟨?_, by simpa using hfits, ?_⟩
        · exact List.prefix_cons_inj _ |>.mpr List.nil_prefix
        · intro h
          cases h
      | none =>
        simp only [hfault] at hout
        have hlen : (copier.copy s (ch.drainCall i j bytes)).target.length = ch.elementSize := by
          rw [copier.length_target]
          exact hfits.length_target
        obtain ⟨hfront, hrest, hall⟩ :=
          ih (fun k hk => slots k (List.mem_cons_of_mem i hk)) (j + 1)
            (copier.copy s (ch.drainCall i j bytes)).state _ rfl
        rw [drainCalls_overwrite fits hlen] at hfront hall
        subst hout
        refine ⟨List.prefix_cons_inj _ |>.mpr hfront, ?_, ?_⟩
        · intro call hcall
          rcases List.mem_cons.mp hcall with rfl | hcall
          · exact hfits
          · exact hrest call hcall
        · intro h
          exact congrArg _ (hall h)
    · rw [copyOut_cons_of_short ch copier i is s (Nat.not_le.mp fits)] at hout
      subst hout
      refine ⟨List.nil_prefix, by simp, ?_⟩
      intro h
      cases h

/-! ### The requests of each operation -/

theorem Ring.fits_sendCall (ring : ch.Ring) (room : ch.count < ch.capacity) {element : Bytes}
    (sized : element.length = ch.elementSize) : (ch.sendCall element).Fits ch.elementSize :=
  ⟨rfl, ring.length_bytesAt_sendIndex room, sized⟩

theorem Ring.fits_receiveCall (ring : ch.Ring) (some_left : 0 < ch.count) {out : Bytes}
    (sized : out.length = ch.elementSize) : (ch.receiveCall out).Fits ch.elementSize :=
  ⟨rfl, sized, ring.length_bytesAt_receiveIndex some_left⟩

theorem SendExit.fits {element : Bytes} {r : Step σ SendError Unit}
    (exit : SendExit copier s ch element r) (ring : ch.Ring) :
    ∀ call ∈ r.effects.calls, call.Fits ch.elementSize := by
  cases exit with
  | wrongLength | closed | full => simp
  | cutShort sized _ room | sent sized _ room => simpa using ring.fits_sendCall room sized

theorem SendExit.calls_eq {element : Bytes} {r : Step σ SendError Unit}
    (exit : SendExit copier s ch element r) :
    (r.outcome = .ok () → ch.count < ch.capacity ∧ r.effects.calls = [ch.sendCall element]) ∧
      ∀ reason, r.outcome = .error reason → r.effects.calls = [] := by
  cases exit with
  | wrongLength | closed | full | cutShort => simp
  | sent _ _ room => simp [room]

theorem ReceiveExit.fits {out : Bytes} {r : Received σ} (exit : ReceiveExit copier s ch out r)
    (ring : ch.Ring) : ∀ call ∈ r.effects.calls, call.Fits ch.elementSize := by
  cases exit with
  | wrongLength | empty => simp
  | cutShort sized some_left | received sized some_left =>
    simpa using ring.fits_receiveCall some_left sized

theorem ReceiveExit.calls_eq {out : Bytes} {r : Received σ}
    (exit : ReceiveExit copier s ch out r) :
    (r.outcome = .ok () → 0 < ch.count ∧ r.effects.calls = [ch.receiveCall out]) ∧
      ∀ reason, r.outcome = .error reason → r.effects.calls = [] := by
  cases exit with
  | wrongLength | empty | cutShort => simp
  | received _ some_left => simp [some_left]

theorem CloseExit.calls_eq {r : Step σ CloseError (List Waiter)} (exit : CloseExit s ch r) :
    r.effects.calls = [] := by
  cases exit <;> rfl

theorem DrainExit.fits {minimum : Nat} {allocator : Allocator} {r : Step σ Empty (Option Batch)}
    (exit : DrainExit copier s ch minimum allocator r) (ring : ch.Ring) :
    ∀ call ∈ r.effects.calls, call.Fits ch.elementSize := by
  cases exit with
  | tooFew | noBuffer | unbuffered => simp
  | cutShort _ bytes _ buffered | drained _ bytes _ buffered =>
    exact (ring.calls_copyOut copier (ring.occupied_lt buffered) 0 s bytes rfl).2.1

theorem DrainExit.calls_eq {minimum : Nat} {allocator : Allocator}
    {r : Step σ Empty (Option Batch)} (exit : DrainExit copier s ch minimum allocator r)
    (ring : ch.Ring) :
    (∀ batch, r.outcome = .ok (some batch) →
      0 < ch.capacity ∧ batch.length = ch.count ∧
        ∃ bytes, allocator (ch.count * ch.elementSize) = .ok bytes ∧
          r.effects.calls = ch.drainCalls bytes ch.occupied 0) ∧
      (r.outcome = .ok none → r.effects.calls = []) := by
  cases exit with
  | tooFew | noBuffer | unbuffered | cutShort => simp
  | drained _ bytes allocated buffered h =>
    have hcalls := (ring.calls_copyOut copier (ring.occupied_lt buffered) 0 s bytes rfl).2.2 h
    constructor
    · intro batch hbatch
      obtain rfl := Option.some.inj (Outcome.ok.inj hbatch)
      exact ⟨buffered, rfl, bytes, allocated, hcalls⟩
    · intro h
      cases h

/-- Slot and place of the `k`-th request of a drain. -/
theorem Ring.getElem?_drainCalls_occupied (ring : ch.Ring) (bytes : Bytes) {k : Nat}
    (hk : k < ch.count) :
    (ch.drainCalls bytes ch.occupied 0)[k]? = some (ch.drainCall (ch.position k) k bytes) := by
  rw [getElem?_drainCalls, ring.occupied_eq, Nat.zero_add]
  simp [hk]

/-- Every request of an operation of the channel fits, however the operation ends. -/
theorem Ring.fits_perform (ring : ch.Ring) (copier : Copier σ) (s : σ) {op : Operation}
    (own : ∀ call, op ≠ .copy call) :
    ∀ call ∈ (ch.perform copier s op).effects.calls, call.Fits ch.elementSize := by
  cases op with
  | send element => exact (ring.send_exit copier s element).fits ring
  | receive out => exact (ring.receive_exit copier s out).fits ring
  | close =>
    have hnone : (ch.close s).effects.calls = [] := (close_exit s ch).calls_eq
    simp [perform, hnone]
  | drain minimum allocator => exact (drain_exit copier s ch minimum allocator).fits ring
  | snapshot tag => simp [perform]
  | guarded actions => simp [perform]
  | copy call => exact absurd rfl (own call)

/-- A send that is not cut short makes a request exactly if the element was sent. -/
theorem SendExit.length_calls {element : Bytes} {r : Step σ SendError Unit}
    (exit : SendExit copier s ch element r) (faultless : r.outcome.fault? = none) :
    r.effects.calls.length = (Result.sent r.outcome).movedCount := by
  cases exit with
  | wrongLength | cutShort => cases faultless
  | closed | full | sent => rfl

theorem ReceiveExit.length_calls {out : Bytes} {r : Received σ}
    (exit : ReceiveExit copier s ch out r) (faultless : r.outcome.fault? = none) :
    r.effects.calls.length = (Result.received r.outcome r.out).movedCount := by
  cases exit with
  | wrongLength | cutShort => cases faultless
  | empty | received => rfl

theorem CloseExit.length_calls {r : Step σ CloseError (List Waiter)} (exit : CloseExit s ch r) :
    r.effects.calls.length = (Result.closed r.outcome).movedCount := by
  cases exit <;> rfl

theorem DrainExit.length_calls {minimum : Nat} {allocator : Allocator}
    {r : Step σ Empty (Option Batch)} (exit : DrainExit copier s ch minimum allocator r)
    (ring : ch.Ring) (faultless : r.outcome.fault? = none) :
    r.effects.calls.length = (Result.drained r.outcome).movedCount := by
  cases exit with
  | noBuffer | cutShort => cases faultless
  | tooFew | unbuffered => rfl
  | drained _ bytes _ buffered h =>
    have hcalls := (ring.calls_copyOut copier (ring.occupied_lt buffered) 0 s bytes rfl).2.2 h
    simp [hcalls, ring.length_occupied, Result.movedCount, Result.isSent, Result.takenCount]

/-- An operation that is not cut short makes one request for each element it moves. -/
theorem Ring.length_calls_perform (ring : ch.Ring) (copier : Copier σ) (s : σ) {op : Operation}
    (own : ∀ call, op ≠ .copy call) (faultless : (ch.perform copier s op).result.fault? = none) :
    (ch.perform copier s op).effects.calls.length
      = (ch.perform copier s op).result.movedCount := by
  cases op with
  | send element => exact (ring.send_exit copier s element).length_calls faultless
  | receive out => exact (ring.receive_exit copier s out).length_calls faultless
  | close => exact (close_exit s ch).length_calls
  | drain minimum allocator =>
    exact (drain_exit copier s ch minimum allocator).length_calls ring faultless
  | snapshot tag => rfl
  | guarded actions => rfl
  | copy call => exact absurd rfl (own call)

/-! ### The requests of a run -/

theorem Ring.fits_performAll (ring : ch.Ring) (copier : Copier σ) (s : σ) {ops : List Operation}
    (own : ∀ call, .copy call ∉ ops) :
    ∀ call ∈ (ch.performAll copier s ops).effects.calls, call.Fits ch.elementSize := by
  induction ops generalizing ch s with
  | nil => simp [performAll]
  | cons op ops ih =>
    have moves := ring.moves_perform copier s op
    have hsize := elementSize_of_shape_eq (Moves.shape_eq moves)
    intro call hcall
    rcases List.mem_append.mp hcall with hcall | hcall
    · refine ring.fits_perform copier s ?_ call hcall
      rintro call rfl
      exact own call List.mem_cons_self
    · rw [← hsize]
      exact ih (moves.ring ring) _ (fun call h => own call (List.mem_cons_of_mem op h)) call hcall

/-- Over a run without faults there is one request for each element that moved. -/
theorem Ring.length_calls_performAll (ring : ch.Ring) (copier : Copier σ) (s : σ)
    {ops : List Operation} (own : ∀ call, .copy call ∉ ops)
    (faultless : ∀ result ∈ (ch.performAll copier s ops).results, result.fault? = none) :
    (ch.performAll copier s ops).effects.calls.length =
      (ch.performAll copier s ops).results.countP Result.isSent +
        ((ch.performAll copier s ops).results.map Result.takenCount).sum := by
  induction ops generalizing ch s with
  | nil => rfl
  | cons op ops ih =>
    have moves := ring.moves_perform copier s op
    have hfirst := ring.length_calls_perform copier s
      (by rintro call rfl; exact own call List.mem_cons_self)
      (faultless _ List.mem_cons_self)
    have hrest := ih (moves.ring ring) (ch.perform copier s op).copier
      (fun call h => own call (List.mem_cons_of_mem op h))
      (fun result h => faultless result (List.mem_cons_of_mem _ h))
    have hsplit : (ch.performAll copier s (op :: ops)).effects.calls =
        (ch.perform copier s op).effects.calls ++
          ((ch.perform copier s op).channel.performAll copier (ch.perform copier s op).copier
            ops).effects.calls := rfl
    rw [hsplit, List.length_append, hfirst, hrest, Result.movedCount, performAll, List.countP_cons,
      List.map_cons, List.sum_cons]
    omega

/-- **What is asked of a copier.** Let a channel have come about in any way, and let its copier be
any, in any state.

* Every request that an operation of the channel makes names the element size, and its two strings
  have exactly that length, however the operation ends.
* A send that succeeds makes one request, to write the element over the slot that is next; a receive
  that succeeds makes one, to write the oldest element over the output. If they refuse they make
  none.
* A drain that yields a batch makes one request for each element: the `j`-th is to write the element
  in the `j`-th slot from the receive index on over the `j`-th piece of the buffer as the allocator
  gave it. A drain that yields nothing makes none, nor does closing, inspecting or a guarded
  section.
* Over a run all requests have that form too, and if nothing in it faults there are as many as
  elements were sent, received and drained. -/
theorem Reachable.calls_of_operations (reachable : ch.Reachable) (copier : Copier σ) (s : σ) :
    (∀ op, (∀ call, op ≠ .copy call) →
      ∀ call ∈ (ch.perform copier s op).effects.calls, call.Fits ch.elementSize) ∧
    (∀ element,
      ((ch.send copier s element).outcome = .ok () →
        ∃ target, ch.slot ch.sendIndex = .ok target ∧
          (ch.send copier s element).effects.calls = [⟨ch.elementSize, target, element⟩]) ∧
      ∀ reason, (ch.send copier s element).outcome = .error reason →
        (ch.send copier s element).effects.calls = []) ∧
    (∀ out,
      ((ch.receive copier s out).outcome = .ok () →
        ∃ source, ch.slot ch.receiveIndex = .ok source ∧
          (ch.receive copier s out).effects.calls = [⟨ch.elementSize, out, source⟩]) ∧
      ∀ reason, (ch.receive copier s out).outcome = .error reason →
        (ch.receive copier s out).effects.calls = []) ∧
    (∀ minimum allocator,
      (∀ batch, (ch.drain copier s minimum allocator).outcome = .ok (some batch) →
        ∃ buffer, allocator (ch.count * ch.elementSize) = .ok buffer ∧
          (ch.drain copier s minimum allocator).effects.calls.length = ch.count ∧
          ∀ j < ch.count, ∃ target source,
            buffer.slice (j * ch.elementSize) ((j + 1) * ch.elementSize) = .ok target ∧
            ch.slot ((ch.receiveIndex + j) % ch.capacity) = .ok source ∧
            (ch.drain copier s minimum allocator).effects.calls[j]?
              = some ⟨ch.elementSize, target, source⟩) ∧
      ((ch.drain copier s minimum allocator).outcome = .ok none →
        (ch.drain copier s minimum allocator).effects.calls = [])) ∧
    (∀ op, (op = .close ∨ (∃ tag, op = .snapshot tag) ∨ ∃ actions, op = .guarded actions) →
      (ch.perform copier s op).effects.calls = []) ∧
    ∀ ops, (∀ call, .copy call ∉ ops) →
      (∀ call ∈ (ch.performAll copier s ops).effects.calls, call.Fits ch.elementSize) ∧
      ((∀ result ∈ (ch.performAll copier s ops).results, result.fault? = none) →
        (ch.performAll copier s ops).effects.calls.length =
          (ch.performAll copier s ops).results.countP Result.isSent +
            ((ch.performAll copier s ops).results.map Result.takenCount).sum) := by
  have ring := reachable.ring
  refine ⟨fun op own => ring.fits_perform copier s own, ?_, ?_, ?_, ?_, ?_⟩
  · intro element
    obtain ⟨hok, herror⟩ := (ring.send_exit copier s element).calls_eq
    refine ⟨fun h => ?_, herror⟩
    obtain ⟨room, hcalls⟩ := hok h
    exact ⟨_, ring.slot_eq (ring.sendIndex_lt (by omega)), hcalls⟩
  · intro out
    obtain ⟨hok, herror⟩ := (ring.receive_exit copier s out).calls_eq
    refine ⟨fun h => ?_, herror⟩
    obtain ⟨some_left, hcalls⟩ := hok h
    have hcap : 0 < ch.capacity := Nat.lt_of_lt_of_le some_left ring.count_le
    exact ⟨_, ring.slot_eq (ring.receiveIndex_lt hcap), hcalls⟩
  · intro minimum allocator
    have exit := drain_exit copier s ch minimum allocator
    obtain ⟨hbatch, hnone⟩ := exit.calls_eq ring
    refine ⟨fun batch h => ?_, hnone⟩
    obtain ⟨buffered, -, buffer, allocated, hcalls⟩ := hbatch batch h
    refine ⟨buffer, allocated, by rw [hcalls, length_drainCalls, ring.length_occupied], ?_⟩
    intro j hj
    have hcall := ring.getElem?_drainCalls_occupied buffer hj
    rw [← hcalls] at hcall
    have hplace : j * ch.elementSize + ch.elementSize ≤ buffer.length :=
      Bytes.place_end_le_of_length_window
        (exit.fits ring _ (List.mem_of_getElem? hcall)).length_target
    have hstop : (j + 1) * ch.elementSize = j * ch.elementSize + ch.elementSize := by ring
    refine ⟨_, _, ?_, ring.slot_eq (position_lt buffered j), hcall⟩
    rw [hstop, Bytes.slice_of_le hplace, Nat.add_sub_cancel_left]
  · rintro op (rfl | ⟨tag, rfl⟩ | ⟨actions, rfl⟩)
    · exact (close_exit s ch).calls_eq
    · rfl
    · rfl
  · intro ops own
    exact ⟨ring.fits_performAll copier s own, ring.length_calls_performAll copier s own⟩

/-- A full ring of three slots whose oldest element is in the middle, a copier that mixes what it is
shown into what it writes, and an allocator that gives a byte too many. The run that begins with the
drain moves five elements. -/
theorem Reachable.calls_of_operations_mixing :
    ∃ (ch : Channel) (ops : List Operation), ch.Reachable ∧ ch.indices = ⟨1, 1⟩ ∧ ch.count = 3 ∧
      (∀ call ∈ (ch.perform (Copier.mixing Unit) ()
        (.drain 2 (Allocator.long 1 0xee))).effects.calls, call.Fits 2) ∧
      (ch.drain (Copier.mixing Unit) () 2 (Allocator.long 1 0xee)).effects.calls =
        [⟨2, [0xee, 0xee], [3, 4]⟩, ⟨2, [0xee, 0xee], [5, 6]⟩, ⟨2, [0xee, 0xee], [7, 8]⟩] ∧
      (ch.performAll (Copier.mixing Unit) () ops).results.map Result.movedCount = [3, 1, 1, 0, 0] ∧
      (ch.performAll (Copier.mixing Unit) () ops).effects.calls.length = 1 + 4 := by
  let before : List Operation :=
    [.send [1, 2], .send [3, 4], .send [5, 6], .receive [0, 0], .send [7, 8]]
  let ops : List Operation :=
    [.drain 2 (Allocator.long 1 0xee), .send [9, 9], .receive [0, 0], .close, .send [1, 1]]
  have reachable :
      ((fresh 1 ⟨3, 2, 1⟩).performAll (Copier.plain Unit) () before).channel.Reachable :=
    ⟨Unit, Copier.plain Unit, (), 1, ⟨3, 2, 1⟩, fresh 1 ⟨3, 2, 1⟩, before, by decide, rfl⟩
  generalize hch : ((fresh 1 ⟨3, 2, 1⟩).performAll (Copier.plain Unit) () before).channel = ch
    at reachable
  obtain ⟨hfits, -, -, -, -, hrun⟩ := reachable.calls_of_operations (Copier.mixing Unit) ()
  have hcount := (hrun ops (by simp [ops])).2 (by rw [← hch]; decide)
  have hsent : (ch.performAll (Copier.mixing Unit) () ops).results.countP Result.isSent = 1 := by
    rw [← hch]
    decide
  have htaken : ((ch.performAll (Copier.mixing Unit) () ops).results.map
      Result.takenCount).sum = 4 := by
    rw [← hch]
    decide
  rw [hsent, htaken] at hcount
  have hsize : ch.elementSize = 2 := by
    rw [← hch]
    decide
  refine ⟨ch, ops, reachable, ?_, ?_, hsize ▸ hfits _ (by simp), ?_, ?_, hcount⟩
  all_goals
    rw [← hch]
    decide

end Channel

end ByteChannel
