import ByteChannel.Proofs.OneByOne
import ByteChannel.Proofs.Turns

/-!
# What is left in the slots is never read

Receiving and draining do not clear the slots they take elements from: the bytes stay in the buffer
until something else is written over them. This module is about two channels that are the same but
for such residue (`Channel.SameLive`), and says that nobody can tell them apart by sending,
receiving, closing, draining and asking for reports.

The relation has to say which slots are live and nothing about the others, and on a ring it can do
so in one equation: the two channels have the same elements. Each operation keeps the relation
because the only slot it reads is one that holds an element, and the only one it writes is written
as a whole. That second part is where the copier comes in. It must replace its destination by a
function of the source; a copier that mixes the two would carry residue into the new element.

The copier may have a state, and the two runs may leave it in different ones: when an element is
sent the copier is shown the slot that is to be overwritten. Therefore the states are not compared.

A channel that has just been drained has nothing but residue in its buffer, so it is like a new one.

## Main definitions

* `Channel.SameLive` — the same but for residue
* `Channel.Performed.Indistinct`, `Channel.Run.Indistinct` — two operations, or two runs, that
  nobody can tell apart

## Main results

* `Channel.SameLive.perform` — one operation
* `Channel.SameLive.performAll` — a run
* `Channel.Ring.sameLive_emptied` — a drained channel and a new one
* `Channel.residue_is_never_read` — both together
-/

namespace ByteChannel

/-- What a copier makes of an element is as long as the element. -/
theorem Copier.Computes.length_eq {σ : Type} {copier : Copier σ} {size : Nat} {f : Bytes → Bytes}
    (computes : copier.Computes size f) (s : σ) {source : Bytes} (sized : source.length = size) :
    (f source).length = size :=
  computes.yields.length_eq sized sized (computes.fault_eq s source source sized sized)

namespace Channel

variable {σ : Type} {ch ch' : Channel} {copier : Copier σ} {f : Bytes → Bytes}

/-- Two rings that are the same but for the bytes of slots that hold no element. -/
structure SameLive (ch ch' : Channel) : Prop where
  /-- The first one is a ring. -/
  ring : ch.Ring
  /-- So is the second one. -/
  ring' : ch'.Ring
  /-- All but the buffer is the same. -/
  rest_eq : { ch' with buffer := ch.buffer } = ch
  /-- The slots that hold elements have the same bytes. -/
  elements_eq : ch'.elements = ch.elements

/-! ### The moves keep the relation -/

theorem SameLive.exists_eq (same : SameLive ch ch') : ∃ buffer, ch' = { ch with buffer } :=
  ⟨ch'.buffer, by rw [← same.rest_eq]⟩

/-- Each element lies in the same slot of both. -/
theorem SameLive.bytesAt_position (same : SameLive ch ch') {k : Nat} (hk : k < ch.count) :
    ch'.bytesAt (ch.position k) = ch.bytesAt (ch.position k) := by
  obtain ⟨buffer, rfl⟩ := same.exists_eq
  exact List.map_inj_left.mp same.elements_eq k (List.mem_range.mpr hk)

theorem SameLive.bytesAt_receiveIndex (same : SameLive ch ch') (some_left : 0 < ch.count) :
    ch'.bytesAt ch.receiveIndex = ch.bytesAt ch.receiveIndex := by
  have h := same.bytesAt_position some_left
  rwa [same.ring.position_zero (Nat.lt_of_lt_of_le some_left same.ring.count_le)] at h

theorem SameLive.pushed (same : SameLive ch ch') (room : ch.count < ch.capacity) {bytes : Bytes}
    (sized : bytes.length = ch.elementSize) : SameLive (ch.pushed bytes) (ch'.pushed bytes) := by
  obtain ⟨buffer, rfl⟩ := same.exists_eq
  refine ⟨same.ring.pushed room bytes, same.ring'.pushed room bytes, rfl, ?_⟩
  rw [same.ring.elements_pushed room sized, same.ring'.elements_pushed room sized, same.elements_eq]

theorem SameLive.popped (same : SameLive ch ch') (some_left : 0 < ch.count) :
    SameLive ch.popped ch'.popped := by
  obtain ⟨buffer, rfl⟩ := same.exists_eq
  refine ⟨same.ring.popped some_left, same.ring'.popped some_left, rfl, ?_⟩
  have h := same.elements_eq
  rw [same.ring.elements_eq_cons some_left, same.ring'.elements_eq_cons some_left] at h
  exact (List.cons.inj h).2

theorem SameLive.emptied (same : SameLive ch ch') : SameLive ch.emptied ch'.emptied := by
  obtain ⟨buffer, rfl⟩ := same.exists_eq
  exact ⟨same.ring.emptied, same.ring'.emptied, rfl, rfl⟩

theorem SameLive.congr_queues (same : SameLive ch ch') (closed : Bool)
    (senders receivers : WaitQueue) :
    SameLive { ch with closed, senders, receivers } { ch' with closed, senders, receivers } := by
  obtain ⟨buffer, rfl⟩ := same.exists_eq
  exact ⟨same.ring.congr_queues closed senders receivers,
    same.ring'.congr_queues closed senders receivers, rfl, same.elements_eq⟩

/-! ### The loop of a drain -/

/-- A copier that computes something fills the buffer in the same way from both channels, whatever
states it is in, and is cut short at the same place. -/
theorem SameLive.copyOut_congr (same : SameLive ch ch')
    (computes : copier.Computes ch.elementSize f) {is : List Nat}
    (slots : ∀ i ∈ is, i < ch.capacity) (hbytes : ∀ i ∈ is, ch'.bytesAt i = ch.bytesAt i) (j : Nat)
    (s s' : σ) (bytes : Bytes) :
    (ch.copyOut copier is j s bytes).fault = (ch'.copyOut copier is j s' bytes).fault ∧
      (ch.copyOut copier is j s bytes).bytes = (ch'.copyOut copier is j s' bytes).bytes := by
  induction is generalizing j s s' bytes with
  | nil => exact ⟨rfl, rfl⟩
  | cons i is ih =>
    obtain ⟨buffer, rfl⟩ := same.exists_eq
    have hi : i < ch.capacity := slots i List.mem_cons_self
    by_cases fits : j * ch.elementSize + ch.elementSize ≤ bytes.length
    · have hcall : drainCall { ch with buffer } i j bytes = ch.drainCall i j bytes :=
        congrArg (CopyCall.mk ch.elementSize _) (hbytes i List.mem_cons_self)
      have htarget : (ch.drainCall i j bytes).target.length = ch.elementSize :=
        Bytes.length_window_of_le fits
      have hsource : (ch.drainCall i j bytes).source.length = ch.elementSize :=
        same.ring.length_bytesAt hi
      have hfault : ∀ t, (copier.copy t (ch.drainCall i j bytes)).fault = none := fun t =>
        computes.fault_eq t _ _ htarget hsource
      have hmade : ∀ t, (copier.copy t (ch.drainCall i j bytes)).target = f (ch.bytesAt i) :=
        fun t => computes.target_eq t _ _ htarget hsource
      rw [same.ring.copyOut_cons copier hi is s fits, same.ring'.copyOut_cons copier hi is s' fits,
        hcall]
      simp only [hfault, hmade]
      exact ih (fun k hk => slots k (List.mem_cons_of_mem i hk))
        (fun k hk => hbytes k (List.mem_cons_of_mem i hk)) _ _ _ _
    · have short : bytes.length < j * ch.elementSize + ch.elementSize := Nat.not_le.mp fits
      rw [copyOut_cons_of_short ch copier i is s short,
        copyOut_cons_of_short { ch with buffer } copier i is s' short]
      exact ⟨rfl, rfl⟩

/-! ### One operation -/

/-- Two operations that nobody can tell apart. -/
structure Performed.Indistinct (done done' : Performed σ) : Prop where
  /-- They end in the same way. -/
  result_eq : done.result = done'.result
  /-- They ask the same of allocators. -/
  requests_eq : done.effects.requests = done'.effects.requests
  /-- They leave the same notices. -/
  notices_eq : done.effects.notices = done'.effects.notices
  /-- They leave channels behind that are the same but for residue. -/
  same : SameLive done.channel done'.channel

/-- A send to an open channel with room for the element succeeds. -/
theorem Ring.send_of_room (ring : ch.Ring) (computes : copier.Computes ch.elementSize f) (s : σ)
    {element : Bytes} (sized : element.length = ch.elementSize) (isOpen : ch.closed = false)
    (room : ch.count < ch.capacity) :
    ch.send copier s element =
      ⟨.ok (), ch.pushed (f element), (copier.copy s (ch.sendCall element)).state,
        { calls := [ch.sendCall element] }⟩ := by
  have hfault : (copier.copy s (ch.sendCall element)).fault = none :=
    computes.fault_eq s _ element (ring.length_bytesAt_sendIndex room) sized
  have exit := ring.send_exit copier s element
  generalize ch.send copier s element = r at exit
  cases exit with
  | wrongLength h => exact absurd sized h
  | closed _ h =>
    rw [isOpen] at h
    cases h
  | full _ _ h => omega
  | cutShort _ _ _ fault h =>
    rw [hfault] at h
    cases h
  | sent => rw [ring.target_sendCall computes.yields room sized hfault]

theorem SameLive.send (same : SameLive ch ch') (computes : copier.Computes ch.elementSize f)
    (s s' : σ) (element : Bytes) :
    (ch.perform copier s (.send element)).Indistinct (ch'.perform copier s' (.send element)) := by
  obtain ⟨buffer, rfl⟩ := same.exists_eq
  by_cases ready : element.length = ch.elementSize ∧ ch.closed = false ∧ ch.count < ch.capacity
  · obtain ⟨sized, isOpen, room⟩ := ready
    have hlen := computes.length_eq s sized
    simp only [perform, same.ring.send_of_room computes s sized isOpen room,
      same.ring'.send_of_room computes s' sized isOpen room]
    exact ⟨rfl, rfl, rfl, same.pushed room hlen⟩
  · -- one of the checks fails, and none of them looks at the buffer
    have hsize : elementSize { ch with buffer } = ch.elementSize := rfl
    simp only [perform, Channel.send, hsize]
    split
    · exact ⟨rfl, rfl, rfl, same⟩
    · split
      · exact ⟨rfl, rfl, rfl, same⟩
      · split
        · exact ⟨rfl, rfl, rfl, same⟩
        · refine absurd ⟨?_, ?_, ?_⟩ ready <;> simp_all

theorem SameLive.receive (same : SameLive ch ch') (computes : copier.Computes ch.elementSize f)
    (s s' : σ) (out : Bytes) :
    (ch.perform copier s (.receive out)).Indistinct (ch'.perform copier s' (.receive out)) := by
  have hsource := same.bytesAt_receiveIndex
  obtain ⟨buffer, rfl⟩ := same.exists_eq
  by_cases ready : out.length = ch.elementSize ∧ 0 < ch.count
  · obtain ⟨sized, some_left⟩ := ready
    have hfault : (copier.copy s (ch.receiveCall out)).fault = none :=
      computes.fault_eq s out _ sized (same.ring.length_bytesAt_receiveIndex some_left)
    have hfault' : (copier.copy s' (receiveCall { ch with buffer } out)).fault = none :=
      computes.fault_eq s' out _ sized (same.ring'.length_bytesAt_receiveIndex some_left)
    rw [same.ring.perform_receive_of_none some_left sized hfault,
      same.ring'.perform_receive_of_none some_left sized hfault',
      same.ring.target_receiveCall computes.yields some_left sized hfault,
      same.ring'.target_receiveCall computes.yields some_left sized hfault', hsource some_left]
    exact ⟨rfl, rfl, rfl, same.popped some_left⟩
  · have hsize : elementSize { ch with buffer } = ch.elementSize := rfl
    simp only [perform, Channel.receive, hsize]
    split
    · exact ⟨rfl, rfl, rfl, same⟩
    · split
      · exact ⟨rfl, rfl, rfl, same⟩
      · refine absurd ⟨?_, ?_⟩ ready <;> simp_all

theorem SameLive.close (same : SameLive ch ch') (s s' : σ) :
    (ch.perform copier s .close).Indistinct (ch'.perform copier s' .close) := by
  have closed := same.congr_queues true .empty .empty
  obtain ⟨buffer, rfl⟩ := same.exists_eq
  simp only [perform, Channel.close]
  split
  · exact ⟨rfl, rfl, rfl, same⟩
  · exact ⟨rfl, rfl, rfl, closed⟩

theorem SameLive.drain (same : SameLive ch ch') (computes : copier.Computes ch.elementSize f)
    (s s' : σ) (minimum : Nat) (allocator : Allocator) :
    (ch.perform copier s (.drain minimum allocator)).Indistinct
      (ch'.perform copier s' (.drain minimum allocator)) := by
  have hbytes : ∀ i ∈ ch.occupied, ch'.bytesAt i = ch.bytesAt i := by
    intro i hi
    rw [same.ring.occupied_eq] at hi
    obtain ⟨k, hk, rfl⟩ := List.mem_map.mp hi
    exact same.bytesAt_position (List.mem_range.mp hk)
  have emptied := same.emptied
  have copied := fun (buffered : 0 < ch.capacity) =>
    same.copyOut_congr computes (same.ring.occupied_lt buffered) hbytes 0 s s'
  obtain ⟨buffer, rfl⟩ := same.exists_eq
  have hsize : elementSize { ch with buffer } = ch.elementSize := rfl
  have hoccupied : occupied { ch with buffer } = ch.occupied := rfl
  simp only [perform, Channel.drain, hsize, hoccupied]
  split
  · exact ⟨rfl, rfl, rfl, same⟩
  · split
    · exact ⟨rfl, rfl, rfl, same⟩
    · rename_i bytes _
      split
      · exact ⟨rfl, rfl, rfl, same⟩
      · rename_i buffered
        obtain ⟨hfault, hout⟩ := copied (Nat.not_lt.mp buffered) bytes
        rw [← hfault, ← hout]
        split
        · exact ⟨rfl, rfl, rfl, same⟩
        · exact ⟨rfl, rfl, rfl, emptied⟩

/-- **One operation** of those that move elements, or a close, does not tell them apart. -/
theorem SameLive.perform (same : SameLive ch ch') (computes : copier.Computes ch.elementSize f)
    (s s' : σ) {op : Operation} (kind : op.isTraffic = true ∨ op = .close) :
    (ch.perform copier s op).Indistinct (ch'.perform copier s' op) := by
  cases op with
  | send element => exact same.send computes s s' element
  | receive out => exact same.receive computes s s' out
  | close => exact same.close s s'
  | drain minimum allocator => exact same.drain computes s s' minimum allocator
  | snapshot tag =>
    obtain ⟨buffer, rfl⟩ := same.exists_eq
    exact ⟨rfl, rfl, rfl, same⟩
  | guarded actions => simp [Operation.isTraffic] at kind
  | copy call => simp [Operation.isTraffic] at kind

/-! ### Runs -/

/-- Two runs that nobody can tell apart. -/
structure Run.Indistinct (run run' : Run σ) : Prop where
  /-- Each operation ends in the same way. -/
  results_eq : run.results = run'.results
  /-- They ask the same of allocators. -/
  requests_eq : run.effects.requests = run'.effects.requests
  /-- They leave the same notices. -/
  notices_eq : run.effects.notices = run'.effects.notices
  /-- They leave channels behind that are the same but for residue. -/
  same : SameLive run.channel run'.channel

/-- **A run** of such operations does not tell them apart. -/
theorem SameLive.performAll (same : SameLive ch ch') (computes : copier.Computes ch.elementSize f)
    (s s' : σ) {ops : List Operation} (kinds : ∀ op ∈ ops, op.isTraffic = true ∨ op = .close) :
    (ch.performAll copier s ops).Indistinct (ch'.performAll copier s' ops) := by
  induction ops generalizing ch ch' s s' with
  | nil => exact ⟨rfl, rfl, rfl, same⟩
  | cons op ops ih =>
    have first := same.perform computes s s' (kinds op List.mem_cons_self)
    have hsize : (ch.perform copier s op).channel.elementSize = ch.elementSize :=
      elementSize_of_shape_eq (Moves.shape_eq (same.ring.moves_perform copier s op))
    have rest := ih first.same (hsize.symm ▸ computes) (ch.perform copier s op).copier
      (ch'.perform copier s' op).copier (fun op' h => kinds op' (List.mem_cons_of_mem op h))
    exact
      { results_eq := congrArg₂ List.cons first.result_eq rest.results_eq
        requests_eq := congrArg₂ List.append first.requests_eq rest.requests_eq
        notices_eq := congrArg₂ List.append first.notices_eq rest.notices_eq
        same := rest.same }

/-! ### A drained channel -/

theorem DrainExit.channel_eq {s : σ} {minimum : Nat} {allocator : Allocator}
    {r : Step σ Empty (Option Batch)} (exit : DrainExit copier s ch minimum allocator r)
    {batch : Batch} (h : r.outcome = .ok (some batch)) : r.channel = ch.emptied := by
  cases exit with
  | tooFew | noBuffer | unbuffered | cutShort => cases h
  | drained => rfl

/-- A channel whose elements were dropped is the same, but for residue, as a new one of its shape
that was given its queues. -/
theorem Ring.sameLive_emptied (ring : ch.Ring) (isOpen : ch.closed = false) {id : Nat}
    {config : Config} {new : Channel} (created : create id config = .ok new)
    (shape_eq : new.shape = ch.shape) :
    SameLive ch.emptied { new with senders := ch.senders, receivers := ch.receivers } := by
  obtain ⟨_, _, rfl⟩ := create_eq_ok_iff.mp created
  have ring' := (ring_fresh id config).congr_queues false ch.senders ch.receivers
  refine ⟨ring.emptied, ring', ?_, rfl⟩
  simp only [shape, fresh, Prod.mk.injEq] at shape_eq
  simp only [fresh, Channel.emptied, shape_eq, isOpen]

/-- **What is left in the slots is never read.** Let the copier replace its destination by a
function of the source, and take any operations that move elements, ask for a report or close the
channel.

* Two rings that are the same but for the bytes of slots that hold no element answer these
  operations alike, ask the same of allocators and leave the same notices, whatever states their
  copiers are in; and they stay the same but for such bytes.
* So do a channel that is open and was just drained and a new one of its shape and number that was
  given its queues. -/
theorem residue_is_never_read (ch : Channel) (computes : copier.Computes ch.elementSize f)
    (s s' : σ) {ops : List Operation} (kinds : ∀ op ∈ ops, op.isTraffic = true ∨ op = .close) :
    (∀ ch', SameLive ch ch' →
      (ch.performAll copier s ops).Indistinct (ch'.performAll copier s' ops)) ∧
    (∀ minimum allocator batch new id config, ch.Ring → ch.closed = false →
      (ch.perform copier s (.drain minimum allocator)).result = .drained (.ok (some batch)) →
      create id config = .ok new → new.shape = ch.shape →
      let drained := ch.perform copier s (.drain minimum allocator)
      let refilled := { new with senders := ch.senders, receivers := ch.receivers }
      (drained.channel.performAll copier drained.copier ops).Indistinct
        (refilled.performAll copier s' ops)) := by
  refine ⟨fun ch' same => same.performAll computes s s' kinds, ?_⟩
  intro minimum allocator batch new id config ring isOpen answered created shape_eq drained refilled
  have hdrained : drained.channel = ch.emptied :=
    (drain_exit copier s ch minimum allocator).channel_eq (Result.drained.inj answered)
  rw [hdrained]
  exact (ring.sameLive_emptied isOpen created shape_eq).performAll computes _ s' kinds

/-- Two channels hold the same element, and different residue is in their other slot. They cannot be
told apart, nor can one of them, once it is drained, be told from a new one. -/
theorem residue_is_never_read_wrapped :
    ∃ (since : UInt8 → Channel) (ops : List Operation),
      (since 1).buffer = some [7, 1] ∧ (since 2).buffer = some [7, 2] ∧
      ((since 1).performAll (Copier.plain Unit) () ops).results =
        ((since 2).performAll (Copier.plain Unit) () ops).results ∧
      ((since 1).perform (Copier.plain Unit) () (.drain 1 Allocator.heap)).channel.buffer =
        some [7, 1] ∧
      (((since 1).perform (Copier.plain Unit) () (.drain 1 Allocator.heap)).channel.performAll
        (Copier.plain Unit) () ops).results =
        ((fresh 1 ⟨2, 1, 1⟩).performAll (Copier.plain Unit) () ops).results := by
  let since (byte : UInt8) : Channel := ((fresh 1 ⟨2, 1, 1⟩).performAll (Copier.plain Unit) ()
    [.send [5], .receive [0], .send [byte], .receive [0], .send [7]]).channel
  let ops : List Operation :=
    [.snapshot 3, .send [8], .receive [0], .send [9], .send [6], .close, .drain 1 Allocator.heap,
      .receive [0]]
  have created : create 1 ⟨2, 1, 1⟩ = .ok (fresh 1 ⟨2, 1, 1⟩) := by decide
  have ring : ∀ byte, (since byte).Ring := fun byte =>
    ((ring_fresh 1 ⟨2, 1, 1⟩).moves_performAll (Copier.plain Unit) () _).ring
      (ring_fresh 1 ⟨2, 1, 1⟩)
  have kinds : ∀ op ∈ ops, op.isTraffic = true ∨ op = .close := by
    simp [ops, Operation.isTraffic]
  obtain ⟨alike, likeNew⟩ :=
    residue_is_never_read (since 1) (Copier.plain_computes Unit _) () () kinds
  have drained :=
    likeNew 1 Allocator.heap _ _ 1 ⟨2, 1, 1⟩ (ring 1) (by decide) rfl created (by decide)
  exact ⟨since, ops, by decide, by decide,
    (alike _ ⟨ring 1, ring 2, by decide, by decide⟩).results_eq, by decide, drained.results_eq⟩

end Channel

end ByteChannel
