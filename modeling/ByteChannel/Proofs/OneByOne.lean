import ByteChannel.Copier.Stock
import ByteChannel.Proofs.Copying
import ByteChannel.Proofs.Reachable

/-!
# Taking all elements at once, or one by one

A drain takes the elements of a channel in one go, into one buffer. A client can also receive as
many times as the channel holds elements, each time into a new output of zero bytes. The two are
written quite differently: a drain walks two runs of slots that it computes beforehand, a receive
moves one index on around the ring. They come to the same, for any copier, even one that has a
state, looks at what its destination held before, or counts its calls.

Both are compared with a third thing, `Copier.copyEach`: the copier serving the elements one by one,
without a channel. For a drain the invariant is that the rest of the heap's buffer is still zero
when an element is about to be copied; for the receives it is that the channel's list of elements
shrinks from its front.

## Main definitions

* `Copier.copyEach` — strings copied one by one
* `Channel.receives` — as many receives as there are elements

## Main results

* `Channel.Ring.copyOut_zeros` — the loop of a drain, on a buffer of zero bytes
* `Channel.Ring.drain_of_copyEach`, `Channel.Ring.performAll_receives` — both against `copyEach`
* `Channel.Reachable.drain_eq_receives` — both against each other
-/

namespace ByteChannel

/-! ### Strings copied one by one -/

namespace Copier

variable {σ : Type}

/-- What copying strings one by one leaves behind. -/
structure CopiedEach (σ : Type) where
  /-- What became of the strings before the first fault. -/
  outputs : List Bytes
  /-- The copier's state afterwards. -/
  state : σ
  /-- The requests made to it. -/
  calls : List CopyCall
  /-- The fault that cut the copying short, if one did. -/
  fault : Option Fault

/-- Copy strings one by one, each over a new string of `size` zero bytes, up to the first fault. -/
def copyEach (copier : Copier σ) (size : Nat) : σ → List Bytes → CopiedEach σ
  | s, [] => ⟨[], s, [], none⟩
  | s, source :: sources =>
    let call : CopyCall := ⟨size, Bytes.zeros size, source⟩
    let copied := copier.copy s call
    match copied.fault with
    | some fault => ⟨[], copied.state, [call], some fault⟩
    | none =>
      let rest := copier.copyEach size copied.state sources
      ⟨copied.target :: rest.outputs, rest.state, call :: rest.calls, rest.fault⟩

theorem copyEach_cons_of_none {copier : Copier σ} {size : Nat} {s : σ} {source : Bytes}
    (h : (copier.copy s ⟨size, Bytes.zeros size, source⟩).fault = none) (sources : List Bytes) :
    copier.copyEach size s (source :: sources) =
      let copied := copier.copy s ⟨size, Bytes.zeros size, source⟩
      let rest := copier.copyEach size copied.state sources
      ⟨copied.target :: rest.outputs, rest.state, ⟨size, Bytes.zeros size, source⟩ :: rest.calls,
        rest.fault⟩ := by
  rw [copyEach]
  simp only [h]

theorem copyEach_cons_of_some {copier : Copier σ} {size : Nat} {s : σ} {source : Bytes}
    {fault : Fault} (h : (copier.copy s ⟨size, Bytes.zeros size, source⟩).fault = some fault)
    (sources : List Bytes) :
    copier.copyEach size s (source :: sources) =
      ⟨[], (copier.copy s ⟨size, Bytes.zeros size, source⟩).state,
        [⟨size, Bytes.zeros size, source⟩], some fault⟩ := by
  rw [copyEach]
  simp only [h]

theorem length_outputs {copier : Copier σ} {size : Nat} {s : σ} {sources : List Bytes}
    (h : (copier.copyEach size s sources).fault = none) :
    (copier.copyEach size s sources).outputs.length = sources.length := by
  induction sources generalizing s with
  | nil => rfl
  | cons source sources ih =>
    cases hfault : (copier.copy s ⟨size, Bytes.zeros size, source⟩).fault with
    | some fault =>
      rw [copyEach_cons_of_some hfault] at h
      cases h
    | none =>
      rw [copyEach_cons_of_none hfault] at h ⊢
      exact congrArg (· + 1) (ih h)

theorem length_of_mem_outputs {copier : Copier σ} {size : Nat} {s : σ} {sources : List Bytes}
    {out : Bytes} (h : out ∈ (copier.copyEach size s sources).outputs) : out.length = size := by
  induction sources generalizing s with
  | nil => cases h
  | cons source sources ih =>
    cases hfault : (copier.copy s ⟨size, Bytes.zeros size, source⟩).fault with
    | some fault =>
      rw [copyEach_cons_of_some hfault] at h
      cases h
    | none =>
      rw [copyEach_cons_of_none hfault] at h
      rcases List.mem_cons.mp h with rfl | h
      · rw [copier.length_target]
        exact Bytes.length_zeros size
      · exact ih h

end Copier

/-! ### The front of a buffer of zero bytes -/

namespace Bytes

theorem zeros_add (m n : Nat) : zeros (m + n) = zeros m ++ zeros n :=
  List.replicate_append_replicate.symm

theorem window_append_zeros (front : Bytes) (size n : Nat) :
    (front ++ zeros (size + n)).window front.length size = zeros size := by
  rw [window, List.drop_left, zeros_add, List.take_left' (length_zeros size)]

theorem overwrite_append_zeros (front chunk : Bytes) (n : Nat) :
    (front ++ zeros (chunk.length + n)).overwrite front.length chunk
      = front ++ chunk ++ zeros n := by
  have hdrop : (front ++ zeros (chunk.length + n)).drop (front.length + chunk.length)
      = zeros n := by
    rw [← List.drop_drop, List.drop_left, zeros_add, List.drop_left' (length_zeros _)]
  rw [overwrite_eq (by simp), List.take_left, hdrop]

end Bytes

namespace Channel

variable {σ : Type} {ch : Channel}

/-! ### All at once -/

/-- **The loop of a drain.** On a buffer that is zero from place `j` on, it does what copying the
elements one by one does, and lays the outputs end to end. -/
theorem Ring.copyOut_zeros (ring : ch.Ring) (copier : Copier σ) {is : List Nat}
    (slots : ∀ i ∈ is, i < ch.capacity) {j : Nat} {front : Bytes}
    (hfront : front.length = j * ch.elementSize) (s : σ) {each : Copier.CopiedEach σ}
    (heach : copier.copyEach ch.elementSize s (is.map ch.bytesAt) = each) {out : CopiedOut σ}
    (hout : ch.copyOut copier is j s (front ++ Bytes.zeros (is.length * ch.elementSize)) = out) :
    out.fault = each.fault ∧ out.calls = each.calls ∧ out.copier = each.state ∧
      (each.fault = none → out.bytes = front ++ each.outputs.flatten) := by
  induction is generalizing j front s each out with
  | nil =>
    subst heach hout
    exact ⟨rfl, rfl, rfl, fun _ => by simp [copyOut, Copier.copyEach, Bytes.zeros]⟩
  | cons i is ih =>
    have hi : i < ch.capacity := slots i List.mem_cons_self
    have hsplit : (i :: is).length * ch.elementSize
        = ch.elementSize + is.length * ch.elementSize := by
      rw [List.length_cons]
      ring
    have fits : j * ch.elementSize + ch.elementSize
        ≤ (front ++ Bytes.zeros ((i :: is).length * ch.elementSize)).length := by
      rw [List.length_append, Bytes.length_zeros, hsplit]
      omega
    have hcall : ch.drainCall i j (front ++ Bytes.zeros ((i :: is).length * ch.elementSize))
        = ⟨ch.elementSize, Bytes.zeros ch.elementSize, ch.bytesAt i⟩ := by
      rw [drainCall, ← hfront, hsplit, Bytes.window_append_zeros]
    rw [ring.copyOut_cons copier hi is s fits, hcall] at hout
    rw [List.map_cons] at heach
    generalize hcopied : copier.copy s ⟨ch.elementSize, Bytes.zeros ch.elementSize, ch.bytesAt i⟩
      = copied at hout
    have hlen : copied.target.length = ch.elementSize := by
      rw [← hcopied, copier.length_target]
      exact Bytes.length_zeros _
    cases hfault : copied.fault with
    | some fault =>
      rw [Copier.copyEach_cons_of_some (by rw [hcopied, hfault])] at heach
      simp only [hfault] at hout
      subst heach hout hcopied
      exact ⟨rfl, rfl, rfl, fun h => by cases h⟩
    | none =>
      rw [Copier.copyEach_cons_of_none (by rw [hcopied, hfault]), hcopied] at heach
      simp only [hfault] at hout
      rw [← hfront, hsplit, ← hlen, Bytes.overwrite_append_zeros, hlen] at hout
      have hfront' : (front ++ copied.target).length = (j + 1) * ch.elementSize := by
        rw [List.length_append, hfront, hlen]
        ring
      obtain ⟨hfaults, hcalls, hstate, hbytes⟩ :=
        ih (fun k hk => slots k (List.mem_cons_of_mem i hk)) hfront' copied.state rfl rfl
      subst heach hout
      refine ⟨hfaults, congrArg (_ :: ·) hcalls, hstate, fun h => ?_⟩
      rw [List.flatten_cons, ← List.append_assoc]
      exact hbytes h

/-- A drain, given what copying the elements one by one comes to. -/
theorem Ring.drain_of_copyEach (ring : ch.Ring)
    (allocatable : ch.capacity * ch.elementSize ≤ Allocator.limit) (buffered : 0 < ch.capacity)
    {minimum : Nat} (enough : minimum ≤ ch.count) (copier : Copier σ) (s : σ)
    {each : Copier.CopiedEach σ}
    (heach : copier.copyEach ch.elementSize s ch.elements = each) {r : Step σ Empty (Option Batch)}
    (hr : ch.drain copier s minimum Allocator.heap = r) :
    r.copier = each.state ∧ r.effects.calls = each.calls ∧
      match each.fault with
      | some fault => r.outcome = .fault fault
      | none => r.outcome = .ok (some ⟨each.outputs.flatten, ch.elementSize, ch.count⟩) ∧
          r.channel = ch.emptied := by
  have hheap := ring.heap_request allocatable
  have hzeros : ([] : Bytes) ++ Bytes.zeros (ch.occupied.length * ch.elementSize)
      = Bytes.zeros (ch.count * ch.elementSize) := by
    rw [ring.length_occupied, List.nil_append]
  rw [← ring.map_bytesAt_occupied] at heach
  have hstart : ([] : Bytes).length = 0 * ch.elementSize := by rw [Nat.zero_mul, List.length_nil]
  obtain ⟨hfault, hcalls, hstate, hbytes⟩ :=
    ring.copyOut_zeros copier (ring.occupied_lt buffered) hstart s heach rfl
  rw [hzeros] at hfault hcalls hstate hbytes
  have exit := drain_exit copier s ch minimum Allocator.heap
  rw [hr] at exit
  cases exit with
  | tooFew h => exact absurd h (Nat.not_lt.mpr enough)
  | noBuffer _ fault h =>
    rw [hheap] at h
    cases h
  | unbuffered _ _ _ h => omega
  | cutShort _ bytes allocated _ fault h =>
    obtain rfl : Bytes.zeros (ch.count * ch.elementSize) = bytes :=
      Except.ok.inj (hheap.symm.trans allocated)
    rw [← hfault, h]
    exact ⟨hstate, hcalls, rfl⟩
  | drained _ bytes allocated _ h =>
    obtain rfl : Bytes.zeros (ch.count * ch.elementSize) = bytes :=
      Except.ok.inj (hheap.symm.trans allocated)
    rw [h] at hfault
    rw [← hfault, hbytes hfault.symm]
    exact ⟨hstate, hcalls, rfl, rfl⟩

/-! ### One by one -/

/-- As many receives as the channel holds elements, each into a new output. -/
def receives (ch : Channel) : List Operation :=
  List.replicate ch.count (.receive (Bytes.zeros ch.elementSize))

theorem receives_eq_cons (some_left : 0 < ch.count) :
    ch.receives = .receive (Bytes.zeros ch.elementSize) :: ch.popped.receives := by
  obtain ⟨n, hn⟩ := Nat.exists_eq_add_of_le' some_left
  have hcount : ch.popped.count = n := by
    change ch.count - 1 = n
    omega
  rw [receives, receives, hcount, hn, List.replicate_succ]
  rfl

theorem Ring.perform_receive_of_none (ring : ch.Ring) (some_left : 0 < ch.count)
    {copier : Copier σ} {s : σ} {out : Bytes} (sized : out.length = ch.elementSize)
    (h : (copier.copy s (ch.receiveCall out)).fault = none) :
    ch.perform copier s (.receive out) =
      ⟨.received (.ok ()) (copier.copy s (ch.receiveCall out)).target, ch.popped,
        (copier.copy s (ch.receiveCall out)).state, { calls := [ch.receiveCall out] }⟩ := by
  have exit := ring.receive_exit copier s out
  simp only [perform]
  generalize ch.receive copier s out = r at exit
  cases exit with
  | wrongLength hlen => exact absurd sized hlen
  | empty _ hzero => omega
  | cutShort _ _ fault hfault =>
    rw [h] at hfault
    cases hfault
  | received => rfl

theorem Ring.result_receive_of_some (ring : ch.Ring) (some_left : 0 < ch.count)
    {copier : Copier σ} {s : σ} {out : Bytes} (sized : out.length = ch.elementSize) {fault : Fault}
    (h : (copier.copy s (ch.receiveCall out)).fault = some fault) :
    (ch.perform copier s (.receive out)).result =
      .received (.fault fault) (copier.copy s (ch.receiveCall out)).target := by
  have exit := ring.receive_exit copier s out
  simp only [perform]
  generalize ch.receive copier s out = r at exit
  cases exit with
  | wrongLength hlen => exact absurd sized hlen
  | empty _ hzero => omega
  | cutShort _ _ fault' hfault =>
    obtain rfl := Option.some.inj (h.symm.trans hfault)
    rfl
  | received _ _ hfault =>
    rw [h] at hfault
    cases hfault

/-- **The receives.** If no copy faults, they do what copying the elements one by one does, and
leave the receive index where the send index is. -/
theorem Ring.performAll_receives (ring : ch.Ring) (buffered : 0 < ch.capacity) (copier : Copier σ)
    (s : σ) {each : Copier.CopiedEach σ}
    (heach : copier.copyEach ch.elementSize s ch.elements = each) (h : each.fault = none) :
    ch.performAll copier s ch.receives =
      ⟨each.outputs.map fun out => .received (.ok ()) out,
        { ch with receiveIndex := ch.position ch.count, count := 0 }, each.state,
        { calls := each.calls }⟩ := by
  induction hn : ch.count generalizing ch s each with
  | zero =>
    have hnil : ch.elements = [] := List.eq_nil_of_length_eq_zero (by simpa using hn)
    have hnone : ch.receives = [] := by rw [receives, hn, List.replicate_zero]
    rw [hnil] at heach
    subst heach
    rw [hnone, ring.position_zero buffered, ← hn]
    rfl
  | succ n ih =>
    have some_left : 0 < ch.count := by omega
    have hcount : ch.popped.count = n := by
      change ch.count - 1 = n
      omega
    rw [ring.elements_eq_cons some_left] at heach
    cases hfault : (copier.copy s (ch.receiveCall (Bytes.zeros ch.elementSize))).fault with
    | some fault =>
      rw [Copier.copyEach_cons_of_some hfault] at heach
      subst heach
      cases h
    | none =>
      rw [Copier.copyEach_cons_of_none hfault] at heach
      subst heach
      have hrest := ih (ring.popped some_left) buffered
        (copier.copy s (ch.receiveCall (Bytes.zeros ch.elementSize))).state rfl h hcount
      rw [receives_eq_cons some_left, performAll,
        ring.perform_receive_of_none some_left (Bytes.length_zeros _) hfault]
      simp only
      rw [hrest, position_popped]
      rfl

/-- If a copy faults, one of the receives does. -/
theorem Ring.fault_mem_receives (ring : ch.Ring) (copier : Copier σ) (s : σ) {fault : Fault}
    (h : (copier.copyEach ch.elementSize s ch.elements).fault = some fault) :
    ∃ out, .received (.fault fault) out ∈ (ch.performAll copier s ch.receives).results := by
  induction hn : ch.count generalizing ch s with
  | zero =>
    have hnil : ch.elements = [] := List.eq_nil_of_length_eq_zero (by simpa using hn)
    rw [hnil] at h
    cases h
  | succ n ih =>
    have some_left : 0 < ch.count := by omega
    have hcount : ch.popped.count = n := by
      change ch.count - 1 = n
      omega
    rw [receives_eq_cons some_left, performAll]
    rw [ring.elements_eq_cons some_left] at h
    cases hfault : (copier.copy s (ch.receiveCall (Bytes.zeros ch.elementSize))).fault with
    | some fault' =>
      rw [Copier.copyEach_cons_of_some hfault] at h
      obtain rfl : fault' = fault := Option.some.inj h
      have hresult := ring.result_receive_of_some some_left (Bytes.length_zeros _) hfault
      exact ⟨_, List.mem_cons.mpr (.inl hresult.symm)⟩
    | none =>
      rw [Copier.copyEach_cons_of_none hfault] at h
      rw [ring.perform_receive_of_none some_left (Bytes.length_zeros _) hfault]
      obtain ⟨out, hout⟩ := ih (ring.popped some_left) _ h hcount
      exact ⟨out, List.mem_cons_of_mem _ hout⟩

/-! ### Both -/

/-- **Taking all elements at once is taking them one by one.** Let a buffered channel that came
about in any way hold at least `minimum` elements, and let its copier be in any state. Drain it, or
receive once for each element into a new output of zero bytes. If one of the two gets through
without a fault, so does the other, and

* the elements of the batch are the outputs of the receives, in order, and nothing else is in the
  batch;
* the same requests are made to the copier, in the same order, and leave it in the same state;
* both empty the channel and change nothing else but the indices: a drain leaves these at the start
  of the buffer, the receives where the next element would have gone. -/
theorem Reachable.drain_eq_receives (reachable : ch.Reachable) (buffered : 1 ≤ ch.capacity)
    {minimum : Nat} (enough : minimum ≤ ch.count) (copier : Copier σ) (s : σ)
    {drained : Step σ Empty (Option Batch)}
    (hdrained : ch.drain copier s minimum Allocator.heap = drained)
    {run : Run σ} (hrun : ch.performAll copier s ch.receives = run)
    (faultless : (∀ fault, drained.outcome ≠ .fault fault) ∨
      ∀ fault out, .received (.fault fault) out ∉ run.results) :
    ∃ items : List Bytes,
      items.length = ch.count ∧
      drained.outcome = .ok (some ⟨items.flatten, ch.elementSize, ch.count⟩) ∧
      Batch.items ⟨items.flatten, ch.elementSize, ch.count⟩ = .ok items ∧
      run.results = items.map (fun item => .received (.ok ()) item) ∧
      drained.effects.calls = run.effects.calls ∧ drained.copier = run.copier ∧
      drained.channel = { ch with count := 0, sendIndex := 0, receiveIndex := 0 } ∧
      run.channel =
        { ch with
          count := 0
          sendIndex := (ch.receiveIndex + ch.count) % ch.capacity
          receiveIndex := (ch.receiveIndex + ch.count) % ch.capacity } := by
  have ring := reachable.ring
  obtain ⟨hstate, hcalls, hends⟩ :=
    ring.drain_of_copyEach reachable.allocatable buffered enough copier s rfl hdrained
  have hnone : (copier.copyEach ch.elementSize s ch.elements).fault = none := by
    cases hfault : (copier.copyEach ch.elementSize s ch.elements).fault with
    | none => rfl
    | some fault =>
      rw [hfault] at hends
      rcases faultless with h | h
      · exact absurd hends (h fault)
      · obtain ⟨out, hout⟩ := ring.fault_mem_receives copier s hfault
        rw [hrun] at hout
        exact absurd hout (h fault out)
  have hreceives := ring.performAll_receives buffered copier s rfl hnone
  rw [hrun] at hreceives
  rw [hnone] at hends
  have hlength := Copier.length_outputs hnone
  rw [length_elements] at hlength
  have hsized : ∀ out ∈ (copier.copyEach ch.elementSize s ch.elements).outputs,
      out.length = ch.elementSize := fun _ hout => Copier.length_of_mem_outputs hout
  have hitems := Batch.items_flatten [] hsized
  rw [List.append_nil, hlength] at hitems
  refine ⟨_, hlength, hends.1, hitems, ?_, ?_, ?_, hends.2, ?_⟩
  · rw [hreceives]
  · rw [hcalls, hreceives]
  · rw [hstate, hreceives]
  · rw [ring.wraps buffered, hreceives, ring.position_count buffered]

/-- A full ring whose oldest element is in the middle of the buffer, and a copier that adds to each
element the number of its earlier calls. -/
theorem Reachable.drain_eq_receives_counting :
    ∃ (ch : Channel) (items : List Bytes), ch.Reachable ∧ 1 ≤ ch.capacity ∧ 2 ≤ ch.count ∧
      ch.indices = ⟨1, 1⟩ ∧ ch.elements = [[6], [7], [8]] ∧
      (∀ fault, (ch.drain Copier.counting 0 2 Allocator.heap).outcome ≠ .fault fault) ∧
      (ch.drain Copier.counting 0 2 Allocator.heap).outcome
        = .ok (some ⟨items.flatten, ch.elementSize, ch.count⟩) ∧
      (ch.performAll Copier.counting 0 ch.receives).results
        = items.map (fun item => .received (.ok ()) item) ∧
      items.flatten = [6, 8, 10] := by
  let ops : List Operation := [.send [5], .send [6], .send [7], .receive [0], .send [8]]
  have reachable : ((fresh 1 ⟨3, 1, 1⟩).performAll (Copier.plain Unit) () ops).channel.Reachable :=
    ⟨Unit, Copier.plain Unit, (), 1, ⟨3, 1, 1⟩, fresh 1 ⟨3, 1, 1⟩, ops, by decide, rfl⟩
  generalize hch : ((fresh 1 ⟨3, 1, 1⟩).performAll (Copier.plain Unit) () ops).channel = ch
    at reachable
  have hdrained : (ch.drain Copier.counting 0 2 Allocator.heap).outcome
      = .ok (some ⟨[6, 8, 10], 1, 3⟩) := by
    rw [← hch]
    decide
  have faultless : ∀ fault,
      (ch.drain Copier.counting 0 2 Allocator.heap).outcome ≠ .fault fault := by
    intro fault h
    rw [hdrained] at h
    cases h
  have buffered : 1 ≤ ch.capacity := by rw [← hch]; decide
  have enough : 2 ≤ ch.count := by rw [← hch]; decide
  obtain ⟨items, _, hbatch, _, hresults, _⟩ :=
    reachable.drain_eq_receives buffered enough Copier.counting 0 rfl rfl (.inl faultless)
  refine ⟨ch, items, reachable, buffered, enough, ?_, ?_, faultless, hbatch, hresults, ?_⟩
  · rw [← hch]
    decide
  · rw [← hch]
    decide
  · have hbytes := hbatch.symm.trans hdrained
    exact congrArg Batch.bytes (Option.some.inj (Outcome.ok.inj hbytes))

end Channel

end ByteChannel
