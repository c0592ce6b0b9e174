import ByteChannel.Proofs.Programs

/-!
# Inspections

An inspection hands its report to a sink, and the sink may use the channel it is told about: send,
receive, drain, close, or inspect it again with another sink. By the time the inspection answers,
its report may be out of date, and it is meant to be. What holds is that an inspection is nothing
but a snapshot, and that the sink's steps follow it.

The reports themselves tell of a ring, since that is what a channel is after any run.

## Main results

* `Channel.Ring.isRing_of_reported` — what the reports of a run look like
* `Channel.Reachable.inspect_eq_snapshot_then_sink` — inspections
-/

namespace ByteChannel

/-! ### Reports -/

/-- What a report on a buffered channel shows: no more elements than it can hold, and a next slot
that follows the newest one. -/
def Report.IsRing (report : Report) : Prop :=
  report.count ≤ report.capacity ∧
    ∃ indices, report.indices = some indices ∧
      (indices.receive + report.count) % report.capacity = indices.send

namespace Channel

variable {σ : Type} {ch : Channel}

/-- A report has the caller's tag and the numbers of the channel as it is. It tells the indices
exactly if there are slots. -/
theorem snapshot_eq (ch : Channel) (tag : Nat) :
    ch.snapshot tag =
      { tag, channelId := ch.id, capacity := ch.capacity, elementSize := ch.elementSize,
        count := ch.count,
        indices := if 1 ≤ ch.capacity then some ⟨ch.receiveIndex, ch.sendIndex⟩ else none } := by
  by_cases h : 1 ≤ ch.capacity
  · rw [snapshot, if_neg (Nat.not_lt.mpr h), if_pos h, indices]
  · rw [snapshot, if_pos (Nat.not_le.mp h), if_neg h]

theorem Ring.isRing_snapshot (ring : ch.Ring) (buffered : 1 ≤ ch.capacity) (tag : Nat) :
    (ch.snapshot tag).IsRing := by
  rw [snapshot_eq, if_pos buffered]
  exact ⟨ring.count_le, _, rfl, ring.wraps buffered⟩

/-- All reports of a run of a buffered channel are of that kind. -/
theorem Ring.isRing_of_reported (ring : ch.Ring) (buffered : 1 ≤ ch.capacity) (copier : Copier σ)
    (s : σ) (ops : List Operation) {report : Report}
    (h : .reported report ∈ (ch.performAll copier s ops).results) : report.IsRing := by
  induction ops generalizing ch s with
  | nil => cases h
  | cons op ops ih =>
    rcases List.mem_cons.mp h with h | h
    · cases op with
      | snapshot tag =>
        obtain rfl : report = ch.snapshot tag := Result.reported.inj h
        exact ring.isRing_snapshot buffered tag
      | send | receive | close | drain | guarded | copy => cases h
    · have moves := ring.moves_perform copier s op
      refine ih (moves.ring ring) ?_ _ h
      rw [capacity_of_shape_eq (Moves.shape_eq moves)]
      exact buffered

/-- Snapshots alone change nothing. -/
theorem performAll_of_snapshots (copier : Copier σ) (s : σ) (ch : Channel) {ops : List Operation}
    (looking : ∀ op ∈ ops, ∃ tag, op = .snapshot tag) :
    (ch.performAll copier s ops).channel = ch ∧ (ch.performAll copier s ops).copier = s := by
  induction ops with
  | nil => exact ⟨rfl, rfl⟩
  | cons op ops ih =>
    obtain ⟨tag, rfl⟩ := looking op List.mem_cons_self
    exact ih fun op h => looking op (List.mem_cons_of_mem _ h)

/-! ### Inspections -/

/-- **An inspection is a snapshot, and then its sink.** Let a channel have come about in any way,
its copier be any, and let the sink of an inspection go through any program, however deeply nested.

* The inspection answers a report with the caller's tag and the numbers of the channel as it was at
  the call, the indices among them exactly if it is buffered. The sink is given the same report, and
  so is the sink of every inspection within the program.
* The program's steps, those of nested sinks included, end as they do in one row with a snapshot in
  the place of each inspection, and leave the same channel, the same state of the copier and the
  same effects behind.
* If the sink does nothing but look, the channel is as it was.
* On a buffered channel every report counts no more elements than there are slots, and its send
  index follows them around the ring.
* A session that inspects the channel, and passes the report to commands that ask for the program,
  answers that report and goes through the program. -/
theorem Reachable.inspect_eq_snapshot_then_sink (reachable : ch.Reachable) (copier : Copier σ)
    (s : σ) (tag : Nat) (program : Program) {report seen : Report} {played : Program.Played σ}
    (inspected : ch.inspect tag (program.sink copier) (ch, s) = ⟨report, seen, played⟩)
    {run : Run σ} (ran : ch.performAll copier s program.flatten = run) :
    report =
      { tag, channelId := ch.id, capacity := ch.capacity, elementSize := ch.elementSize,
        count := ch.count,
        indices := if 1 ≤ ch.capacity then some ⟨ch.receiveIndex, ch.sendIndex⟩ else none } ∧
    seen = report ∧
    (∀ handover ∈ played.transcript.handovers, handover.2 = handover.1) ∧
    played.transcript.results = run.results ∧ played.channel = run.channel ∧
    played.copier = run.copier ∧ played.effects = run.effects ∧
    ((∀ op ∈ program.flatten, ∃ tag, op = .snapshot tag) → played.channel = ch) ∧
    (1 ≤ ch.capacity →
      report.IsRing ∧ ∀ inner, .reported inner ∈ played.transcript.results → inner.IsRing) ∧
    ∀ (session : Session) (name : String) (stock : StockCopier) (state : UInt8)
      (commands : List Session.Command),
      session.channels.get? name = some ⟨ch, stock, state⟩ →
      program.AskedBy name ch.elementSize session.guardAction commands →
      ∃ ran : Session.RanAll,
        Session.exec (.inspectWith name tag commands) session =
          ⟨.passed report seen ran.replies, ran.session, ran.recorded, ran.notices⟩ ∧
        session.Follows name stock (program.play stock.copier (ch, state)) ran := by
  have ring := reachable.ring
  obtain ⟨rfl, rfl, rfl⟩ : ch.snapshot tag = report ∧ ch.snapshot tag = seen ∧
      program.play copier (ch, s) = played := by
    simpa [inspect, Program.sink] using inspected
  have hflat := program.flat_play copier ch s
  rw [ran] at hflat
  have hresults : (program.play copier (ch, s)).transcript.results = run.results :=
    congrArg Run.results hflat
  have hchannel : (program.play copier (ch, s)).channel = run.channel := congrArg Run.channel hflat
  refine ⟨snapshot_eq ch tag, rfl, program.seen_eq_of_mem_handovers copier ch s, hresults, hchannel,
    congrArg Run.copier hflat, congrArg Run.effects hflat, ?_, ?_, ?_⟩
  · intro looking
    rw [hchannel, ← ran]
    exact (performAll_of_snapshots copier s ch looking).1
  · intro buffered
    refine ⟨ring.isRing_snapshot buffered tag, fun inner hinner => ?_⟩
    rw [hresults, ← ran] at hinner
    exact ring.isRing_of_reported buffered copier s program.flatten hinner
  · intro session name stock state commands found asked
    exact ⟨_, Session.exec_inspectWith found tag commands,
      Session.follows_of_askedBy asked ring found⟩

/-- Two slots, both taken and wrapped. The sink receives, and inspects with a sink that sends and
inspects once more with a sink that closes; afterwards it drains. Each report tells of the channel
in between. A sink that only inspects, twice over, leaves the channel as it was. -/
theorem Reachable.inspect_eq_snapshot_then_sink_nested :
    ∃ (ch : Channel) (report seen : Report) (played : Program.Played Unit), ch.Reachable ∧
      ch.inspect 5 (Program.sink (Copier.plain Unit)
        (.operate (.receive [0]) (.inspect 6
          (.operate (.send [4]) (.inspect 7 (.operate .close .done) .done))
          (.operate (.drain 1 Allocator.heap) .done)))) (ch, ()) = ⟨report, seen, played⟩ ∧
      report = ⟨5, 1, 2, 1, 2, some ⟨1, 1⟩⟩ ∧ seen = report ∧ report.IsRing ∧
      played.transcript.results =
        [.received (.ok ()) [2], .reported ⟨6, 1, 2, 1, 1, some ⟨0, 1⟩⟩, .sent (.ok ()),
          .reported ⟨7, 1, 2, 1, 2, some ⟨0, 0⟩⟩, .closed (.ok []),
          .drained (.ok (some ⟨[3, 4], 1, 2⟩))] ∧
      played.channel.count = 0 ∧ played.channel.closed = true ∧
      (∃ inner, (Session.exec (.inspectWith "jobs" 5
        [.receive "jobs" 0 (some 1),
          .inspectWith "jobs" 6 [.send "jobs" [4], .inspectWith "jobs" 7 [.close "jobs"]],
          .drain "jobs" 1 .heap []])
        { channels := [("jobs", ⟨ch, .plain, 0⟩)] }).reply = .passed report seen inner) ∧
      (ch.inspect 5 (Program.sink (Copier.plain Unit) (.inspect 6 (.inspect 7 .done .done) .done))
        (ch, ())).emitted.2.channel = ch := by
  let before : List Operation := [.send [1], .send [2], .receive [0], .send [3]]
  have reachable :
      ((fresh 1 ⟨2, 1, 1⟩).performAll (Copier.plain Unit) () before).channel.Reachable :=
    ⟨Unit, Copier.plain Unit, (), 1, ⟨2, 1, 1⟩, fresh 1 ⟨2, 1, 1⟩, before, by decide, rfl⟩
  generalize hch : ((fresh 1 ⟨2, 1, 1⟩).performAll (Copier.plain Unit) () before).channel = ch
    at reachable
  obtain ⟨hreport, hseen, -, hresults, hchannel, -, -, -, hring, hsession⟩ :=
    reachable.inspect_eq_snapshot_then_sink (Copier.plain Unit) () 5
      (.operate (.receive [0]) (.inspect 6
        (.operate (.send [4]) (.inspect 7 (.operate .close .done) .done))
        (.operate (.drain 1 Allocator.heap) .done))) rfl rfl
  obtain ⟨-, -, -, -, -, -, -, hlooking, -⟩ :=
    reachable.inspect_eq_snapshot_then_sink (Copier.plain Unit) () 5
      (.inspect 6 (.inspect 7 .done .done) .done) rfl rfl
  refine ⟨ch, _, _, _, reachable, rfl, ?_, hseen, (hring ?_).1, ?_, ?_, ?_, ?_, ?_⟩
  · rw [hreport, ← hch]; decide
  · rw [← hch]; decide
  · rw [hresults, ← hch]; decide
  · rw [hchannel, ← hch]; decide
  · rw [hchannel, ← hch]; decide
  · obtain ⟨ran, hran, -⟩ := hsession { channels := [("jobs", ⟨ch, .plain, 0⟩)] } "jobs" .plain 0 _
      rfl (.operate (.receive 0 (some 1)) (.inspect (.operate (.send [4]) (.inspect
        (.operate .close .done) .done)) (.operate (.drain 1 .heap []) .done)))
    exact ⟨ran.replies, congrArg Session.Ran.reply hran⟩
  · exact hlooking (by simp [Program.flatten])

end Channel

end ByteChannel
