import ByteChannel.Proofs.Reachable
import ByteChannel.Proofs.Turns
import ByteChannel.Session.Basic

/-!
# Programs of sinks

The sink of an inspection may use the channel it is told about. A *program* says what it does: a
sequence of operations and inspections, where each inspection has a program for its sink. Going
through a program nests as deep as the program does. `Program.flatten` writes its steps down in one
row, with a snapshot in the place of each inspection and the sink's steps after it, and a run of
that row gives the same results, the same channel and the same effects.

The induction is on the program, with the channel left open: a sink starts where the snapshot left
the channel, which is where it was, and what comes after an inspection starts where its sink ended.

A session runs such programs when the commands it passes to a sink are all about the channel that is
inspected. That it goes through them as described here is an induction on how the commands ask for
the program.

## Main definitions

* `Program`, `Program.play`, `Program.sink` — what a sink does
* `Transcript`, `Transcript.results`, `Transcript.handovers` — how that went
* `Program.flatten` — the same steps in one row
* `Program.AskedBy`, `Session.Follows` — programs as commands of a session

## Main results

* `Program.flat_play` — nested or in a row, it is the same run
* `Session.follows_of_askedBy` — a session goes through the program that its commands ask for
-/

namespace ByteChannel

/-! ### Programs -/

/-- What a sink does with the channel, one step after the other. -/
inductive Program where
  /-- Nothing more. -/
  | done
  /-- Do an operation first. -/
  | operate (op : Operation) (rest : Program)
  /-- Inspect the channel first, with a sink that goes through a program of its own. -/
  | inspect (tag : Nat) (sink rest : Program)

/-- How the steps of a program ended. -/
inductive Transcript where
  /-- There were no more steps. -/
  | done
  /-- An operation ended. -/
  | ended (result : Result) (rest : Transcript)
  /-- An inspection answered `report`, its sink having been given `seen` and gone through the steps
  `inner`. -/
  | inspected (report seen : Report) (inner rest : Transcript)

namespace Transcript

/-- All results in the order of the steps, an inspection's report before what its sink did. -/
def results : Transcript → List Result
  | done => []
  | ended result rest => result :: rest.results
  | inspected report _ inner rest => .reported report :: (inner.results ++ rest.results)

/-- The reports that inspections answered, at any depth, each with the one that the sink was given.
-/
def handovers : Transcript → List (Report × Report)
  | done => []
  | ended _ rest => rest.handovers
  | inspected report seen inner rest => (report, seen) :: (inner.handovers ++ rest.handovers)

end Transcript

namespace Program

variable {σ : Type}

/-- What going through a program leaves behind. -/
structure Played (σ : Type) where
  /-- How the steps ended. -/
  transcript : Transcript
  /-- The channel afterwards. -/
  channel : Channel
  /-- The copier's state afterwards. -/
  copier : σ
  /-- What the steps did on the way. -/
  effects : Effects

/-- Go through a program. The world of a sink is the channel and the state of its copier.

Each operation is a section of its own under the channel's lock, and so is the snapshot of an
inspection. No section is open while a sink runs: the one of the snapshot has ended before it is
called. A fault ends the step it happens in and no other. What the step had done stays done, the
transcript says how it ended, and the program goes on with its next step, in a sink as outside. -/
def play (copier : Copier σ) : Program → Channel × σ → Played σ
  | done, (ch, s) => ⟨.done, ch, s, {}⟩
  | operate op rest, (ch, s) =>
    let first := ch.perform copier s op
    let later := rest.play copier (first.channel, first.copier)
    ⟨.ended first.result later.transcript, later.channel, later.copier,
      first.effects ++ later.effects⟩
  | inspect tag sink rest, (ch, s) =>
    let inspected := ch.inspect tag (fun seen world => (seen, sink.play copier world)) (ch, s)
    let (seen, inner) := inspected.emitted
    let later := rest.play copier (inner.channel, inner.copier)
    ⟨.inspected inspected.report seen inner.transcript later.transcript, later.channel,
      later.copier, inner.effects ++ later.effects⟩

/-- The sink that goes through a program, and remembers the report it was given. -/
def sink (copier : Copier σ) (program : Program) (seen : Report) (world : Channel × σ) :
    Report × Played σ :=
  (seen, program.play copier world)

/-- The steps in one row. -/
def flatten : Program → List Operation
  | done => []
  | operate op rest => op :: rest.flatten
  | inspect tag sink rest => .snapshot tag :: (sink.flatten ++ rest.flatten)

/-- What a run in one row would have left behind. -/
def Played.flat (played : Played σ) : Channel.Run σ :=
  ⟨played.transcript.results, played.channel, played.copier, played.effects⟩

/-! ### Nested or in a row -/

/-- **Nested or in a row**, it is the same run. -/
theorem flat_play (copier : Copier σ) (program : Program) (ch : Channel) (s : σ) :
    (program.play copier (ch, s)).flat = ch.performAll copier s program.flatten := by
  induction program generalizing ch s with
  | done => rfl
  | operate op rest ih =>
    have hrest := ih (ch.perform copier s op).channel (ch.perform copier s op).copier
    rw [flatten, Channel.performAll, ← hrest]
    rfl
  | inspect tag sink rest ihsink ihrest =>
    have hsink := ihsink ch s
    have hrest := ihrest (sink.play copier (ch, s)).channel (sink.play copier (ch, s)).copier
    -- the snapshot leaves the channel as it is, so the sink starts from it
    have hsnapshot : ch.performAll copier s (.snapshot tag :: (sink.flatten ++ rest.flatten)) =
        let run := ch.performAll copier s (sink.flatten ++ rest.flatten)
        { run with results := .reported (ch.snapshot tag) :: run.results } := rfl
    rw [flatten, hsnapshot, Channel.performAll_append, ← hsink]
    simp only [Played.flat] at hrest ⊢
    rw [← hrest]
    rfl

/-- At every depth, a sink is given the report that its inspection answers. -/
theorem seen_eq_of_mem_handovers (copier : Copier σ) (program : Program) (ch : Channel) (s : σ) :
    ∀ handover ∈ (program.play copier (ch, s)).transcript.handovers,
      handover.2 = handover.1 := by
  induction program generalizing ch s with
  | done =>
    intro handover h
    cases h
  | operate op rest ih => exact ih _ _
  | inspect tag sink rest ihsink ihrest =>
    intro handover h
    rcases List.mem_cons.mp h with rfl | h
    · rfl
    · rcases List.mem_append.mp h with h | h
      · exact ihsink ch s handover h
      · exact ihrest _ _ handover h

/-- Going through a program makes moves only. -/
theorem moves_play {ch : Channel} (ring : ch.Ring) (copier : Copier σ) (s : σ)
    (program : Program) : Channel.Moves ch (program.play copier (ch, s)).channel := by
  have hchannel := congrArg Channel.Run.channel (program.flat_play copier ch s)
  rw [show (program.play copier (ch, s)).channel = _ from hchannel]
  exact ring.moves_performAll copier s program.flatten

end Program

/-! ### Programs as commands of a session -/

open Session

/-- A command asks for an operation on the channel `name`, whose elements have `size` bytes, where
`resolve` finds what goes by a name inside a guarded section. -/
inductive Session.Command.Asks (name : String) (size : Nat)
    (resolve : GuardCommand → Except String Channel.Action) : Command → Operation → Prop
  | send (element : Bytes) : Asks name size resolve (.send name element) (.send element)
  | receive (fill : UInt8) (length : Option Nat) :
    Asks name size resolve (.receive name fill length)
      (.receive (List.replicate (length.getD size) fill))
  | close : Asks name size resolve (.close name) .close
  | copy (call : CopyCall) : Asks name size resolve (.copy name call) (.copy call)
  | drain (minimum : Nat) (allocator : AllocatorName) (look : List Nat) :
    Asks name size resolve (.drain name minimum allocator look)
      (.drain minimum allocator.allocator)
  | guarded (commands : List GuardCommand) (actions : List Channel.Action)
      (resolved : commands.mapM resolve = .ok actions) :
    Asks name size resolve (.guarded name commands) (.guarded actions)

/-- Commands ask for a program. -/
inductive Program.AskedBy (name : String) (size : Nat)
    (resolve : GuardCommand → Except String Channel.Action) : Program → List Command → Prop
  | done : AskedBy name size resolve .done []
  | operate {op : Operation} {rest : Program} {command : Command} {commands : List Command}
      (asks : command.Asks name size resolve op)
      (later : AskedBy name size resolve rest commands) :
    AskedBy name size resolve (.operate op rest) (command :: commands)
  | inspect {tag : Nat} {sink rest : Program} {nested commands : List Command}
      (inner : AskedBy name size resolve sink nested)
      (later : AskedBy name size resolve rest commands) :
    AskedBy name size resolve (.inspect tag sink rest) (.inspectWith name tag nested :: commands)

/-- Replies show how the steps of a program ended. -/
inductive Transcript.ShownBy : Transcript → List (Session.Reply × Option Standing) → Prop
  | done : ShownBy .done []
  | ended {result : Result} {rest : Transcript} {replies : List (Session.Reply × Option Standing)}
      (look : List Nat) (effects : Effects) (standing : Option Standing)
      (later : ShownBy rest replies) :
    ShownBy (.ended result rest) ((replyOf look result effects, standing) :: replies)
  | inspected {report seen : Report} {inner rest : Transcript}
      {nested replies : List (Session.Reply × Option Standing)} (standing : Option Standing)
      (within : ShownBy inner nested) (later : ShownBy rest replies) :
    ShownBy (.inspected report seen inner rest) ((.passed report seen nested, standing) :: replies)

namespace Session

/-- Running commands in a session, where `name` goes for a channel with the copier `stock`, went as
going through a program did. -/
structure Follows (s : Session) (name : String) (stock : StockCopier)
    (played : Program.Played UInt8) (ran : RanAll) : Prop where
  /-- The replies show how its steps ended. -/
  shown : played.transcript.ShownBy ran.replies
  /-- The channel and the state of its copier are the same afterwards. -/
  installed : ran.session.channels.get? name = some ⟨played.channel, stock, played.copier⟩
  /-- Other names stand for what they did. -/
  resolves : ran.session.guardAction = s.guardAction
  /-- The same is on record. -/
  notices : ran.notices = played.effects.notices
  /-- The same copies were made. -/
  recorded : ran.recorded = if stock = .recording then played.effects.calls else []

variable {s : Session} {name : String} {ch : Channel} {stock : StockCopier} {state : UInt8}

/-- What goes by a name inside a guarded section has nothing to do with the channels. -/
theorem guardAction_congr_channels (s : Session) (channels : Names Installed) :
    { s with channels }.guardAction = s.guardAction := by
  have hqueue : { s with channels }.queueAction = s.queueAction := by
    funext command
    cases command <;> rfl
  funext command
  cases command with
  | look | slot | slots | setSlot => rfl
  | senders command | receivers command => simp only [guardAction, hqueue]

theorem withChannel_of_found (found : s.channels.get? name = some ⟨ch, stock, state⟩)
    (use : Installed → Ran) : s.withChannel name use = use ⟨ch, stock, state⟩ := by
  rw [withChannel, found]

/-- A command that asks for an operation is such an operation on the channel of that name. -/
theorem Command.Asks.exec_eq_operate {command : Command} {op : Operation}
    (asks : command.Asks name ch.elementSize s.guardAction op) :
    ∃ operation look, exec command s = s.operate name operation (replyOf look) ∧
      operation ch = .ok op := by
  cases asks with
  | send element => exact ⟨fun _ => .ok (.send element), [], rfl, rfl⟩
  | receive fill length =>
    exact ⟨fun ch => .ok (.receive (List.replicate (length.getD ch.elementSize) fill)), [], rfl,
      rfl⟩
  | close => exact ⟨fun _ => .ok .close, [], rfl, rfl⟩
  | copy call => exact ⟨fun _ => .ok (.copy call), [], rfl, rfl⟩
  | drain minimum allocator look =>
    exact ⟨fun _ => .ok (.drain minimum allocator.allocator), look, rfl, rfl⟩
  | guarded commands actions resolved =>
    refine ⟨fun _ => (commands.mapM s.guardAction).map .guarded, [], rfl, ?_⟩
    rw [resolved]
    rfl

/-- The operation is done, and the channel of that name is what it leaves behind. -/
theorem Command.Asks.exec_eq {command : Command} {op : Operation}
    (asks : command.Asks name ch.elementSize s.guardAction op)
    (found : s.channels.get? name = some ⟨ch, stock, state⟩) :
    let done := ch.perform stock.copier state op
    ∃ look, exec command s =
      { reply := replyOf look done.result done.effects
        session := { s with channels := s.channels.put name ⟨done.channel, stock, done.copier⟩ }
        recorded := if stock = .recording then done.effects.calls else []
        notices := done.effects.notices } := by
  obtain ⟨operation, look, hexec, hoperation⟩ := asks.exec_eq_operate
  refine ⟨look, ?_⟩
  rw [hexec, operate, withChannel_of_found found]
  simp only [hoperation]

/-- An inspection takes its report, and the commands it passes run from where it started. -/
theorem exec_inspectWith (found : s.channels.get? name = some ⟨ch, stock, state⟩) (tag : Nat)
    (commands : List Command) :
    exec (.inspectWith name tag commands) s =
      let inner := execAll commands s
      ⟨.passed (ch.snapshot tag) (ch.snapshot tag) inner.replies, inner.session, inner.recorded,
        inner.notices⟩ := by
  have hexec : exec (.inspectWith name tag commands) s = s.withChannel name _ := rfl
  rw [hexec, withChannel_of_found found]
  rfl

/-- Commands run one after the other, each in the session that the one before it left behind. -/
theorem execAll_cons (command : Command) (commands : List Command) (s : Session) :
    execAll (command :: commands) s =
      let first := exec command s
      let rest := execAll commands first.session
      ⟨(first.reply, first.session.standing? command) :: rest.replies, rest.session,
        first.recorded ++ rest.recorded, first.notices ++ rest.notices⟩ :=
  rfl

theorem recorded_append (stock : StockCopier) (first later : Effects) :
    (if stock = .recording then first.calls else []) ++
        (if stock = .recording then later.calls else []) =
      if stock = .recording then (first ++ later).calls else [] := by
  split <;> rfl

/-- **A session goes through the program that its commands ask for.** -/
theorem follows_of_askedBy {program : Program} {commands : List Command}
    (asked : program.AskedBy name ch.elementSize s.guardAction commands) (ring : ch.Ring)
    (found : s.channels.get? name = some ⟨ch, stock, state⟩) :
    s.Follows name stock (program.play stock.copier (ch, state)) (execAll commands s) := by
  -- the size and the names are fixed along the run, the channel and the session are not
  generalize hsize : ch.elementSize = size at asked
  generalize hresolve : s.guardAction = resolve at asked
  induction asked generalizing s ch state with
  | done => exact ⟨.done, found, rfl, rfl, (ite_self _).symm⟩
  | @operate op rest command commands asks later ih =>
    rw [← hsize, ← hresolve] at asks
    obtain ⟨look, hexec⟩ := asks.exec_eq found
    have moves := ring.moves_perform stock.copier state op
    have hnames := guardAction_congr_channels s (s.channels.put name
      ⟨(ch.perform stock.copier state op).channel, stock,
        (ch.perform stock.copier state op).copier⟩)
    have follows := ih (moves.ring ring) (Names.get?_put_self s.channels name _)
      ((Channel.elementSize_of_shape_eq moves.shape_eq).trans hsize) (hnames.trans hresolve)
    rw [execAll_cons, hexec]
    refine ⟨.ended look _ _ follows.shown, follows.installed, follows.resolves.trans hnames, ?_, ?_⟩
    · exact congrArg _ follows.notices
    · exact (congrArg _ follows.recorded).trans (recorded_append stock _ _)
  | @inspect tag sink rest nested commands inner later ihinner ihlater =>
    have within := ihinner ring found hsize hresolve
    have moves := Program.moves_play ring stock.copier state sink
    have follows := ihlater (moves.ring ring) within.installed
      ((Channel.elementSize_of_shape_eq moves.shape_eq).trans hsize)
      (within.resolves.trans hresolve)
    rw [execAll_cons, exec_inspectWith found]
    refine ⟨.inspected _ within.shown follows.shown, follows.installed,
      follows.resolves.trans within.resolves, ?_, ?_⟩
    · exact congrArg₂ _ within.notices follows.notices
    · exact (congrArg₂ _ within.recorded follows.recorded).trans (recorded_append stock _ _)

end Session

end ByteChannel
