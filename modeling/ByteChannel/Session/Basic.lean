import ByteChannel.Session.Command
import ByteChannel.Text

/-!
# Sessions

A session is a world of named things, on which commands run one after the other. It starts empty; an
arena, a wait queue or a collection of reports comes into being when it is first used. Naming a
thing by a name in use takes the name away from what had it.

## Main definitions

* `Session.Names` — things that go by a name
* `Session` — the things there are
* `Session.exec`, `Session.execAll` — running commands
* `Session.run` — the answers to a list of commands, each with what was put on record meanwhile
-/

namespace ByteChannel

namespace Session

/-- Things and their names. -/
abbrev Names (α : Type) := List (String × α)

namespace Names

variable {α : Type}

/-- The thing of a name. -/
def get? (names : Names α) (name : String) : Option α :=
  names.lookup name

/-- Give a thing a name. -/
def put (names : Names α) (name : String) (thing : α) : Names α :=
  (name, thing) :: names.filter (·.1 != name)

@[simp] theorem get?_put_self (names : Names α) (name : String) (thing : α) :
    (names.put name thing).get? name = some thing := by
  simp [get?, put]

end Names

/-- A channel with the copier it was given. -/
structure Installed where
  /-- The channel. -/
  channel : Channel
  /-- Its copier. -/
  copier : StockCopier
  /-- The state of its copier. -/
  state : UInt8

end Session

/-- The named things of a session. -/
structure Session where
  /-- The giver of channel numbers. -/
  issuer : Issuer := ⟨0⟩
  /-- The channels. -/
  channels : Session.Names Session.Installed := []
  /-- The arenas. -/
  arenas : Session.Names (Arena String) := []
  /-- The wait queues outside channels. -/
  queues : Session.Names WaitQueue := []
  /-- The tasks, under the names they were registered by. -/
  tasks : Session.Names TaskRef := []
  /-- The collections of reports. -/
  sinks : Session.Names (List Report) := []

namespace Session

/-- What running a command leaves behind. -/
structure Ran where
  /-- How it ended. -/
  reply : Reply
  /-- The session afterwards. -/
  session : Session
  /-- The requests made to copiers that record them. -/
  recorded : List CopyCall := []
  /-- The notices. -/
  notices : List Notice := []

/-- The arena of a name, empty before its first use. -/
def arenaOf (s : Session) (name : String) : Arena String :=
  (s.arenas.get? name).getD .empty

/-- The wait queue of a name, empty before its first use. -/
def queueOf (s : Session) (name : String) : WaitQueue :=
  (s.queues.get? name).getD .empty

/-- The reports of a collection, none before its first use. -/
def reportsOf (s : Session) (name : String) : List Report :=
  (s.sinks.get? name).getD []

/-- The brief state of the channel a command is about, if it exists. -/
def standing? (s : Session) (c : Command) : Option Standing :=
  c.channel?.bind fun name => (s.channels.get? name).map fun i => .of i.channel

/-! ### Names resolved -/

/-- The action that a command on a wait queue asks for, unless it names an unknown task. -/
def queueAction (s : Session) : QueueCommand → Except String WaitQueue.Action
  | .push task element =>
    match s.tasks.get? task with
    | some t => .ok (.push ⟨t, element⟩)
    | none => .error task
  | .pop => .ok .pop
  | .peek => .ok .peek
  | .popLive arena => .ok (.popLive (s.arenaOf arena).isLive)
  | .removeTask task =>
    match s.tasks.get? task with
    | some t => .ok (.removeTask t)
    | none => .error task
  | .list => .ok .list
  | .length => .ok .length
  | .describe => .ok .describe

/-- The action that a command inside a guarded section asks for. -/
def guardAction (s : Session) : GuardCommand → Except String Channel.Action
  | .look => .ok .look
  | .slot i => .ok (.slot i)
  | .slots => .ok .slots
  | .setSlot i bytes => .ok (.setSlot i bytes)
  | .senders command => (s.queueAction command).map .senders
  | .receivers command => (s.queueAction command).map .receivers

/-! ### Commands on channels -/

/-- Give a new channel its name. -/
def install (s : Session) (name : String) (request : Construction StockCopier) : Ran :=
  match s.issuer.construct request with
  | (.ok ch, issuer) =>
    { reply := .created (.ok ch.id)
      session := { s with issuer, channels := s.channels.put name ⟨ch, request.copier .plain, 0⟩ }
      notices := [.created ch.id ch.capacity ch.elementSize] }
  | (.error e, issuer) => { reply := .created (.error (.invalid e)), session := { s with issuer } }
  | (.fault f, issuer) => { reply := .created (.fault f), session := { s with issuer } }

/-- Do something with a named channel, if it exists. -/
def withChannel (s : Session) (name : String) (use : Installed → Ran) : Ran :=
  match s.channels.get? name with
  | none => ⟨.unknown name, s, [], []⟩
  | some i => use i

/-- Do an operation on a named channel, and put the result into a reply. -/
def operate (s : Session) (name : String) (operation : Channel → Except String Operation)
    (reply : Result → Effects → Reply) : Ran :=
  s.withChannel name fun i =>
    match operation i.channel with
    | .error unknown => ⟨.unknown unknown, s, [], []⟩
    | .ok op =>
      let done := i.channel.perform i.copier.copier i.state op
      { reply := reply done.result done.effects
        session :=
          { s with channels := s.channels.put name ⟨done.channel, i.copier, done.copier⟩ }
        recorded := if i.copier = .recording then done.effects.calls else []
        notices := done.effects.notices }

/-- All there is to see of a drain's outcome, `look` being the elements looked up. Looking can fault
only where the batch does not hold what it should. -/
def viewBatch (look : List Nat) :
    Outcome Empty (Option Batch) → Outcome Empty (Option BatchView)
  | .ok none => .ok none
  | .ok (some batch) =>
    match batch.items, look.mapM batch.get? with
    | .ok items, .ok found => .ok (some ⟨batch, items, found⟩)
    | .error f, _ | _, .error f => .fault f
  | .error e => .error e
  | .fault f => .fault f

/-- The reply that shows a result. -/
def replyOf (look : List Nat) (result : Result) (effects : Effects) : Reply :=
  match result with
  | .sent outcome => .sent outcome
  | .received outcome out => .received outcome out
  | .closed outcome => .closed outcome
  | .drained outcome => .drained (viewBatch look outcome) effects.requests
  | .reported report => .inspected report
  | .guarded answers fault => .guarded answers fault
  | .copied outcome target => .copied outcome target

/-! ### Commands on other things -/

/-- A command on an arena. -/
def execArena (s : Session) (name : String) (command : ArenaCommand) : Ran :=
  let a := s.arenaOf name
  let keep (a : Arena String) : Session := { s with arenas := s.arenas.put name a }
  let withTask (task : String) (f : TaskRef → ArenaReply × Session) : Ran :=
    match s.tasks.get? task with
    | some t =>
      let (reply, session) := f t
      ⟨.arena reply, session, [], []⟩
    | none => ⟨.unknown task, s, [], []⟩
  match command with
  | .insert task value =>
    let (t, a) := a.insert value
    let session := { keep a with tasks := s.tasks.put task t }
    ⟨.arena (.inserted t a.live), session, [], []⟩
  | .remove task => withTask task fun t =>
    let (value, a) := a.remove t
    (.removed value a.live, keep a)
  | .get task => withTask task fun t => (.value (a.get? t), s)
  | .set task value => withTask task fun t =>
    let (old, a) := a.set t value
    (.value old, keep a)
  | .isLive task => withTask task fun t => (.isLive (a.isLive t), s)
  | .length => ⟨.arena (.length a.live), s, [], []⟩
  | .describe => ⟨.arena (.text (a.describe Text.quoted)), s, [], []⟩

/-- A command on a wait queue outside channels. -/
def execQueue (s : Session) (name : String) (command : QueueCommand) : Ran :=
  match s.queueAction command with
  | .error unknown => ⟨.unknown unknown, s, [], []⟩
  | .ok action =>
    let (answer, q, notices) := (s.queueOf name).act action
    ⟨.queue answer, { s with queues := s.queues.put name q }, [], notices⟩

/-- A command on a collection of reports. -/
def execSink (s : Session) (name : String) : SinkCommand → Ran
  | .reports => ⟨.sink (.reports (s.reportsOf name)), s, [], []⟩
  | .take =>
    ⟨.sink (.reports (s.reportsOf name)), { s with sinks := s.sinks.put name [] }, [], []⟩
  | .length => ⟨.sink (.length (s.reportsOf name).length), s, [], []⟩

/-! ### All commands -/

/-- What running several commands leaves behind. -/
structure RanAll where
  /-- How each ended, with the state of its channel. -/
  replies : List (Reply × Option Standing)
  /-- The session afterwards. -/
  session : Session
  /-- The requests made to copiers that record them. -/
  recorded : List CopyCall
  /-- The notices. -/
  notices : List Notice

mutual

/-- Run a command. An inspection takes its report first, and only then hands it to the sink. -/
def exec : Command → Session → Ran
  | .create name request, s => s.install name request
  | .load name text copier, s =>
    match Config.ofYaml text with
    | .ok config => s.install name (.configured config copier)
    | .error e => ⟨.created (.error e), s, [], []⟩
  | .send name element, s => s.operate name (fun _ => .ok (.send element)) (replyOf [])
  | .receive name fill length, s =>
    s.operate name
      (fun ch => .ok (.receive (List.replicate (length.getD ch.elementSize) fill))) (replyOf [])
  | .close name, s => s.operate name (fun _ => .ok .close) (replyOf [])
  | .info name, s => s.withChannel name fun i => ⟨.info i.channel, s, [], []⟩
  | .copy name call, s => s.operate name (fun _ => .ok (.copy call)) (replyOf [])
  | .drain name minimum allocator look, s =>
    s.operate name (fun _ => .ok (.drain minimum allocator.allocator)) (replyOf look)
  | .guarded name commands, s =>
    s.operate name (fun _ => (commands.mapM s.guardAction).map .guarded) (replyOf [])
  | .inspect name tag, s => s.withChannel name fun i =>
    let done := i.channel.inspect tag (fun report _ => [Notice.reported report]) s
    ⟨.inspected done.report, s, [], done.emitted⟩
  | .inspectInto name tag sink, s => s.withChannel name fun i =>
    let done := i.channel.inspect tag (fun report s => s.reportsOf sink ++ [report]) s
    ⟨.collected done.report done.emitted.length,
      { s with sinks := s.sinks.put sink done.emitted }, [], []⟩
  | .inspectWith name tag program, s => s.withChannel name fun i =>
    let done := i.channel.inspect tag (fun seen s => (seen, execAll program s)) s
    let (seen, inner) := done.emitted
    ⟨.passed done.report seen inner.replies, inner.session, inner.recorded, inner.notices⟩
  | .queue name command, s => s.execQueue name command
  | .arena name command, s => s.execArena name command
  | .sameTask a b, s =>
    match s.tasks.get? a, s.tasks.get? b with
    | some t, some u => ⟨.sameTask (t = u), s, [], []⟩
    | none, _ => ⟨.unknown a, s, [], []⟩
    | some _, none => ⟨.unknown b, s, [], []⟩
  | .sink name command, s => s.execSink name command

/-- Run commands one after the other. -/
def execAll : List Command → Session → RanAll
  | [], s => ⟨[], s, [], []⟩
  | c :: cs, s =>
    let first := exec c s
    let rest := execAll cs first.session
    ⟨(first.reply, first.session.standing? c) :: rest.replies, rest.session,
      first.recorded ++ rest.recorded, first.notices ++ rest.notices⟩

end

/-- The answer to one command of a session. -/
structure Answer where
  /-- How it ended. -/
  reply : Reply
  /-- The state of the channel it is about. -/
  standing : Option Standing
  /-- The requests made to copiers that record them, nested commands included. -/
  recorded : List CopyCall
  /-- The notices, those of nested commands included. -/
  notices : List Notice

/-- The answers to a list of commands. -/
def answers : List Command → Session → List Answer
  | [], _ => []
  | c :: cs, s =>
    let ran := exec c s
    ⟨ran.reply, ran.session.standing? c, ran.recorded, ran.notices⟩ :: answers cs ran.session

/-- The answers to a list of commands in a new session. -/
def run (commands : List Command) : List Answer :=
  answers commands {}

end Session

end ByteChannel
