import ByteChannel.Yaml.Token

/-!
# From tokens to events

The structure of a document is a flat list of *events*: scalars and aliases, and the starts and
ends of sequences and mappings, each with the position where it begins. Values and keys that are
left out appear as empty plain scalars.

Events are found by predictive parsing. A stack of *goals* says what is still to come; the first
token decides how the topmost goal is met, which gives some events, some new goals, and the tokens
that remain. Tokens that do not fit break the document off, but the events before stay.

## Main definitions

* `Event`, `EventKind` — the structure of a document
* `Goal`, `Goal.step` — one step of parsing
* `Goal.run` — the events of a stack of goals
-/

namespace ByteChannel.Yaml

/-- A scalar: its text, how it is written and its tag. -/
structure Scalar where
  /-- The text, with escapes and folding resolved. -/
  text : String
  /-- How it is written. -/
  style : Style
  /-- Its tag in full. -/
  tag : Option String
  deriving DecidableEq, Repr

/-- The kinds of event. Nodes may be given a name by an anchor of type `α`. -/
inductive EventKind (α : Type) where
  | alias (name : α)
  | scalar (anchor : Option α) (scalar : Scalar)
  | sequenceStart (anchor : Option α)
  | sequenceEnd
  | mappingStart (anchor : Option α)
  | mappingEnd
  deriving DecidableEq, Repr

/-- An event and where it begins. -/
structure Event (α : Type) where
  /-- What it is. -/
  kind : EventKind α
  /-- The first character of what it stands for. -/
  pos : Position
  deriving DecidableEq, Repr

namespace Event

/-- A value that is left out. -/
def absent {α : Type} (pos : Position) : Event α :=
  ⟨.scalar none ⟨"", .plain, none⟩, pos⟩

end Event

/-- What a parser has still to find. -/
inductive Goal where
  /-- A node, in block context or not. With `indentless`, a sequence may stand in the column of the
  mapping around it. -/
  | node (block indentless : Bool)
  /-- The entries of a block sequence and its end. -/
  | blockEntries
  /-- The entries of a sequence in the column of the mapping around it. -/
  | indentlessEntries
  /-- The keys and values of a block mapping and its end. -/
  | blockKeys
  /-- A value of a block mapping. -/
  | blockValue
  /-- The entries of a flow sequence and its end. -/
  | flowEntries (first : Bool)
  /-- The key of a pair inside a flow sequence. -/
  | pairKey
  /-- The value of such a pair. -/
  | pairValue
  /-- The end of such a pair. -/
  | pairEnd
  /-- The keys and values of a flow mapping and its end. -/
  | flowKeys (first : Bool)
  /-- A value of a flow mapping. -/
  | flowValue
  /-- The value of a flow mapping's key that came without any mark, which is always left out. -/
  | flowBareValue
  deriving DecidableEq, Repr

/-- The meanings of tag handles. -/
abbrev Handles := List (String × String)

/-- What one step of parsing yields. -/
structure Advance where
  /-- The events found. -/
  events : List (Event String)
  /-- The goals that take the place of the one that was met. -/
  goals : List Goal
  /-- The tokens that remain. -/
  rest : List Token

namespace Goal

/-! ### Nodes -/

/-- The anchor and tag in front of a node. -/
structure Properties where
  /-- The anchor's name. -/
  anchor : Option String := none
  /-- The tag's handle and suffix. -/
  tag : Option (String × String) := none

/-- Read the anchor and the tag in front of a node, at most one of each, in either order. -/
def properties : List Token → Properties × List Token
  | ⟨.anchor a, _, _⟩ :: ⟨.tag h s, _, _⟩ :: ts => (⟨some a, some (h, s)⟩, ts)
  | ⟨.tag h s, _, _⟩ :: ⟨.anchor a, _, _⟩ :: ts => (⟨some a, some (h, s)⟩, ts)
  | ⟨.anchor a, _, _⟩ :: ts => (⟨some a, none⟩, ts)
  | ⟨.tag h s, _, _⟩ :: ts => (⟨none, some (h, s)⟩, ts)
  | ts => ({}, ts)

/-- The full tag of a handle and a suffix. Without a handle the suffix is the tag. -/
def resolveTag (handles : Handles) : Option (String × String) → Except SyntaxError (Option String)
  | none => .ok none
  | some ("", suffix) => .ok (some suffix)
  | some (handle, suffix) =>
    match handles.lookup handle with
    | some expansion => .ok (some (expansion ++ suffix))
    | none => .error .undefinedHandle

/-- Parse a node that begins at `pos`, after its properties. -/
def stepContent (block indentless : Bool) (pos : Position) (anchor tag : Option String) :
    List Token → Except SyntaxError Advance
  | [] => .error .unexpectedToken
  | t :: ts =>
    match t.kind with
    | .scalar text style => .ok ⟨[⟨.scalar anchor ⟨text, style, tag⟩, pos⟩], [], ts⟩
    | .flowSequenceStart => .ok ⟨[⟨.sequenceStart anchor, pos⟩], [.flowEntries true], ts⟩
    | .flowMappingStart => .ok ⟨[⟨.mappingStart anchor, pos⟩], [.flowKeys true], ts⟩
    | kind =>
      if indentless && kind == .blockEntry then
        .ok ⟨[⟨.sequenceStart anchor, pos⟩], [.indentlessEntries], t :: ts⟩
      else if block && kind == .blockSequenceStart then
        .ok ⟨[⟨.sequenceStart anchor, pos⟩], [.blockEntries], ts⟩
      else if block && kind == .blockMappingStart then
        .ok ⟨[⟨.mappingStart anchor, pos⟩], [.blockKeys], ts⟩
      else if anchor.isSome || tag.isSome then
        .ok ⟨[⟨.scalar anchor ⟨"", .plain, tag⟩, pos⟩], [], t :: ts⟩
      else .error .unexpectedToken

/-- Parse a node. -/
def stepNode (handles : Handles) (block indentless : Bool) :
    List Token → Except SyntaxError Advance
  | [] => .error .unexpectedToken
  | ⟨.alias name, start, _⟩ :: ts => .ok ⟨[⟨.alias name, start⟩], [], ts⟩
  | t :: ts => do
    let (props, rest) := properties (t :: ts)
    if rest.isEmpty then .error .unexpectedToken
    else do
      let tag ← resolveTag handles props.tag
      stepContent block indentless t.start props.anchor tag rest

/-! ### Collections -/

/-- Look for a node unless the next token is one of `enders`, in which case a value left out
stands at `pos`; then go on with `goals`. -/
def nodeUnless (enders : List TokenKind) (node : Goal) (pos : Position) (goals : List Goal) :
    List Token → Except SyntaxError Advance
  | [] => .error .unexpectedToken
  | t :: ts =>
    if enders.contains t.kind then .ok ⟨[.absent pos], goals, t :: ts⟩
    else .ok ⟨[], node :: goals, t :: ts⟩

/-- Meet a goal as far as the first token decides. -/
def step (handles : Handles) : Goal → List Token → Except SyntaxError Advance
  | _, [] => .error .unexpectedToken
  | .node block indentless, ts => stepNode handles block indentless ts
  | .blockEntries, t :: ts =>
    match t.kind with
    | .blockEntry =>
      nodeUnless [.blockEntry, .blockEnd] (.node true false) t.stop [.blockEntries] ts
    | .blockEnd => .ok ⟨[⟨.sequenceEnd, t.start⟩], [], ts⟩
    | _ => .error .unexpectedToken
  | .indentlessEntries, t :: ts =>
    match t.kind with
    | .blockEntry =>
      nodeUnless [.blockEntry, .key, .value, .blockEnd] (.node true false) t.stop
        [.indentlessEntries] ts
    | _ => .ok ⟨[⟨.sequenceEnd, t.start⟩], [], t :: ts⟩
  | .blockKeys, t :: ts =>
    match t.kind with
    | .key =>
      nodeUnless [.key, .value, .blockEnd] (.node true true) t.stop [.blockValue, .blockKeys] ts
    | .blockEnd => .ok ⟨[⟨.mappingEnd, t.start⟩], [], ts⟩
    | _ => .error .unexpectedToken
  | .blockValue, t :: ts =>
    match t.kind with
    | .value => nodeUnless [.key, .value, .blockEnd] (.node true true) t.stop [] ts
    | _ => .ok ⟨[.absent t.start], [], t :: ts⟩
  | .flowEntries first, t :: ts =>
    match t.kind with
    | .flowSequenceEnd => .ok ⟨[⟨.sequenceEnd, t.start⟩], [], ts⟩
    | kind =>
      let entries := if first then some (t :: ts) else if kind == .flowEntry then some ts else none
      match entries with
      | none | some [] => .error .unexpectedToken
      | some (u :: us) =>
        match u.kind with
        | .key => .ok ⟨[⟨.mappingStart none, u.start⟩], [.pairKey, .flowEntries false], us⟩
        | .flowSequenceEnd => .ok ⟨[⟨.sequenceEnd, u.start⟩], [], us⟩
        | _ => .ok ⟨[], [.node false false, .flowEntries false], u :: us⟩
  | .pairKey, t :: ts =>
    if t.kind == .value || t.kind == .flowEntry || t.kind == .flowSequenceEnd then
      .ok ⟨[.absent t.stop], [.pairValue], ts⟩
    else .ok ⟨[], [.node false false, .pairValue], t :: ts⟩
  | .pairValue, t :: ts =>
    match t.kind, ts with
    | .value, [] => .error .unexpectedToken
    | .value, u :: us =>
      nodeUnless [.flowEntry, .flowSequenceEnd] (.node false false) u.start [.pairEnd] (u :: us)
    | _, _ => .ok ⟨[.absent t.start], [.pairEnd], t :: ts⟩
  | .pairEnd, t :: ts => .ok ⟨[⟨.mappingEnd, t.start⟩], [], t :: ts⟩
  | .flowKeys first, t :: ts =>
    match t.kind with
    | .flowMappingEnd => .ok ⟨[⟨.mappingEnd, t.start⟩], [], ts⟩
    | kind =>
      let entries := if first then some (t :: ts) else if kind == .flowEntry then some ts else none
      match entries with
      | none | some [] => .error .unexpectedToken
      | some (u :: us) =>
        match u.kind, us with
        | .key, [] => .error .unexpectedToken
        | .key, v :: vs =>
          nodeUnless [.value, .flowEntry, .flowMappingEnd] (.node false false) v.start
            [.flowValue, .flowKeys false] (v :: vs)
        | .flowMappingEnd, us => .ok ⟨[⟨.mappingEnd, u.start⟩], [], us⟩
        | _, us => .ok ⟨[], [.node false false, .flowBareValue, .flowKeys false], u :: us⟩
  | .flowValue, t :: ts =>
    match t.kind, ts with
    | .value, [] => .error .unexpectedToken
    | .value, u :: us =>
      nodeUnless [.flowEntry, .flowMappingEnd] (.node false false) u.start [] (u :: us)
    | _, _ => .ok ⟨[.absent t.start], [], t :: ts⟩
  | .flowBareValue, t :: ts => .ok ⟨[.absent t.start], [], t :: ts⟩

/-! ### All events -/

/-- The events that a stack of goals yields. -/
structure Parse where
  /-- The events found. -/
  events : List (Event String)
  /-- The tokens after the last goal was met, or why it was not. -/
  rest : Except SyntaxError (List Token)

/-- Meet all goals, in at most `fuel` steps. -/
def run (handles : Handles) : (fuel : Nat) → List Goal → List Token → Parse
  | _, [], ts => ⟨[], .ok ts⟩
  | 0, _ :: _, _ => ⟨[], .error .unexpectedToken⟩
  | fuel + 1, goal :: goals, ts =>
    match goal.step handles ts with
    | .error e => ⟨[], .error e⟩
    | .ok a =>
      let p := run handles fuel (a.goals ++ goals) a.rest
      ⟨a.events ++ p.events, p.rest⟩

/-- The events of one block node. A token is passed in at most four steps, so there are no more than
that. -/
def parseNode (handles : Handles) (ts : List Token) : Parse :=
  run handles (4 * ts.length + 4) [.node true false] ts

end Goal

end ByteChannel.Yaml
