import ByteChannel.Yaml.Event
import ByteChannel.Yaml.Scanner

/-!
# Documents

A text is a stream of documents, of which a configuration is the first and only one.
`Document.load` reads it into events. A document may break off, at a syntax error or at an alias
whose name no anchor before it has; the events up to there are kept, since a reader may find
something else wrong in them first. Whatever follows a complete document, a second one or text
that is none, is merely noted.

Anchors are numbered. The number of an anchor is how many different names were in use when it
came, and an alias refers to the number its name had last; of several nodes with one number the
last one in the document is the target.

## Main definitions

* `Document`, `Document.load`
* `Document.target?` — the event an alias stands for
-/

namespace ByteChannel.Yaml

/-- Why a document breaks off. -/
inductive Failure where
  /-- The text is not well formed. -/
  | syntaxError (e : SyntaxError)
  /-- An alias refers to nothing. -/
  | unknownAnchor (pos : Position)
  deriving DecidableEq, Repr

/-- A document as far as it could be read. -/
structure Document where
  /-- Its events, anchors and aliases being numbers. -/
  events : List (Event Nat)
  /-- Why it breaks off, if it does. -/
  failure : Option Failure
  /-- Whether more than the end of the text comes after it. -/
  continued : Bool
  deriving DecidableEq, Repr

namespace Document

/-! ### Directives -/

/-- The tag handles that need no directive. -/
def standardHandles : Handles :=
  [("!", "!"), ("!!", "tag:yaml.org,2002:")]

/-- Read the directives in front of a document, up to its start mark. Handles declared here come
before the standard ones, each at most once, and so does the version, which must be 1.1 or 1.2. -/
def readDirectives : List Token → (version : Bool) → Handles →
    Except SyntaxError (Handles × List Token)
  | [], _, _ => .error .unexpectedToken
  | t :: ts, version, handles =>
    match t.kind with
    | .versionDirective major minor =>
      if version || major != 1 || (minor != 1 && minor != 2) then .error .badDirective
      else readDirectives ts true handles
    | .tagDirective handle expansion =>
      if (handles.lookup handle).isSome then .error .badDirective
      else readDirectives ts version (handles ++ [(handle, expansion)])
    | .documentStart => .ok (handles ++ standardHandles, ts)
    | _ => .error .unexpectedToken

/-! ### The first document of a stream -/

/-- Whether a token ends a document. -/
def endsDocument : TokenKind → Bool
  | .versionDirective _ _ | .tagDirective _ _ | .documentStart | .documentEnd | .streamEnd => true
  | _ => false

/-- The events of a document whose content begins after a start mark. It may be empty. -/
def parseContent (handles : Handles) : List Token → Goal.Parse
  | [] => ⟨[], .error .unexpectedToken⟩
  | t :: ts =>
    if endsDocument t.kind then ⟨[.absent t.start], .ok (t :: ts)⟩
    else Goal.parseNode handles (t :: ts)

/-- The events of the first document. A stream without one counts as an empty document. -/
def parseFirst : List Token → Goal.Parse
  | [] => ⟨[], .error .unexpectedToken⟩
  | t :: ts =>
    match t.kind with
    | .streamEnd => ⟨[.absent t.start], .ok (t :: ts)⟩
    | .documentStart | .versionDirective _ _ | .tagDirective _ _ =>
      match readDirectives (t :: ts) false [] with
      | .ok (handles, rest) => parseContent handles rest
      | .error e => ⟨[], .error e⟩
    | _ => Goal.parseNode standardHandles (t :: ts)

/-- Whether the tokens after a document's content are more than its end marks and the end of the
stream. -/
def isContinued (rest : List Token) : Bool :=
  (rest.dropWhile (·.kind == .documentEnd)).head?.all (·.kind != .streamEnd)

/-! ### Anchors and aliases -/

/-- The names in use and their numbers. -/
abbrev Anchors := List (String × Nat)

/-- Number an anchor by how many names are in use, and let its name refer to that number. -/
def Anchors.bind (anchors : Anchors) (name : String) : Anchors :=
  (name, anchors.length) :: anchors.filter (·.1 != name)

/-- Number an anchor that may be there or not. -/
def number (anchors : Anchors) : Option String → Option Nat × Anchors
  | none => (none, anchors)
  | some name => (some anchors.length, anchors.bind name)

/-- Replace names by numbers, up to an alias whose name is not in use. -/
def resolve : List (Event String) → Anchors → List (Event Nat) × Option Failure
  | [], _ => ([], none)
  | e :: es, anchors =>
    let keep (kind : EventKind Nat) (anchors : Anchors) :=
      let (rest, failure) := resolve es anchors
      (⟨kind, e.pos⟩ :: rest, failure)
    match e.kind with
    | .alias name =>
      match anchors.lookup name with
      | some n => keep (.alias n) anchors
      | none => ([], some (.unknownAnchor e.pos))
    | .scalar anchor scalar =>
      let (n, anchors) := number anchors anchor
      keep (.scalar n scalar) anchors
    | .sequenceStart anchor =>
      let (n, anchors) := number anchors anchor
      keep (.sequenceStart n) anchors
    | .sequenceEnd => keep .sequenceEnd anchors
    | .mappingStart anchor =>
      let (n, anchors) := number anchors anchor
      keep (.mappingStart n) anchors
    | .mappingEnd => keep .mappingEnd anchors

/-- Read the first document of a text. -/
def load (cs : List Char) : Document :=
  let stream := Token.scan cs
  let parse := parseFirst stream.tokens
  let (events, failure) := resolve parse.events []
  match failure, parse.rest with
  | some failure, _ => ⟨events, some failure, false⟩
  | none, .error e => ⟨events, some (.syntaxError (stream.error.getD e)), false⟩
  | none, .ok [] => ⟨events, some (.syntaxError (stream.error.getD .unexpectedToken)), false⟩
  | none, .ok rest => ⟨events, none, isContinued rest⟩

/-! ### Aliases -/

/-- Whether an event begins a node with the given number. -/
def hasAnchor (n : Nat) (e : Event Nat) : Bool :=
  match e.kind with
  | .scalar anchor _ | .sequenceStart anchor | .mappingStart anchor => anchor == some n
  | _ => false

/-- The last event of the document with the given number. -/
def target? (d : Document) (n : Nat) : Option (Event Nat) :=
  d.events.reverse.find? (hasAnchor n)

/-- The event that `e` stands for: itself, unless it is an alias. -/
def follow (d : Document) (e : Event Nat) : Event Nat :=
  match e.kind with
  | .alias n => (d.target? n).getD e
  | _ => e

end Document

end ByteChannel.Yaml
