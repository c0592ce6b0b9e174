import ByteChannel.Yaml.Lexeme.Block
import ByteChannel.Yaml.Lexeme.Plain
import ByteChannel.Yaml.Lexeme.Property
import ByteChannel.Yaml.Lexeme.Quoted
import ByteChannel.Yaml.Portion

/-!
# From characters to tokens

A `Scanner` holds the part of a text not yet read and the latest tokens found in it. Three things
make tokens depend on what comes later or earlier.

*Indentation.* In block context a collection begins at the first token of a column to the right of
the enclosing collection's, and ends before the first token to the left of its own. The scanner
keeps the columns of the open block collections, innermost first.

*Keys.* Whether a scalar (or alias, or flow collection) is a mapping's key shows only at the colon
after it. The scanner remembers one candidate for each open flow collection; when the colon comes
on the same line and within `keyLength` octets, the key mark is put in front of the candidate's
tokens. Until then those tokens are not *settled*: if the text breaks off in a syntax error first,
they are lost.

*Portions.* Of a text with a disallowed character only the portions before it can be read. Where
the scanner would have to look further, that is a syntax error.

## Main definitions

* `Scanner`, `Scanner.step` — one step of scanning, which adds the next token
* `Lead` — what the next characters announce
* `TokenStream`, `Token.scan` — all settled tokens of a text and the error they end in, if any
-/

namespace ByteChannel.Yaml

/-- A token that turns out to be a key if a colon follows. -/
structure KeyCandidate where
  /-- How many unsettled tokens stand before it. -/
  place : Nat
  /-- Where it begins. -/
  pos : Position
  /-- Whether it must be a key, because it stands in the column of a block mapping. -/
  required : Bool
  deriving DecidableEq, Repr

/-- How many octets may lie between the start of a key and its colon. -/
def keyLength : Nat := 1024

namespace KeyCandidate

/-- Whether it is too late for the key's colon at position `p`. -/
def isStale (k : KeyCandidate) (p : Position) : Bool :=
  k.pos.line < p.line || k.pos.octets + keyLength < p.octets

end KeyCandidate

/-- The state of scanning a text. -/
structure Scanner where
  /-- The characters not yet read. -/
  rest : List Char
  /-- Whether the text ends after them, rather than going on with a portion that cannot be read. -/
  whole : Bool
  /-- The position of the first of them. -/
  pos : Position
  /-- The columns of the open block collections, innermost first. -/
  indents : List Nat
  /-- The candidate for a key at the present place. -/
  candidate : Option KeyCandidate
  /-- The candidates of the enclosing places, one for each open flow collection. -/
  outer : List (Option KeyCandidate)
  /-- Whether a key may begin here. -/
  keyAllowed : Bool
  /-- The tokens found but not settled. -/
  tokens : List Token
  deriving DecidableEq, Repr

namespace Scanner

/-- The scanner at the start of a text, of which `cs` can be read. -/
def start (cs : List Char) (whole : Bool) : Scanner :=
  { rest := cs, whole, pos := .start, indents := [], candidate := none, outer := [],
    keyAllowed := true, tokens := [] }

/-- Fail unless there are `n` characters to look at, or the text ends before. -/
def lookAhead (s : Scanner) (n : Nat) : Except SyntaxError Scanner :=
  if s.whole || !(s.rest.drop (n - 1)).isEmpty then .ok s else .error .disallowedCharacter

/-- Whether the scanner is inside a flow collection. -/
def inFlow (s : Scanner) : Bool :=
  !s.outer.isEmpty

/-- The least column that lies inside the innermost block collection. -/
def level (s : Scanner) : Nat :=
  match s.indents with
  | [] => 0
  | column :: _ => column + 1

/-! ### Candidates for keys -/

/-- Give up the present candidate. -/
def dropCandidate (s : Scanner) : Except SyntaxError Scanner :=
  if s.candidate.any (·.required) then .error .unfinishedKey else .ok { s with candidate := none }

/-- Take the token that comes next for a candidate, if a key may begin here. -/
def saveCandidate (s : Scanner) : Except SyntaxError Scanner :=
  if s.keyAllowed then
    let required := !s.inFlow && s.indents.head? == some s.pos.column
    s.dropCandidate.map fun s => { s with candidate := some ⟨s.tokens.length, s.pos, required⟩ }
  else .ok s

/-- Give up a candidate for which it is too late. -/
def freshen (p : Position) : Option KeyCandidate → Option KeyCandidate
  | some k => if k.isStale p then none else some k
  | none => none

/-- Give up all candidates for which it is too late, which must not be required ones. -/
def dropStale (s : Scanner) : Except SyntaxError Scanner :=
  if (s.candidate :: s.outer).any (·.any fun k => k.isStale s.pos && k.required) then
    .error .unfinishedKey
  else .ok { s with candidate := freshen s.pos s.candidate, outer := s.outer.map (freshen s.pos) }

/-- How many tokens stand before the first candidate. -/
def settledCount (s : Scanner) : Nat :=
  (s.candidate :: s.outer).foldl (fun n k => k.elim n fun k => min n k.place) s.tokens.length

/-- Say whether a key may begin next. -/
def allowKey (s : Scanner) (allowed : Bool) : Scanner :=
  { s with keyAllowed := allowed }

/-! ### Tokens -/

/-- Add a token of `n` characters of the present line. -/
def emit (s : Scanner) (kind : TokenKind) (n : Nat) : Scanner :=
  { s with rest := s.rest.drop n, pos := s.pos.right n,
           tokens := s.tokens ++ [⟨kind, s.pos, s.pos.right n⟩] }

/-- Add a token that reaches up to `rest`, at position `pos`. -/
def emitTo (s : Scanner) (kind : TokenKind) (rest : List Char) (pos : Position) : Scanner :=
  { s with rest, pos, tokens := s.tokens ++ [⟨kind, s.pos, pos⟩] }

/-- Put a mark that takes no characters in front of the token at `place`. -/
def insertMark (s : Scanner) (kind : TokenKind) (place : Nat) (pos : Position) : Scanner :=
  { s with tokens := s.tokens.take place ++ ⟨kind, pos, pos⟩ :: s.tokens.drop place }

/-- Open a block collection at `pos`, with its mark in front of the token at `place`, unless one
is open there already. -/
def openBlock (s : Scanner) (kind : TokenKind) (place : Nat) (pos : Position) : Scanner :=
  if !s.inFlow && s.level ≤ pos.column then
    { s.insertMark kind place pos with indents := pos.column :: s.indents }
  else s

/-- Close the block collections for whose column `closes` holds, up to the first for which it does
not. -/
def closeBlocks (s : Scanner) (closes : Nat → Bool) : Scanner :=
  if s.inFlow then s
  else { s with
    indents := s.indents.dropWhile closes
    tokens := s.tokens ++ (s.indents.takeWhile closes).map fun _ => ⟨.blockEnd, s.pos, s.pos⟩ }

/-! ### Spacing and comments -/

/-- Skip blanks, breaks and comments before the next token. A tab counts as a blank only where no
key may begin; after a break, in block context, one may. -/
def skipSpacing (flow : Bool) : List Char → Position → (keyAllowed comment : Bool) →
    List Char × Position × Bool
  | [], p, keyAllowed, _ => ([], p, keyAllowed)
  | c :: cs, p, keyAllowed, comment =>
    if isBreak c then skipSpacing flow cs (p.after c) (keyAllowed || !flow) false
    else if comment || c == ' ' || (c == '\t' && (flow || !keyAllowed)) ||
        (c == '\uFEFF' && p.column == 0) then
      skipSpacing flow cs (p.after c) keyAllowed comment
    else if c == '#' then skipSpacing flow cs (p.after c) keyAllowed true
    else (c :: cs, p, keyAllowed)

/-- The scanner at the first character of the next token. -/
def toNextToken (s : Scanner) : Scanner :=
  let (rest, pos, keyAllowed) := skipSpacing s.inFlow s.rest s.pos s.keyAllowed false
  { s with rest, pos, keyAllowed }

end Scanner

/-! ### What comes next -/

/-- What the characters at the start of a token announce. -/
inductive Lead where
  | directive
  | documentStart
  | documentEnd
  | flowStart (kind : TokenKind)
  | flowEnd (kind : TokenKind)
  | flowEntry
  | blockEntry
  | key
  | value
  | alias
  | anchor
  | tag
  | block (literal : Bool)
  | quoted (quote : Char)
  | plain
  | nothing
  deriving DecidableEq, Repr

/-- Whether a plain scalar may begin with `c`: with any character that is no indicator, and with a
hyphen or, outside flow collections, a question mark or colon that has a word after it. -/
def startsPlain (flow : Bool) (c : Char) (cs : List Char) : Bool :=
  if c == '-' then !cs.head?.any isBlank
  else if c == '?' || c == ':' then !flow && !endsWord cs
  else !isSpacing c && !isFlowIndicator c && c != '#' && c != '&' && c != '*' && c != '!' &&
    c != '|' && c != '>' && c != '\'' && c != '"' && c != '%' && c != '@' && c != '`'

/-- What `c`, followed by `cs`, announces, at the start of a line or not. -/
def Lead.of (flow lineStart : Bool) (c : Char) (cs : List Char) : Lead :=
  if lineStart && c == '%' then .directive
  else if lineStart && startsWithMark '-' (c :: cs) then .documentStart
  else if lineStart && startsWithMark '.' (c :: cs) then .documentEnd
  else if c == '[' then .flowStart .flowSequenceStart
  else if c == '{' then .flowStart .flowMappingStart
  else if c == ']' then .flowEnd .flowSequenceEnd
  else if c == '}' then .flowEnd .flowMappingEnd
  else if c == ',' then .flowEntry
  else if c == '-' && endsWord cs then .blockEntry
  else if c == '?' && (flow || endsWord cs) then .key
  else if c == ':' && (flow || endsWord cs) then .value
  else if c == '*' then .alias
  else if c == '&' then .anchor
  else if c == '!' then .tag
  else if c == '|' && !flow then .block true
  else if c == '>' && !flow then .block false
  else if c == '\'' || c == '"' then .quoted c
  else if startsPlain flow c cs then .plain
  else .nothing

namespace Scanner

/-! ### One step for each kind of token -/

/-- Leave all block collections, as before a document mark. -/
def leaveDocument (s : Scanner) : Except SyntaxError Scanner :=
  (s.closeBlocks fun _ => true).dropCandidate.map (·.allowKey false)

/-- The end of the text counts as the end of its last line. -/
def stepEnd (s : Scanner) : Except SyntaxError Scanner :=
  let pos := if s.pos.column == 0 then s.pos else ⟨s.pos.line + 1, 0, 0⟩
  ({ s with pos } : Scanner).leaveDocument.map (·.emit .streamEnd 0)

/-- A directive line. -/
def stepDirective (s : Scanner) : Except SyntaxError Scanner := do
  let s ← s.leaveDocument
  let (kind, rest) ← readDirective (s.rest.drop 1)
  .ok (s.emitTo kind rest (s.pos.upTo s.rest rest))

/-- A mark between documents. -/
def stepDocumentMark (s : Scanner) (kind : TokenKind) : Except SyntaxError Scanner :=
  s.leaveDocument.map (·.emit kind 3)

/-- The start of a flow collection, which may be a key. -/
def stepFlowStart (s : Scanner) (kind : TokenKind) : Except SyntaxError Scanner := do
  let s ← s.saveCandidate
  let s := { s with outer := s.candidate :: s.outer, candidate := none }
  .ok ((s.allowKey true).emit kind 1)

/-- The end of a flow collection. -/
def stepFlowEnd (s : Scanner) (kind : TokenKind) : Except SyntaxError Scanner := do
  let s ← s.dropCandidate
  let s := match s.outer with
    | [] => s
    | candidate :: outer => { s with candidate, outer }
  .ok ((s.allowKey false).emit kind 1)

/-- The comma between the entries of a flow collection. -/
def stepFlowEntry (s : Scanner) : Except SyntaxError Scanner :=
  s.dropCandidate.map fun s => (s.allowKey true).emit .flowEntry 1

/-- The hyphen before an entry of a block sequence. -/
def stepBlockEntry (s : Scanner) : Except SyntaxError Scanner :=
  if !s.inFlow && !s.keyAllowed then .error .misplacedIndicator
  else (s.openBlock .blockSequenceStart s.tokens.length s.pos).dropCandidate.map fun s =>
    (s.allowKey true).emit .blockEntry 1

/-- The question mark before a key. -/
def stepKey (s : Scanner) : Except SyntaxError Scanner :=
  if !s.inFlow && !s.keyAllowed then .error .misplacedIndicator
  else (s.openBlock .blockMappingStart s.tokens.length s.pos).dropCandidate.map fun s =>
    (s.allowKey (!s.inFlow)).emit .key 1

/-- The colon before a value. What stood before it becomes a key, if it can be one. -/
def stepValue (s : Scanner) : Except SyntaxError Scanner :=
  match s.candidate with
  | some k =>
    let s := (s.insertMark .key k.place k.pos).openBlock .blockMappingStart k.place k.pos
    .ok ((({ s with candidate := none } : Scanner).allowKey false).emit .value 1)
  | none =>
    if !s.inFlow && !s.keyAllowed then .error .misplacedIndicator
    else
      let s := s.openBlock .blockMappingStart s.tokens.length s.pos
      .ok ((s.allowKey (!s.inFlow)).emit .value 1)

/-- The name of an alias or anchor. -/
def stepAnchor (s : Scanner) (kind : String → TokenKind) : Except SyntaxError Scanner := do
  let s ← s.saveCandidate
  let (name, rest) ← readAnchor (s.rest.drop 1)
  .ok ((s.allowKey false).emitTo (kind name) rest (s.pos.upTo s.rest rest))

/-- A tag. -/
def stepTag (s : Scanner) : Except SyntaxError Scanner := do
  let s ← s.saveCandidate
  let (tag, rest) ← readTag s.inFlow (s.rest.drop 1)
  let kind := .tag tag.handle tag.suffix
  .ok ((s.allowKey false).emitTo kind rest (s.pos.upTo s.rest rest))

/-- A block scalar, after which a key may begin. -/
def stepBlock (s : Scanner) (literal : Bool) : Except SyntaxError Scanner := do
  let s ← s.dropCandidate
  let l ← readBlock literal s.level (s.rest.drop 1) (s.pos.right 1)
  let kind := .scalar (String.ofList l.text) (if literal then .literal else .folded)
  .ok ((s.allowKey true).emitTo kind l.rest l.pos)

/-- A quoted scalar. -/
def stepQuoted (s : Scanner) (quote : Char) : Except SyntaxError Scanner := do
  let s ← s.saveCandidate
  let l ← readQuoted quote (s.rest.drop 1) (s.pos.right 1) (.between .tight)
  let kind := .scalar (String.ofList l.text) (if quote == '"' then .doubleQuoted else .singleQuoted)
  .ok ((s.allowKey false).emitTo kind l.rest l.pos)

/-- A plain scalar, after which a key may begin if it ended with its line. -/
def stepPlain (s : Scanner) : Except SyntaxError Scanner := do
  let s ← s.saveCandidate
  let l ← readPlain s.inFlow s.level s.rest s.pos .tight
  let kind := .scalar (String.ofList l.text) .plain
  .ok ((s.allowKey l.broken).emitTo kind l.rest l.pos)

/-- The step that a lead asks for. -/
def stepLead (s : Scanner) : Lead → Except SyntaxError Scanner
  | .directive => s.stepDirective
  | .documentStart => s.stepDocumentMark .documentStart
  | .documentEnd => s.stepDocumentMark .documentEnd
  | .flowStart kind => s.stepFlowStart kind
  | .flowEnd kind => s.stepFlowEnd kind
  | .flowEntry => s.stepFlowEntry
  | .blockEntry => s.stepBlockEntry
  | .key => s.stepKey
  | .value => s.stepValue
  | .alias => s.stepAnchor .alias
  | .anchor => s.stepAnchor .anchor
  | .tag => s.stepTag
  | .block literal => s.stepBlock literal
  | .quoted quote => s.stepQuoted quote
  | .plain => s.stepPlain
  | .nothing => .error .unexpectedCharacter

/-- Read the token at the present place. -/
def stepToken (s : Scanner) : Except SyntaxError Scanner :=
  match s.rest with
  | [] => s.stepEnd
  | c :: cs => s.stepLead (.of s.inFlow (s.pos.column == 0) c cs)

/-- Read the next token, with the ends of block collections that come before it. Four characters
tell what it is, and one after it shows that it is over. -/
def step (s : Scanner) : Except SyntaxError Scanner := do
  let s ← s.toNextToken.dropStale
  let s ← (s.closeBlocks fun column => s.pos.column < column).lookAhead 4
  let s ← s.stepToken
  s.lookAhead 1

/-- Part with the tokens that have been settled by the last step. -/
def settle (s : Scanner) : Except SyntaxError (List Token × Scanner) :=
  s.dropStale.map fun s =>
    let n := s.settledCount
    let shift (k : KeyCandidate) : KeyCandidate := { k with place := k.place - n }
    (s.tokens.take n,
      { s with tokens := s.tokens.drop n, candidate := s.candidate.map shift
               outer := s.outer.map (·.map shift) })

end Scanner

/-! ### All tokens -/

/-- The settled tokens of a text. -/
structure TokenStream where
  /-- The tokens in order, the last being the end of the stream unless there is an error. -/
  tokens : List Token
  /-- Why there are no more. -/
  error : Option SyntaxError
  deriving DecidableEq, Repr

/-- The same stream with more tokens in front. -/
def TokenStream.prepend (front : List Token) (stream : TokenStream) : TokenStream :=
  { stream with tokens := front ++ stream.tokens }

namespace Scanner

/-- Scan on, for at most `fuel` steps. -/
def run : (fuel : Nat) → Scanner → TokenStream
  | 0, _ => ⟨[], some .unexpectedCharacter⟩
  | fuel + 1, s =>
    match s.step >>= settle with
    | .error e => ⟨[], some e⟩
    | .ok (settled, next) =>
      if (settled ++ next.tokens).getLast?.any (·.kind == .streamEnd) then
        ⟨settled ++ next.tokens, none⟩
      else (run fuel next).prepend settled

end Scanner

/-- The tokens of a text, as far as it can be read. Every step but the last reads at least one
character, so there are no more steps than that. -/
def Token.scan (cs : List Char) : TokenStream :=
  let count := readableCount cs
  let text := unifyBreaks (cs.take count)
  (Scanner.start text (count == cs.length)).run (text.length + 1)

end ByteChannel.Yaml
