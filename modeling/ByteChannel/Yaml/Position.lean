/-!
# Characters and positions of a document

The character classes a reader of YAML goes by, and the position of a character as line and column.
A position also counts the octets of its line, which bound the length of a key.

Line breaks come in several spellings. Before anything else is read, `unifyBreaks` replaces those
that mean a plain line feed by one, so that a break is a single character from there on: the line
feed, or one of the two Unicode separators, which keep their identity inside a text.

## Main definitions

* `Position`, `Position.after` — counting lines and columns
* `isBlank`, `isBreak`, `isSpacing`, `isName` — character classes
* `isDocumentMark` — a `---` or `...` that stands alone
* `unifyBreaks` — the canonical line breaks of a text
-/

namespace ByteChannel.Yaml

/-- The place of a character, all numbers counted from zero. -/
structure Position where
  /-- Line breaks before it. -/
  line : Nat
  /-- Characters before it in its line. -/
  column : Nat
  /-- Octets that encode these characters. -/
  octets : Nat
  deriving DecidableEq, Repr

/-- A space or a tab. -/
def isBlank (c : Char) : Bool :=
  c == ' ' || c == '\t'

/-- A line break, once the spellings of the line feed are unified. -/
def isBreak (c : Char) : Bool :=
  c == '\n' || c == '\u2028' || c == '\u2029'

/-- A blank or a break. -/
def isSpacing (c : Char) : Bool :=
  isBlank c || isBreak c

/-- A character of anchor names, tag handles and directive names. -/
def isName (c : Char) : Bool :=
  c.isAlphanum || c == '_' || c == '-'

/-- Whether a word ends here: at spacing or at the end of the text. -/
def endsWord : List Char → Bool
  | [] => true
  | c :: _ => isSpacing c

/-- Whether the text begins with three times `mark`, standing alone. -/
def startsWithMark (mark : Char) : List Char → Bool
  | a :: b :: c :: rest => a == mark && b == mark && c == mark && endsWord rest
  | _ => false

/-- Whether the text begins with a `---` or a `...` that stands alone. At the start of a line this
separates documents. -/
def isDocumentMark (cs : List Char) : Bool :=
  startsWithMark '-' cs || startsWithMark '.' cs

namespace Position

/-- The position of the first character. -/
def start : Position := ⟨0, 0, 0⟩

/-- The position after a character that stands here. -/
def after (p : Position) (c : Char) : Position :=
  if isBreak c then ⟨p.line + 1, 0, 0⟩ else ⟨p.line, p.column + 1, p.octets + c.utf8Size⟩

/-- The position after `n` characters of one octet each in the same line. -/
def right (p : Position) (n : Nat) : Position :=
  ⟨p.line, p.column + n, p.octets + n⟩

/-- The position after reading from `before` to `rest`, a tail of it. -/
def upTo (p : Position) (before rest : List Char) : Position :=
  (before.take (before.length - rest.length)).foldl after p

/-- The position as people count: from one. -/
def describe (p : Position) : String :=
  s!"line {p.line + 1} column {p.column + 1}"

end Position

/-- Write every carriage return, alone or before a line feed, and every next-line character as a
line feed. -/
def unifyBreaks : List Char → List Char
  | [] => []
  | '\r' :: '\n' :: cs => '\n' :: unifyBreaks cs
  | c :: cs => (if c == '\r' || c == '\u0085' then '\n' else c) :: unifyBreaks cs

end ByteChannel.Yaml
