import ByteChannel.Yaml.Lexeme.Basic

/-!
# Block scalars

A block scalar is a header line, `|` or `>` with optional indicators, and the more deeply indented
lines under it. After `|` every line break counts; after `>` a single break between two lines that
do not begin with a blank becomes a space. The header says what becomes of the breaks at the end,
and may fix the indentation, which is otherwise that of the widest line up to the first one with
text.
-/

namespace ByteChannel.Yaml

/-- What becomes of the line breaks at the end of a block scalar. -/
inductive Chomping where
  /-- All are dropped. -/
  | strip
  /-- The first is kept. -/
  | clip
  /-- All are kept. -/
  | keep
  deriving DecidableEq, Repr

/-- The indicators of a block scalar. -/
structure BlockHeader where
  /-- What becomes of the breaks at the end. -/
  chomping : Chomping
  /-- How many columns the text is indented more than what surrounds it, if the header says. -/
  indentation : Option Nat
  deriving DecidableEq, Repr

/-- The chomping of a sign. -/
def chomping? : Char → Option Chomping
  | '-' => some .strip
  | '+' => some .keep
  | _ => none

/-- The indentation of a digit; zero is none. -/
def indentation? (c : Char) : Option Nat :=
  if c.isDigit && c != '0' then some (c.toNat - '0'.toNat) else none

/-- Read the indicators of a header, in either order. -/
def readBlockIndicators (cs : List Char) : BlockHeader × List Char :=
  match cs with
  | [] => (⟨.clip, none⟩, [])
  | a :: rest =>
    match chomping? a, indentation? a with
    | some chomping, _ =>
      match rest with
      | [] => (⟨chomping, none⟩, [])
      | b :: rest' =>
        match indentation? b with
        | some n => (⟨chomping, some n⟩, rest')
        | none => (⟨chomping, none⟩, rest)
    | none, some n =>
      match rest with
      | [] => (⟨.clip, some n⟩, [])
      | b :: rest' =>
        match chomping? b with
        | some chomping => (⟨chomping, some n⟩, rest')
        | none => (⟨.clip, some n⟩, rest)
    | none, none => (⟨.clip, none⟩, cs)

/-- The end of a line that may hold nothing but blanks and a comment, and the break after it. -/
def readLineEnd (cs : List Char) : Option (List Char) :=
  let rest := cs.dropWhile isBlank
  let rest := if rest.head? == some '#' then rest.dropWhile (!isBreak ·) else rest
  match rest with
  | [] => some []
  | c :: rest => if isBreak c then some rest else none

/-- The widest indentation up to the first character of text. -/
def widestIndentation : List Char → Nat → Nat → Except SyntaxError Nat
  | [], column, widest => .ok (max widest column)
  | c :: cs, column, widest =>
    if c == ' ' then widestIndentation cs (column + 1) widest
    else if c == '\t' then .error .tabIndentation
    else if isBreak c then widestIndentation cs 0 (max widest column)
    else .ok (max widest column)

/-- What a block scalar's reader remembers at the start of a line. -/
structure BlockGap where
  /-- The break that ended the last line of text. -/
  lead : Option Char
  /-- The breaks of the empty lines after it. -/
  trail : List Char
  /-- Whether the last line of text began with a blank. -/
  spaced : Bool
  deriving DecidableEq, Repr

namespace BlockGap

/-- The text between two lines, the second of which begins with a blank or not. -/
def text (literal : Bool) (g : BlockGap) (spacedNext : Bool) : List Char :=
  if !literal && g.lead == some '\n' && !g.spaced && !spacedNext then
    (if g.trail.isEmpty then [' '] else []) ++ g.trail
  else g.lead.toList ++ g.trail

/-- The text after the last line. -/
def tail (g : BlockGap) : Chomping → List Char
  | .strip => []
  | .clip => g.lead.toList
  | .keep => g.lead.toList ++ g.trail

end BlockGap

/-- Read the lines of a block scalar indented by `indent` columns. With `inLine` the reader stands
inside a line of text, otherwise in the indentation of the next. -/
def readBlockLines (literal : Bool) (chomping : Chomping) (indent : Nat) :
    List Char → Position → (inLine : Bool) → BlockGap → Except SyntaxError Lexeme
  | [], p, _, gap => .ok ⟨gap.tail chomping, [], p, true⟩
  | c :: cs, p, true, gap =>
    if isBreak c then
      readBlockLines literal chomping indent cs (p.after c) false ⟨some c, [], gap.spaced⟩
    else
      (readBlockLines literal chomping indent cs (p.after c) true gap).map (·.prepend [c])
  | c :: cs, p, false, gap =>
    if c == ' ' && p.column < indent then
      readBlockLines literal chomping indent cs (p.after c) false gap
    else if c == '\t' && p.column < indent then .error .tabIndentation
    else if isBreak c then
      readBlockLines literal chomping indent cs (p.after c) false
        { gap with trail := gap.trail ++ [c] }
    else if p.column == indent then
      (readBlockLines literal chomping indent cs (p.after c) true ⟨none, [], isBlank c⟩).map
        (·.prepend (gap.text literal (isBlank c) ++ [c]))
    else .ok ⟨gap.tail chomping, c :: cs, p, true⟩

/-- Read a block scalar from the characters after its indicator. `level` is the least column that
lies inside the block around it. -/
def readBlock (literal : Bool) (level : Nat) (cs : List Char) (p : Position) :
    Except SyntaxError Lexeme := do
  let (header, rest) := readBlockIndicators cs
  match readLineEnd rest with
  | none => .error .badBlockHeader
  | some body =>
    let pos := p.upTo cs body
    let indent ← match header.indentation with
      | some n => .ok (level - 1 + n)
      | none => (widestIndentation body pos.column 0).map fun widest => max (max widest level) 1
    readBlockLines literal header.chomping indent body pos false ⟨none, [], false⟩

end ByteChannel.Yaml
