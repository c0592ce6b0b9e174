import ByteChannel.Yaml.Token

/-!
# Lexemes

A *lexeme* is what reading one token's characters yields: its text, the characters left over and
the position reached. Scalars that run over several lines share one rule about the spacing between
two of their words, which is the `Gap` of this module: blanks inside a line stay, a single line
feed becomes a space, and of several line feeds the first is dropped.
-/

namespace ByteChannel.Yaml

/-- The outcome of reading one token's characters. -/
structure Lexeme where
  /-- The text the characters stand for. -/
  text : List Char
  /-- The characters left over. -/
  rest : List Char
  /-- The position of the first character left over. -/
  pos : Position
  /-- Whether the characters read end with a line break. -/
  broken : Bool
  deriving DecidableEq, Repr

namespace Lexeme

/-- The same lexeme with more text in front. -/
def prepend (front : List Char) (l : Lexeme) : Lexeme :=
  { l with text := front ++ l.text }

end Lexeme

/-- The spacing read since the last word of a scalar. -/
inductive Gap where
  /-- None at all. -/
  | tight
  /-- Blanks within a line. -/
  | blanks (text : List Char)
  /-- A line break, absent if it was escaped, and the breaks that followed it. -/
  | breaks (first : Option Char) (more : List Char)
  deriving DecidableEq, Repr

namespace Gap

/-- The gap after a further blank. Blanks around a break do not count. -/
def blank (c : Char) : Gap → Gap
  | tight => blanks [c]
  | blanks text => blanks (text ++ [c])
  | breaks first more => breaks first more

/-- The gap after a further line break. -/
def lineBreak (c : Char) : Gap → Gap
  | tight | blanks _ => breaks (some c) []
  | breaks first more => breaks first (more ++ [c])

/-- Whether a line was broken. -/
def isBroken : Gap → Bool
  | breaks _ _ => true
  | _ => false

/-- Whether anything was read. -/
def isOpen : Gap → Bool
  | tight => false
  | _ => true

/-- The text a gap stands for between two words. -/
def text : Gap → List Char
  | tight => []
  | blanks text => text
  | breaks (some '\n') [] => [' ']
  | breaks (some '\n') more => more
  | breaks first more => first.toList ++ more

end Gap

end ByteChannel.Yaml
