import ByteChannel.Yaml.Lexeme.Basic

/-!
# Plain scalars

A plain scalar is a run of words without quotes. It ends before a colon that ends a word, before a
comment, before a document mark, at a flow indicator inside a flow collection, and in block context
before the first word of a line that is not indented enough. The spacing after its last word is read
with it but is no part of its text.
-/

namespace ByteChannel.Yaml

/-- The characters that structure flow collections. -/
def isFlowIndicator (c : Char) : Bool :=
  c == ',' || c == '[' || c == ']' || c == '{' || c == '}'

/-- Whether a plain scalar ends before `c` wherever that stands, `cs` being what follows. -/
def endsPlain (flow : Bool) (c : Char) (cs : List Char) : Bool :=
  (c == ':' && endsWord cs) || (flow && isFlowIndicator c)

/-- Whether a word that begins with `c` after a gap is no part of a plain scalar: a comment, a
document mark, or in block context a word to the left of column `indent`. -/
def leavesPlain (flow : Bool) (indent : Nat) (c : Char) (cs : List Char) (p : Position) : Bool :=
  c == '#' || (p.column == 0 && isDocumentMark (c :: cs)) || (!flow && p.column < indent)

/-- Whether `c` is a colon that a flow collection does not allow inside a plain scalar. -/
def isStrayColon (flow : Bool) (c : Char) (cs : List Char) : Bool :=
  flow && c == ':' && cs.head?.any fun d => isFlowIndicator d || d == '?'

/-- Read a plain scalar from a text at position `p`, `gap` being the spacing since its last word. -/
def readPlain (flow : Bool) (indent : Nat) : List Char → Position → Gap → Except SyntaxError Lexeme
  | [], p, gap => .ok ⟨[], [], p, gap.isBroken⟩
  | c :: cs, p, gap =>
    if isBlank c then
      if c == '\t' && gap.isBroken && p.column < indent then .error .tabIndentation
      else readPlain flow indent cs (p.after c) (gap.blank c)
    else if isBreak c then readPlain flow indent cs (p.after c) (gap.lineBreak c)
    else if gap.isOpen && leavesPlain flow indent c cs p then .ok ⟨[], c :: cs, p, gap.isBroken⟩
    else if isStrayColon flow c cs then .error .unexpectedColon
    else if endsPlain flow c cs then .ok ⟨[], c :: cs, p, gap.isBroken⟩
    else (readPlain flow indent cs (p.after c) .tight).map (·.prepend (gap.text ++ [c]))

end ByteChannel.Yaml
