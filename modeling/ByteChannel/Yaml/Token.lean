import ByteChannel.Yaml.Position

/-!
# Tokens

A document is first cut into tokens: indicators, names and scalars, together with the marks that
indentation stands for (where a block collection begins and ends, and that a scalar before a colon
is a key).

A text that cannot be cut, or whose tokens do not fit together, has a `SyntaxError`.
-/

namespace ByteChannel.Yaml

/-- Why a text is no YAML document. -/
inductive SyntaxError where
  /-- A character stands in the text that no document may hold. -/
  | disallowedCharacter
  /-- A character stands where a token should begin, and begins none. -/
  | unexpectedCharacter
  /-- A block entry, key or value stands where none can begin. -/
  | misplacedIndicator
  /-- A key's colon is missing. -/
  | unfinishedKey
  /-- A tab stands in the indentation. -/
  | tabIndentation
  /-- A colon inside a plain scalar meets a flow indicator. -/
  | unexpectedColon
  /-- A quoted scalar is not closed. -/
  | unterminatedQuote
  /-- A backslash is followed by no known escape. -/
  | badEscape
  /-- The line of a block scalar's indicator holds something else. -/
  | badBlockHeader
  /-- An anchor or alias has no proper name. -/
  | badAnchor
  /-- A tag is not well formed. -/
  | badTag
  /-- A directive is not well formed, unknown or repeated. -/
  | badDirective
  /-- A tag's handle was not declared. -/
  | undefinedHandle
  /-- A token stands where another kind is needed. -/
  | unexpectedToken
  deriving DecidableEq, Repr

namespace SyntaxError

/-- The text of a syntax error. -/
def message : SyntaxError → String
  | disallowedCharacter => "control characters are not allowed"
  | unexpectedCharacter => "found character that cannot start any token"
  | misplacedIndicator => "block entries, keys and values are not allowed in this context"
  | unfinishedKey => "could not find expected ':'"
  | tabIndentation => "found a tab character that violates indentation"
  | unexpectedColon => "found unexpected ':'"
  | unterminatedQuote => "found unexpected end of a quoted scalar"
  | badEscape => "found unknown escape character"
  | badBlockHeader => "did not find expected comment or line break"
  | badAnchor => "did not find expected alphabetic or numeric character"
  | badTag => "did not find a well-formed tag"
  | badDirective => "did not find a known directive"
  | undefinedHandle => "found undefined tag handle"
  | unexpectedToken => "did not find expected node content"

end SyntaxError

/-- How a scalar is written. -/
inductive Style where
  | plain
  | singleQuoted
  | doubleQuoted
  | literal
  | folded
  deriving DecidableEq, Repr

/-- The kinds of token. -/
inductive TokenKind where
  | versionDirective (major minor : Nat)
  | tagDirective (handle expansion : String)
  | documentStart
  | documentEnd
  | blockSequenceStart
  | blockMappingStart
  | blockEnd
  | flowSequenceStart
  | flowSequenceEnd
  | flowMappingStart
  | flowMappingEnd
  | flowEntry
  | blockEntry
  | key
  | value
  | alias (name : String)
  | anchor (name : String)
  | tag (handle suffix : String)
  | scalar (text : String) (style : Style)
  | streamEnd
  deriving DecidableEq, Repr

/-- A token with the positions where it begins and ends. -/
structure Token where
  /-- What it is. -/
  kind : TokenKind
  /-- Its first character. -/
  start : Position
  /-- The character after it. -/
  stop : Position
  deriving DecidableEq, Repr

end ByteChannel.Yaml
