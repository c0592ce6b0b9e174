import ByteChannel.Yaml.Lexeme.Basic

/-!
# Quoted scalars

Between single quotes only the quote itself is special, written twice. Between double quotes a
backslash starts an escape: a letter for a control character, the code of a character in two, four
or eight hexadecimal digits, or a line break, which is then no part of the text. Lines are folded
in both.
-/

namespace ByteChannel.Yaml

/-- The value of a hexadecimal digit of either case. -/
def hexDigit? (c : Char) : Option Nat :=
  if c.isDigit then some (c.toNat - '0'.toNat)
  else if 'a' ≤ c ∧ c ≤ 'f' then some (c.toNat - 'a'.toNat + 10)
  else if 'A' ≤ c ∧ c ≤ 'F' then some (c.toNat - 'A'.toNat + 10)
  else none

/-- The character that a backslash and one letter stand for. -/
def escape? : Char → Option Char
  | '0' => some (Char.ofNat 0x0)
  | 'a' => some (Char.ofNat 0x7)
  | 'b' => some (Char.ofNat 0x8)
  | 't' => some '\t'
  | '\t' => some '\t'
  | 'n' => some '\n'
  | 'v' => some (Char.ofNat 0xB)
  | 'f' => some (Char.ofNat 0xC)
  | 'r' => some '\r'
  | 'e' => some (Char.ofNat 0x1B)
  | ' ' => some ' '
  | '"' => some '"'
  | '/' => some '/'
  | '\\' => some '\\'
  | 'N' => some '\u0085'
  | '_' => some '\u00a0'
  | 'L' => some '\u2028'
  | 'P' => some '\u2029'
  | _ => none

/-- How many hexadecimal digits follow the letter of a character code. -/
def codeLength? : Char → Option Nat
  | 'x' => some 2
  | 'u' => some 4
  | 'U' => some 8
  | _ => none

/-- Where inside a quoted scalar a reader is. -/
inductive QuoteMode where
  /-- After a word, or after the spacing `gap` that followed it. -/
  | between (gap : Gap)
  /-- After a backslash. -/
  | escaped
  /-- In a character code, with so many digits to come. -/
  | code (left value : Nat)
  deriving DecidableEq, Repr

/-- Read the rest of a scalar in quotes of the kind `quote`, up to and with the closing one. -/
def readQuoted (quote : Char) : List Char → Position → QuoteMode → Except SyntaxError Lexeme
  | [], _, _ => .error .unterminatedQuote
  | c :: cs, p, .code left value =>
    match hexDigit? c with
    | none => .error .badEscape
    | some d =>
      let value := 16 * value + d
      if 1 < left then readQuoted quote cs (p.after c) (.code (left - 1) value)
      else if value.isValidChar then
        (readQuoted quote cs (p.after c) (.between .tight)).map (·.prepend [Char.ofNat value])
      else .error .badEscape
  | c :: cs, p, .escaped =>
    if isBreak c then readQuoted quote cs (p.after c) (.between (.breaks none []))
    else match codeLength? c, escape? c with
      | some left, _ => readQuoted quote cs (p.after c) (.code left 0)
      | none, some d => (readQuoted quote cs (p.after c) (.between .tight)).map (·.prepend [d])
      | none, none => .error .badEscape
  | c :: cs, p, .between gap =>
    if isBlank c then readQuoted quote cs (p.after c) (.between (gap.blank c))
    else if isBreak c then readQuoted quote cs (p.after c) (.between (gap.lineBreak c))
    else if p.column == 0 && isDocumentMark (c :: cs) then .error .unterminatedQuote
    else if c == quote then
      match quote == '\'', cs with
      | true, '\'' :: cs =>
        (readQuoted quote cs (p.right 2) (.between .tight)).map (·.prepend (gap.text ++ ['\'']))
      | _, _ => .ok ⟨gap.text, cs, p.after c, false⟩
    else if quote == '"' && c == '\\' then
      (readQuoted quote cs (p.after c) .escaped).map (·.prepend gap.text)
    else (readQuoted quote cs (p.after c) (.between .tight)).map (·.prepend (gap.text ++ [c]))

end ByteChannel.Yaml
