import ByteChannel.Yaml.Lexeme.Basic
import ByteChannel.Yaml.Lexeme.Block
import ByteChannel.Yaml.Lexeme.Quoted

/-!
# Names, tags and directives

The lexemes that are not scalars: the name of an anchor or alias, the handle and suffix of a tag,
and the directive lines that may stand before a document. All lie within one line, so each reader
returns the characters left over and the position follows from them.
-/

namespace ByteChannel.Yaml

/-! ### Anchors -/

/-- Whether an anchor's name may be followed directly by `c`. -/
def followsAnchor (c : Char) : Bool :=
  isSpacing c || c == '?' || c == ':' || c == ',' || c == ']' || c == '}' || c == '%' || c == '@' ||
    c == '`'

/-- Read the name of an anchor or alias. -/
def readAnchor (cs : List Char) : Except SyntaxError (String × List Char) :=
  let name := cs.takeWhile isName
  let rest := cs.dropWhile isName
  if name.isEmpty || rest.head?.any (!followsAnchor ·) then .error .badAnchor
  else .ok (String.ofList name, rest)

/-! ### Tags -/

/-- The value of two hexadecimal digits after a percent sign. -/
def readOctet? : List Char → Option (Nat × List Char)
  | '%' :: a :: b :: rest =>
    match hexDigit? a, hexDigit? b with
    | some x, some y => some (16 * x + y, rest)
    | _, _ => none
  | _ => none

/-- Read `n` continuation octets of an encoded character. -/
def readContinuation? : Nat → Nat → List Char → Option (Nat × List Char)
  | 0, value, cs => some (value, cs)
  | n + 1, value, cs =>
    match readOctet? cs with
    | some (octet, rest) =>
      if octet / 64 == 2 then readContinuation? n (64 * value + octet % 64) rest else none
    | none => none

/-- The character whose encoding takes `size` octets and says `value`. The replacement character
stands for all that are no proper encoding. -/
def decoded (size value : Nat) : Char :=
  if value.isValidChar && (Char.ofNat value).utf8Size == size then Char.ofNat value else '\uFFFD'

/-- Read a character given by the percent-encoded octets of its encoding. -/
def readEncoded? (cs : List Char) : Option (Char × List Char) :=
  match readOctet? cs with
  | none => none
  | some (octet, rest) =>
    let continued (n value : Nat) :=
      (readContinuation? n value rest).map fun (value, rest) => (decoded (n + 1) value, rest)
    if octet < 0x80 then continued 0 octet
    else if octet / 32 == 6 then continued 1 (octet % 32)
    else if octet / 16 == 14 then continued 2 (octet % 16)
    else if octet / 8 == 30 then continued 3 (octet % 8)
    else none

/-- A character of a tag, and in a verbatim tag also the flow indicators that a URI may hold. -/
def isTagChar (verbatim : Bool) (c : Char) : Bool :=
  isName c || c == ';' || c == '/' || c == '?' || c == ':' || c == '@' || c == '&' || c == '=' ||
    c == '+' || c == '$' || c == '.' || c == '%' || c == '!' || c == '~' || c == '*' || c == '\'' ||
    c == '(' || c == ')' || (verbatim && (c == ',' || c == '[' || c == ']'))

/-- Read the characters of a tag, at most `fuel` of them. -/
def readTagChars (verbatim : Bool) : (fuel : Nat) → List Char →
    Except SyntaxError (List Char × List Char)
  | 0, cs => .ok ([], cs)
  | _, [] => .ok ([], [])
  | fuel + 1, c :: cs =>
    if !isTagChar verbatim c then .ok ([], c :: cs)
    else if c == '%' then
      match readEncoded? (c :: cs) with
      | none => .error .badTag
      | some (d, rest) =>
        (readTagChars verbatim fuel rest).map fun (text, rest) => (d :: text, rest)
    else (readTagChars verbatim fuel cs).map fun (text, rest) => (c :: text, rest)

/-- Read the characters of a tag, of which there must be one unless `mayBeEmpty`. The text ends
before the first of code zero, which only an escape can bring in. -/
def readTagText (verbatim mayBeEmpty : Bool) (cs : List Char) :
    Except SyntaxError (List Char × List Char) := do
  let (text, rest) ← readTagChars verbatim cs.length cs
  if text.isEmpty && !mayBeEmpty then .error .badTag
  else .ok (text.takeWhile (·.toNat != 0), rest)

/-- A tag as written: a handle that a directive gives a meaning, and what follows it. A verbatim
tag and the tag `!` have no handle. -/
structure TagName where
  /-- The handle, with its exclamation marks. -/
  handle : String
  /-- The rest of the tag. -/
  suffix : String
  deriving DecidableEq, Repr

/-- Read a tag from the characters after its exclamation mark. -/
def readTag (flow : Bool) (cs : List Char) : Except SyntaxError (TagName × List Char) := do
  let (tag, rest) ← match cs with
    | '<' :: body => do
      let (text, rest) ← readTagText true false body
      match rest with
      | '>' :: rest => .ok (⟨"", String.ofList text⟩, rest)
      | _ => .error .badTag
    | _ => do
      let name := cs.takeWhile isName
      match cs.dropWhile isName with
      | '!' :: body => do
        let (text, rest) ← readTagText false false body
        .ok (⟨"!" ++ String.ofList name ++ "!", String.ofList text⟩, rest)
      | body => do
        let (text, rest) ← readTagText false true body
        let suffix := name ++ text
        .ok (if suffix.isEmpty then ⟨"", "!"⟩ else ⟨"!", String.ofList suffix⟩, rest)
  if endsWord rest || (flow && rest.head? == some ',') then .ok (tag, rest) else .error .badTag

/-! ### Directives -/

/-- The value of a string of decimal digits. -/
def decimalValue (digits : List Char) : Nat :=
  digits.foldl (fun n c => 10 * n + (c.toNat - '0'.toNat)) 0

/-- Read one number of a version, of at most nine digits. -/
def readVersionNumber (cs : List Char) : Except SyntaxError (Nat × List Char) :=
  let digits := cs.takeWhile Char.isDigit
  if digits.isEmpty || 9 < digits.length then .error .badDirective
  else .ok (decimalValue digits, cs.dropWhile Char.isDigit)

/-- Read the version of a `%YAML` directive. -/
def readVersion (cs : List Char) : Except SyntaxError (TokenKind × List Char) := do
  let (major, rest) ← readVersionNumber (cs.dropWhile isBlank)
  match rest with
  | '.' :: rest => do
    let (minor, rest) ← readVersionNumber rest
    .ok (.versionDirective major minor, rest)
  | _ => .error .badDirective

/-- Read the handle and the expansion of a `%TAG` directive. -/
def readTagDirective (cs : List Char) : Except SyntaxError (TokenKind × List Char) := do
  match cs.dropWhile isBlank with
  | '!' :: cs => do
    let name := cs.takeWhile isName
    let rest := cs.dropWhile isName
    let (handle, rest) ← match rest with
      | '!' :: rest => .ok ("!" ++ String.ofList name ++ "!", rest)
      | _ => if name.isEmpty then .ok ("!", rest) else .error .badDirective
    if !rest.head?.any isBlank then .error .badDirective
    else do
      let (text, rest) ← readTagText true false (rest.dropWhile isBlank)
      if endsWord rest then .ok (.tagDirective handle (String.ofList text), rest)
      else .error .badDirective
  | _ => .error .badDirective

/-- Read a directive line from the characters after its percent sign, up to the next line. -/
def readDirective (cs : List Char) : Except SyntaxError (TokenKind × List Char) := do
  let name := String.ofList (cs.takeWhile isName)
  let rest := cs.dropWhile isName
  if !endsWord rest then .error .badDirective
  else do
    let (kind, rest) ←
      if name == "YAML" then readVersion rest
      else if name == "TAG" then readTagDirective rest
      else .error .badDirective
    match readLineEnd rest with
    | some rest => .ok (kind, rest)
    | none => .error .badDirective

end ByteChannel.Yaml
