import ByteChannel.Decimal.Shortest
import ByteChannel.Text
import ByteChannel.Yaml.Event

/-!
# What a scalar says

A plain scalar is read as null, a truth value, an integer, a floating point number or, failing all
these, a text; a scalar in quotes or blocks is a text. A tag can demand one of these readings.
Where an unsigned integer is wanted, `Scalar.unsigned?` gives it; what there was instead is a
`Found`, which the error message names.

Integers may be written to the bases sixteen, eight and two after `0x`, `0o` and `0b`. A decimal
one has no leading zeros: `007` is a text, and is no floating point number either.
-/

namespace ByteChannel.Yaml

/-- What a value turned out to be. -/
inductive Found where
  | unit
  | boolean (b : Bool)
  /-- An integer of 64 bits, with or without a sign. -/
  | integer (n : Int)
  /-- An integer that needs 128 bits. -/
  | wide (n : Int)
  | float (x : Binary64)
  | text (s : String)
  | sequence
  | mapping
  deriving DecidableEq, Repr

namespace Found

/-- The words for it in a message. -/
def describe : Found → String
  | unit => "unit value"
  | boolean b => s!"boolean `{b}`"
  | integer n => s!"integer `{n}`"
  | wide n => s!"integer `{n}` as " ++ (if 0 ≤ n then "u128" else "i128")
  | float x => s!"floating point `{x.toText}`"
  | text s => "string " ++ Text.quoted s
  | sequence => "sequence"
  | mapping => "map"

end Found

/-! ### Integers -/

/-- The value of a digit to a base up to sixteen. -/
def digit? (base : Nat) (c : Char) : Option Nat :=
  let value? :=
    if c.isDigit then some (c.toNat - '0'.toNat)
    else if 'a' ≤ c ∧ c ≤ 'f' then some (c.toNat - 'a'.toNat + 10)
    else if 'A' ≤ c ∧ c ≤ 'F' then some (c.toNat - 'A'.toNat + 10)
    else none
  value?.filter (· < base)

/-- The value of one or more digits after those that make up `n`. -/
def digits? (base : Nat) : List Char → Nat → Option Nat
  | [], n => some n
  | c :: cs, n =>
    match digit? base c with
    | some d => digits? base cs (base * n + d)
    | none => none

/-- The number that a nonempty string of digits stands for. -/
def natural? (base : Nat) (cs : List Char) : Option Nat :=
  if cs.isEmpty then none else digits? base cs 0

/-- Whether a string is a zero and more digits, after an optional sign. -/
def hasLeadingZero (cs : List Char) : Bool :=
  let unsigned := match cs with
    | '-' :: rest | '+' :: rest => rest
    | _ => cs
  match unsigned with
  | '0' :: c :: rest => (c :: rest).all Char.isDigit
  | _ => false

/-- The magnitude of an integer without its sign, to the base its first characters say. -/
def magnitude? : List Char → Option Nat
  | '0' :: 'x' :: rest => natural? 16 rest
  | '0' :: 'o' :: rest => natural? 8 rest
  | '0' :: 'b' :: rest => natural? 2 rest
  | cs => if hasLeadingZero cs then none else natural? 10 cs

/-- The unsigned integer a string stands for, with an optional plus sign. -/
def unsigned? : List Char → Option Nat
  | '+' :: '+' :: _ | '+' :: '-' :: _ => none
  | '+' :: cs => magnitude? cs
  | cs => magnitude? cs

/-- The magnitude of the negative integer a string stands for. -/
def negative? : List Char → Option Nat
  | '-' :: cs => magnitude? cs
  | _ => none

/-- The integer a string stands for, by the first of four ranges that holds it. -/
def integer? (cs : List Char) : Option Found :=
  match unsigned? cs, negative? cs with
  | some n, _ =>
    if n < Nat.pow 2 64 then some (.integer n)
    else if n < Nat.pow 2 128 then some (.wide n)
    else none
  | none, some n =>
    if n ≤ Nat.pow 2 63 then some (.integer (-n))
    else if n ≤ Nat.pow 2 127 then some (.wide (-n))
    else none
  | none, none => none

/-! ### Other readings -/

/-- Whether a string spells null. -/
def isNull (s : String) : Bool :=
  s == "~" || s == "null" || s == "Null" || s == "NULL"

/-- The truth value a string spells. -/
def boolean? (s : String) : Option Bool :=
  if s == "true" || s == "True" || s == "TRUE" then some true
  else if s == "false" || s == "False" || s == "FALSE" then some false
  else none

/-- Whether a string spells infinity, without a sign. -/
def isInfinity (s : String) : Bool :=
  s == ".inf" || s == ".Inf" || s == ".INF"

/-- Whether a string spells the result of an undefined operation. -/
def isNotANumber (s : String) : Bool :=
  s == ".nan" || s == ".NaN" || s == ".NAN"

/-- The floating point number a string stands for. -/
def float? (cs : List Char) : Option Binary64 :=
  let positive := match cs with
    | '+' :: rest => rest
    | _ => cs
  let twice := match cs with
    | '+' :: '+' :: _ | '+' :: '-' :: _ => true
    | _ => false
  let opposite := match cs with
    | '-' :: rest => isInfinity (String.ofList rest)
    | _ => false
  if twice then none
  else if isInfinity (String.ofList positive) then some (.infinite false)
  else if opposite then some (.infinite true)
  else if isNotANumber (String.ofList cs) then some .notANumber
  else (Decimal.parse? positive).bind Binary64.ofDecimal?

/-- The reading of a plain scalar without a tag. -/
def readText (s : String) : Found :=
  let cs := s.toList
  if s.isEmpty || isNull s then .unit
  else match boolean? s, integer? cs with
    | some b, _ => .boolean b
    | none, some found => found
    | none, none =>
      if hasLeadingZero cs then .text s
      else match float? cs with
        | some x => .float x
        | none => .text s

/-! ### Scalars -/

/-- The tag of a standard type. -/
def standardTag (name : String) : String :=
  "tag:yaml.org,2002:" ++ name

/-- Why a value is not what was wanted. -/
inductive Mismatch where
  /-- It is of another type. -/
  | type (found : Found)
  /-- Its text is not of the form its own tag demands. -/
  | value (text : String) (demanded : String)
  deriving DecidableEq, Repr

namespace Mismatch

/-- The message, where `expected` was wanted. -/
def message (expected : String) : Mismatch → String
  | type found => s!"invalid type: {found.describe}, expected {expected}"
  | value text demanded => "invalid value: string " ++ Text.quoted text ++ ", expected " ++ demanded

end Mismatch

namespace Scalar

/-- Take a reading, or complain that the tag demands one. -/
def demand (s : Scalar) (found : Option Found) (demanded : String) : Mismatch :=
  match found with
  | some found => .type found
  | none => .value s.text demanded

/-- What a scalar is when it is not what was wanted. -/
def mismatch (s : Scalar) : Mismatch :=
  let cs := s.text.toList
  match s.tag with
  | none => .type (if s.style == .plain then readText s.text else .text s.text)
  | some tag =>
    if tag == standardTag "bool" then s.demand ((boolean? s.text).map .boolean) "a boolean"
    else if tag == standardTag "int" then s.demand (integer? cs) "an integer"
    else if tag == standardTag "float" then s.demand ((float? cs).map .float) "a float"
    else if tag == standardTag "null" then
      s.demand (if isNull s.text then some .unit else none) "null"
    else if tag.startsWith "!" && s.style == .plain then .type (readText s.text)
    else .type (.text s.text)

/-- Whether a scalar may stand for an integer: a plain one, or a literal block that says so. -/
def mayBeInteger (s : Scalar) : Bool :=
  s.style == .plain || (s.style == .literal && s.tag == some (standardTag "int"))

/-- The unsigned integer of 64 bits that a scalar stands for. -/
def unsigned? (s : Scalar) : Option Nat :=
  if s.mayBeInteger then (Yaml.unsigned? s.text.toList).filter (· < Nat.pow 2 64) else none

end Scalar

end ByteChannel.Yaml
