/-!
# Binary floating point numbers

A finite floating point number of 64 bits is a sign and a magnitude `significand * 2 ^ exponent`
with a significand below `2 ^ 53` and an exponent of at least `-1074`. This module rounds decimals
to such numbers in exact arithmetic: to the nearest, and of two equally near ones to that with the
even significand.

## Main definitions

* `Decimal` — a decimal in scientific form, with `Decimal.parse?`
* `Binary64`, `Binary64.ofDecimal?` — rounding, which fails when the decimal is too large
-/

namespace ByteChannel

/-- The number `± digits * 10 ^ exponent`. -/
structure Decimal where
  /-- Whether the sign is a minus. -/
  negative : Bool
  /-- All digits, read as a whole number. -/
  digits : Nat
  /-- The power of ten they count. -/
  exponent : Int
  deriving DecidableEq, Repr

namespace Decimal

/-- The value of a string of decimal digits. -/
def value (cs : List Char) : Nat :=
  cs.foldl (fun n c => 10 * n + (c.toNat - '0'.toNat)) 0

/-- Read an exponent: an optional sign and at least one digit. -/
def parseExponent? (cs : List Char) : Option Int :=
  let (negative, digits) := match cs with
    | '-' :: rest => (true, rest)
    | '+' :: rest => (false, rest)
    | _ => (false, cs)
  if digits.isEmpty || !digits.all Char.isDigit then none
  else some (if negative then -(value digits : Int) else value digits)

/-- Read what follows the sign: digits with at most one point among or around them, at least one
of them, and an optional exponent after `e` or `E`. -/
def parseMagnitude? (cs : List Char) : Option (Nat × Int) :=
  let whole := cs.takeWhile Char.isDigit
  let rest := cs.dropWhile Char.isDigit
  let (fraction, rest) := match rest with
    | '.' :: rest => (rest.takeWhile Char.isDigit, rest.dropWhile Char.isDigit)
    | _ => ([], rest)
  let exponent? := match rest with
    | [] => some 0
    | c :: rest => if c == 'e' || c == 'E' then parseExponent? rest else none
  if whole.isEmpty && fraction.isEmpty then none
  else exponent?.map fun e => (value (whole ++ fraction), e - fraction.length)

/-- Read a decimal with an optional sign. -/
def parse? (cs : List Char) : Option Decimal :=
  let (negative, magnitude) := match cs with
    | '-' :: rest => (true, rest)
    | '+' :: rest => (false, rest)
    | _ => (false, cs)
  (parseMagnitude? magnitude).map fun (digits, exponent) => ⟨negative, digits, exponent⟩

end Decimal

/-- A floating point number of 64 bits. -/
inductive Binary64 where
  /-- The number `± significand * 2 ^ exponent`. -/
  | finite (negative : Bool) (significand : Nat) (exponent : Int)
  /-- An infinity. -/
  | infinite (negative : Bool)
  /-- No number at all. -/
  | notANumber
  deriving DecidableEq, Repr

namespace Binary64

/-- One more than the largest significand. -/
def precision : Nat := Nat.pow 2 53

/-- The exponent of the smallest numbers. -/
def minExponent : Int := -1074

/-- The exponent of the largest numbers. -/
def maxExponent : Int := 971

/-- A quotient rounded to the nearest whole number, halves to the even one. -/
def roundDiv (num den : Nat) : Nat :=
  let q := num / den
  let r := num % den
  if 2 * r < den || (2 * r == den && q % 2 == 0) then q else q + 1

/-- A power with a whole exponent of either sign, as a fraction. -/
def pow (base : Nat) (e : Int) : Nat × Nat :=
  if 0 ≤ e then (base.pow e.toNat, 1) else (1, base.pow (-e).toNat)

/-- The quotient of two positive numbers as a significand and an exponent, rounded. -/
def ofFraction (num den : Nat) : Nat × Int :=
  let guess : Int := max ((num.log2 : Int) - den.log2 - 53) minExponent
  let scaled (q : Int) : Nat × Nat :=
    let (up, down) := pow 2 q
    (num * down, den * up)
  let fits := (scaled guess).1 / (scaled guess).2 < precision
  let q := if fits then guess else guess + 1
  let m := roundDiv (scaled q).1 (scaled q).2
  if m == precision then (precision / 2, q + 1) else (m, q)

/-- How many decimal digits a number has. -/
def digitCount (n : Nat) : Nat :=
  (Nat.toDigits 10 n).length

/-- The nearest number to a decimal, unless that lies beyond the largest one. -/
def ofDecimal? (d : Decimal) : Option Binary64 :=
  let magnitude := digitCount d.digits + d.exponent
  if d.digits = 0 || magnitude < -330 then some (.finite d.negative 0 minExponent)
  else if 330 < magnitude then none
  else
    let (up, down) := pow 10 d.exponent
    let (m, q) := ofFraction (d.digits * up) down
    if maxExponent < q then none else some (.finite d.negative m q)

end Binary64

end ByteChannel
