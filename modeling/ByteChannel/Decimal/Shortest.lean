import ByteChannel.Decimal.Binary64

/-!
# The shortest decimal of a floating point number

Among the decimals that round to a given number, those with the fewest digits are the shortest,
and the nearest of them is the one to print; of two equally near ones it is the larger. The
decimals that round to a number form an interval, which includes its ends exactly when the
significand is even. For one digit, two digits and so on, the two neighbours of the number on that
decimal grid are tried.

## Main definitions

* `Binary64.shortest` — digits and the place of the point
* `Binary64.toText` — the positional text, with a point in every finite number
-/

namespace ByteChannel

namespace Binary64

/-- A number and the bounds of the interval that rounds to it, all counted in `1 / unit`. -/
structure Interval where
  /-- The lower bound. -/
  low : Nat
  /-- The number. -/
  mid : Nat
  /-- The upper bound. -/
  high : Nat
  /-- What they are counted in. -/
  unit : Nat
  /-- Whether the bounds belong to it. -/
  closed : Bool

/-- The interval of decimals that round to `significand * 2 ^ exponent`. Below a power of two the
numbers lie twice as close. -/
def interval (significand : Nat) (exponent : Int) : Interval :=
  let (up, down) := pow 2 (exponent - 2)
  let below := if significand * 2 == precision && minExponent < exponent then 1 else 2
  ⟨(4 * significand - below) * up, 4 * significand * up, (4 * significand + 2) * up, down,
    significand % 2 == 0⟩

namespace Interval

/-- Whether the fraction `num / den` lies in the interval. -/
def contains (i : Interval) (num den : Nat) : Bool :=
  let x := num * i.unit
  if i.closed then i.low * den ≤ x && x ≤ i.high * den else i.low * den < x && x < i.high * den

/-- The best decimal of the form `d * 10 ^ place` in the interval, if there is one. -/
def onGrid? (i : Interval) (place : Int) : Option Nat :=
  let (up, down) := pow 10 place
  let d := i.mid * down / (i.unit * up)
  let lower := i.contains (d * up) down
  let upper := i.contains ((d + 1) * up) down
  if lower && upper then
    let remainder := i.mid * down - d * (i.unit * up)
    some (if 2 * remainder < i.unit * up then d else d + 1)
  else if lower then some d
  else if upper then some (d + 1)
  else none

/-- Try grids of `n` digits and more, `point` being the number of digits before the point. -/
def search (i : Interval) (point : Int) : (tries : Nat) → (n : Nat) → Nat × Int
  | 0, n => (i.mid / i.unit, point - n)
  | tries + 1, n =>
    match i.onGrid? (point - n) with
    | some d => (d, point - n)
    | none => search i point tries (n + 1)

end Interval

/-- The shortest decimal `digits * 10 ^ place` of a positive number. No number needs more than
seventeen digits. -/
def shortest (significand : Nat) (exponent : Int) : Nat × Int :=
  let i := interval significand exponent
  let scale : Nat := 400
  let point : Int := digitCount (i.mid * Nat.pow 10 scale / i.unit) - scale
  i.search point 17 1

/-- The positional text of `digits * 10 ^ place`, with at least one digit on either side of the
point. -/
def positional (digits : Nat) (place : Int) : String :=
  let text := Nat.toDigits 10 digits
  let zeros := text.reverse.takeWhile (· == '0')
  let kept := text.take (text.length - zeros.length)
  let point := place + text.length
  if point ≤ 0 then
    String.ofList (['0', '.'] ++ List.replicate (-point).toNat '0' ++ kept)
  else if kept.length ≤ point then
    String.ofList (kept ++ List.replicate (point.toNat - kept.length) '0' ++ ['.', '0'])
  else String.ofList (kept.take point.toNat ++ ['.'] ++ kept.drop point.toNat)

/-- The text of a number: its shortest decimal written out, without exponents. -/
def toText : Binary64 → String
  | finite negative significand exponent =>
    let magnitude :=
      if significand = 0 then "0.0"
      else
        let (digits, place) := shortest significand exponent
        positional digits place
    (if negative then "-" else "") ++ magnitude
  | infinite negative => if negative then "-inf" else "inf"
  | notANumber => "NaN"

end Binary64

end ByteChannel
