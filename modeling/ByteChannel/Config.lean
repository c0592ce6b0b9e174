import ByteChannel.Fault

/-!
# Channel configurations

A configuration gives a channel's capacity, and the size and alignment of its elements. It is
*valid* when the alignment is a power of two, the size is a multiple of the alignment, and a
buffer for all elements has fewer than `2 ^ 64` bytes; `Config.validate` then answers the length
of that buffer.

The size and the alignment together are a *layout*. Those of the element types that occur in
practice have names: nothing at all, a machine word of some width, and an array of equal elements.

## Main definitions

* `Layout`
* `Config`, `Config.layout`
* `Config.Invalid` — the ways a configuration can be wrong, in the order they are looked for
* `Config.validate`

## Main results

* `Config.validate_eq_ok_iff` — valid configurations are exactly the accepted ones
-/

namespace ByteChannel

/-- The size and the alignment of an element, in bytes. -/
structure Layout where
  /-- Bytes an element takes. -/
  size : Nat
  /-- The element's address is a multiple of this. -/
  align : Nat
  deriving DecidableEq, Repr

namespace Layout

/-- The layout of an element that carries no data. -/
def empty : Layout := ⟨0, 1⟩

/-- The layout of a scalar of `width` bytes, which is aligned to its own width. -/
def word (width : Nat) : Layout := ⟨width, width⟩

/-- The layout of `n` elements laid end to end. -/
def array (n : Nat) (element : Layout) : Layout := ⟨n * element.size, element.align⟩

/-- The diagnostic text of a layout. -/
def describe (l : Layout) : String :=
  s!"ElementLayout \x7b size: {l.size}, align: {l.align} \x7d"

end Layout

/-- What a channel is built from. -/
structure Config where
  /-- How many elements the channel holds; none for an unbuffered channel. -/
  capacity : Nat
  /-- Bytes of an element. -/
  elementSize : Nat
  /-- Alignment of an element, one where nothing is asked for. -/
  elementAlign : Nat := 1
  deriving DecidableEq, Repr

namespace Config

/-- How many values a size can take: sizes are counted in 64 bits. -/
def sizeLimit : Nat := Nat.pow 2 64

/-- The layout of the channel's elements. -/
def layout (c : Config) : Layout := ⟨c.elementSize, c.elementAlign⟩

/-- The length of a buffer for all of the channel's elements. -/
def bufferLength (c : Config) : Nat := c.capacity * c.elementSize

/-- What is wrong with a configuration. -/
inductive Invalid where
  /-- The alignment is no power of two. -/
  | alignment (align : Nat)
  /-- The size is no multiple of the alignment. -/
  | misaligned (size align : Nat)
  /-- The buffer would be too long. -/
  | overflow (capacity size : Nat)
  deriving DecidableEq, Repr

/-- Whether `a` is a power of two, which is then the one at its own binary logarithm. -/
def isPowerOfTwo (a : Nat) : Bool :=
  Nat.pow 2 a.log2 == a

/-- Check a configuration and answer the length of its buffer. -/
def validate (c : Config) : Except Invalid Nat :=
  if !isPowerOfTwo c.elementAlign then .error (.alignment c.elementAlign)
  else if c.elementSize % c.elementAlign ≠ 0 then .error (.misaligned c.elementSize c.elementAlign)
  else if sizeLimit ≤ c.bufferLength then .error (.overflow c.capacity c.elementSize)
  else .ok c.bufferLength

theorem validate_eq_ok_iff (c : Config) (n : Nat) :
    c.validate = .ok n ↔
      isPowerOfTwo c.elementAlign = true ∧ c.elementSize % c.elementAlign = 0 ∧
        c.bufferLength < sizeLimit ∧ n = c.bufferLength := by
  unfold validate
  cases ha : isPowerOfTwo c.elementAlign with
  | false => simp
  | true =>
    by_cases hs : c.elementSize % c.elementAlign = 0
    · by_cases hb : sizeLimit ≤ c.bufferLength
      · simp [hs, hb, Nat.not_lt.mpr hb]
      · simp [hs, hb, Nat.not_le.mp hb, eq_comm]
    · simp [hs]

namespace Invalid

/-- The field at fault, where it is a single one. -/
def field? : Invalid → Option String
  | alignment _ => some "element_align"
  | misaligned _ _ => some "element_size"
  | overflow _ _ => none

/-- What is wrong, without the name of the field. -/
def detail : Invalid → String
  | alignment align => s!"{align} is not a power of two"
  | misaligned size align => s!"{size} is not a multiple of the alignment {align}"
  | overflow capacity size =>
    s!"Buffer size overflows usize: capacity {capacity} x element size {size}"

/-- The full text. -/
def message (e : Invalid) : String :=
  match e.field? with
  | some field => s!"Invalid configuration value for '{field}': {e.detail}"
  | none => e.detail

end Invalid

end Config

end ByteChannel
