/-!
# Faults

An operation can end in three ways: it answers, it refuses with an error of its own kind, or it is
cut short by a *fault*. A fault is a broken promise of the caller or of a collaborator: a buffer
of the wrong length, an index outside the channel, an allocator that refuses. What the operation
had done up to that point stays done.

## Main definitions

* `Fault` — the causes, with `Fault.message` their texts
* `Outcome` — answer, refusal or fault
-/

namespace ByteChannel

/-- Why an operation was cut short. -/
inductive Fault where
  /-- An element to be sent has `given` bytes where the channel's elements have `expected`. -/
  | elementLength (given expected : Nat)
  /-- An output to receive into has `given` bytes where the channel's elements have `expected`. -/
  | outputLength (given expected : Nat)
  /-- A slot was asked for that the channel does not have. -/
  | slotIndex (index capacity : Nat)
  /-- A channel without a buffer was asked for a slot. -/
  | noSlots
  /-- A range that ends at `stop` was taken of a string of `length` bytes. -/
  | rangeEnd (stop length : Nat)
  /-- A byte string longer than any allocation can be was requested. -/
  | tooLarge
  /-- A collaborator gave up by itself. -/
  | raised (text : String)
  deriving DecidableEq, Repr

namespace Fault

/-- The text of a failed comparison of two lengths. -/
def lengthMismatch (what : String) (given expected : Nat) : String :=
  s!"assertion `left == right` failed: {what} length does not match the channel's element size\n" ++
    s!"  left: {given}\n right: {expected}"

/-- The text a fault is reported with. -/
def message : Fault → String
  | elementLength given expected => lengthMismatch "element" given expected
  | outputLength given expected => lengthMismatch "output" given expected
  | slotIndex index capacity => s!"slot index {index} out of bounds for capacity {capacity}"
  | noSlots => "unbuffered channel has no slots"
  | rangeEnd stop length => s!"range end index {stop} out of range for slice of length {length}"
  | tooLarge => "capacity overflow"
  | raised text => text

end Fault

/-- How an operation ended: with an answer, a refusal, or a fault. -/
inductive Outcome (ε α : Type) where
  /-- The operation did its work and answers. -/
  | ok (answer : α)
  /-- The operation refused, for a reason of its own kind. -/
  | error (reason : ε)
  /-- The operation was cut short. -/
  | fault (cause : Fault)
  deriving DecidableEq, Repr

end ByteChannel
