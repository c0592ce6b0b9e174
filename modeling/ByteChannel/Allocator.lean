import ByteChannel.Bytes
import ByteChannel.Fault

/-!
# Allocators

A drain asks an *allocator* for the buffer it fills. An allocator is free to return more or fewer
bytes than asked for, with any contents, or to fault.
-/

namespace ByteChannel

/-- What a request for so many bytes yields. -/
abbrev Allocator := Nat → Except Fault Bytes

namespace Allocator

/-- The longest byte string that can be allocated. -/
def limit : Nat := Nat.pow 2 63 - 1

/-- As many zero bytes as asked for, up to the limit of an allocation. -/
def heap : Allocator := fun n =>
  if n ≤ limit then .ok (Bytes.zeros n) else .error .tooLarge

/-- As many bytes of the same value as asked for. -/
def filled (value : UInt8) : Allocator := fun n => .ok (List.replicate n value)

/-- One zero byte fewer than asked for. -/
def short : Allocator := fun n => .ok (Bytes.zeros (n - 1))

/-- `extra` bytes more than asked for, all of the same value. -/
def long (extra : Nat) (value : UInt8) : Allocator :=
  fun n => .ok (List.replicate (n + extra) value)

/-- No bytes, whatever was asked for. -/
def nothing : Allocator := fun _ => .ok []

/-- A fault, whatever was asked for. -/
def refusing : Allocator := fun n => .error (.raised s!"allocator refused {n} bytes")

end Allocator

end ByteChannel
