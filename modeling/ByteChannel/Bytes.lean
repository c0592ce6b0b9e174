import ByteChannel.Fault

/-!
# Byte strings

A channel's buffer, its elements and the outputs of its operations are all byte strings: plain
lists of bytes, so that every fact about lists applies to them. The two operations a ring buffer
needs are reading a window and overwriting one in place.

Both are total. A window that reaches past the end is cut there, and overwriting never changes the
length of the string it is applied to, whatever the offset. A *slice* is a window that must not
reach past the end, on pain of a fault.

## Main definitions

* `Bytes.window` — the bytes of a range
* `Bytes.overwrite` — the same string with a range replaced
* `Bytes.slice` — the bytes of a range that is checked
* `Bytes.toHex` — two lower-case digits a byte
-/

namespace ByteChannel

/-- A string of bytes. -/
abbrev Bytes := List UInt8

namespace Bytes

/-- The `length` bytes that start at `start`, fewer where the string ends before. -/
def window (b : Bytes) (start length : Nat) : Bytes :=
  (b.drop start).take length

/-- The string with `chunk` written over it from `start` on. What does not fit is dropped. -/
def overwrite (b : Bytes) (start : Nat) (chunk : Bytes) : Bytes :=
  b.take start ++ chunk.take (b.length - start) ++ b.drop (start + chunk.length)

theorem length_window (b : Bytes) (start length : Nat) :
    (b.window start length).length = min length (b.length - start) := by
  simp [window]

/-- Overwriting is in place: the length stays. -/
@[simp] theorem length_overwrite (b : Bytes) (start : Nat) (chunk : Bytes) :
    (b.overwrite start chunk).length = b.length := by
  simp [overwrite]; omega

/-- A window shows the bytes of its range, each at its distance from the start. -/
theorem getElem?_window (b : Bytes) (start length i : Nat) :
    (b.window start length)[i]? = if i < length then b[start + i]? else none := by
  simp [window, List.getElem?_take]

/-- Overwriting shows the chunk inside its range and the old bytes outside. -/
theorem getElem?_overwrite (b : Bytes) (start : Nat) (chunk : Bytes) (i : Nat)
    (h : start + chunk.length ≤ b.length) :
    (b.overwrite start chunk)[i]? =
      if start ≤ i ∧ i < start + chunk.length then chunk[i - start]? else b[i]? := by
  have fits : chunk.take (b.length - start) = chunk := List.take_of_length_le (by omega)
  have before : (b.take start).length = start := by simp; omega
  rw [overwrite, fits, List.append_assoc, List.getElem?_append, before]
  by_cases below : i < start
  · simp [below, Nat.not_le.mpr below]
  · rw [if_neg below, List.getElem?_append]
    by_cases inside : i < start + chunk.length
    · rw [if_pos (by omega), if_pos ⟨by omega, inside⟩]
    · rw [if_neg (by omega), if_neg (by omega), List.getElem?_drop]
      congr 1
      omega

/-- The bytes from `start` up to `stop`, which must lie inside the string. -/
def slice (b : Bytes) (start stop : Nat) : Except Fault Bytes :=
  if stop ≤ b.length then .ok (b.window start (stop - start))
  else .error (.rangeEnd stop b.length)

theorem slice_of_le {b : Bytes} {start stop : Nat} (h : stop ≤ b.length) :
    b.slice start stop = .ok (b.window start (stop - start)) := by
  simp [slice, h]

theorem slice_of_lt {b : Bytes} {start stop : Nat} (h : b.length < stop) :
    b.slice start stop = .error (.rangeEnd stop b.length) := by
  simp [slice, Nat.not_le.mpr h]

/-- A string of `n` zero bytes. -/
def zeros (n : Nat) : Bytes :=
  List.replicate n 0

@[simp] theorem length_zeros (n : Nat) : (zeros n).length = n := by
  simp [zeros]

/-- Two lower-case hexadecimal digits for each byte. -/
def toHex (b : Bytes) : String :=
  String.ofList (b.flatMap fun x =>
    [Nat.digitChar (x.toNat / 16), Nat.digitChar (x.toNat % 16)])

end Bytes

end ByteChannel
