import ByteChannel.Bytes
import ByteChannel.Fault

/-!
# Copiers

A channel never interprets its elements. Moving one in or out is the work of a *copier*, which the
channel's owner supplies: it is handed an element size, a destination and a source, and overwrites
the destination as it sees fit. A copier may keep a state from call to call, may produce bytes
that depend on what the destination held before, and may fault after having written part of it. It
cannot change the destination's length, and that is the one law it carries.

## Main definitions

* `CopyCall` — one request to a copier
* `Copied` — what a request left behind
* `Copier` — a copier with state `σ`
* `Copier.plain` — the byte-for-byte copy

## Main results

* `Copier.plain_ok` — when the plain copy succeeds and what it then writes
-/

namespace ByteChannel

/-- A request to copy `size` bytes of `source` over `target`. -/
structure CopyCall where
  /-- Bytes of an element. -/
  size : Nat
  /-- The destination as it is before the copy. -/
  target : Bytes
  /-- What is to be copied. -/
  source : Bytes
  deriving DecidableEq, Repr

/-- What a copy request left behind. -/
structure Copied (σ : Type) where
  /-- The copier's next state. -/
  state : σ
  /-- The destination afterwards. -/
  target : Bytes
  /-- The fault that cut the copy short, if one did. -/
  fault : Option Fault

/-- A way of copying elements, with a state of type `σ`. -/
structure Copier (σ : Type) where
  /-- Serve one request. -/
  copy : σ → CopyCall → Copied σ
  /-- A destination is overwritten in place. -/
  length_target : ∀ s call, (copy s call).target.length = call.target.length

namespace Copier

/-- Copy the first `size` bytes of the source over those of the destination. Both must be long
enough, the destination being looked at first. -/
def plainCopy {σ : Type} (s : σ) (call : CopyCall) : Copied σ :=
  if call.target.length < call.size then
    ⟨s, call.target, some (.rangeEnd call.size call.target.length)⟩
  else if call.source.length < call.size then
    ⟨s, call.target, some (.rangeEnd call.size call.source.length)⟩
  else
    ⟨s, call.target.overwrite 0 (call.source.take call.size), none⟩

theorem length_target_plainCopy {σ : Type} (s : σ) (call : CopyCall) :
    (plainCopy s call).target.length = call.target.length := by
  unfold plainCopy
  split
  · rfl
  · split
    · rfl
    · exact Bytes.length_overwrite ..

/-- The byte-for-byte copy. It has no use for its state. -/
def plain (σ : Type) : Copier σ where
  copy := plainCopy
  length_target := length_target_plainCopy

/-- Between strings of exactly the element size the plain copy replaces the destination. -/
theorem plain_ok {σ : Type} (s : σ) (call : CopyCall) (ht : call.target.length = call.size)
    (hs : call.source.length = call.size) :
    (plain σ).copy s call = ⟨s, call.source, none⟩ := by
  simp [plain, plainCopy, ht, hs, Bytes.overwrite, List.take_of_length_le, List.drop_eq_nil_of_le]

end Copier

end ByteChannel
