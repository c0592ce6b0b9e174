import ByteChannel.Channel.Basic

/-!
# Draining

A drain takes all elements of a channel at once, provided there are at least so many. It asks an
allocator for one buffer and lets the copier write the elements into it one after the other, the
oldest first. Only when the last one is copied does the channel become empty; a fault on the way
leaves the channel as it was. The result is a `Batch`, which keeps the allocator's buffer as a
whole: bytes beyond the elements stay where they were.

## Main definitions

* `Batch`, `Batch.get?`, `Batch.items`
* `Channel.drain`
-/

namespace ByteChannel

/-- Elements that were taken together. -/
structure Batch where
  /-- The elements one after the other, and whatever else the allocator gave. -/
  bytes : Bytes
  /-- Bytes of an element. -/
  elementSize : Nat
  /-- How many elements there are. -/
  length : Nat
  deriving DecidableEq, Repr

namespace Batch

/-- The bytes of element `i`. -/
def item (b : Batch) (i : Nat) : Except Fault Bytes :=
  b.bytes.slice (i * b.elementSize) ((i + 1) * b.elementSize)

/-- The bytes of element `i`, if there is such an element. -/
def get? (b : Batch) (i : Nat) : Except Fault (Option Bytes) :=
  if i < b.length then (b.item i).map some else .ok none

/-- All elements in order. -/
def items (b : Batch) : Except Fault (List Bytes) :=
  (List.range b.length).mapM b.item

/-- The diagnostic text of a batch. -/
def describe (b : Batch) : String :=
  let bytes := ", ".intercalate (b.bytes.map toString)
  s!"Drained \x7b bytes: [{bytes}], element_size: {b.elementSize}, len: {b.length} \x7d"

end Batch

namespace Channel

variable {σ : Type}

/-- What copying elements into a buffer leaves behind. -/
structure CopiedOut (σ : Type) where
  /-- The buffer afterwards. -/
  bytes : Bytes
  /-- The copier's state afterwards. -/
  copier : σ
  /-- The requests made to it. -/
  calls : List CopyCall
  /-- The fault that cut the copying short, if one did. -/
  fault : Option Fault

/-- Copy the elements in the given slots into a buffer, as its elements number `j` and on. -/
def copyOut (copier : Copier σ) (ch : Channel) :
    List Nat → (j : Nat) → σ → Bytes → CopiedOut σ
  | [], _, s, bytes => ⟨bytes, s, [], none⟩
  | i :: is, j, s, bytes =>
    match bytes.slice (j * ch.elementSize) ((j + 1) * ch.elementSize), ch.slot i with
    | .error fault, _ | _, .error fault => ⟨bytes, s, [], some fault⟩
    | .ok target, .ok source =>
      let call : CopyCall := ⟨ch.elementSize, target, source⟩
      let copied := copier.copy s call
      let bytes := bytes.overwrite (j * ch.elementSize) copied.target
      match copied.fault with
      | some fault => ⟨bytes, copied.state, [call], some fault⟩
      | none =>
        let rest := copyOut copier ch is (j + 1) copied.state bytes
        { rest with calls := call :: rest.calls }

/-- Take all elements, if there are at least `minimum`. The allocator is asked before it is looked
whether the channel has a buffer at all. -/
def drain (copier : Copier σ) (s : σ) (ch : Channel) (minimum : Nat) (allocator : Allocator) :
    Step σ Empty (Option Batch) :=
  let considered : Notice := .considered ch.id minimum ch.count
  if ch.count < minimum then ⟨.ok none, ch, s, { notices := [considered] }⟩
  else
    let request := ch.count * ch.elementSize
    match allocator request with
    | .error fault => ⟨.fault fault, ch, s, { requests := [request], notices := [considered] }⟩
    | .ok bytes =>
      if ch.capacity < 1 then
        ⟨.ok none, ch, s, { requests := [request], notices := [considered, .unbuffered ch.id] }⟩
      else
        let draining : Notice := .draining ch.id ch.indices ch.count ch.capacity
        let out := copyOut copier ch ch.occupied 0 s bytes
        let effects : Effects := ⟨out.calls, [request], [considered, draining]⟩
        match out.fault with
        | some fault => ⟨.fault fault, ch, out.copier, effects⟩
        | none =>
          ⟨.ok (some ⟨out.bytes, ch.elementSize, ch.count⟩),
            { ch with receiveIndex := 0, sendIndex := 0, count := 0 }, out.copier, effects⟩

end Channel

end ByteChannel
