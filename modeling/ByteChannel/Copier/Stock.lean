import ByteChannel.Copier

/-!
# A stock of copiers

Named copiers besides the plain one, all over the same state: a byte that counts calls, which only
`counting` uses. Each is total on requests of any size, touching only the positions that exist.
-/

namespace ByteChannel

namespace Copier

/-- Replace the first bytes of a destination by those of a string, leaving the rest. -/
def writeFront (target front : Bytes) : Bytes :=
  target.overwrite 0 front

@[simp] theorem length_writeFront (target front : Bytes) :
    (writeFront target front).length = target.length :=
  Bytes.length_overwrite ..

/-- A copier that has no state of its own and never faults: the destination's first bytes become
`front call`. -/
def total (σ : Type) (front : CopyCall → Bytes) : Copier σ where
  copy s call := ⟨s, writeFront call.target (front call), none⟩
  length_target _ _ := length_writeFront ..

/-- Complement every byte. -/
def inverting (σ : Type) : Copier σ :=
  total σ fun call => (call.source.take call.size).map (fun x => ~~~ x)

/-- Copy the bytes in reverse order. -/
def reversing (σ : Type) : Copier σ :=
  total σ fun call => (call.source.take call.size).reverse

/-- Combine every byte with the one it replaces, by exclusive or. -/
def mixing (σ : Type) : Copier σ :=
  total σ fun call => List.zipWith (· ^^^ ·) call.target (call.source.take call.size)

/-- Leave the destination as it is. -/
def idle (σ : Type) : Copier σ :=
  total σ fun _ => []

/-- Copy the first half of the element only, rounding down. -/
def halving (σ : Type) : Copier σ :=
  total σ fun call => call.source.take (call.size / 2)

/-- Fault on elements that start with the byte `0xff`, and copy plainly otherwise. -/
def trapping (σ : Type) : Copier σ where
  copy s call :=
    if 0 < call.size ∧ call.source.head? = some 0xff then ⟨s, call.target, some (.raised "trap")⟩
    else plainCopy s call
  length_target s call := by
    split
    · rfl
    · exact length_target_plainCopy s call

/-- Copy plainly, then add to the first byte the number of earlier calls that did not fault. Both
the count and the sum are bytes and wrap around. -/
def countingCopy (calls : UInt8) (call : CopyCall) : Copied UInt8 :=
  let done := plainCopy calls call
  match done.fault with
  | some _ => done
  | none =>
    let target := if call.size = 0 then done.target
      else writeFront done.target ((done.target.take 1).map (· + calls))
    ⟨calls + 1, target, none⟩

theorem length_target_countingCopy (calls : UInt8) (call : CopyCall) :
    (countingCopy calls call).target.length = call.target.length := by
  have h := length_target_plainCopy calls call
  simp only [countingCopy]
  split
  · exact h
  · dsimp only
    split <;> simp [h]

/-- The copier that stamps each element with a call count. -/
def counting : Copier UInt8 where
  copy := countingCopy
  length_target := length_target_countingCopy

end Copier

/-- The copiers that can be asked for by name. -/
inductive StockCopier where
  | plain
  | recording
  | inverting
  | reversing
  | mixing
  | idle
  | halving
  | trapping
  | counting
  deriving DecidableEq, Repr

namespace StockCopier

/-- The copier of a name. Recording is plain copying; what distinguishes it is that its calls are
listed with the answers of a session. -/
def copier : StockCopier → Copier UInt8
  | plain | recording => Copier.plain UInt8
  | inverting => Copier.inverting UInt8
  | reversing => Copier.reversing UInt8
  | mixing => Copier.mixing UInt8
  | idle => Copier.idle UInt8
  | halving => Copier.halving UInt8
  | trapping => Copier.trapping UInt8
  | counting => Copier.counting

end StockCopier

end ByteChannel
