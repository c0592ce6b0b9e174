import ByteChannel.Channel.Construction
import ByteChannel.Proofs.Ring
import Mathlib.Data.Nat.Log

/-!
# Which channels can be built, and how they are numbered

A configuration is judged by three tests, and the first that fails is reported: the alignment must
be a power of two, it must divide the element size, and the product of capacity and element size
must be a number of 64 bits. `Config.validate_cases` says so in terms of exact arithmetic. There is
one more obstacle, which is not part of the judgement: a buffer of `2 ^ 63` bytes or more cannot be
allocated, and asking for one is a fault.

Channels are numbered as they come into being. A number is taken last, when the configuration was
judged and the buffer is there, so a request that is refused or cut short leaves no gap. Over a
whole sequence of requests the numbers of the channels are therefore consecutive, and how many
requests failed between two of them cannot be told.

## Main definitions

* `Construction.Settles` — how a request must end
* `numbers` — the numbers that were given

## Main results

* `Config.isPowerOfTwo_iff`, `Config.validate_cases` — the judgement
* `Channel.create_cases` — how construction ends
* `Issuer.numbers_constructAll` — no gaps
* `Issuer.constructions_settle` — all of it
-/

namespace ByteChannel

namespace Config

variable {c : Config}

/-! ### The judgement -/

theorem isPowerOfTwo_iff (a : Nat) : isPowerOfTwo a = true ↔ ∃ k, a = 2 ^ k := by
  rw [isPowerOfTwo, beq_iff_eq]
  constructor
  · intro h
    exact ⟨a.log2, h.symm⟩
  · rintro ⟨k, rfl⟩
    rw [Nat.log2_two_pow]
    rfl

/-- A power of two that has 64 bits is one of the first 64. -/
theorem exists_pow_lt_iff {a : Nat} (h : a < sizeLimit) :
    (∃ k < 64, a = 2 ^ k) ↔ ∃ k, a = 2 ^ k := by
  constructor
  · rintro ⟨k, -, hk⟩
    exact ⟨k, hk⟩
  · rintro ⟨k, rfl⟩
    exact ⟨k, (Nat.pow_lt_pow_iff_right (by decide)).mp h, rfl⟩

/-- **The judgement.** The tests come in this order, and a configuration that passes them all is
answered by the length of its buffer. -/
theorem validate_cases (c : Config) :
    ((¬ ∃ k, c.elementAlign = 2 ^ k) ∧ c.validate = .error (.alignment c.elementAlign)) ∨
    ((∃ k, c.elementAlign = 2 ^ k) ∧ ¬ c.elementAlign ∣ c.elementSize ∧
      c.validate = .error (.misaligned c.elementSize c.elementAlign)) ∨
    ((∃ k, c.elementAlign = 2 ^ k) ∧ c.elementAlign ∣ c.elementSize ∧
      sizeLimit ≤ c.capacity * c.elementSize ∧
      c.validate = .error (.overflow c.capacity c.elementSize)) ∨
    ((∃ k, c.elementAlign = 2 ^ k) ∧ c.elementAlign ∣ c.elementSize ∧
      c.capacity * c.elementSize < sizeLimit ∧ c.validate = .ok (c.capacity * c.elementSize)) := by
  rw [← isPowerOfTwo_iff, Nat.dvd_iff_mod_eq_zero, validate, bufferLength]
  by_cases aligned : isPowerOfTwo c.elementAlign = true
  · by_cases divides : c.elementSize % c.elementAlign = 0
    · rcases Nat.lt_or_ge (c.capacity * c.elementSize) sizeLimit with fits | long
      · simp [aligned, divides, fits, Nat.not_le.mpr fits]
      · simp [aligned, divides, long, Nat.not_lt.mpr long]
    · simp [aligned, divides]
  · simp [aligned]

/-- What is said of a configuration, for each of the things that can be said. -/
theorem validate_verdicts (h : c.elementAlign < sizeLimit) :
    ((∃ e, c.validate = .error e ∧ e.field? = some "element_align") ↔
      ¬ ∃ k < 64, c.elementAlign = 2 ^ k) ∧
    ((∃ e, c.validate = .error e ∧ e.field? = some "element_size") ↔
      (∃ k < 64, c.elementAlign = 2 ^ k) ∧ ¬ c.elementAlign ∣ c.elementSize) ∧
    (c.validate = .error (.overflow c.capacity c.elementSize) ↔
      (∃ k < 64, c.elementAlign = 2 ^ k) ∧ c.elementAlign ∣ c.elementSize ∧
        sizeLimit ≤ c.capacity * c.elementSize) ∧
    (c.validate = .ok (c.capacity * c.elementSize) ↔
      (∃ k < 64, c.elementAlign = 2 ^ k) ∧ c.elementAlign ∣ c.elementSize ∧
        c.capacity * c.elementSize < sizeLimit) := by
  rw [exists_pow_lt_iff h]
  rcases c.validate_cases with ⟨crooked, hv⟩ | ⟨aligned, apart, hv⟩ |
    ⟨aligned, divides, long, hv⟩ | ⟨aligned, divides, fits, hv⟩
  · simp [hv, crooked, Invalid.field?]
  · simp [hv, aligned, apart, Invalid.field?]
  · simp [hv, aligned, divides, long, Nat.not_lt.mpr long, Invalid.field?]
  · simp [hv, aligned, divides, fits, Nat.not_le.mpr fits]

end Config

/-! ### One request -/

/-- How a request for a channel with the given configuration must end. -/
structure Construction.Settles (config : Config) (outcome : Outcome Config.Invalid Channel) :
    Prop where
  /-- There is a channel exactly if the configuration is valid and the buffer can be allocated. -/
  ok_iff : (∃ ch, outcome = .ok ch) ↔
    (∃ n, config.validate = .ok n) ∧ config.capacity * config.elementSize ≤ Allocator.limit
  /-- The request is refused exactly if the configuration is invalid, and for that reason. -/
  error_iff : ∀ e, outcome = .error e ↔ config.validate = .error e
  /-- It is cut short exactly if nothing but the allocation fails. -/
  fault_iff : ∀ f, outcome = .fault f ↔ f = .tooLarge ∧ (∃ n, config.validate = .ok n) ∧
    Allocator.limit < config.capacity * config.elementSize
  /-- The channel has the shape that was asked for. -/
  shape_eq : ∀ ch, outcome = .ok ch →
    ch.capacity = config.capacity ∧ ch.layout = ⟨config.elementSize, config.elementAlign⟩
  /-- It is open and empty, and nobody waits. -/
  isNew : ∀ ch, outcome = .ok ch →
    ch.closed = false ∧ ch.count = 0 ∧ ch.sendIndex = 0 ∧ ch.receiveIndex = 0 ∧
      ch.senders.waiters = [] ∧ ch.receivers.waiters = []
  /-- Its buffer is all zero, and absent if there are no slots. -/
  buffer_eq : ∀ ch, outcome = .ok ch → ch.buffer =
    if config.capacity = 0 then none
    else some (List.replicate (config.capacity * config.elementSize) 0)

namespace Channel

/-- How construction ends: the configuration is judged first, and then the buffer is allocated. -/
theorem create_cases (id : Nat) (config : Config) :
    (∃ e, config.validate = .error e ∧ create id config = .error e) ∨
    (config.validate = .ok config.bufferLength ∧ Allocator.limit < config.bufferLength ∧
      create id config = .fault .tooLarge) ∨
    (config.validate = .ok config.bufferLength ∧ config.bufferLength ≤ Allocator.limit ∧
      create id config = .ok (fresh id config)) := by
  cases hv : config.validate with
  | error e =>
    left
    exact ⟨e, rfl, by rw [create, hv]⟩
  | ok n =>
    right
    obtain rfl : n = config.bufferLength := ((config.validate_eq_ok_iff n).mp hv).2.2.2
    rcases Nat.lt_or_ge Allocator.limit config.bufferLength with long | fits
    · left
      have buffered : config.capacity ≠ 0 := by
        intro hzero
        rw [Config.bufferLength, hzero, Nat.zero_mul] at long
        omega
      refine ⟨rfl, long, ?_⟩
      rw [create, hv]
      simp [buffered, Allocator.heap, Nat.not_le.mpr long]
    · right
      exact ⟨rfl, fits, create_eq_ok_iff.mpr ⟨hv, fits, rfl⟩⟩

theorem settles_create (id : Nat) (config : Config) :
    Construction.Settles config (create id config) := by
  have hproduct : config.capacity * config.elementSize = config.bufferLength := rfl
  rcases create_cases id config with ⟨e, hv, hc⟩ | ⟨hv, long, hc⟩ | ⟨hv, fits, hc⟩
  · rw [hc]
    constructor <;> simp [hv]
  · have hfault : ∀ f, Fault.tooLarge = f ↔ f = .tooLarge := fun f => eq_comm
    rw [hc]
    constructor <;> simp [hv, hproduct, long, hfault]
  · rw [hc]
    constructor
    · simp [hv, hproduct, fits]
    · simp [hv]
    · simp [hv, hproduct, fits]
    · rintro ch ⟨⟩
      exact ⟨rfl, rfl⟩
    · rintro ch ⟨⟩
      exact ⟨rfl, rfl, rfl, rfl, rfl, rfl⟩
    · rintro ch ⟨⟩
      rfl

end Channel

/-! ### A sequence of requests -/

/-- The number of the channel that came into being, if one did. -/
def number? : Outcome Config.Invalid Channel → Option Nat
  | .ok ch => some ch.id
  | .error _ | .fault _ => none

/-- The numbers of the channels that came into being. -/
def numbers (outcomes : List (Outcome Config.Invalid Channel)) : List Nat :=
  outcomes.filterMap number?

namespace Issuer

variable {κ : Type}

/-- Serving a request is construction with the next number, which is taken if there is a channel. -/
theorem construct_eq (issuer : Issuer) (request : Construction κ) :
    (issuer.construct request).1 = Channel.create (issuer.last + 1) request.config ∧
      (number? (issuer.construct request).1 = some (issuer.last + 1) ∧
          (issuer.construct request).2 = ⟨issuer.last + 1⟩ ∨
        number? (issuer.construct request).1 = none ∧ (issuer.construct request).2 = issuer) := by
  rw [construct, create]
  rcases Channel.create_cases (issuer.last + 1) request.config with
    ⟨e, -, hc⟩ | ⟨-, -, hc⟩ | ⟨-, -, hc⟩
  · rw [hc]
    exact ⟨rfl, .inr ⟨rfl, rfl⟩⟩
  · rw [hc]
    exact ⟨rfl, .inr ⟨rfl, rfl⟩⟩
  · rw [hc]
    exact ⟨rfl, .inl ⟨rfl, rfl⟩⟩

theorem constructAll_cons (issuer : Issuer) (request : Construction κ)
    (requests : List (Construction κ)) :
    issuer.constructAll (request :: requests) =
      ((issuer.construct request).1 :: ((issuer.construct request).2.constructAll requests).1,
        ((issuer.construct request).2.constructAll requests).2) :=
  rfl

/-- Each request ends as its configuration says, whatever came before. -/
theorem settles_constructAll (issuer : Issuer) (requests : List (Construction κ)) :
    List.Forall₂ (fun request outcome => Construction.Settles request.config outcome) requests
      (issuer.constructAll requests).1 := by
  induction requests generalizing issuer with
  | nil => exact .nil
  | cons request requests ih =>
    rw [constructAll_cons]
    refine .cons ?_ (ih _)
    rw [(issuer.construct_eq request).1]
    exact Channel.settles_create _ _

/-- **No gaps.** The numbers given are those after the last one, in order, and the giver goes on
from there. -/
theorem numbers_constructAll (issuer : Issuer) (requests : List (Construction κ)) :
    numbers (issuer.constructAll requests).1 =
        List.range' (issuer.last + 1) (numbers (issuer.constructAll requests).1).length ∧
      (issuer.constructAll requests).2.last =
        issuer.last + (numbers (issuer.constructAll requests).1).length := by
  induction requests generalizing issuer with
  | nil => exact ⟨rfl, rfl⟩
  | cons request requests ih =>
    obtain ⟨hnumbers, hlast⟩ := ih (issuer.construct request).2
    rw [constructAll_cons]
    obtain ⟨-, ⟨hnumber, hissuer⟩ | ⟨hnumber, hissuer⟩⟩ := issuer.construct_eq request
    · rw [numbers, List.filterMap_cons_some hnumber, ← numbers, List.length_cons, List.range'_succ,
        hlast]
      rw [hissuer] at hnumbers ⊢
      exact ⟨congrArg _ hnumbers, by dsimp only; omega⟩
    · rw [numbers, List.filterMap_cons_none hnumber, ← numbers]
      rw [hissuer] at hnumbers hlast ⊢
      exact ⟨hnumbers, hlast⟩

/-- **Construction.** The judgement of a configuration of 64-bit numbers is exact. Let requests for
channels be served from the beginning, of any kind and with any arguments, so that fewer than
`2 ^ 64 - 1` of them succeed. Then

* each ends with a channel exactly if its configuration is valid and its buffer has fewer than
  `2 ^ 63` bytes, and the channel is new; it is refused exactly if its configuration is invalid, and
  cut short in the remaining case;
* a request by capacity and layout ends as one with the configuration of these does;
* the channels are numbered from one on without gaps, and the giver of numbers has not come to the
  end of the 64-bit numbers. -/
theorem constructions_settle (requests : List (Construction κ))
    {outcomes : List (Outcome Config.Invalid Channel)} {issuer : Issuer}
    (served : constructAll ⟨0⟩ requests = (outcomes, issuer))
    (few : (numbers outcomes).length < Config.sizeLimit - 1) :
    (∀ c : Config, c.elementAlign < Config.sizeLimit →
      ((∃ e, c.validate = .error e ∧ e.field? = some "element_align") ↔
        ¬ ∃ k < 64, c.elementAlign = 2 ^ k) ∧
      ((∃ e, c.validate = .error e ∧ e.field? = some "element_size") ↔
        (∃ k < 64, c.elementAlign = 2 ^ k) ∧ ¬ c.elementAlign ∣ c.elementSize) ∧
      (c.validate = .error (.overflow c.capacity c.elementSize) ↔
        (∃ k < 64, c.elementAlign = 2 ^ k) ∧ c.elementAlign ∣ c.elementSize ∧
          Config.sizeLimit ≤ c.capacity * c.elementSize) ∧
      (c.validate = .ok (c.capacity * c.elementSize) ↔
        (∃ k < 64, c.elementAlign = 2 ^ k) ∧ c.elementAlign ∣ c.elementSize ∧
          c.capacity * c.elementSize < Config.sizeLimit)) ∧
    List.Forall₂ (fun request outcome => Construction.Settles request.config outcome) requests
      outcomes ∧
    (∀ (giver : Issuer) (capacity : Nat) (layout : Layout) (copier : κ),
      giver.construct (.new capacity layout copier) =
          giver.construct (.configured ⟨capacity, layout.size, layout.align⟩ copier) ∧
        giver.construct (.plain capacity layout : Construction κ) =
          giver.construct (.new capacity layout copier)) ∧
    numbers outcomes = List.range' 1 (numbers outcomes).length ∧
    issuer.last = (numbers outcomes).length ∧ issuer.last + 1 < Config.sizeLimit := by
  have hsettles := settles_constructAll ⟨0⟩ requests
  obtain ⟨hnumbers, hlast⟩ := numbers_constructAll ⟨0⟩ requests
  rw [served] at hsettles hnumbers hlast
  dsimp only at hnumbers hlast
  rw [Nat.zero_add] at hnumbers hlast
  refine ⟨fun c h => Config.validate_verdicts h, hsettles, fun _ _ _ _ => ⟨rfl, rfl⟩, hnumbers,
    hlast, ?_⟩
  rw [hlast]
  omega

/-- A channel, an alignment of three, a size that is no multiple of its alignment, a buffer too long
to be counted, one too long to be allocated, and two more channels, one without slots and one of
which the elements have no bytes. -/
theorem constructions_settle_mixed :
    ∃ (requests : List (Construction Nat)) (outcomes : List (Outcome Config.Invalid Channel))
      (issuer : Issuer),
      constructAll ⟨0⟩ requests = (outcomes, issuer) ∧
      (numbers outcomes).length < Config.sizeLimit - 1 ∧
      outcomes = [.ok (Channel.fresh 1 ⟨2, 8, 8⟩), .error (.alignment 3), .error (.misaligned 6 4),
        .error (.overflow (Config.sizeLimit - 1) 2), .fault .tooLarge,
        .ok (Channel.fresh 2 ⟨0, 4, 4⟩), .ok (Channel.fresh 3 ⟨Config.sizeLimit - 1, 0, 1⟩)] ∧
      numbers outcomes = List.range' 1 (numbers outcomes).length := by
  have served := Eq.refl (constructAll ⟨0⟩ [.plain 2 ⟨8, 8⟩, .configured ⟨1, 6, 3⟩ 7,
    .new 1 ⟨6, 4⟩ 7, .plain (Config.sizeLimit - 1) ⟨2, 1⟩, .new (Nat.pow 2 62) ⟨2, 1⟩ 7,
    .configured ⟨0, 4, 4⟩ 7, .plain (Config.sizeLimit - 1) ⟨0, 1⟩])
  exact ⟨_, _, _, served, by decide, by decide, (constructions_settle _ served (by decide)).2.2.2.1⟩

end Issuer

end ByteChannel
