import ByteChannel.Bytes
import Mathlib.Tactic.Ring

/-!
# Reading after overwriting

The laws of windows and overwriting that a ring of slots rests on: a window shows what was written
over its own range, and nothing of what was written beside it. The second half is about strings
that are laid end to end in pieces of one size, as the elements of a batch are.

## Main results

* `Bytes.window_overwrite_self`, `Bytes.window_overwrite_of_apart` — read after write
* `Bytes.window_flatten` — the pieces of a string laid end to end
* `mapM_eq_pure`, `mapM_eq_ok` — reading many strings, none of which faults
-/

namespace ByteChannel

namespace Bytes

/-- A chunk that fits replaces exactly its own range. -/
theorem overwrite_eq {b chunk : Bytes} {start : Nat} (fits : start + chunk.length ≤ b.length) :
    b.overwrite start chunk = b.take start ++ chunk ++ b.drop (start + chunk.length) := by
  rw [overwrite, List.take_of_length_le (by omega : chunk.length ≤ b.length - start)]

theorem length_window_of_le {b : Bytes} {start length : Nat} (h : start + length ≤ b.length) :
    (b.window start length).length = length := by
  rw [length_window]
  omega

/-- Up to the end of the chunk there is what stood before it, and the chunk. -/
theorem take_overwrite {b chunk : Bytes} {start : Nat} (fits : start + chunk.length ≤ b.length) :
    (b.overwrite start chunk).take (start + chunk.length) = b.take start ++ chunk := by
  have before : (b.take start ++ chunk).length = start + chunk.length := by simp; omega
  rw [overwrite_eq fits, List.take_left' before]

/-- Beyond the chunk nothing is changed. -/
theorem drop_overwrite {b chunk : Bytes} {start n : Nat} (fits : start + chunk.length ≤ b.length)
    (beyond : start + chunk.length ≤ n) : (b.overwrite start chunk).drop n = b.drop n := by
  have before : (b.take start ++ chunk).length = start + chunk.length := by simp; omega
  obtain ⟨k, rfl⟩ := Nat.exists_eq_add_of_le beyond
  rw [overwrite_eq fits, ← List.drop_drop, List.drop_left' before, List.drop_drop]

/-- **Read after write.** -/
theorem window_overwrite_self {b chunk : Bytes} {start : Nat}
    (fits : start + chunk.length ≤ b.length) :
    (b.overwrite start chunk).window start chunk.length = chunk := by
  have before : (b.take start).length = start := by simp; omega
  rw [overwrite_eq fits, window, List.append_assoc, List.drop_left' before, List.take_left]

/-- **Read beside what was written.** -/
theorem window_overwrite_of_apart {b chunk : Bytes} {start i n : Nat}
    (fits : start + chunk.length ≤ b.length) (apart : i + n ≤ start ∨ start + chunk.length ≤ i) :
    (b.overwrite start chunk).window i n = b.window i n := by
  refine List.ext_getElem? fun k => ?_
  rw [getElem?_window, getElem?_window]
  by_cases hk : k < n
  · rw [if_pos hk, if_pos hk, getElem?_overwrite _ _ _ _ fits, if_neg (by omega)]
  · rw [if_neg hk, if_neg hk]

/-! ### Pieces of one size -/

/-- Two different places of a row of equal pieces lie apart. -/
theorem places_apart {size i j : Nat} (h : i ≠ j) :
    i * size + size ≤ j * size ∨ j * size + size ≤ i * size := by
  rcases Nat.lt_or_gt_of_ne h with h | h
  · left
    calc i * size + size = (i + 1) * size := by ring
      _ ≤ j * size := Nat.mul_le_mul_right size h
  · right
    calc j * size + size = (j + 1) * size := by ring
      _ ≤ i * size := Nat.mul_le_mul_right size h

/-- A place before the last one ends inside the row. -/
theorem place_end_le {size i n : Nat} (h : i < n) : i * size + size ≤ n * size := by
  calc i * size + size = (i + 1) * size := by ring
    _ ≤ n * size := Nat.mul_le_mul_right size h

theorem length_flatten_of_forall {size : Nat} {pieces : List Bytes}
    (sized : ∀ p ∈ pieces, p.length = size) : pieces.flatten.length = pieces.length * size := by
  induction pieces with
  | nil => simp
  | cons p ps ih =>
    have hp : p.length = size := sized p List.mem_cons_self
    have hps := ih fun q hq => sized q (List.mem_cons_of_mem p hq)
    rw [List.flatten_cons, List.length_append, hp, hps, List.length_cons]
    ring

/-- Pieces of one size laid end to end are found again, each at its own place, whatever follows
them. -/
theorem window_flatten {size : Nat} {pieces : List Bytes} (tail : Bytes)
    (sized : ∀ p ∈ pieces, p.length = size) {i : Nat} (hi : i < pieces.length) :
    Bytes.window (pieces.flatten ++ tail) (i * size) size = pieces[i] := by
  induction pieces generalizing i with
  | nil => simp at hi
  | cons p ps ih =>
    have hp : p.length = size := sized p List.mem_cons_self
    rw [List.flatten_cons, List.append_assoc, window]
    cases i with
    | zero => rw [Nat.zero_mul, List.drop_zero, ← hp, List.take_left, List.getElem_cons_zero]
    | succ i =>
      have hi' : i < ps.length := Nat.lt_of_succ_lt_succ hi
      have hdrop : (p ++ (ps.flatten ++ tail)).drop ((i + 1) * size)
          = (ps.flatten ++ tail).drop (i * size) := by
        rw [show (i + 1) * size = p.length + i * size by rw [hp]; ring, List.drop_append]
        simp
      rw [hdrop, List.getElem_cons_succ]
      exact ih (fun q hq => sized q (List.mem_cons_of_mem p hq)) hi'

end Bytes

/-! ### Reading that may fault -/

theorem exists_of_map_eq_ok {α β ε : Type} {x : Except ε α} {f : α → β} {b : β}
    (h : x.map f = .ok b) : ∃ a, x = .ok a ∧ f a = b := by
  cases x with
  | error e => cases h
  | ok a => exact ⟨a, rfl, Except.ok.inj h⟩

/-- Steps that do nothing but answer, one for each member of a list, answer them all. -/
theorem mapM_eq_pure {m : Type → Type} [Monad m] [LawfulMonad m] {α β : Type} {f : α → m β}
    {g : α → β} {l : List α} (h : ∀ a ∈ l, f a = pure (g a)) : l.mapM f = pure (l.map g) := by
  induction l with
  | nil => rfl
  | cons a l ih =>
    have hl := ih fun b hb => h b (List.mem_cons_of_mem a hb)
    rw [List.mapM_cons, h a List.mem_cons_self, hl]
    simp

/-- Reading that never faults on the members of a list reads them all. -/
theorem mapM_eq_ok {α β ε : Type} {f : α → Except ε β} {g : α → β} {l : List α}
    (h : ∀ a ∈ l, f a = .ok (g a)) : l.mapM f = .ok (l.map g) :=
  mapM_eq_pure h

end ByteChannel
