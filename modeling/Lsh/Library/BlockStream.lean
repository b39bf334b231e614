
import Mathlib.Data.List.Basic
import Mathlib.Tactic.Ring

/-!
# Block by block stream transformers

A block function takes a state and one block to a new state and an output block. `crypt` runs it
over consecutive blocks of a string, so that running it over a string in two pieces is running
it over the whole, as long as the cut is between blocks (`crypt_append`).

`Inverse` says that a second block function undoes a first one in lock step: from related states
it maps each output block back to its input block, and the states stay related. That is all that
is needed for two ends of a stream to agree however the blocks are grouped into calls
(`Inverse.crypt`).
-/

namespace BlockStream

open List

variable {α σ τ : Type*}

/-- Run a block function over `m` consecutive blocks of `k` symbols. -/
def crypt (f : σ → List α → σ × List α) (k : ℕ) : ℕ → σ → List α → σ × List α
  | 0, s, _ => (s, [])
  | m + 1, s, d =>
    let r := f s (d.take k)
    let t := crypt f k m r.1 (d.drop k)
    (t.1, r.2 ++ t.2)

@[simp] theorem crypt_zero (f k) (s : σ) (d : List α) : crypt f k 0 s d = (s, []) := rfl

/-- Cutting a string between blocks. -/
theorem crypt_append {a : List α} (f k m n) (s : σ) (ha : a.length = m * k) (b : List α) :
    crypt f k (m + n) s (a ++ b) =
      ((crypt f k n (crypt f k m s a).1 b).1,
        (crypt f k m s a).2 ++ (crypt f k n (crypt f k m s a).1 b).2) := by
  induction m generalizing s a with
  | zero =>
    have : a = [] := List.length_eq_zero_iff.mp (by simpa using ha)
    simp [this]
  | succ m ih =>
    have hk : k ≤ a.length := by rw [ha, Nat.succ_mul]; omega
    have hdp : (a.drop k).length = m * k := by rw [length_drop, ha, Nat.succ_mul]; omega
    rw [Nat.succ_add, crypt, crypt, take_append_of_le_length hk,
      drop_append_of_le_length hk, ih _ hdp]
    simp

/-- A block function that keeps the length of blocks keeps the length of strings. -/
theorem length_crypt {k : ℕ} {f : σ → List α → σ × List α} {m : ℕ}
    (hf : ∀ s b, b.length = k → (f s b).2.length = k) (s : σ) {d : List α}
    (hd : d.length = m * k) : (crypt f k m s d).2.length = m * k := by
  induction m generalizing s d with
  | zero => simp
  | succ m ih =>
    have hta : (d.take k).length = k := by
      rw [length_take, hd, Nat.succ_mul]
      omega
    have hdp : (d.drop k).length = m * k := by rw [length_drop, hd, Nat.succ_mul]; omega
    rw [crypt, length_append, hf s _ hta, ih _ hdp, Nat.succ_mul, Nat.add_comm]

/-- The second block function undoes the first one in lock step. -/
structure Inverse (f : σ → List α → σ × List α) (g : τ → List α → τ × List α) (k : ℕ)
    (R : σ → τ → Prop) : Prop where
  /-- Output blocks have the size of input blocks. -/
  length_block : ∀ s b, b.length = k → (f s b).2.length = k
  /-- Each output block is mapped back to its input block. -/
  block : ∀ s t b, R s t → b.length = k → (g t (f s b).2).2 = b
  /-- The states stay related. -/
  rel : ∀ s t b, R s t → b.length = k → R (f s b).1 (g t (f s b).2).1

/-- **Lock step over whole strings.** -/
theorem Inverse.crypt {f : σ → List α → σ × List α} {g : τ → List α → τ × List α} {k m : ℕ}
    {R : σ → τ → Prop} {s : σ} {t : τ} {d : List α} (h : Inverse f g k R) (hR : R s t)
    (hd : d.length = m * k) :
    (BlockStream.crypt g k m t (BlockStream.crypt f k m s d).2).2 = d ∧
      R (BlockStream.crypt f k m s d).1
        (BlockStream.crypt g k m t (BlockStream.crypt f k m s d).2).1 := by
  induction m generalizing s t d with
  | zero =>
    have : d = [] := List.length_eq_zero_iff.mp (by simpa using hd)
    simp [this, hR]
  | succ m ih =>
    have hta : (d.take k).length = k := by
      rw [length_take, hd, Nat.succ_mul]
      omega
    have hdp : (d.drop k).length = m * k := by rw [length_drop, hd, Nat.succ_mul]; omega
    have hlen := h.length_block s _ hta
    obtain ⟨ihb, ihr⟩ := ih (h.rel s t _ hR hta) hdp
    refine ⟨?_, ?_⟩
    · rw [BlockStream.crypt, BlockStream.crypt, take_left' hlen, drop_left' hlen]
      simp only [h.block s t _ hR hta, ihb, take_append_drop]
    · rw [BlockStream.crypt, BlockStream.crypt, take_left' hlen, drop_left' hlen]
      exact ihr

end BlockStream
