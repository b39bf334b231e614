
import Mathlib.Data.List.Induction
import Mathlib.Data.Nat.Log
import Mathlib.Tactic.Ring

/-!
# Octet strings and numbers in base 256

Numbers travel as big-endian octet strings. `beEncode` writes the low digits of a number at a
fixed width and `beDecode` reads any octet string back; both are total, so the width and range
conditions are hypotheses of the theorems and not of the definitions.

The second half is the signed variable-width form used for multiple precision integers: the
shortest big-endian two's complement representation, with zero written as the empty string.

## Main results

* `beDecode_beEncode` — reading back what was written, modulo the width
* `readUint32_writeUint32` — the four octet case
* `mpintDecode_mpintEncode` — the signed form round trips on every natural number
* `length_mpintEncode_le` — a number below `256 ^ k` takes at most `k + 1` octets
-/

/-- Strings of octets. -/
abbrev Octets := List UInt8

namespace Octets

open List

/-! ### Fixed width -/

/-- The `len` low base-256 digits of `n`, most significant first. -/
def beEncode : ℕ → ℕ → Octets
  | 0, _ => []
  | len + 1, n => beEncode len (n / 256) ++ [UInt8.ofNat n]

/-- The number a big-endian octet string denotes. -/
def beDecode (s : Octets) : ℕ := s.foldl (fun acc b => acc * 256 + b.toNat) 0

@[simp] theorem length_beEncode (len n) : (beEncode len n).length = len := by
  induction len generalizing n with
  | zero => rfl
  | succ len ih => simp [beEncode, ih]

@[simp] theorem beDecode_nil : beDecode [] = 0 := rfl

theorem beDecode_concat (s b) : beDecode (s ++ [b]) = beDecode s * 256 + b.toNat := by
  simp [beDecode]

theorem beDecode_lt (s) : beDecode s < 256 ^ s.length := by
  induction s using List.reverseRecOn with
  | nil => simp
  | append_singleton s b ih =>
    have hb : b.toNat < 256 := b.toNat_lt
    rw [beDecode_concat, length_append, length_singleton]
    omega

/-- Reading back what was written gives the number modulo the width. -/
theorem beDecode_beEncode (len n) : beDecode (beEncode len n) = n % 256 ^ len := by
  induction len generalizing n with
  | zero => simp [beEncode, Nat.mod_one]
  | succ len ih =>
    rw [beEncode, beDecode_concat, ih, UInt8.toNat_ofNat', Nat.pow_succ 256 len,
      Nat.mul_comm (256 ^ len), Nat.mod_mul]
    ring

theorem beEncode_beDecode (s) : beEncode s.length (beDecode s) = s := by
  induction s using List.reverseRecOn with
  | nil => rfl
  | append_singleton s b ih =>
    have hb : b.toNat < 256 := b.toNat_lt
    rw [length_append, length_singleton, beEncode, beDecode_concat,
      show (beDecode s * 256 + b.toNat) / 256 = beDecode s by omega]
    congr 2
    apply UInt8.toNat_inj.mp
    rw [UInt8.toNat_ofNat']
    omega

/-! ### Four octets -/

/-- A 32-bit number, most significant octet first. -/
def writeUint32 (n : ℕ) : Octets := beEncode 4 n

/-- The number in the first four octets of a string. -/
def readUint32 (p : Octets) : ℕ := beDecode (p.take 4)

@[simp] theorem length_writeUint32 (n) : (writeUint32 n).length = 4 := length_beEncode 4 n

theorem readUint32_lt (p) : readUint32 p < 2 ^ 32 := by
  have h := beDecode_lt (p.take 4)
  have hlen : (p.take 4).length ≤ 4 := by simp
  calc readUint32 p < 256 ^ (p.take 4).length := h
    _ ≤ 256 ^ 4 := Nat.pow_le_pow_right (by norm_num) hlen
    _ = 2 ^ 32 := by norm_num

theorem readUint32_writeUint32 (n rest) : readUint32 (writeUint32 n ++ rest) = n % 2 ^ 32 := by
  rw [readUint32, take_left' (length_writeUint32 n), writeUint32, beDecode_beEncode]
  norm_num

/-- Only the first four octets matter. -/
theorem readUint32_append {p : Octets} (h : 4 ≤ p.length) (q) :
    readUint32 (p ++ q) = readUint32 p := by
  rw [readUint32, readUint32, take_append_of_le_length h]

/-! ### Signed variable width -/

/-- The number of bits of `n`, with none for zero. -/
def bitLength (n : ℕ) : ℕ := if n = 0 then 0 else Nat.log2 n + 1

/-- Octets of the shortest two's complement form of a natural number: one bit is kept for the
sign, and zero takes none at all. -/
def mpintLength (n : ℕ) : ℕ := if n = 0 then 0 else 1 + bitLength n / 8

/-- The shortest big-endian two's complement form of a natural number. -/
def mpintEncode (n : ℕ) : Octets := beEncode (mpintLength n) n

/-- The integer a big-endian two's complement string denotes. -/
def mpintDecode (s : Octets) : ℤ :=
  match s with
  | [] => 0
  | b :: _ => if 128 ≤ b.toNat then (beDecode s : ℤ) - 256 ^ s.length else beDecode s

theorem lt_two_pow_bitLength (n) : n < 2 ^ bitLength n := by
  unfold bitLength
  split
  · next h => simp [h]
  · next h => exact (Nat.log2_lt h).mp (Nat.lt_succ_self _)

variable {n k : ℕ}

theorem bitLength_le (h : n < 2 ^ k) : bitLength n ≤ k := by
  unfold bitLength
  split
  · exact Nat.zero_le _
  · next h0 => exact (Nat.log2_lt h0).mpr h

@[simp] theorem length_mpintEncode (n) : (mpintEncode n).length = mpintLength n :=
  length_beEncode _ _

/-- The sign bit of the shortest form is clear. -/
theorem two_mul_lt_of_mpintLength (h : n ≠ 0) : 2 * n < 256 ^ mpintLength n := by
  have hn := lt_two_pow_bitLength n
  have hexp : bitLength n + 1 ≤ 8 * mpintLength n := by
    rw [mpintLength, if_neg h]
    omega
  calc 2 * n < 2 ^ (bitLength n + 1) := by omega
    _ ≤ 2 ^ (8 * mpintLength n) := Nat.pow_le_pow_right (by norm_num) hexp
    _ = 256 ^ mpintLength n := by rw [pow_mul]; norm_num

/-- The leading octet of a fixed width encoding is its top digit. -/
theorem head_beEncode (len n) :
    (beEncode (len + 1) n).head? = some (UInt8.ofNat (n / 256 ^ len)) := by
  induction len generalizing n with
  | zero => simp [beEncode]
  | succ len ih =>
    rw [beEncode, head?_append, ih, Nat.div_div_eq_div_mul, Nat.mul_comm 256]
    rfl

/-- **The signed form round trips.** -/
theorem mpintDecode_mpintEncode (n) : mpintDecode (mpintEncode n) = n := by
  by_cases h : n = 0
  · simp [h, mpintEncode, mpintLength, beEncode, mpintDecode]
  · have hlen : mpintLength n = bitLength n / 8 + 1 := by rw [mpintLength, if_neg h, Nat.add_comm]
    have hlt := two_mul_lt_of_mpintLength h
    have hhd := head_beEncode (bitLength n / 8) n
    have hdec := beDecode_beEncode (mpintLength n) n
    rw [← hlen] at hhd
    rw [mpintEncode]
    cases hs : beEncode (mpintLength n) n with
    | nil => rw [hs] at hhd; cases hhd
    | cons b s =>
      rw [hs] at hhd hdec
      have hb : b = UInt8.ofNat (n / 256 ^ (bitLength n / 8)) := Option.some.inj hhd
      have htop : n / 256 ^ (bitLength n / 8) < 128 := by
        refine Nat.div_lt_of_lt_mul ?_
        rw [hlen] at hlt
        omega
      have hbn : ¬ 128 ≤ b.toNat := by
        rw [hb, UInt8.toNat_ofNat', Nat.mod_eq_of_lt (by omega)]
        exact Nat.not_le.mpr htop
      rw [mpintDecode, if_neg hbn, hdec, Nat.mod_eq_of_lt (by omega)]

/-- A number below `256 ^ k` needs at most one octet more than `k`, for the sign. -/
theorem length_mpintEncode_le (h : n < 256 ^ k) : (mpintEncode n).length ≤ k + 1 := by
  rw [length_mpintEncode, mpintLength]
  split
  · exact Nat.zero_le _
  · have : bitLength n ≤ 8 * k := bitLength_le (by rw [pow_mul]; exact h)
    omega

end Octets
