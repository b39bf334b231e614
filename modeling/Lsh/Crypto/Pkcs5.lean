
import Lsh.Basic
import Lsh.Library.Loop
import Mathlib.Data.UInt

/-!
# Keys from passwords

A model of `pkcs5.c`. The pseudo-random function is a parameter: what is fed to a MAC object is
collected, and the digest is a function of the key and of what was fed since the last digest.

PBKDF2 keeps two values for each block, the last `U` and the xor of all of them. The function has
one buffer for both. So it computes PBKDF2 for up to two iterations, and something else after that.

## Main results

* `pkcs5DeriveKey_eq` — what is computed for any number of iterations
* `pkcs5DeriveKey_pbkdf2` — this is PBKDF2 exactly for one or two iterations
* `pkcs5DeriveKey_three` — with three it is not
-/

namespace Lsh.Crypto

open Machine

/-- A `mac_algorithm`, and what its objects compute. MACs are short. -/
structure Prf where
  macSize : ℕ
  mac : Octets → Octets → Octets
  macSize_pos : 0 < macSize
  macSize_lt : 255 * macSize < 2 ^ 32
  length_mac : ∀ key m, (mac key m).length = macSize

/-- How `pkcs5_derive_key` may fail. -/
inductive DeriveFailure where
  /-- There is an iteration. -/
  | iterations
  /-- The key is not longer than 255 blocks. -/
  | keyLength
  /-- The last octet of the block counter does not wrap. -/
  | blockCount
  /-- `lsh_string_write_xor`: there is something to add. -/
  | xorLength
  /-- `pos + left == key_length`. -/
  | position
  /-- Too many rounds. -/
  | rounds
  deriving DecidableEq, Repr

/-- `memxor`. -/
def memxor (a b : Octets) : Octets := List.zipWith (· ^^^ ·) a b

section Derive

variable (prf : Prf) (password salt : Octets)

/-- The inner loop, for so many iterations after the first one. -/
def iterate : ℕ → Octets → Except DeriveFailure Octets
  | 0, buffer => .ok buffer
  | n + 1, buffer => do
    let digest := prf.mac password buffer
    require (digest.length ≠ 0) .xorLength
    iterate n (memxor buffer digest)

/-- The variables of the outer loop: the last octet of the block counter, what has been written to
the key, which is as long as `pos` says, and `left`. -/
structure DeriveState where
  blockCount : UInt8
  key : Octets
  left : ℕ

/-- A round of the outer loop. -/
def deriveRound (iterations keyLength : ℕ) (s : DeriveState) :
    Except DeriveFailure (DeriveState ⊕ Octets) := do
  require (s.blockCount ≠ 0) .blockCount
  let buffer ← iterate prf password (iterations - 1)
    (prf.mac password (salt ++ [0, 0, 0, s.blockCount]))
  require (s.key.length + s.left = keyLength) .position
  if s.left ≤ prf.macSize then return .inr (s.key ++ buffer.take s.left)
  else return .inl ⟨s.blockCount + 1, s.key ++ buffer, s.left - prf.macSize⟩

/-- `pkcs5_derive_key`. -/
def pkcs5DeriveKey (iterations keyLength : ℕ) : Except DeriveFailure Octets := do
  require (iterations ≠ 0) .iterations
  require (keyLength ≤ 255 * prf.macSize % 2 ^ 32) .keyLength
  loop (deriveRound prf password salt iterations keyLength) .rounds (keyLength + 1)
    ⟨1, [], keyLength⟩

/-! ### PBKDF2 -/

/-- `U_(j+1)` of a block. -/
def pbkdf2U (i : ℕ) : ℕ → Octets
  | 0 => prf.mac password (salt ++ Octets.beEncode 4 i)
  | j + 1 => prf.mac password (pbkdf2U i j)

/-- `T_i`, the xor of `U_1` and of so many more. -/
def pbkdf2T (i : ℕ) : ℕ → Octets
  | 0 => pbkdf2U prf password salt i 0
  | n + 1 => memxor (pbkdf2T i n) (pbkdf2U prf password salt i (n + 1))

/-- The first octets of `T_1 ‖ T_2 ‖ …`. -/
def pbkdf2 (iterations keyLength : ℕ) : Octets :=
  ((List.range 255).flatMap fun i => pbkdf2T prf password salt (i + 1)
    (iterations - 1)).take keyLength

/-! ### What is computed -/

/-- The value of the buffer after so many iterations. -/
def mixed : ℕ → Octets → Octets
  | 0, buffer => buffer
  | n + 1, buffer => mixed n (memxor buffer (prf.mac password buffer))

theorem iterate_eq (n buffer) :
    iterate prf password n buffer = .ok (mixed prf password n buffer) := by
  induction n generalizing buffer with
  | zero => rfl
  | succ n ih => simp [iterate, mixed, ih, prf.length_mac, prf.macSize_pos.ne']

theorem length_mixed {buffer : Octets} (n) (h : buffer.length = prf.macSize) :
    (mixed prf password n buffer).length = prf.macSize := by
  induction n generalizing buffer with
  | zero => exact h
  | succ n ih => exact ih (by simp [memxor, prf.length_mac, h])

/-- The block with a number, counted from 0. -/
def block (iterations i : ℕ) : Octets :=
  mixed prf password (iterations - 1) (prf.mac password (salt ++ Octets.beEncode 4 (i + 1)))

/-- So many blocks. -/
def blocks (iterations n : ℕ) : Octets :=
  (List.range n).flatMap (block prf password salt iterations)

theorem blocks_succ (iterations n) : blocks prf password salt iterations (n + 1) =
    blocks prf password salt iterations n ++ block prf password salt iterations n := by
  simp [blocks, List.range_succ]

theorem length_blocks (iterations n) :
    (blocks prf password salt iterations n).length = n * prf.macSize := by
  induction n with
  | zero => simp [blocks]
  | succ n ih => simp [blocks_succ, ih, block, length_mixed, prf.length_mac, Nat.succ_mul]

variable {n : ℕ}

/-- More blocks do not change the first ones. -/
theorem take_blocks {m k : ℕ} (iterations) (hn : n ≤ m) (hk : k ≤ n * prf.macSize) :
    (blocks prf password salt iterations m).take k =
      (blocks prf password salt iterations n).take k := by
  induction m, hn using Nat.le_induction with
  | base => rfl
  | succ m hm ih =>
    have hle : k ≤ m * prf.macSize := hk.trans (Nat.mul_le_mul_right _ hm)
    rw [blocks_succ, List.take_append_of_le_length (by rwa [length_blocks]), ih]

theorem beEncode_four (h : n < 256) : Octets.beEncode 4 n = [0, 0, 0, UInt8.ofNat n] := by
  simp [Octets.beEncode, Nat.div_eq_of_lt h]

variable {prf password salt} {iterations keyLength : ℕ}

/-- **What `pkcs5_derive_key` computes.** The block counter does not wrap. -/
theorem pkcs5DeriveKey_eq (hits : 1 ≤ iterations) (hkey : keyLength ≤ 255 * prf.macSize) :
    pkcs5DeriveKey prf password salt iterations keyLength =
      .ok ((blocks prf password salt iterations 255).take keyLength) := by
  have hmod : 255 * prf.macSize % 2 ^ 32 = 255 * prf.macSize := Nat.mod_eq_of_lt prf.macSize_lt
  -- so many blocks have been written
  let Inv (s : DeriveState) : Prop := ∃ n, n < 255 ∧ s.blockCount = UInt8.ofNat (n + 1) ∧
    s.key = blocks prf password salt iterations n ∧ n * prf.macSize + s.left = keyLength
  have hloop : Yields
      (fun key => key = (blocks prf password salt iterations 255).take keyLength)
      (loop (deriveRound prf password salt iterations keyLength) .rounds (keyLength + 1)
        ⟨1, [], keyLength⟩) := by
    have hstr : Inv ⟨1, [], keyLength⟩ := ⟨0, by simp [blocks]⟩
    refine loop_ensures DeriveState.left ?_ hstr (Nat.lt_succ_self _)
    rintro ⟨count, key, left⟩ ⟨n, hn, rfl, rfl, hlef⟩
    have hcount : UInt8.ofNat (n + 1) ≠ 0 := by
      rw [ne_eq, ← UInt8.toNat_inj, UInt8.toNat_ofNat']
      simp
      omega
    have hlen : (blocks prf password salt iterations n).length + left = keyLength := by
      rw [length_blocks, hlef]
    have hmul : (n + 1) * prf.macSize = n * prf.macSize + prf.macSize := Nat.succ_mul _ _
    rw [deriveRound, require_of hcount, ok_bind, iterate_eq, ok_bind, require_of hlen, ok_bind,
      ← beEncode_four (by omega), ← block]
    dsimp only at hlef ⊢
    split_ifs with hla
    · show _ ++ _ = _
      rw [take_blocks _ _ _ _ (n := n + 1) (by omega) (by omega), blocks_succ, ← hlen,
        List.take_length_add_append]
    · refine ⟨⟨n + 1, ?_, ?_, (blocks_succ ..).symm, by dsimp only; omega⟩, ?_⟩
      · by_contra hge
        have : 255 * prf.macSize ≤ (n + 1) * prf.macSize := Nat.mul_le_mul_right _ (by omega)
        omega
      · rw [UInt8.ofNat_add (n + 1)]
        rfl
      · have hpos := prf.macSize_pos
        dsimp only
        omega
  obtain ⟨key, heq, hkey'⟩ := hloop.exists_ok
  rw [pkcs5DeriveKey, require_of (by omega), ok_bind, hmod, require_of hkey, ok_bind, heq, hkey']

theorem block_of_le_two (h : iterations ≤ 2) (i) :
    block prf password salt iterations i = pbkdf2T prf password salt (i + 1) (iterations - 1) := by
  match iterations, h with
  | 0, _ | 1, _ | 2, _ => rfl

theorem pkcs5DeriveKey_eq_pbkdf2 (hits : 1 ≤ iterations) (htwo : iterations ≤ 2)
    (hkey : keyLength ≤ 255 * prf.macSize) :
    pkcs5DeriveKey prf password salt iterations keyLength =
      .ok (pbkdf2 prf password salt iterations keyLength) := by
  rw [pkcs5DeriveKey_eq hits hkey, blocks, funext (block_of_le_two htwo)]
  rfl

end Derive

/-! ### More than two iterations -/

/-- A MAC of one octet. The xor of the first two values has another successor than the second. -/
def chainMac : Prf where
  macSize := 1
  mac _ m := match m with
    | [1] => [2]
    | [3] => [4]
    | [_] => [0]
    | _ => [1]
  macSize_pos := by decide
  macSize_lt := by decide
  length_mac _ _ := by split <;> rfl

/-- With three iterations the xor of the first two values is fed to the MAC, and not the second. -/
theorem pkcs5DeriveKey_three : pkcs5DeriveKey chainMac [] [] 3 1 = .ok [7] ∧
    pbkdf2 chainMac [] [] 3 1 = [3] := by
  decide +kernel

/-- From the third iteration on the buffer does not change. -/
theorem mixed_chainMac (n : ℕ) : mixed chainMac [] (n + 2) [1] = [7] := by
  have hfixed : ∀ n, mixed chainMac [] n [7] = [7] := by
    intro n
    induction n with
    | zero => rfl
    | succ n ih => exact ih
  exact hfixed n

/-- From the third iteration on the values are 0. -/
theorem pbkdf2T_chainMac (n : ℕ) : pbkdf2T chainMac [] [] 1 (n + 1) = [3] := by
  have hzero : ∀ n, pbkdf2U chainMac [] [] 1 (n + 2) = [0] := by
    intro n
    induction n with
    | zero => rfl
    | succ n ih => rw [pbkdf2U, ih]; rfl
  induction n with
  | zero => rfl
  | succ n ih => rw [pbkdf2T, ih, hzero]; rfl

/-- The first octet of a key comes from the first block. -/
theorem take_one_flatMap (f : ℕ → Octets) (h : (f 0).length = 1) :
    ((List.range 255).flatMap f).take 1 = f 0 := by
  rw [show 255 = 254 + 1 from rfl, List.range_succ_eq_map, List.flatMap_cons,
    List.take_append_of_le_length h.ge, List.take_of_length_le h.le]

theorem pkcs5DeriveKey_ne_pbkdf2 (n : ℕ) :
    pkcs5DeriveKey chainMac [] [] (n + 3) 1 ≠ .ok (pbkdf2 chainMac [] [] (n + 3) 1) := by
  have hblock : block chainMac [] [] (n + 3) 0 = [7] := mixed_chainMac n
  have hvalue : pbkdf2T chainMac [] [] (0 + 1) (n + 3 - 1) = [3] := pbkdf2T_chainMac (n + 1)
  rw [pkcs5DeriveKey_eq (by omega) (by decide), blocks, take_one_flatMap _ (by rw [hblock]; rfl),
    hblock, pbkdf2, take_one_flatMap _ (by rw [hvalue]; rfl), hvalue]
  decide

/-- **The key is that of PBKDF2 exactly for one and two iterations**: then for every MAC, password,
salt and length of the key, and otherwise not for all of them. -/
theorem pkcs5DeriveKey_pbkdf2 (iterations : ℕ) :
    iterations = 1 ∨ iterations = 2 ↔
      ∀ (prf : Prf) (password salt : Octets) (keyLength : ℕ), keyLength ≤ 255 * prf.macSize →
        pkcs5DeriveKey prf password salt iterations keyLength =
          .ok (pbkdf2 prf password salt iterations keyLength) := by
  constructor
  · intro h prf password salt keyLength hkey
    exact pkcs5DeriveKey_eq_pbkdf2 (by omega) (by omega) hkey
  · intro h
    by_contra hno
    rcases Nat.eq_zero_or_pos iterations with rfl | hpos
    · have hzero := h chainMac [] [] 1 (by decide)
      cases hzero
    · obtain ⟨n, rfl⟩ := Nat.exists_eq_add_of_le' (show 3 ≤ iterations by omega)
      exact pkcs5DeriveKey_ne_pbkdf2 n (h chainMac [] [] 1 (by decide))

end Lsh.Crypto
