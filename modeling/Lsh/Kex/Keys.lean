
import Lsh.Kex.Kexinit
import Lsh.Library.Loop

/-!
# Taking keys into use

A model of the part of `keyexchange.c` that derives keys from the outcome of a key exchange. A
hash function is a parameter: what the source feeds to a hash object is collected, and the digest
is a function of it.

A cipher, a MAC or a compressor is represented by what it is made of: the algorithm, the
direction, the key and the initial vector. Some ciphers refuse weak keys, and the test depends on
the key only.

## Main results

* `makeKeys_eq` — the keys of each direction, with the labels of the protocol
* `kexMakeKey_eq` — the loop of `kex_make_key` computes a prefix of the key stream
  `K1 ‖ K2 ‖ K3 ‖ …` of the protocol
* `kexMakeKeyBuffer_eq` — the function with its buffer and its assertions returns that prefix
-/

namespace Lsh.Kex

open Machine List

/-! ### Hash functions -/

/-- `struct nettle_hash`. -/
structure Hash where
  digestSize : ℕ
  digest : Octets → Octets
  digestSize_pos : 0 < digestSize
  length_digest : ∀ m, (digest m).length = digestSize

/-! ### Algorithm objects -/

/-- `struct crypto_algorithm`. `weak` tells for which keys `make_crypt` returns no object. -/
structure CryptoAlgorithm where
  blockSize : ℕ
  keySize : ℕ
  ivSize : ℕ
  weak : Octets → Bool

/-- `struct mac_algorithm`. -/
structure MacAlgorithm where
  macSize : ℕ
  keySize : ℕ

/-- `struct compress_algorithm`. -/
structure CompressAlgorithm where
  level : ℕ

/-- The objects in the table of algorithms; `κ` is the type of key exchange algorithms. -/
inductive Algorithm (κ : Type*) where
  | keyexchange (a : κ)
  | crypto (a : CryptoAlgorithm)
  | mac (a : MacAlgorithm)
  | compress (a : CompressAlgorithm)

namespace Algorithm

variable {κ : Type*}

/-- The cast to `keyexchange_algorithm`. The casts are checked only in debug builds, and the
configuration lists an atom only where it belongs, so that an object of another class does not
occur; here it is as good as none. -/
def asKeyexchange : Option (Algorithm κ) → Option κ
  | some (keyexchange a) => some a
  | _ => none

/-- The cast to `crypto_algorithm`. -/
def asCrypto : Option (Algorithm κ) → Option CryptoAlgorithm
  | some (crypto a) => some a
  | _ => none

/-- The cast to `mac_algorithm`. -/
def asMac : Option (Algorithm κ) → Option MacAlgorithm
  | some (mac a) => some a
  | _ => none

/-- The cast to `compress_algorithm`. -/
def asCompress : Option (Algorithm κ) → Option CompressAlgorithm
  | some (compress a) => some a
  | _ => none

end Algorithm

/-- The argument `mode` of `make_crypt` and `make_codec`. -/
inductive Mode where
  | forward
  | backward
  deriving DecidableEq, Repr

/-- What a `crypto_instance` is made of. -/
structure CryptoKeys where
  algorithm : CryptoAlgorithm
  mode : Mode
  key : Octets
  iv : Option Octets

/-- What a `mac_instance` is made of. -/
structure MacKeys where
  algorithm : MacAlgorithm
  key : Octets

/-- What a `compress_instance` is made of. -/
structure Codec where
  algorithm : CompressAlgorithm
  mode : Mode

/-- The objects for one direction. -/
structure DirectionKeys where
  mac : Option MacKeys
  crypto : Option CryptoKeys
  codec : Option Codec

/-! ### Key derivation -/

/-- `kex_build_secret`: what has been fed to the hash object. -/
def kexBuildSecret (exchangeHash K : Octets) : Octets := Wire.formatString K ++ exchangeHash

/-- The letters `"CDEFAB"`, indexed by the `KEX_*` values. -/
def kexTags : List UInt8 := [67, 68, 69, 70, 65, 66]

/-- `IV_TYPE`. -/
def ivType (type : ℕ) : ℕ := type + 4

/-- The loop of `kex_make_key`, for a key that needs more than one digest. `fed` is what has been
fed to the hash object. Each round consumes a digest, so the number of octets left bounds the
number of rounds. -/
def kexKeyLoop (H : Hash) : ℕ → Octets → Octets → ℕ → Octets
  | 0, _, _, _ => []
  | fuel + 1, fed, digest, left =>
    let left := left - H.digestSize
    let fed := fed ++ digest
    if left ≤ H.digestSize then digest ++ (H.digest fed).take left
    else digest ++ kexKeyLoop H fuel fed (H.digest fed) left

/-- `kex_make_key`. -/
def kexMakeKey (H : Hash) (secret : Octets) (keyLength type : ℕ) (sessionId : Octets) : Octets :=
  if keyLength = 0 then []
  else
    let digest := H.digest (secret ++ [kexTags.getD type 0] ++ sessionId)
    if keyLength ≤ H.digestSize then digest.take keyLength
    else kexKeyLoop H keyLength secret digest keyLength

section Make

variable {κ : Type*} (H : Hash) (secret : Octets) (algorithms : AlgorithmList (Algorithm κ))

/-- `kex_make_encrypt` and `kex_make_decrypt`, which differ in the mode only. `none` is failure,
`some none` success without a cipher. -/
def kexMakeCrypt (mode : Mode) (type : Fin 6) (sessionId : Octets) : Option (Option CryptoKeys) :=
  match Algorithm.asCrypto (algorithms.parameter type) with
  | none => some none
  | some algorithm =>
    let key := kexMakeKey H secret algorithm.keySize type sessionId
    let iv := if algorithm.ivSize ≠ 0
      then some (kexMakeKey H secret algorithm.ivSize (ivType type) sessionId) else none
    if algorithm.weak key then none
    else some (some { algorithm := algorithm, mode := mode, key := key, iv := iv })

/-- `kex_make_mac`. -/
def kexMakeMac (type : Fin 6) (sessionId : Octets) : Option MacKeys :=
  (Algorithm.asMac (algorithms.parameter type)).map fun algorithm =>
    { algorithm := algorithm, key := kexMakeKey H secret algorithm.keySize type sessionId }

/-- `kex_make_deflate` and `kex_make_inflate`. -/
def kexMakeCodec (mode : Mode) (type : Fin 6) : Option Codec :=
  (Algorithm.asCompress (algorithms.parameter type)).map fun algorithm =>
    { algorithm := algorithm, mode := mode }

/-- The objects made by `keyexchange_finish`, for receiving and for sending, or nothing if a key
is weak. -/
def makeKeys (sessionId : Octets) (isServer : Bool) : Option (DirectionKeys × DirectionKeys) := do
  let receiveCrypto ← kexMakeCrypt H secret algorithms .backward
    (typeFor kexEncryptionServerToClient isServer) sessionId
  let sendCrypto ← kexMakeCrypt H secret algorithms .forward
    (typeFor kexEncryptionClientToServer isServer) sessionId
  return (
    { mac := kexMakeMac H secret algorithms (typeFor kexMacServerToClient isServer) sessionId
      crypto := receiveCrypto
      codec := kexMakeCodec algorithms .backward
        (typeFor kexCompressionServerToClient isServer) },
    { mac := kexMakeMac H secret algorithms (typeFor kexMacClientToServer isServer) sessionId
      crypto := sendCrypto
      codec := kexMakeCodec algorithms .forward
        (typeFor kexCompressionClientToServer isServer) })

end Make

/-! ### The key stream of the protocol -/

/-- `K1 ‖ … ‖ Kn` continued by `n` further blocks, each the hash of the secret and all blocks
before it. -/
def keyStream (H : Hash) (secret : Octets) : Octets → ℕ → Octets
  | blocks, 0 => blocks
  | blocks, n + 1 => keyStream H secret (blocks ++ H.digest (secret ++ blocks)) n

/-- The key for a label: the first octets of `K1 ‖ K2 ‖ …`, where `K1` is the hash of the secret,
the label and the session id. -/
def protocolKey (H : Hash) (secret : Octets) (label : UInt8) (sessionId : Octets)
    (keyLength : ℕ) : Octets :=
  (keyStream H secret (H.digest (secret ++ [label] ++ sessionId)) keyLength).take keyLength

theorem take_keyStream {k : ℕ} (H secret blocks n) (hk : k ≤ blocks.length) :
    (keyStream H secret blocks n).take k = blocks.take k := by
  induction n generalizing blocks with
  | zero => rfl
  | succ n ih =>
    rw [keyStream, ih _ (by rw [length_append]; omega), take_append_of_le_length hk]

theorem kexKeyLoop_eq (H secret fuel blocks digest left n) (hdig : digest.length = H.digestSize)
    (hlef : H.digestSize < left) (hfuel : left ≤ fuel) (hn : left ≤ (n + 1) * H.digestSize) :
    blocks ++ kexKeyLoop H fuel (secret ++ blocks) digest left =
      (keyStream H secret (blocks ++ digest) n).take (blocks.length + left) := by
  have hpos := H.digestSize_pos
  induction fuel generalizing blocks digest left n with
  | zero => omega
  | succ fuel ih =>
    cases n with
    | zero => omega
    | succ n =>
      have hbl := H.length_digest (secret ++ (blocks ++ digest))
      have hcount : blocks.length + left = (blocks ++ digest).length + (left - H.digestSize) := by
        rw [length_append]
        omega
      rw [kexKeyLoop, keyStream, hcount, append_assoc]
      split_ifs with hla
      · -- the last, partial block
        rw [take_keyStream _ _ _ _ (by simp only [length_append, hbl]; omega),
          take_length_add_append, append_assoc]
      · have hn' : left - H.digestSize ≤ (n + 1) * H.digestSize := by
          have : (n + 1 + 1) * H.digestSize = (n + 1) * H.digestSize + H.digestSize := by ring
          omega
        rw [← append_assoc blocks digest]
        exact ih (blocks ++ digest) _ _ n hbl (by omega) (by omega) hn'

/-- **The loop computes the key stream.** -/
theorem kexMakeKey_eq (H secret keyLength type sessionId) :
    kexMakeKey H secret keyLength type sessionId =
      protocolKey H secret (kexTags.getD type 0) sessionId keyLength := by
  have hpos := H.digestSize_pos
  have hlen := H.length_digest (secret ++ [kexTags.getD type 0] ++ sessionId)
  rw [kexMakeKey, protocolKey]
  split_ifs with hz0 hone
  · rw [hz0, take_zero]
  · rw [take_keyStream _ _ _ _ (by omega)]
  · have h := kexKeyLoop_eq H secret keyLength [] _ keyLength keyLength hlen (by omega) le_rfl
      ((Nat.le_succ _).trans (Nat.le_mul_of_pos_right _ hpos))
    simpa using h

/-! ### The buffer of a key -/

/-- What can go wrong in `kex_make_key`. -/
inductive KeyFailure where
  /-- The assertion on the position in the loop. -/
  | position
  /-- `ASSERT_ROOM`: a write outside the string. -/
  | room
  /-- The loop is not left. -/
  | diverges

/-- `lsh_string_write`. -/
def lshStringWrite (s : Octets) (start : ℕ) (data : Octets) : Except KeyFailure Octets := do
  require (start ≤ s.length ∧ data.length ≤ s.length - start) .room
  return s.take start ++ data ++ s.drop (start + data.length)

/-- The variables of `kex_make_key`. A hash object is what has been fed to it. -/
structure KeyState where
  secret : Octets
  hash : Octets
  key : Octets
  digest : Octets
  pos : ℕ
  left : ℕ

/-- One round of the loop of `kex_make_key`. -/
def keyRound (H : Hash) (keyLength : ℕ) (s : KeyState) :
    Except KeyFailure (KeyState ⊕ KeyState) := do
  require ((s.pos + s.left) % 2 ^ 32 = keyLength) .position
  let key ← lshStringWrite s.key s.pos s.digest
  let s := { s with
    key := key
    pos := (s.pos + H.digestSize) % 2 ^ 32
    left := (s.left + 2 ^ 32 - H.digestSize) % 2 ^ 32
    hash := s.hash ++ s.digest }
  if s.left ≤ H.digestSize then return .inr s
  else
    -- the digest is that of a copy, so that the object can be used again
    return .inl { s with digest := H.digest s.hash }

/-- `kex_make_key` with its buffer: the key, and the hash object that it is called with. `key` is
what is in a new string. -/
def kexMakeKeyBuffer (H : Hash) (secret : Octets) (keyLength : UInt32) (type : ℕ)
    (sessionId : Octets) (key : {k : Octets // k.length = keyLength.toNat}) :
    Except KeyFailure (Octets × Octets) := do
  if keyLength.toNat = 0 then return (key.val, secret)
  let digest := H.digest (secret ++ [kexTags.getD type 0] ++ sessionId)
  if keyLength.toNat ≤ H.digestSize then
    return (← lshStringWrite key.val 0 (digest.take keyLength.toNat), secret)
  let s ← loop (keyRound H keyLength.toNat) .diverges (keyLength.toNat + 1)
    ⟨secret, secret, key.val, digest, 0, keyLength.toNat⟩
  return (← lshStringWrite s.key s.pos ((H.digest s.hash).take s.left), s.secret)

theorem lshStringWrite_eq {start : ℕ} {s data : Octets} (h : start + data.length ≤ s.length) :
    lshStringWrite s start data = .ok (s.take start ++ data ++ s.drop (start + data.length)) := by
  rw [lshStringWrite, require_of (by omega)]
  rfl

/-- In each round, the key up to the position and what the rest of the loop computes are the key. -/
structure KeyState.Inv (H : Hash) (secret target : Octets) (n : ℕ) (s : KeyState) : Prop where
  secret_eq : s.secret = secret
  length_key : s.key.length = n
  pos_left : s.pos + s.left = n
  left_lt : H.digestSize < s.left
  length_digest : s.digest.length = H.digestSize
  target_eq : ∃ fuel, s.left ≤ fuel ∧
    s.key.take s.pos ++ kexKeyLoop H fuel s.hash s.digest s.left = target

/-- After the loop, part of one more digest completes the key. -/
structure KeyState.Last (H : Hash) (secret target : Octets) (n : ℕ) (s : KeyState) : Prop where
  secret_eq : s.secret = secret
  length_key : s.key.length = n
  pos_left : s.pos + s.left = n
  left_le : s.left ≤ H.digestSize
  target_eq : s.key.take s.pos ++ (H.digest s.hash).take s.left = target

theorem KeyState.Inv.round {n : ℕ} {s : KeyState} {H : Hash} {secret target : Octets}
    (h : s.Inv H secret target n)
    (hn : n < 2 ^ 32) :
    Yields (Round (KeyState.Inv H secret target n) KeyState.left (KeyState.Last H secret target n)
      s)
      (keyRound H n s) := by
  obtain ⟨fuel, hfuel, htgt⟩ := h.target_eq
  have hpos := H.digestSize_pos
  have hlt := h.left_lt
  have hsum := h.pos_left
  have hdig := h.length_digest
  have hlen := h.length_key
  obtain ⟨fuel, rfl⟩ := Nat.exists_eq_succ_of_ne_zero (by omega : fuel ≠ 0)
  have hnext : (s.pos + H.digestSize) % 2 ^ 32 = s.pos + H.digestSize ∧
      (s.left + 2 ^ 32 - H.digestSize) % 2 ^ 32 = s.left - H.digestSize := by omega
  have hta : (s.key.take s.pos ++ s.digest).length = s.pos + H.digestSize := by
    rw [length_append, length_take_of_le (by omega), hdig]
  have hkey : (s.key.take s.pos ++ s.digest ++ s.key.drop (s.pos + s.digest.length)).length =
      n := by
    rw [length_append, hta, length_drop]
    omega
  rw [keyRound, require_of (by omega), ok_bind, lshStringWrite_eq (by omega), ok_bind]
  simp only [hnext]
  rw [kexKeyLoop] at htgt
  split_ifs at htgt ⊢ with hla
  · refine ⟨h.secret_eq, hkey, by dsimp only; omega, hla, ?_⟩
    rw [take_left' hta, append_assoc]
    exact htgt
  · refine ⟨⟨h.secret_eq, hkey, by dsimp only; omega, by dsimp only; omega, H.length_digest _,
      fuel, by dsimp only; omega, ?_⟩, by dsimp only; omega⟩
    rw [take_left' hta, append_assoc]
    exact htgt

/-- **`kex_make_key`** returns the key of the protocol, for a key of any length: its loop is left,
no assertion fails, all writes are inside the key, and the hash object with the secret is as
before. -/
theorem kexMakeKeyBuffer_eq (H : Hash) (secret : Octets) (keyLength : UInt32) (type : ℕ)
    (sessionId : Octets) (key : {k : Octets // k.length = keyLength.toNat}) :
    kexMakeKeyBuffer H secret keyLength type sessionId key =
      .ok (protocolKey H secret (kexTags.getD type 0) sessionId keyLength.toNat, secret) := by
  obtain ⟨key, hkey⟩ := key
  have hdig := H.length_digest (secret ++ [kexTags.getD type 0] ++ sessionId)
  rw [← kexMakeKey_eq, kexMakeKeyBuffer, kexMakeKey]
  dsimp only
  split_ifs with hz0 hone
  · rw [List.length_eq_zero_iff.mp (hkey.trans hz0)]
    rfl
  · rw [lshStringWrite_eq (by rw [length_take]; omega), length_take_of_le (by omega),
      Nat.zero_add, ← hkey, drop_length]
    simp
  · obtain ⟨s, hs, hla⟩ := (loop_ensures KeyState.left (fun s h => h.round keyLength.toNat_lt)
      (⟨rfl, hkey, Nat.zero_add _, not_le.mp hone, hdig, _, le_rfl, rfl⟩ :
        KeyState.Inv H secret _ keyLength.toNat ⟨secret, secret, key,
          H.digest (secret ++ [kexTags.getD type 0] ++ sessionId), 0, keyLength.toNat⟩)
      (Nat.lt_succ_self _)).exists_ok
    have hlen : ((H.digest s.hash).take s.left).length = s.left :=
      length_take_of_le (by rw [H.length_digest]; exact hla.left_le)
    have hsum := hla.pos_left
    have hkey' := hla.length_key
    rw [hs, ok_bind, lshStringWrite_eq (by omega), hlen, drop_of_length_le (by omega),
      append_nil, hla.target_eq, hla.secret_eq]
    rfl

/-! ### The keys of a direction -/

/-- The two directions of a connection. -/
inductive Direction where
  | clientToServer
  | serverToClient
  deriving DecidableEq, Repr

namespace Direction

/-- The direction in which a side receives. -/
def received (isServer : Bool) : Direction := if isServer then clientToServer else serverToClient

/-- The direction in which a side sends. -/
def sent (isServer : Bool) : Direction := if isServer then serverToClient else clientToServer

/-- The parameter for the cipher. -/
def cipher : Direction → Fin 6
  | clientToServer => kexEncryptionClientToServer
  | serverToClient => kexEncryptionServerToClient

/-- The parameter for the message authentication code. -/
def mac : Direction → Fin 6
  | clientToServer => kexMacClientToServer
  | serverToClient => kexMacServerToClient

/-- The parameter for compression. -/
def compression : Direction → Fin 6
  | clientToServer => kexCompressionClientToServer
  | serverToClient => kexCompressionServerToClient

/-- The label of the initial IV: `A` or `B`. -/
def ivLabel : Direction → UInt8
  | clientToServer => 65
  | serverToClient => 66

/-- The label of the encryption key: `C` or `D`. -/
def cipherLabel : Direction → UInt8
  | clientToServer => 67
  | serverToClient => 68

/-- The label of the integrity key: `E` or `F`. -/
def macLabel : Direction → UInt8
  | clientToServer => 69
  | serverToClient => 70

end Direction

section Directions

variable {κ : Type*} (H : Hash) (secret : Octets)

/-- **The keys of a direction**, as the protocol derives them. -/
def directionKeys (parameter : Fin 6 → Option (Algorithm κ)) (sessionId : Octets) (d : Direction)
    (mode : Mode) : DirectionKeys where
  mac := (Algorithm.asMac (parameter d.mac)).map fun a =>
    ⟨a, protocolKey H secret d.macLabel sessionId a.keySize⟩
  crypto := (Algorithm.asCrypto (parameter d.cipher)).map fun a =>
    ⟨a, mode, protocolKey H secret d.cipherLabel sessionId a.keySize,
      if a.ivSize ≠ 0 then some (protocolKey H secret d.ivLabel sessionId a.ivSize) else none⟩
  codec := (Algorithm.asCompress (parameter d.compression)).map fun a => ⟨a, mode⟩

/-- The cipher of a direction does not take its key. -/
def weakKey (parameter : Fin 6 → Option (Algorithm κ)) (sessionId : Octets) (d : Direction) :
    Bool :=
  match Algorithm.asCrypto (parameter d.cipher) with
  | none => false
  | some a => a.weak (protocolKey H secret d.cipherLabel sessionId a.keySize)

variable (algorithms : AlgorithmList (Algorithm κ)) (sessionId : Octets) (d : Direction)

theorem kexMakeCrypt_eq (mode) :
    kexMakeCrypt H secret algorithms mode d.cipher sessionId =
      if weakKey H secret algorithms.parameter sessionId d then none
      else some (directionKeys H secret algorithms.parameter sessionId d mode).crypto := by
  have hkey : kexTags.getD (d.cipher : ℕ) 0 = d.cipherLabel := by cases d <;> rfl
  have hiv : kexTags.getD (ivType (d.cipher : ℕ)) 0 = d.ivLabel := by cases d <;> rfl
  rw [kexMakeCrypt, weakKey, directionKeys]
  cases Algorithm.asCrypto (algorithms.parameter d.cipher) with
  | none => rfl
  | some a => simp only [kexMakeKey_eq, hkey, hiv, Option.map_some]

theorem kexMakeMac_eq (mode) : kexMakeMac H secret algorithms d.mac sessionId =
    (directionKeys H secret algorithms.parameter sessionId d mode).mac := by
  have hkey : kexTags.getD (d.mac : ℕ) 0 = d.macLabel := by cases d <;> rfl
  simp only [kexMakeMac, kexMakeKey_eq, hkey, directionKeys]

/-- **Spec of `keyexchange_finish`**: the objects are those of the direction in which a side
receives and of the one in which it sends, unless a key is weak. -/
theorem makeKeys_eq (isServer) : makeKeys H secret algorithms sessionId isServer =
    if weakKey H secret algorithms.parameter sessionId .clientToServer ∨
      weakKey H secret algorithms.parameter sessionId .serverToClient then none
    else some (
      directionKeys H secret algorithms.parameter sessionId (.received isServer) .backward,
      directionKeys H secret algorithms.parameter sessionId (.sent isServer) .forward) := by
  have htypes : typeFor kexEncryptionServerToClient isServer =
      (Direction.received isServer).cipher ∧
      typeFor kexEncryptionClientToServer isServer = (Direction.sent isServer).cipher ∧
      typeFor kexMacServerToClient isServer = (Direction.received isServer).mac ∧
      typeFor kexMacClientToServer isServer = (Direction.sent isServer).mac ∧
      typeFor kexCompressionServerToClient isServer = (Direction.received isServer).compression ∧
      typeFor kexCompressionClientToServer isServer = (Direction.sent isServer).compression := by
    cases isServer <;> decide
  obtain ⟨hrc, hsc, hrm, hsome, hrz, hsize⟩ := htypes
  have hweak : (weakKey H secret algorithms.parameter sessionId .clientToServer ∨
      weakKey H secret algorithms.parameter sessionId .serverToClient) ↔
      (weakKey H secret algorithms.parameter sessionId (.received isServer) ∨
        weakKey H secret algorithms.parameter sessionId (.sent isServer)) := by
    cases isServer
    · exact or_comm
    · exact Iff.rfl
  rw [makeKeys, hrc, hsc, hrm, hsome, hrz, hsize, kexMakeCrypt_eq, kexMakeCrypt_eq,
    kexMakeMac_eq H secret algorithms sessionId _ .backward,
    kexMakeMac_eq H secret algorithms sessionId _ .forward, if_congr hweak rfl rfl]
  by_cases hr : weakKey H secret algorithms.parameter sessionId (.received isServer)
  · rw [if_pos hr, if_pos (Or.inl hr)]
    rfl
  · by_cases hs : weakKey H secret algorithms.parameter sessionId (.sent isServer)
    · rw [if_neg hr, if_pos hs, if_pos (Or.inr hs)]
      rfl
    · rw [if_neg hr, if_neg hs, if_neg (not_or.mpr ⟨hr, hs⟩)]
      rfl

end Directions

end Lsh.Kex
