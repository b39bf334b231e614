
import Lsh.Wire

/-!
# Public-key signatures

A model of `rsa.c` and `dsa.c`: how a public key and a signature are written by one side and read by
the other. The arithmetic is that of nettle, and is taken to be right.

The functions for DSA with SHA-256 are copies of those for `ssh-dss` that do not fit together. A
signer and the verifier made from a key on the wire both get the methods for SHA-1, and the key is
written with another name than the one that is expected. And the exponent of an RSA key on the wire
has to be below the modulus, which nobody checks for a signer.

## Main results

* `agrees_iff` — the signer and the verifier agree exactly for `ssh-dss`, and for `ssh-rsa` if the
  exponent is below the modulus
-/

namespace Lsh.Crypto

open Octets Wire List

/-! ### Keys -/

/-- `struct rsa_public_key`, with the size that `rsa_public_key_prepare` has set. -/
structure RsaPublicKey where
  e : ℕ
  n : ℕ
  size : ℕ

/-- `struct dsa_params`, with the public key. -/
structure DsaPublicKey where
  p : ℕ
  q : ℕ
  g : ℕ
  y : ℕ

/-- The hash function of the methods: those of `init_dsa_verifier` or `init_dsa_sha256_verifier`. -/
inductive DsaMethods where
  | sha1
  | sha256

/-- `struct verifier`. -/
inductive Verifier where
  | rsa (key : RsaPublicKey)
  | dsa (methods : DsaMethods) (key : DsaPublicKey)

/-- What is taken from nettle, and the s-expressions of SPKI signatures. -/
structure Nettle where
  /-- The size of a modulus in octets, if the key can be used. -/
  rsaPublicKeyPrepare : ℕ → Option ℕ
  /-- A number below the modulus has at most so many octets. -/
  lt_of_prepare : ∀ n size, rsaPublicKeyPrepare n = some size → n < 256 ^ size
  digest : DsaMethods → Octets → Octets
  rsaSha1Verify : RsaPublicKey → Octets → ℕ → Bool
  dsaVerify : DsaPublicKey → Octets → ℕ × ℕ → Bool
  parseRsa : ℕ → Octets → Option ℕ
  parseDsa : Octets → Option (ℕ × ℕ)
  formatRsa : ℕ → Octets
  formatDsa : ℕ × ℕ → Octets

/-- The blob of a DSA key. -/
def formatDsaKey (name : Atom) (key : DsaPublicKey) : Octets :=
  formatAtom name ++ (formatBignum key.p ++ (formatBignum key.q ++ (formatBignum key.g ++
    formatBignum key.y)))

/-- The method `public_key`. -/
def Verifier.publicKey : Verifier → Octets
  | rsa key => formatAtom .sshRsa ++ (formatBignum key.e ++ formatBignum key.n)
  | dsa .sha1 key => formatDsaKey .sshDss key
  | dsa .sha256 key => formatDsaKey .sshDsa key

/-- `parse_bignum`, for a number whose sign has to be 1. -/
def parsePositive (limit : ℕ) (s : Octets) : Option (ℕ × Octets) := do
  let (n, s) ← parseBignum limit s
  guard (0 < n)
  return (n.toNat, s)

/-- `parse_ssh_rsa_public`. -/
def parseSshRsaPublic (lib : Nettle) (s : Octets) : Option Verifier := do
  let (e, s) ← parsePositive 625 s
  let (n, s) ← parsePositive 625 s
  guard (e < n)
  parseEod s
  let size ← lib.rsaPublicKeyPrepare n
  return .rsa ⟨e, n, size⟩

/-- A DSA key, with the limits for the size of the modulus and of the order. -/
def parseDsaPublic (maxOctets qOctets : ℕ) (s : Octets) : Option DsaPublicKey := do
  let (p, s) ← parsePositive maxOctets s
  let (q, s) ← parsePositive qOctets s
  guard (bitLength q = 8 * qOctets)
  guard (q < p)
  let (g, s) ← parsePositive maxOctets s
  guard (g < p)
  let (y, s) ← parsePositive maxOctets s
  guard (y < p)
  parseEod s
  return ⟨p, q, g, y⟩

/-- `parse_ssh_dss_public`. -/
def parseSshDssPublic (s : Octets) : Option Verifier := (parseDsaPublic 256 20 s).map (.dsa .sha1)

/-- `parse_ssh_dsa_sha256_public`. It calls `init_dsa_verifier`, too. -/
def parseSshDsaSha256Public (s : Octets) : Option Verifier :=
  (parseDsaPublic 512 32 s).map (.dsa .sha1)

/-- An algorithm. -/
inductive SignatureType where
  | rsa
  | dss
  | dsaSha256
  deriving DecidableEq

/-- The name of an algorithm in the protocol. -/
def SignatureType.atom : SignatureType → Atom
  | rsa => .sshRsa
  | dss => .sshDss
  | dsaSha256 => .sshDsaSha256Local

/-- The rest of a blob that starts with a name. -/
def parseName (name : Atom) (s : Octets) : Option Octets := do
  let (a, s) ← parseAtom s
  guard (a = some name)
  return s

/-- `make_ssh_rsa_verifier`, `make_ssh_dss_verifier` and `make_ssh_dsa_sha256_verifier`. -/
def SignatureType.makeVerifier (lib : Nettle) (type : SignatureType) (key : Octets) :
    Option Verifier :=
  (parseName type.atom key).bind fun s =>
    match type with
    | rsa => parseSshRsaPublic lib s
    | dss => parseSshDssPublic s
    | dsaSha256 => parseSshDsaSha256Public s

/-! ### Signatures -/

/-- The signature in a blob for `ssh-rsa`. -/
def parseRsaSignature (key : RsaPublicKey) (s : Octets) : Option ℕ := do
  let s ← parseName .sshRsa s
  let (digits, s) ← parseString s
  guard (digits.length ≤ key.size)
  parseEod s
  return beDecode digits

/-- The signature in a blob for `ssh-dss`. -/
def parseDssSignature (s : Octets) : Option (ℕ × ℕ) := do
  let s ← parseName .sshDss s
  let (buf, s) ← parseString s
  guard (buf.length = 40)
  parseEod s
  return (beDecode (buf.take 20), beDecode (buf.drop 20))

/-- The signature in a blob for DSA with SHA-256. -/
def parseDsaSha256Signature (s : Octets) : Option (ℕ × ℕ) := do
  let s ← parseName .sshDsa s
  let (r, s) ← parsePositive 32 s
  let (s', s) ← parsePositive 32 s
  parseEod s
  return (r, s')

/-- The algorithms for SPKI keys. -/
def isSpki (algorithm : Atom) : Bool := algorithm ∈ [.spkiSignRsa, .spkiSignDss, .spki]

/-- The method `verify`: `do_rsa_verify`, `do_dsa_verify` and `do_dsa_sha256_verify`. There is no
result if `fatal` is called. -/
def Verifier.verify (lib : Nettle) (v : Verifier) (algorithm : Atom) (msg sig : Octets) :
    Option Bool :=
  match v with
  | rsa key =>
    if algorithm = .sshRsa then some ((parseRsaSignature key sig).any (lib.rsaSha1Verify key msg))
    else if isSpki algorithm then
      some ((lib.parseRsa (8 * key.size) sig).any (lib.rsaSha1Verify key msg))
    else none
  | dsa .sha1 key =>
    if algorithm = .sshDss then
      some ((parseDssSignature sig).any (lib.dsaVerify key (lib.digest .sha1 msg)))
    else if isSpki algorithm then
      some ((lib.parseDsa sig).any (lib.dsaVerify key (lib.digest .sha1 msg)))
    else none
  | dsa .sha256 key =>
    if algorithm = .sshDsaSha256Local then
      some ((parseDsaSha256Signature sig).any (lib.dsaVerify key (lib.digest .sha256 msg)))
    else none

variable {lib : Nettle}

/-- A key pair that `make_rsa_signer` has read, with `rsa_sha1_sign`. -/
structure RsaPair (lib : Nettle) where
  key : RsaPublicKey
  sign : Octets → Option ℕ
  e_pos : 0 < key.e
  n_pos : 0 < key.n
  e_bits : bitLength key.e ≤ 8 * 625
  n_bits : bitLength key.n ≤ 8 * 625
  prepared : lib.rsaPublicKeyPrepare key.n = some key.size
  verify_sign : ∀ msg s, sign msg = some s → s < key.n ∧ lib.rsaSha1Verify key msg s = true

/-- A key pair that `make_dsa_signer` or `make_dsa_sha256_signer` has read, with `dsa_sign`. -/
structure DsaPair (lib : Nettle) (maxOctets qOctets : ℕ) where
  key : DsaPublicKey
  sign : Octets → Option (ℕ × ℕ)
  q_bits : bitLength key.q = 8 * qOctets
  q_lt : key.q < key.p
  p_bits : bitLength key.p ≤ 8 * maxOctets
  g_pos : 0 < key.g
  g_lt : key.g < key.p
  y_pos : 0 < key.y
  y_lt : key.y < key.p
  verify_sign : ∀ digest s, sign digest = some s →
    s.1 < key.q ∧ s.2 < key.q ∧ lib.dsaVerify key digest s = true

/-- `struct signer`. -/
inductive Signer (lib : Nettle) where
  | rsa (pair : RsaPair lib)
  | dss (pair : DsaPair lib 256 20)
  | dsaSha256 (pair : DsaPair lib 512 32)

namespace Signer

def type : Signer lib → SignatureType
  | rsa _ => .rsa
  | dss _ => .dss
  | dsaSha256 _ => .dsaSha256

/-- The method `get_verifier`. `make_dsa_sha256_signer` calls `init_dsa_verifier`, too. -/
def verifier : Signer lib → Verifier
  | rsa pair => .rsa pair.key
  | dss pair => .dsa .sha1 pair.key
  | dsaSha256 pair => .dsa .sha1 pair.key

/-- The method `sign`: `do_rsa_sign`, `do_dsa_sign` and `do_dsa_sha256_sign`. There is no result if
`fatal` is called, and no signature if nettle makes none. -/
def sign (signer : Signer lib) (algorithm : Atom) (msg : Octets) : Option (Option Octets) :=
  let dsa (name : Atom) (format : ℕ × ℕ → Octets) (s : ℕ × ℕ) : Option Octets :=
    if algorithm = name then some (format s)
    else if isSpki algorithm then some (lib.formatDsa s) else none
  match signer with
  | rsa pair => match pair.sign msg with
    | none => some none
    | some s =>
      if algorithm = .sshRsa then
        some (formatAtom .sshRsa ++ formatString (beEncode ((bitLength s + 7) / 8) s))
      else if isSpki algorithm then some (lib.formatRsa s) else none
  | dss pair => match pair.sign (lib.digest .sha1 msg) with
    | none => some none
    | some s => dsa .sshDss
        (fun s => formatAtom .sshDss ++ formatString (beEncode 20 s.1 ++ beEncode 20 s.2)) s
  | dsaSha256 pair => match pair.sign (lib.digest .sha256 msg) with
    | none => some none
    | some s => dsa .sshDsaSha256Local
        (fun s => formatAtom .sshDsa ++ (formatBignum s.1 ++ formatBignum s.2)) s

/-- The verifier made from the key of the signer is there, writes the same key, accepts the
signatures of the signer, and can be called for its own algorithm and those for SPKI keys. -/
def Agrees (signer : Signer lib) : Prop :=
  ∃ v, signer.type.makeVerifier lib signer.verifier.publicKey = some v ∧
    v.publicKey = signer.verifier.publicKey ∧
    (∀ msg sig, signer.sign signer.type.atom msg = some (some sig) →
      v.verify lib signer.type.atom msg sig = some true) ∧
    ∀ algorithm, algorithm = signer.type.atom ∨ isSpki algorithm → ∀ msg sig,
      (v.verify lib algorithm msg sig).isSome

end Signer

/-! ### Agreement -/

@[simp] theorem parseName_formatAtom (name a s) :
    parseName name (formatAtom a ++ s) = if a = name then some s else none := by
  have hlen := a.length_octets_le
  rw [parseName, parseAtom, formatAtom, parseString_formatString (by omega)]
  simp [lookupAtom_octets, show ¬64 < a.octets.length by omega]
  split_ifs <;> simp_all

theorem lt_pow_of_bitLength_le {n len : ℕ} (h : bitLength n ≤ 8 * len) : n < 256 ^ len := by
  rw [show 256 = 2 ^ 8 from rfl, ← Nat.pow_mul]
  exact (lt_two_pow_bitLength n).trans_le (Nat.pow_le_pow_right (by omega) h)

theorem bitLength_le_of_lt {n m : ℕ} (h : n < m) : bitLength n ≤ bitLength m :=
  bitLength_le (h.trans (lt_two_pow_bitLength m))

theorem parsePositive_formatBignum {n limit : ℕ} (hpos : 0 < n) (hn : bitLength n ≤ 8 * limit)
    (hlim : limit + 1 < 2 ^ 32) (s : Octets) :
    parsePositive limit (formatBignum n ++ s) = some (n, s) := by
  rw [parsePositive, parseBignum_formatBignum (lt_pow_of_bitLength_le hn) hlim]
  simp [hpos]

theorem beDecode_beEncode_of_le {n len : ℕ} (h : bitLength n ≤ 8 * len) :
    beDecode (beEncode len n) = n := by
  rw [beDecode_beEncode, Nat.mod_eq_of_lt (lt_pow_of_bitLength_le h)]

/-- What the parser makes of the key of a signer. -/
theorem RsaPair.makeVerifier_eq (pair : RsaPair lib) :
    SignatureType.rsa.makeVerifier lib (Verifier.rsa pair.key).publicKey =
      if pair.key.e < pair.key.n then some (.rsa pair.key) else none := by
  have he := parsePositive_formatBignum pair.e_pos pair.e_bits (by omega) (formatBignum pair.key.n)
  have hn := parsePositive_formatBignum pair.n_pos pair.n_bits (by omega) []
  rw [append_nil] at hn
  split_ifs with hlt <;>
    simp [SignatureType.makeVerifier, Verifier.publicKey, SignatureType.atom, parseSshRsaPublic, he,
      hn, hlt, pair.prepared, parseEod]

theorem RsaPair.agrees (pair : RsaPair lib) (hlt : pair.key.e < pair.key.n) :
    (Signer.rsa pair).Agrees := by
  refine ⟨.rsa pair.key, pair.makeVerifier_eq.trans (if_pos hlt), rfl, fun msg sig hsig => ?_,
    fun algorithm halgorithm msg sig => ?_⟩
  · rw [Signer.sign] at hsig
    split at hsig
    · cases hsig
    · rename_i s hs
      obtain ⟨hbelow, hvfy⟩ := pair.verify_sign msg s hs
      have hbits := (bitLength_le_of_lt hbelow).trans pair.n_bits
      have hsize : (bitLength s + 7) / 8 ≤ pair.key.size := by
        have hpow := hbelow.trans (lib.lt_of_prepare _ _ pair.prepared)
        rw [show 256 = 2 ^ 8 from rfl, ← Nat.pow_mul] at hpow
        have := bitLength_le hpow
        omega
      have hdec := beDecode_beEncode_of_le (show bitLength s ≤ 8 * ((bitLength s + 7) / 8) by omega)
      have hstr := parseString_formatString (a := beEncode ((bitLength s + 7) / 8) s) (by
        rw [length_beEncode]
        omega) []
      rw [append_nil] at hstr
      cases hsig
      simp [Verifier.verify, Signer.type, SignatureType.atom, parseRsaSignature, hstr, hsize,
        parseEod,
        hdec, hvfy]
  · rw [Verifier.verify]
    rcases halgorithm with rfl | hspki
    · rfl
    · simp [hspki, apply_ite Option.isSome]

theorem DsaPair.agrees (pair : DsaPair lib 256 20) : (Signer.dss pair).Agrees := by
  have hqpos : 0 < pair.key.q := by
    by_contra hz0
    have hbits := pair.q_bits
    rw [Nat.eq_zero_of_not_pos hz0] at hbits
    cases hbits
  have hbw {n : ℕ} (hn : n < pair.key.p) := (bitLength_le_of_lt hn).trans pair.p_bits
  have hp := parsePositive_formatBignum (hqpos.trans pair.q_lt) pair.p_bits (by omega)
  have hq := parsePositive_formatBignum hqpos pair.q_bits.le (by omega)
  have hg := parsePositive_formatBignum pair.g_pos (hbw pair.g_lt) (by omega)
  have hy := parsePositive_formatBignum pair.y_pos (hbw pair.y_lt) (by omega) []
  rw [append_nil] at hy
  refine ⟨.dsa .sha1 pair.key, ?_, rfl, fun msg sig hsig => ?_, fun alg ha msg sig => ?_⟩
  · simp [SignatureType.makeVerifier, Signer.verifier, Verifier.publicKey, Signer.type,
      formatDsaKey,
      SignatureType.atom, parseSshDssPublic, parseDsaPublic, hp, hq, hg, hy, pair.q_bits, pair.q_lt,
      pair.g_lt, pair.y_lt, parseEod]
  · rw [Signer.sign] at hsig
    split at hsig
    · cases hsig
    · rename_i s hs
      obtain ⟨hr, hs, hvfy⟩ := pair.verify_sign _ s hs
      have hr := beDecode_beEncode_of_le ((bitLength_le_of_lt hr).trans pair.q_bits.le)
      have hs := beDecode_beEncode_of_le ((bitLength_le_of_lt hs).trans pair.q_bits.le)
      have hstr := parseString_formatString (a := beEncode 20 s.1 ++ beEncode 20 s.2) (by simp) []
      rw [append_nil] at hstr
      cases hsig
      simp [Verifier.verify, Signer.type, SignatureType.atom, parseDssSignature, hstr, parseEod, hr,
        hs,
        hvfy]
  · rw [Verifier.verify]
    rcases ha with rfl | hspki
    · rfl
    · simp [hspki, apply_ite Option.isSome]

/-- What is needed of a signer. -/
def Signer.Proper : Signer lib → Prop
  | rsa pair => pair.key.e < pair.key.n
  | dss _ => True
  | dsaSha256 _ => False

/-- No verifier is made from the key of a signer for DSA with SHA-256. -/
theorem not_agrees_dsaSha256 (pair : DsaPair lib 512 32) : ¬(Signer.dsaSha256 pair).Agrees := by
  rintro ⟨v, hv, -⟩
  simp [SignatureType.makeVerifier, Signer.verifier, Verifier.publicKey, Signer.type, formatDsaKey,
    SignatureType.atom] at hv

/-- **When the signer and the verifier agree**: always for `ssh-dss`, never for DSA with SHA-256,
and for `ssh-rsa` if the exponent is below the modulus. -/
theorem agrees_iff (signer : Signer lib) : signer.Agrees ↔ signer.Proper := by
  cases signer with
  | rsa pair =>
    refine ⟨?_, pair.agrees⟩
    rintro ⟨v, hv, -⟩
    by_contra hlt
    have hnone := pair.makeVerifier_eq.trans (if_neg hlt)
    exact absurd (hv.symm.trans hnone) nofun
  | dss pair => exact iff_of_true pair.agrees trivial
  | dsaSha256 pair => exact iff_of_false (not_agrees_dsaSha256 pair) id

/-- RSA as in a textbook: the digest is the message itself, modulo the modulus. -/
def textbook : Nettle where
  rsaPublicKeyPrepare n := some ((bitLength n + 7) / 8)
  lt_of_prepare n size h := by
    cases h
    exact lt_pow_of_bitLength_le (by omega)
  digest _ s := s
  rsaSha1Verify key msg s := s ^ key.e % key.n = beDecode msg % key.n
  dsaVerify _ _ _ := true
  parseRsa _ _ := none
  parseDsa _ := none
  formatRsa _ := []
  formatDsa _ := []

theorem exists_not_agrees : ∃ signer : Signer textbook, ¬signer.Agrees :=
  ⟨_, not_agrees_dsaSha256 ⟨⟨2 ^ 255 + 1, 2 ^ 255, 1, 1⟩, fun _ => none,
    by decide, by decide, by decide,
    by decide, by decide, by decide, by decide, nofun⟩⟩

/-- The modulus 33, with the exponents 3 and 7. -/
def smallPair : RsaPair textbook where
  key := ⟨3, 33, 1⟩
  sign msg := some ((beDecode msg % 33) ^ 7 % 33)
  e_pos := by decide
  n_pos := by decide
  e_bits := by decide
  n_bits := by decide
  prepared := by decide
  verify_sign msg s hs := by
    have hinverse : ∀ m < 33, (m ^ 7 % 33) ^ 3 % 33 = m := by decide
    cases hs
    refine ⟨Nat.mod_lt _ (by decide), decide_eq_true ?_⟩
    exact hinverse _ (Nat.mod_lt _ (by decide))

theorem agrees_iff_small : (Signer.rsa smallPair).Agrees ∧
    (Signer.rsa smallPair).sign .sshRsa [5] =
      some (some (formatAtom .sshRsa ++ formatString [14])) :=
  ⟨(agrees_iff (.rsa smallPair)).mpr (by decide : 3 < 33), rfl⟩

end Lsh.Crypto
