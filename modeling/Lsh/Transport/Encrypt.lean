
import Lsh.Transport.ReadSpec

/-!
# The transport writer

A model of `encrypt_packet`: pad, authenticate and encrypt one payload. The random padding is an
argument.

The second half takes the output apart for payloads that are not compressed: an encrypted packet
is the encryption of its plain text (`plaintext`), which is a whole number of blocks, followed by
the MAC of its sequence number and plain text (`packetMac`). `encryptPacket_eq` says so, and that
no assertion of the writer fails.
-/

namespace Lsh.Transport

open Machine List

/-- The octets that `lsh_string_write_random` writes. -/
def randomOctets (random : ℕ → UInt8) (length : ℕ) : Octets := (List.range length).map random

/-- The codec, if there is one, with an output string of `SSH_MAX_PACKET + SSH_MAX_PACKET_FUZZ`
octets. -/
def deflatePacket (packet : Octets) :
    Option CompressInstance → Except Assertion (Octets × Option CompressInstance)
  | none => return (packet, none)
  | some compress => do
    let (deflated, compress) ← compress.codec (sshMaxPacket + sshMaxPacketFuzz) packet
    require (0 < deflated.length) .deflatedLength
    return (deflated, some compress)

/-- The MAC of a packet, if there is one. -/
def digestPacket (seqno : ℕ) (plain : Octets) :
    Option MacInstance → Octets × Option MacInstance
  | none => ([], none)
  | some mac =>
    let (digest, mac) := ((mac.update (Octets.writeUint32 seqno)).update plain).digest
    (digest, some mac)

/-- The encryption of a packet, if there is a cipher. -/
def cryptPacket (plain : Octets) :
    Option CryptoInstance → Except Assertion (Octets × Option CryptoInstance)
  | none => return (plain, none)
  | some crypto => do
    let (encrypted, crypto) ← crypto.crypt plain
    return (encrypted, some crypto)

/-- The size of an encrypted packet without MAC: `length + 9` rounded up to a multiple of the block
size. -/
def newSize (blockSize length : ℕ) : ℕ := blockSize * (1 + (8 + length) / blockSize)

/-- The objects that a writer uses, and the sequence number of its next packet. -/
structure WriterState where
  deflate : Option CompressInstance
  crypto : Option CryptoInstance
  mac : Option MacInstance
  seqno : ℕ

/-- `encrypt_packet`, called with the writer's next sequence number. -/
def encryptPacket (self : WriterState) (packet : Octets) (random : ℕ → UInt8) :
    Except Assertion (Octets × WriterState) := do
  require (0 < packet.length) .packetLength
  let (packet, deflate) ← deflatePacket packet self.deflate
  let length := packet.length
  let blockSize := blockSizeOf self.crypto
  let macLength := macSizeOf self.mac
  let size := newSize blockSize length
  -- the padding length is an octet
  let paddingLength := (size - length - 5) % 256
  require (4 ≤ paddingLength) .paddingLength
  let plain := Octets.writeUint32 (length + paddingLength + 1) ++ [UInt8.ofNat paddingLength] ++
    packet ++ randomOctets random paddingLength
  require (size + macLength = plain.length + macLength) .packetSize
  let (digest, mac) := digestPacket self.seqno plain self.mac
  let (encrypted, crypto) ← cryptPacket plain self.crypto
  return (encrypted ++ digest,
    { deflate := deflate, crypto := crypto, mac := mac, seqno := (self.seqno + 1) % 2 ^ 32 })

/-- A payload together with the randomness for its padding. -/
abbrev Outgoing := Octets × (ℕ → UInt8)

/-- Encrypt a sequence of payloads and concatenate the results. -/
def encryptPackets (self : WriterState) : List Outgoing → Except Assertion (Octets × WriterState)
  | [] => return ([], self)
  | p :: ps => do
    let (first, self) ← encryptPacket self p.1 p.2
    let (others, self) ← encryptPackets self ps
    return (first ++ others, self)

/-! ### The parts of a packet -/

/-- The padding length that `encrypt_packet` computes. -/
def paddingFor (blockSize length : ℕ) : ℕ := newSize blockSize length - length - 5

/-- The packet length field. -/
def packetLengthFor (blockSize length : ℕ) : ℕ := length + paddingFor blockSize length + 1

/-- The packet before encryption: length, padding length, payload, padding. -/
def plaintext (blockSize : ℕ) (p : Outgoing) : Octets :=
  Octets.writeUint32 (packetLengthFor blockSize p.1.length) ++
    [UInt8.ofNat (paddingFor blockSize p.1.length)] ++ p.1 ++
    randomOctets p.2 (paddingFor blockSize p.1.length)

/-- The digest that follows the packet. -/
def packetMac (mac : Option MacInstance) (seqno : ℕ) (plain : Octets) : Octets :=
  match mac with
  | none => []
  | some mac => mac.mac (Octets.writeUint32 seqno ++ plain)

variable {blockSize : ℕ}

/-- The arithmetic of the padding: it has between 4 and 255 octets and fills the last block. -/
theorem newSize_facts (hb : blockSize = 8 ∨ blockSize = 16) (length) :
    newSize blockSize length = length + paddingFor blockSize length + 5 ∧
      4 ≤ paddingFor blockSize length ∧ paddingFor blockSize length ≤ 255 ∧
      newSize blockSize length % blockSize = 0 ∧ 16 ≤ newSize blockSize length ∧
      newSize blockSize length ≤ length + 24 := by
  have hmod : newSize blockSize length % blockSize = 0 := Nat.mul_mod_right _ _
  have hexp : newSize blockSize length = blockSize + blockSize * ((8 + length) / blockSize) := by
    rw [newSize, Nat.mul_add, Nat.mul_one]
  rcases hb with rfl | rfl <;> rw [paddingFor] <;> refine ⟨?_, ?_, ?_, hmod, ?_, ?_⟩ <;> omega

@[simp] theorem length_randomOctets (random length) :
    (randomOctets random length).length = length := by
  simp [randomOctets]

theorem length_plaintext (hb : blockSize = 8 ∨ blockSize = 16) (p) :
    (plaintext blockSize p).length = newSize blockSize p.1.length := by
  have hsize := (newSize_facts hb p.1.length).1
  simp only [plaintext, length_append, Octets.length_writeUint32, length_singleton,
    length_randomOctets]
  omega

theorem length_packetMac (mac seqno plain) :
    (packetMac mac seqno plain).length = macSizeOf mac := by
  cases mac with
  | none => rfl
  | some mac => exact mac.length_mac _

/-- Nothing has been fed to the MAC since the last packet. -/
def MacFresh (mac : Option MacInstance) : Prop := ∀ m ∈ mac, m.fed = []

/-- The octets of one packet on the wire. -/
def packetOctets (self : WriterState) (p : Outgoing) : Octets :=
  (cryptStream self.crypto (plaintext (blockSizeOf self.crypto) p)).1 ++
    packetMac self.mac self.seqno (plaintext (blockSizeOf self.crypto) p)

/-- The writer after one packet. -/
def afterSend (self : WriterState) (p : Outgoing) : WriterState :=
  { self with
    crypto := (cryptStream self.crypto (plaintext (blockSizeOf self.crypto) p)).2
    seqno := (self.seqno + 1) % 2 ^ 32 }

theorem digestPacket_eq {mac : Option MacInstance} (hmac : MacFresh mac) (seqno plain) :
    digestPacket seqno plain mac = (packetMac mac seqno plain, mac) := by
  cases mac with
  | none => rfl
  | some mac =>
    have hfed : mac.fed = [] := hmac mac rfl
    have hreset : { mac with fed := [] } = mac := by rw [← hfed]
    simp only [digestPacket, MacInstance.update, MacInstance.digest, hfed, nil_append,
      packetMac]
    rw [hreset]

theorem cryptPacket_eq {crypto : Option CryptoInstance} {plain : Octets}
    (h : plain.length % blockSizeOf crypto = 0) :
    cryptPacket plain crypto = .ok (cryptStream crypto plain) := by
  cases crypto with
  | none => rfl
  | some crypto =>
    obtain ⟨crypto', hcry, hcr'⟩ := crypto.crypt_eq h
    simp only [cryptPacket, hcry, ok_bind]
    rw [← hcr']
    rfl

variable {self : WriterState}

/-- `encrypt_packet` without compression fails no assertion. -/
theorem encryptPacket_eq {p : Outgoing} (hdef : self.deflate = none) (hmac : MacFresh self.mac)
    (hp : 0 < p.1.length) :
    encryptPacket self p.1 p.2 = .ok (packetOctets self p, afterSend self p) := by
  have hb := blockSizeOf_eq self.crypto
  obtain ⟨hsize, hmin, hmax, hblocks, -, -⟩ := newSize_facts hb p.1.length
  have hpad : (newSize (blockSizeOf self.crypto) p.1.length - p.1.length - 5) % 256 =
      paddingFor (blockSizeOf self.crypto) p.1.length :=
    Nat.mod_eq_of_lt (Nat.lt_succ_of_le hmax)
  have hpl := length_plaintext hb p
  have hcry : cryptPacket (plaintext (blockSizeOf self.crypto) p) self.crypto =
      .ok (cryptStream self.crypto (plaintext (blockSizeOf self.crypto) p)) :=
    cryptPacket_eq (by rwa [hpl])
  have hsum : newSize (blockSizeOf self.crypto) p.1.length + macSizeOf self.mac =
      (plaintext (blockSizeOf self.crypto) p).length + macSizeOf self.mac := by
    rw [hpl]
  simp only [encryptPacket, require_of hp, hdef, deflatePacket, ok_bind, hpad,
    require_of hmin, pure_bind]
  change (do
    require (newSize (blockSizeOf self.crypto) p.1.length + macSizeOf self.mac =
      (plaintext (blockSizeOf self.crypto) p).length + macSizeOf self.mac) Assertion.packetSize
    let r ← cryptPacket (plaintext (blockSizeOf self.crypto) p) self.crypto
    pure (r.1 ++ (digestPacket self.seqno (plaintext (blockSizeOf self.crypto) p) self.mac).1,
      WriterState.mk none r.2
        (digestPacket self.seqno (plaintext (blockSizeOf self.crypto) p) self.mac).2
        ((self.seqno + 1) % 2 ^ 32))) = _
  rw [require_of hsum, hcry, digestPacket_eq hmac]
  simp only [ok_bind, afterSend, hdef]
  rfl

/-- The concatenation of the encrypted packets. -/
def wireOf (self : WriterState) : List Outgoing → Octets
  | [] => []
  | p :: ps => packetOctets self p ++ wireOf (afterSend self p) ps

/-- The writer after a sequence of packets. -/
def afterSends (self : WriterState) : List Outgoing → WriterState
  | [] => self
  | p :: ps => afterSends (afterSend self p) ps

theorem encryptPackets_eq {ps : List Outgoing} (hdef : self.deflate = none)
    (hmac : MacFresh self.mac)
    (hps : ∀ p ∈ ps, 0 < p.1.length) :
    encryptPackets self ps = .ok (wireOf self ps, afterSends self ps) := by
  induction ps generalizing self with
  | nil => rfl
  | cons p ps ih =>
    rw [encryptPackets, encryptPacket_eq hdef hmac (hps p mem_cons_self)]
    have hre : encryptPackets (afterSend self p) ps = _ :=
      ih hdef hmac fun q hq => hps q (mem_cons_of_mem p hq)
    simp only [ok_bind, hre]
    rfl

end Lsh.Transport
