
import Lsh.Transport.Encrypt
import Lsh.Transport.Payload
import Lsh.Transport.ReadSafety
import Mathlib.Data.UInt

/-!
# Framing: what is written is what is read

A writer encrypts a sequence of payloads, and a reader with matching keys reads the octets in
pieces of any size. Whatever the pieces, the reader delivers a prefix of the payloads, in order
and with their indices as sequence numbers, and all of them once it has read often enough.

The proof follows the octets. Between two calls the reader is either between packets, and the
unprocessed input together with what is still on the wire is the encryption of the remaining
payloads (`AtBoundary`); or in the middle of a packet, whose first block it has decrypted and
stripped of its header (`InPacket`).

There is one exception. A call first makes sure that a whole block is in the buffer, also in the
middle of a packet, where less than a block may be all that is left. With blocks of 16 octets and
a MAC of 1 to 4 octets, a packet with at most 7 octets of payload stays undelivered until
something follows it (`Stalls`). No MAC of the program is that short.

## Main results

* `transportReadPacket_stream` — one call, from either kind of state
* `run_feedStep_encryptPackets` — the round trip over any sequence of calls
* `run_feedStep_stalls` — the exception
-/

namespace Lsh.Transport

open Machine TransportReadState List

/-! ### Matching ciphers -/

/-- The second cipher undoes the first one, block by block, from where the two are. -/
inductive CryptoSynced : Option CryptoInstance → Option CryptoInstance → Prop
  | none : CryptoSynced none none
  | some {w r : CryptoInstance} (R : List Octets → List Octets → Prop)
      (blockSize_eq : r.blockSize = w.blockSize)
      (inverse : BlockStream.Inverse (CryptoInstance.block w.cipher)
        (CryptoInstance.block r.cipher) w.blockSize R)
      (rel : R w.processed r.processed) : CryptoSynced (some w) (some r)

variable {w r : Option CryptoInstance}

theorem CryptoSynced.blockSizeOf_eq (h : CryptoSynced w r) : blockSizeOf r = blockSizeOf w := by
  cases h with
  | none => rfl
  | some R hsize => exact hsize

/-- Decrypting what was encrypted, after which the ciphers still match. -/
theorem CryptoSynced.cryptStream {s : Octets} (h : CryptoSynced w r)
    (hs : s.length % blockSizeOf w = 0) :
    (cryptStream r (cryptStream w s).1).1 = s ∧
      CryptoSynced (cryptStream w s).2 (cryptStream r (cryptStream w s).1).2 := by
  have hlen := length_cryptStream hs
  cases h with
  | none => exact ⟨rfl, .none⟩
  | @some w r R hsize hinv hR =>
    have hd : s.length = s.length / w.blockSize * w.blockSize :=
      (Nat.div_mul_cancel (Nat.dvd_of_mod_eq_zero hs)).symm
    obtain ⟨hback, hrel⟩ := hinv.crypt hR hd
    simp only [Transport.cryptStream, hsize] at hlen ⊢
    rw [hlen]
    exact ⟨hback, .some R rfl hinv hrel⟩

/-- Encrypting in two pieces. -/
theorem cryptStream_append {a b : Octets} (crypto) (ha : a.length % blockSizeOf crypto = 0) :
    cryptStream crypto (a ++ b) =
      ((cryptStream crypto a).1 ++ (cryptStream (cryptStream crypto a).2 b).1,
        (cryptStream (cryptStream crypto a).2 b).2) := by
  cases crypto with
  | none => rfl
  | some crypto =>
    have hd : a.length = a.length / crypto.blockSize * crypto.blockSize :=
      (Nat.div_mul_cancel (Nat.dvd_of_mod_eq_zero ha)).symm
    have hpos : 0 < crypto.blockSize := by
      have := crypto.blockSize_eq
      omega
    have hdiv : (a ++ b).length / crypto.blockSize =
        a.length / crypto.blockSize + b.length / crypto.blockSize := by
      rw [length_append]
      conv_lhs => rw [hd]
      rw [Nat.add_comm, Nat.add_mul_div_right _ _ hpos, Nat.add_comm]
    simp only [cryptStream, hdiv]
    rw [BlockStream.crypt_append _ _ _ _ _ hd]

/-! ### The packet on the wire -/

section Wire

variable (w : WriterState) (p : Outgoing)

/-- The first block of a packet before encryption. -/
def firstBlock : Octets :=
  (plaintext (blockSizeOf w.crypto) p).take (blockSizeOf w.crypto)

/-- The rest of a packet before encryption. -/
def otherBlocks : Octets :=
  (plaintext (blockSizeOf w.crypto) p).drop (blockSizeOf w.crypto)

/-- The writer's cipher after the first block. -/
def cryptoAfterFirst : Option CryptoInstance := (cryptStream w.crypto (firstBlock w p)).2

/-- What follows the first block of a packet on the wire, without the MAC. -/
def wireRest : Octets := (cryptStream (cryptoAfterFirst w p) (otherBlocks w p)).1

/-- The MAC of a packet on the wire. -/
def wireMac : Octets := packetMac w.mac w.seqno (plaintext (blockSizeOf w.crypto) p)

theorem blockSizeOf_le_newSize :
    blockSizeOf w.crypto ≤ newSize (blockSizeOf w.crypto) p.1.length := by
  have hb := blockSizeOf_eq w.crypto
  obtain ⟨-, -, -, -, hmin, -⟩ := newSize_facts hb p.1.length
  omega

theorem length_firstBlock : (firstBlock w p).length = blockSizeOf w.crypto := by
  rw [firstBlock, length_take, length_plaintext (blockSizeOf_eq _)]
  exact Nat.min_eq_left (blockSizeOf_le_newSize w p)

theorem length_otherBlocks :
    (otherBlocks w p).length =
      newSize (blockSizeOf w.crypto) p.1.length - blockSizeOf w.crypto := by
  rw [otherBlocks, length_drop, length_plaintext (blockSizeOf_eq _)]

theorem length_otherBlocks_mod : (otherBlocks w p).length % blockSizeOf w.crypto = 0 := by
  have hmod := (newSize_facts (blockSizeOf_eq w.crypto) p.1.length).2.2.2.1
  rw [length_otherBlocks]
  exact Nat.mod_eq_zero_of_dvd (Nat.dvd_sub (Nat.dvd_of_mod_eq_zero hmod) (Nat.dvd_refl _))

theorem blockSizeOf_cryptoAfterFirst : blockSizeOf (cryptoAfterFirst w p) = blockSizeOf w.crypto :=
  blockSizeOf_cryptStream _ _

theorem length_wireRest : (wireRest w p).length = (otherBlocks w p).length := by
  refine length_cryptStream ?_
  rw [blockSizeOf_cryptoAfterFirst]
  exact length_otherBlocks_mod w p

theorem length_firstBlock_wireRest :
    ((firstBlock w p).drop 5 ++ wireRest w p).length =
      packetLengthFor (blockSizeOf w.crypto) p.1.length - 1 := by
  have hb := blockSizeOf_eq w.crypto
  obtain ⟨hsize, -, -, -, hmin, -⟩ := newSize_facts hb p.1.length
  rw [length_append, length_drop, length_firstBlock, length_wireRest,
    length_otherBlocks, packetLengthFor]
  omega

theorem firstBlock_append_otherBlocks :
    firstBlock w p ++ otherBlocks w p = plaintext (blockSizeOf w.crypto) p :=
  take_append_drop _ _

/-- Without its header a packet is payload and padding. -/
theorem drop_firstBlock_append_otherBlocks :
    (firstBlock w p).drop 5 ++ otherBlocks w p =
      p.1 ++ randomOctets p.2 (paddingFor (blockSizeOf w.crypto) p.1.length) := by
  have hb := blockSizeOf_eq w.crypto
  rw [← drop_append_of_le_length (by rw [length_firstBlock]; omega),
    firstBlock_append_otherBlocks, plaintext, append_assoc, drop_left' (by simp)]

theorem length_wireMac : (wireMac w p).length = macSizeOf w.mac := length_packetMac _ _ _

theorem cryptStream_plaintext :
    cryptStream w.crypto (plaintext (blockSizeOf w.crypto) p) =
      ((cryptStream w.crypto (firstBlock w p)).1 ++ wireRest w p,
        (cryptStream (cryptoAfterFirst w p) (otherBlocks w p)).2) := by
  have hmod : (firstBlock w p).length % blockSizeOf w.crypto = 0 := by
    rw [length_firstBlock]
    exact Nat.mod_self _
  have h := cryptStream_append w.crypto (b := otherBlocks w p) hmod
  rwa [firstBlock, otherBlocks, take_append_drop] at h

/-- A packet on the wire: its first block, its other blocks, its MAC. -/
theorem packetOctets_eq :
    packetOctets w p =
      (cryptStream w.crypto (firstBlock w p)).1 ++ wireRest w p ++ wireMac w p := by
  rw [packetOctets, cryptStream_plaintext]
  rfl

theorem length_cryptStream_firstBlock :
    (cryptStream w.crypto (firstBlock w p)).1.length = blockSizeOf w.crypto := by
  rw [length_cryptStream (by rw [length_firstBlock]; exact Nat.mod_self _), length_firstBlock]

theorem blockSizeOf_afterSend : blockSizeOf (afterSend w p).crypto = blockSizeOf w.crypto :=
  blockSizeOf_cryptStream _ _

/-- The reader sees the packet length in the first block. -/
theorem readUint32_firstBlock (hp : p.1.length ≤ sshMaxPacket) :
    Octets.readUint32 (firstBlock w p) = packetLengthFor (blockSizeOf w.crypto) p.1.length := by
  have hb := blockSizeOf_eq w.crypto
  have hlen := length_firstBlock w p
  obtain ⟨-, -, hmax, -, -, -⟩ := newSize_facts hb p.1.length
  have hp : p.1.length ≤ 32768 := hp
  rw [← Octets.readUint32_append (by omega) (otherBlocks w p), firstBlock, otherBlocks,
    take_append_drop, plaintext, append_assoc, append_assoc,
    Octets.readUint32_writeUint32]
  exact Nat.mod_eq_of_lt (by rw [packetLengthFor]; omega)

/-- The reader sees the padding length in the first block. -/
theorem getD_firstBlock :
    ((firstBlock w p).getD 4 0).toNat = paddingFor (blockSizeOf w.crypto) p.1.length := by
  have hb := blockSizeOf_eq w.crypto
  obtain ⟨-, -, hmax, -, -, -⟩ := newSize_facts hb p.1.length
  rw [List.getD_eq_getElem?_getD, firstBlock, List.getElem?_take_of_lt (by omega)]
  exact Nat.mod_eq_of_lt (by omega)

end Wire

/-! ### Reading from the wire -/

/-- What `read` returns when `wire` is still to come: nothing is asked of it without a file
descriptor; otherwise it returns at most `k + 1` octets, or that it would block. -/
def draw (wire : Octets) : Option (ℕ × Bool) → Option ReadResult
  | none => none
  | some (k, readable) =>
    if wire = [] then some (.error ewouldblock) else some (.octets (wire.take (k + 1)) readable)

theorem clean_draw (wire e) : Clean (draw wire e) := by
  rcases e with _ | ⟨k, readable⟩
  · trivial
  · by_cases hwi : wire = []
    · rw [draw, if_pos hwi]
      rfl
    · rw [draw, if_neg hwi]
      simpa [Clean] using hwi

variable {wire : Octets} {e : Option (ℕ × Bool)} {s : ReadStatus Packet}

/-- A read moves octets from the wire to the buffer, and at least one if it can. -/
theorem Filled.draw {need limit : ℕ} {s : TransportReadState}
    {r : Option (ReadStatus Packet) × TransportReadState × ℕ}
    (hr : Filled s need limit (draw wire e) r) :
    r.2.1.data = s.data ++ wire.take r.2.2 ∧
      (s.data.length < need → s.data.length < limit → e.isSome → wire ≠ [] → 0 < r.2.2) := by
  obtain ⟨start, readStatus, hfr⟩ := hr.frame
  have hcount := hr.count
  rw [hfr]
  by_cases hnd : s.data.length < need
  · rcases e with _ | ⟨k, readable⟩
    · simp only [input, Transport.draw, if_pos hnd, Option.map_none, Option.getD_none,
        append_nil] at hcount ⊢
      have hz0 : r.2.2 = 0 := by omega
      simp [hz0]
    · by_cases hwi : wire = []
      · simp [input, Transport.draw, hnd, hwi, ReadResult.taken]
      · simp only [input, Transport.draw, if_pos hnd, if_neg hwi, Option.map_some,
          Option.getD_some, ReadResult.taken, length_append, take_take] at hcount ⊢
        have hn : r.2.2 = (wire.take (min (limit - s.data.length) (k + 1))).length := by omega
        have hpos : 0 < wire.length := length_pos_iff.mpr hwi
        refine ⟨?_, fun _ hlim _ _ => ?_⟩
        · rw [hn, length_take, ← take_eq_take_min]
        · rw [hn, length_take]
          omega
  · simp only [input, if_neg hnd] at hcount ⊢
    have hz0 : r.2.2 = 0 := by omega
    simp [hz0, hnd]

/-! ### The stream -/

/-- The reader is between packets. What it has and what is on the wire is the encryption of the
remaining payloads. -/
structure AtBoundary (w : WriterState) (ps : List Outgoing) (wire : Octets)
    (r : TransportReadState) : Prop where
  deflate : w.deflate = none
  inflate : r.inflate = none
  crypto : CryptoSynced w.crypto r.crypto
  mac : r.mac = w.mac
  fresh : MacFresh w.mac
  seqno : r.seqno = w.seqno
  totalLength : r.totalLength = 0
  safe : Safe r
  octets : r.data ++ wire = wireOf w ps

/-- The reader has processed the header of a packet. -/
structure InPacket (w : WriterState) (p : Outgoing) (ps : List Outgoing) (wire : Octets)
    (r : TransportReadState) : Prop where
  deflate : w.deflate = none
  inflate : r.inflate = none
  crypto : CryptoSynced (cryptoAfterFirst w p) r.crypto
  mac : r.mac = w.mac.map fun m : MacInstance =>
    { m with fed := Octets.writeUint32 w.seqno ++ firstBlock w p }
  fresh : MacFresh w.mac
  seqno : r.seqno = w.seqno
  padding : r.padding = paddingFor (blockSizeOf w.crypto) p.1.length
  totalLength : r.totalLength =
    packetLengthFor (blockSizeOf w.crypto) p.1.length - 1 + macSizeOf w.mac
  safe : Safe r
  octets : r.data ++ wire =
    (firstBlock w p).drop 5 ++ wireRest w p ++ wireMac w p ++ wireOf (afterSend w p) ps

/-- The state of the stream between two calls. A packet that ends with its first block is delivered
as soon as its header is processed, so the reader never rests in it. -/
def InStream (w : WriterState) (ps : List Outgoing) (wire : Octets) (r : TransportReadState) :
    Prop :=
  AtBoundary w ps wire r ∨ ∃ p ps', ps = p :: ps' ∧ InPacket w p ps' wire r ∧
    blockSizeOf w.crypto - 5 < r.totalLength

variable {ps : List Outgoing} {w : WriterState} {r : TransportReadState} {p : Outgoing}

theorem AtBoundary.blockSize_eq (h : AtBoundary w ps wire r) : r.blockSize = blockSizeOf w.crypto :=
  h.crypto.blockSizeOf_eq

/-- With a whole block in the buffer, the first block of the next packet is all there. -/
theorem AtBoundary.split (h : AtBoundary w (p :: ps) wire r)
    (hlen : r.blockSize ≤ r.data.length) :
    r.data.take r.blockSize = (cryptStream w.crypto (firstBlock w p)).1 ∧
      r.data.drop r.blockSize ++ wire =
        wireRest w p ++ wireMac w p ++ wireOf (afterSend w p) ps := by
  have hoct : r.data ++ wire = (cryptStream w.crypto (firstBlock w p)).1 ++
      (wireRest w p ++ wireMac w p ++ wireOf (afterSend w p) ps) := by
    rw [h.octets, wireOf, packetOctets_eq]
    simp only [append_assoc]
  have hfst : (cryptStream w.crypto (firstBlock w p)).1.length = r.blockSize := by
    rw [length_cryptStream_firstBlock, h.blockSize_eq]
  constructor
  · have hta : (r.data ++ wire).take r.blockSize = r.data.take r.blockSize :=
      take_append_of_le_length hlen
    rw [← hta, hoct, take_left' hfst]
  · rw [← drop_append_of_le_length hlen, hoct, drop_left' hfst]

/-- The header that the reader decrypts is the one that was written. -/
theorem AtBoundary.header_eq (h : AtBoundary w (p :: ps) wire r)
    (hlen : r.blockSize ≤ r.data.length) :
    header r = firstBlock w p ∧
      CryptoSynced (cryptoAfterFirst w p) (cryptStream r.crypto (r.data.take r.blockSize)).2 := by
  have hmod : (firstBlock w p).length % blockSizeOf w.crypto = 0 := by
    rw [length_firstBlock]
    exact Nat.mod_self _
  obtain ⟨hback, hsy⟩ := h.crypto.cryptStream hmod
  rw [header, (h.split hlen).1]
  exact ⟨hback, hsy⟩

/-- What the writer puts in a header passes the checks of the reader. -/
theorem checkHeader_written {length : ℕ} {blockSize : ℕ} (hb : blockSize = 8 ∨ blockSize = 16)
    (hpos : 0 < length) (hmax : length ≤ sshMaxPacket) :
    checkHeader blockSize (packetLengthFor blockSize length) (paddingFor blockSize length) = none ∧
      12 ≤ packetLengthFor blockSize length ∧ packetLengthFor blockSize length ≤ 32788 := by
  have hmax : length ≤ 32768 := hmax
  have hfuzz : sshMaxPacket + sshMaxPacketFuzz = 35000 := rfl
  obtain ⟨hsize, hpad, hpad', hmod, hmin, hbnd⟩ := newSize_facts hb length
  have hsum : packetLengthFor blockSize length + 4 = newSize blockSize length := by
    rw [packetLengthFor]
    omega
  refine ⟨checkHeader_eq_none.mpr ⟨hpad, ?_, by omega, by omega, ?_, by omega⟩, by omega, by omega⟩
  · omega
  · rw [hsum, Nat.mod_eq_of_lt (b := 2 ^ 32) (by omega), hmod]

/-- **The header of a packet.** -/
theorem AtBoundary.processHeader (h : AtBoundary w (p :: ps) wire r)
    (hpos : 0 < p.1.length) (hmax : p.1.length ≤ sshMaxPacket)
    (hlen : r.blockSize ≤ r.data.length) :
    ∃ r', processHeader r = .ok (none, r') ∧ InPacket w p ps wire r' ∧
      blockSizeOf w.crypto - 5 ≤ r'.data.length := by
  obtain ⟨hhd, hsy⟩ := h.header_eq hlen
  obtain ⟨-, hre⟩ := h.split hlen
  have hb := blockSizeOf_eq w.crypto
  obtain ⟨hchk, hmin, hbnd⟩ := checkHeader_written hb hpos hmax
  have hlth : headerLength r = packetLengthFor (blockSizeOf w.crypto) p.1.length := by
    rw [headerLength, hhd, readUint32_firstBlock w p hmax]
  have hpad : headerPadding r = paddingFor (blockSizeOf w.crypto) p.1.length := by
    rw [headerPadding, hhd, getD_firstBlock w p]
  have hmac : r.macSize = macSizeOf w.mac := congrArg macSizeOf h.mac
  have hmacle : macSizeOf w.mac ≤ 20 := macSizeOf_le w.mac
  have hsize : r.size = 35000 := h.safe.size_eq
  have hannounced : maxAnnounced = 34000 := rfl
  have heq := processHeader_eq h.safe.inside hlen h.totalLength
  rw [h.blockSize_eq, hlth, hpad, hchk] at heq
  rw [if_neg (by omega)] at heq
  have hsa := processHeader_safe h.safe hlen h.totalLength fun _ _ => by omega
  rw [heq] at hsa
  have hdata : (header r ++ r.data.drop r.blockSize).drop 5 =
      (firstBlock w p).drop 5 ++ r.data.drop r.blockSize := by
    rw [hhd, drop_append_of_le_length (by rw [length_firstBlock]; omega)]
  refine ⟨_, heq, ⟨h.deflate, h.inflate, hsy, ?_, h.fresh, h.seqno, hpad, ?_,
    (hsa.2 rfl).1, ?_⟩, ?_⟩
  · show r.mac.map _ = _
    rw [h.mac, h.seqno, hhd]
    refine Option.map_congr fun m hm => ?_
    rw [MacInstance.update, MacInstance.update, h.fresh m hm, nil_append]
  · exact congrArg (_ + ·) hmac
  · show (header r ++ r.data.drop r.blockSize).drop 5 ++ wire = _
    rw [hdata, append_assoc, hre]
    simp only [append_assoc]
  · show _ ≤ ((header r ++ r.data.drop r.blockSize).drop 5).length
    rw [hdata, length_append, length_drop, length_firstBlock]
    exact Nat.le_add_right _ _

/-- With the whole packet in the buffer, its parts lie one after the other. -/
theorem InPacket.split (h : InPacket w p ps wire r)
    (hav : r.totalLength ≤ r.data.length) :
    ∃ tail, r.data = (firstBlock w p).drop 5 ++ wireRest w p ++ wireMac w p ++ tail ∧
      tail ++ wire = wireOf (afterSend w p) ps := by
  have hlen : ((firstBlock w p).drop 5 ++ wireRest w p ++ wireMac w p).length = r.totalLength := by
    rw [length_append, length_firstBlock_wireRest, length_wireMac, h.totalLength]
  have hpre : (firstBlock w p).drop 5 ++ wireRest w p ++ wireMac w p <+: r.data := by
    refine prefix_of_prefix_length_le (prefix_append _ (wireOf (afterSend w p) ps)) ?_
      (hlen.le.trans hav)
    rw [← h.octets]
    exact prefix_append _ _
  obtain ⟨tail, htl⟩ := hpre
  refine ⟨tail, htl.symm, ?_⟩
  have hoct := h.octets
  rw [← htl, append_assoc] at hoct
  exact append_cancel_left hoct

section Decode

variable {w : WriterState} {p : Outgoing} {ps : List Outgoing} {wire : Octets}
  {r : TransportReadState}

section
variable (h : InPacket w p ps wire r)
include h

theorem InPacket.blockSize_eq : r.blockSize = blockSizeOf w.crypto := by
  rw [blockSize, h.crypto.blockSizeOf_eq, blockSizeOf_cryptoAfterFirst]

theorem InPacket.macSize_eq : r.macSize = macSizeOf w.mac := by
  rw [macSize, h.mac]
  exact macSizeOf_map _ _ fun _ => rfl

theorem InPacket.body (hpos : 0 < p.1.length)
    (hmax : p.1.length ≤ sshMaxPacket) (hav : r.totalLength ≤ r.data.length) :
    Body r (packetLengthFor (blockSizeOf w.crypto) p.1.length) := by
  refine ⟨h.safe.inside, ?_, ?_, hav⟩
  · rw [h.blockSize_eq, h.padding]
    exact (checkHeader_written (blockSizeOf_eq _) hpos hmax).1
  · rw [h.totalLength, h.macSize_eq]

theorem InPacket.restLength_eq :
    restLength r (packetLengthFor (blockSizeOf w.crypto) p.1.length) =
      (otherBlocks w p).length := by
  have hb := blockSizeOf_eq w.crypto
  obtain ⟨hsize, -, -, -, hmin, -⟩ := newSize_facts hb p.1.length
  rw [restLength, h.blockSize_eq, length_otherBlocks, packetLengthFor]
  omega

section
variable (hav : r.totalLength ≤ r.data.length)
include hav

/-- What the reader decrypts after the first block is what was written. -/
theorem InPacket.rest_eq :
    rest r (packetLengthFor (blockSizeOf w.crypto) p.1.length) = otherBlocks w p ∧
      CryptoSynced (afterSend w p).crypto
        (bodyState r (packetLengthFor (blockSizeOf w.crypto) p.1.length)).crypto := by
  obtain ⟨tail, hdata, -⟩ := h.split hav
  have hdp : ((firstBlock w p).drop 5).length = blockSizeOf w.crypto - 5 := by
    rw [length_drop, length_firstBlock]
  have hoct : r.octets (r.blockSize - 5)
      (restLength r (packetLengthFor (blockSizeOf w.crypto) p.1.length)) = wireRest w p := by
    rw [TransportReadState.octets, h.restLength_eq, h.blockSize_eq, hdata, append_assoc,
      append_assoc,
      drop_left' hdp, take_left' (length_wireRest w p)]
  have hmod : (otherBlocks w p).length % blockSizeOf (cryptoAfterFirst w p) = 0 := by
    rw [blockSizeOf_cryptoAfterFirst]
    exact length_otherBlocks_mod w p
  obtain ⟨hback, hsy⟩ := h.crypto.cryptStream hmod
  rw [rest, bodyState, hoct]
  refine ⟨hback, ?_⟩
  rw [afterSend, cryptStream_plaintext]
  exact hsy

/-- The MAC that the reader computes is the one that was written. -/
theorem InPacket.macMatches : MacMatches r (packetLengthFor (blockSizeOf w.crypto) p.1.length) := by
  intro m hm
  obtain ⟨tail, hdata, -⟩ := h.split hav
  rw [h.mac] at hm
  obtain ⟨m', hm', rfl⟩ := Option.mem_map.mp hm
  have hmac : (wireMac w p).length = m'.macSize := by
    rw [length_wireMac, Option.mem_def.mp hm']
    rfl
  have hlen := length_firstBlock_wireRest w p
  have hdig : r.octets (packetLengthFor (blockSizeOf w.crypto) p.1.length - 1) m'.macSize =
      wireMac w p := by
    rw [TransportReadState.octets, hdata, append_assoc, drop_left' hlen,
      take_left' hmac]
  rw [(h.rest_eq hav).1]
  rw [append_assoc, firstBlock_append_otherBlocks, hdig, wireMac, Option.mem_def.mp hm']
  rfl

/-- The payload is at the start of the decrypted packet. -/
theorem InPacket.data_bodyState :
    ∃ tail, (bodyState r (packetLengthFor (blockSizeOf w.crypto) p.1.length)).data =
        p.1 ++ randomOctets p.2 (paddingFor (blockSizeOf w.crypto) p.1.length) ++ wireMac w p ++
          tail ∧
      tail ++ wire = wireOf (afterSend w p) ps := by
  obtain ⟨tail, hdata, htl⟩ := h.split hav
  refine ⟨tail, ?_, htl⟩
  have hdp : ((firstBlock w p).drop 5).length = blockSizeOf w.crypto - 5 := by
    rw [length_drop, length_firstBlock]
  have hta : r.data.take (blockSizeOf w.crypto - 5) = (firstBlock w p).drop 5 := by
    rw [hdata, append_assoc, append_assoc, take_left' hdp]
  have hre : r.data.drop (packetLengthFor (blockSizeOf w.crypto) p.1.length - 1) =
      wireMac w p ++ tail := by
    rw [hdata, append_assoc, drop_left' (length_firstBlock_wireRest w p)]
  rw [bodyState, (h.rest_eq hav).1, h.blockSize_eq, hta, hre,
    drop_firstBlock_append_otherBlocks, append_assoc _ (wireMac w p) tail]

end

/-- **The body of a packet.** -/
theorem InPacket.decodePacket (hpos : 0 < p.1.length)
    (hmax : p.1.length ≤ sshMaxPacket) (hav : r.totalLength ≤ r.data.length) :
    ∃ r', decodePacket r payloadSpace = .ok (.complete (w.seqno, p.1), r') ∧
      AtBoundary (afterSend w p) ps wire r' := by
  have hbo := h.body hpos hmax hav
  obtain ⟨tail, hdata, htl⟩ := h.data_bodyState hav
  have hlth : payloadLength r = p.1.length := by
    rw [hbo.payloadLength_eq, h.padding, packetLengthFor]
    omega
  have hft : payloadLength r ≤ payloadSpace := by
    rw [hlth]
    exact Nat.le_succ_of_le hmax
  have hpayload : (bodyState r (packetLengthFor (blockSizeOf w.crypto) p.1.length)).octets 0
      (payloadLength r) = p.1 := by
    rw [TransportReadState.octets, drop_zero, hdata, hlth, append_assoc,
      append_assoc, take_left' rfl]
  have hdec := hbo.decodePacket_copy (h.macMatches hav) h.inflate payloadSpace
  rw [if_pos hft, hpayload, h.seqno] at hdec
  refine ⟨_, hdec, ⟨h.deflate, h.inflate, (h.rest_eq hav).2, ?_, h.fresh, ?_, rfl, ?_, ?_⟩⟩
  · show r.mac.map _ = w.mac
    rw [h.mac]
    cases hmac : w.mac with
    | none => rfl
    | some m =>
      have hfed : m.fed = [] := h.fresh m hmac
      show some { m with fed := [] } = some m
      rw [← hfed]
  · show (r.seqno + 1) % 2 ^ 32 = (w.seqno + 1) % 2 ^ 32
    rw [h.seqno]
  · have hlen := hbo.length_bodyState
    have hin : r.start + r.data.length ≤ r.size := h.safe.inside
    refine safe_afterPacket
      (s := resetMac (bodyState r (packetLengthFor (blockSizeOf w.crypto) p.1.length)))
      h.safe.size_eq ?_ ?_ ?_ r.inflate
    · show r.start + (bodyState r _).data.length ≤ r.size
      rwa [hlen]
    · show r.totalLength ≤ (bodyState r _).data.length
      rwa [hlen]
    · show (bodyState r _).data.length ≤ r.totalLength + _
      rw [hlen]
      exact h.safe.ahead
  · show (bodyState r _).data.drop r.totalLength ++ wire = _
    rw [hdata, drop_left', htl]
    rw [length_append, length_append, length_randomOctets, length_wireMac,
      h.totalLength, packetLengthFor]
    omega

end

end Decode

/-! ### One call -/

section Call

variable {w : WriterState} {p : Outgoing} {ps : List Outgoing} {wire : Octets}
  {res : Option (ReadStatus Packet) × TransportReadState × ℕ} {need limit : ℕ}

/-- A read keeps the stream together. -/
theorem AtBoundary.filled (h : AtBoundary w ps wire r)
    (hr : Filled r need limit (draw wire e) res) (hsa : Safe res.2.1) :
    AtBoundary w ps (wire.drop res.2.2) res.2.1 := by
  have hdata := hr.draw.1
  obtain ⟨start, readStatus, hfr⟩ := hr.frame
  have hoct : res.2.1.data ++ wire.drop res.2.2 = wireOf w ps := by
    rw [hdata, append_assoc, take_append_drop, h.octets]
  rw [hfr] at hsa hoct ⊢
  exact ⟨h.deflate, h.inflate, h.crypto, h.mac, h.fresh, h.seqno, h.totalLength, hsa, hoct⟩

theorem InPacket.filled (h : InPacket w p ps wire r)
    (hr : Filled r need limit (draw wire e) res) (hsa : Safe res.2.1) :
    InPacket w p ps (wire.drop res.2.2) res.2.1 := by
  have hdata := hr.draw.1
  obtain ⟨start, readStatus, hfr⟩ := hr.frame
  have hoct : res.2.1.data ++ wire.drop res.2.2 = (firstBlock w p).drop 5 ++ wireRest w p ++
      wireMac w p ++ wireOf (afterSend w p) ps := by
    rw [hdata, append_assoc, take_append_drop, h.octets]
  rw [hfr] at hsa hoct ⊢
  exact ⟨h.deflate, h.inflate, h.crypto, h.mac, h.fresh, h.seqno, h.padding, h.totalLength, hsa,
    hoct⟩

/-- The reader has less in its buffer than it needs. -/
def Short (r : TransportReadState) : Prop :=
  r.data.length < r.blockSize ∨ r.data.length < r.totalLength

/-- What a call does to the stream: it waits for more, with less in the buffer than it needs, or it
delivers the next payload. A call that waits has read something if there was anything to read. -/
def CallPost (w : WriterState) (ps : List Outgoing) (wire : Octets) (e : Option (ℕ × Bool))
    (res : ReadStatus Packet × TransportReadState × ℕ) : Prop :=
  (res.1.settled = false ∧ InStream w ps (wire.drop res.2.2) res.2.1 ∧ Short res.2.1 ∧
    (e.isSome → wire ≠ [] → 0 < res.2.2)) ∨
  ∃ p ps', ps = p :: ps' ∧ res.1 = .complete (w.seqno, p.1) ∧
    AtBoundary (afterSend w p) ps' (wire.drop res.2.2) res.2.1

/-- The part of a call after the header. -/
theorem InPacket.readBody (h : InPacket w p ps wire r) (hpos : 0 < p.1.length)
    (hmax : p.1.length ≤ sshMaxPacket) (hlen : blockSizeOf w.crypto - 5 ≤ r.data.length)
    (e : Option (ℕ × Bool)) :
    ∃ res, readBody r payloadSpace (draw wire e) = .ok res ∧ CallPost w (p :: ps) wire e res := by
  have hsize : r.size = 35000 := h.safe.size_eq
  have hah : transportReadAhead = 1000 := rfl
  have htot := h.totalLength
  have hmac : macSizeOf w.mac ≤ 20 := macSizeOf_le w.mac
  obtain ⟨-, hmin, hbnd⟩ := checkHeader_written (blockSizeOf_eq w.crypto) hpos hmax
  obtain ⟨⟨stat, r', n⟩, hfi, hfil⟩ :=
    (fillBody_ensures (by omega) h.safe.inside (draw wire e)).exists_ok
  have hsa : Safe r' := hfil.safe h.safe (length_input_le h.safe.ahead _)
  have hin := h.filled hfil hsa
  have htot' : r'.totalLength = r.totalLength := hfil.totalLength_eq
  have hgrow : r.data.length ≤ r'.data.length := hfil.length_le
  cases stat with
  | some stat =>
    have hwt := hfil.waiting (clean_draw wire e) stat rfl
    have hsh : r'.data.length < r.totalLength := hfil.of_some rfl
    refine ⟨_, readBody_of_some hfi _,
      Or.inl ⟨hwt, Or.inr ⟨p, ps, rfl, hin, ?_⟩, Or.inr (htot' ▸ hsh), ?_⟩⟩
    · dsimp only
      omega
    · exact fun he hwi => hfil.draw.2 (by omega) (by omega) he hwi
  | none =>
    have hav : r'.totalLength ≤ r'.data.length := by
      rw [htot']
      exact hfil.of_none rfl
    obtain ⟨r'', hdec, hbdy⟩ := hin.decodePacket hpos hmax hav
    exact ⟨_, readBody_of_none hfi _ hdec, Or.inr ⟨p, ps, rfl, rfl, hbdy⟩⟩

/-- A call that read `n` octets for the first block went on from there. -/
theorem CallPost.shift {n : ℕ} {e e' : Option (ℕ × Bool)}
    {res : ReadStatus Packet × TransportReadState × ℕ}
    (h : CallPost w ps (wire.drop n) e' res)
    (hread : e.isSome → wire ≠ [] → 0 < n ∨ (n = 0 ∧ e' = e)) :
    CallPost w ps wire e (res.1, res.2.1, n + res.2.2) := by
  rcases h with ⟨hwt, hin, hsh, hprg⟩ | ⟨p, ps', hps, hsta, hbdy⟩
  · rw [drop_drop] at hin
    refine Or.inl ⟨hwt, hin, hsh, fun he hwi => ?_⟩
    rcases hread he hwi with hn | ⟨hn, rfl⟩
    · exact Nat.add_pos_left hn _
    · subst hn
      exact Nat.add_pos_right _ (hprg he hwi)
  · rw [drop_drop] at hbdy
    exact Or.inr ⟨p, ps', hps, hsta, hbdy⟩

/-- **One call of `transport_read_packet`.** -/
theorem transportReadPacket_stream (h : InStream w ps wire r)
    (hps : ∀ q ∈ ps, 0 < q.1.length ∧ q.1.length ≤ sshMaxPacket) (e : Option (ℕ × Bool)) :
    ∃ res, transportReadPacket r payloadSpace (draw wire e) = .ok res ∧
      CallPost w ps wire e res := by
  have hsa : Safe r := by
    rcases h with h | ⟨p, ps', -, h, -⟩ <;> exact h.safe
  have hsize : r.size = 35000 := hsa.size_eq
  have hah : transportReadAhead = 1000 := rfl
  have hb := blockSizeOf_eq r.crypto
  have hbs : r.blockSize = blockSizeOf r.crypto := rfl
  obtain ⟨⟨stat, r₁, n⟩, hfi, hfil⟩ :=
    (fillBlock_ensures (by omega) hsa.inside (draw wire e)).exists_ok
  have hsafe₁ : Safe r₁ := by
    refine hfil.safe hsa ?_
    by_cases hsh : r.data.length < r.blockSize
    · exact Nat.le_trans (length_input_le (by omega) _) (Nat.le_add_left _ _)
    · rw [input, if_neg hsh]
      exact hsa.ahead
  have hdraw := hfil.draw
  have hbl : r₁.blockSize = r.blockSize := hfil.blockSize_eq
  cases stat with
  | some stat =>
    have hwt := hfil.waiting (clean_draw wire e) stat rfl
    have hsh : r₁.data.length < r.blockSize := hfil.of_some rfl
    have hgrow : r.data.length ≤ r₁.data.length := hfil.length_le
    refine ⟨_, transportReadPacket_of_some hfi _, Or.inl ⟨hwt, ?_, Or.inl (hbl ▸ hsh), ?_⟩⟩
    · rcases h with h | ⟨p, ps', rfl, h, hre⟩
      · exact Or.inl (h.filled hfil hsafe₁)
      · refine Or.inr ⟨p, ps', rfl, h.filled hfil hsafe₁, ?_⟩
        rwa [hfil.totalLength_eq]
    · exact fun he hwi => hdraw.2 (by omega) (by omega) he hwi
  | none =>
    have hlen : r₁.blockSize ≤ r₁.data.length := by
      rw [hbl]
      exact hfil.of_none rfl
    -- the file descriptor is used once: for the block if that was short, else for the body
    obtain ⟨e', hfd, hread⟩ : ∃ e', (if r.data.length < r.blockSize then none else draw wire e) =
        draw (wire.drop n) e' ∧ (e.isSome → wire ≠ [] → 0 < n ∨ (n = 0 ∧ e' = e)) := by
      by_cases hsh : r.data.length < r.blockSize
      · refine ⟨none, by rw [if_pos hsh]; rfl, fun he hwi => Or.inl ?_⟩
        exact hdraw.2 hsh (by omega) he hwi
      · have hz0 : n = 0 := by
          have hcount := hfil.count
          rw [input, if_neg hsh] at hcount
          exact Nat.add_eq_left.mp hcount
        refine ⟨e, by rw [if_neg hsh, hz0, drop_zero], fun _ _ => Or.inr ⟨hz0, rfl⟩⟩
    rcases h with h | ⟨p, ps', rfl, h, hre⟩
    · have hbdy := h.filled hfil hsafe₁
      cases ps with
      | nil =>
        have hnil : r₁.data ++ wire.drop n = [] := hbdy.octets
        have hz0 : r₁.data.length = 0 := by
          rw [(append_eq_nil_iff.mp hnil).1]
          rfl
        omega
      | cons p ps =>
        obtain ⟨hpos, hmax⟩ := hps p mem_cons_self
        obtain ⟨r₂, hhd, hin, hlen₂⟩ := hbdy.processHeader hpos hmax hlen
        obtain ⟨res, hbo, hpost⟩ := hin.readBody hpos hmax hlen₂ e'
        rw [← hfd] at hbo
        exact ⟨_, transportReadPacket_of_none hfi hhd hbo, hpost.shift hread⟩
    · have hin := h.filled hfil hsafe₁
      obtain ⟨hpos, hmax⟩ := hps p mem_cons_self
      have htot : r₁.totalLength ≠ 0 := by
        have := hfil.totalLength_eq
        dsimp only at this
        omega
      have hlen₂ : blockSizeOf w.crypto - 5 ≤ r₁.data.length := by
        have := hin.blockSize_eq
        dsimp only at this
        omega
      obtain ⟨res, hbo, hpost⟩ := hin.readBody hpos hmax hlen₂ e'
      rw [← hfd] at hbo
      exact ⟨_, transportReadPacket_of_none hfi (processHeader_of_ne_zero hlen htot) hbo,
        hpost.shift hread⟩

end Call

/-! ### Runs -/

/-- The last packet can stay undelivered: with blocks of 16 octets and a MAC of 1 to 4 octets, at
most 7 octets of payload leave less than a block after the header. -/
def Stalls (w : WriterState) (ps : List Outgoing) : Prop :=
  ∃ p ∈ ps.getLast?, blockSizeOf w.crypto = 16 ∧ 1 ≤ macSizeOf w.mac ∧ macSizeOf w.mac ≤ 4 ∧
    p.1.length ≤ 7

theorem Stalls.of_afterSend (h : Stalls (afterSend w p) ps) : Stalls w (p :: ps) := by
  obtain ⟨q, hq, hbl, hmac⟩ := h
  rw [blockSizeOf_afterSend] at hbl
  refine ⟨q, ?_, hbl, hmac⟩
  rw [List.getLast?_cons, hq]
  rfl

theorem length_packetOctets (w p) : 16 ≤ (packetOctets w p).length := by
  have hb := blockSizeOf_eq w.crypto
  have hmin := (newSize_facts hb p.1.length).2.2.2.2.1
  rw [packetOctets_eq, length_append, length_append, length_cryptStream_firstBlock,
    length_wireRest, length_otherBlocks]
  omega

/-- Once everything has arrived and the reader waits, everything has been delivered, or the last
packet stays undelivered. -/
theorem InStream.nil_or_stalls (h : InStream w ps [] r) (hshort : Short r) :
    ps = [] ∨ ps.length = 1 ∧ Stalls w ps := by
  have hb := blockSizeOf_eq w.crypto
  rw [Short] at hshort
  rcases h with h | ⟨p, ps, rfl, h, hrest⟩
  · cases ps with
    | nil => exact .inl rfl
    | cons p ps =>
      have hblock := h.blockSize_eq
      have htotal := h.totalLength
      have hoctets := congrArg List.length h.octets
      have hlength := length_packetOctets w p
      rw [append_nil, wireOf, length_append] at hoctets
      omega
  · have hblock := h.blockSize_eq
    have htotal := h.totalLength
    have hoctets := congrArg List.length h.octets
    obtain ⟨hsize, hpad, -, hmod, hmin, -⟩ := newSize_facts hb p.1.length
    rw [append_nil, length_append, length_append, length_firstBlock_wireRest,
      length_wireMac] at hoctets
    rw [packetLengthFor] at htotal hoctets
    cases ps with
    | nil =>
      refine .inr ⟨rfl, p, rfl, ?_⟩
      rcases hb with hb | hb <;>
        rw [hb] at hsize hpad hmod hmin htotal hoctets hrest hblock ⊢ <;> omega
    | cons q ps =>
      have hlength := length_packetOctets (afterSend w p) q
      rw [wireOf, length_append] at hoctets
      omega

theorem Stalls.of_afterSends {done : List Outgoing} (h : Stalls (afterSends w done) ps) :
    Stalls w (done ++ ps) := by
  induction done generalizing w with
  | nil => exact h
  | cons p done ih => exact (ih h).of_afterSend

/-- A reader and the octets that have not reached it yet, with what its calls returned. -/
structure Feed where
  reader : TransportReadState
  wire : Octets
  statuses : List (ReadStatus Packet)

/-- One call of `transport_read_packet`, without a file descriptor or with one from which at most
a given number of octets can be read. -/
def feedStep (f : Feed) (e : Option (ℕ × Bool)) : Except Assertion Feed := do
  let (status, reader, n) ← transportReadPacket f.reader payloadSpace (draw f.wire e)
  return { reader := reader, wire := f.wire.drop n, statuses := f.statuses ++ [status] }

/-- The packet that comes with a status. -/
def ReadStatus.packet? : ReadStatus Packet → Option Packet
  | complete p => some p
  | _ => none

theorem ReadStatus.packet?_of_not_settled (h : s.settled = false) :
    [s].filterMap ReadStatus.packet? = [] := by
  cases s <;> first | rfl | cases h

theorem ReadStatus.fatal_of_not_settled (h : s.settled = false) : s.fatal = false := by
  cases s <;> first | rfl | cases h

/-- The packets that the calls have delivered. -/
def Feed.delivered (f : Feed) : List Packet := f.statuses.filterMap ReadStatus.packet?

/-- Payloads with consecutive sequence numbers. -/
def numbered (seqno : ℕ) : List Outgoing → List Packet
  | [] => []
  | p :: ps => (seqno, p.1) :: numbered ((seqno + 1) % 2 ^ 32) ps

/-- If the last call waits, the reader has less than it needs. -/
def Feed.Waits (f : Feed) : Prop :=
  ∀ s ∈ f.statuses.getLast?, s.settled = false → Short f.reader

/-- What a run of calls leaves of a stream. Each call with a file descriptor takes an octet from
the wire or delivers a packet, as long as there is something left to deliver. -/
theorem run_feedStep_stream {f : Feed} (schedule : List (Option (ℕ × Bool)))
    (h : InStream w ps f.wire f.reader)
    (hps : ∀ q ∈ ps, 0 < q.1.length ∧ q.1.length ≤ sshMaxPacket) (hwaits : f.Waits) :
    ∃ f' done rest, run feedStep f schedule = .ok f' ∧ ps = done ++ rest ∧
      InStream (afterSends w done) rest f'.wire f'.reader ∧
      f'.delivered = f.delivered ++ numbered w.seqno done ∧
      (∀ s ∈ f'.statuses, s ∈ f.statuses ∨ s.fatal = false) ∧ f'.Waits ∧
      (¬Stalls w ps → rest = [] ∨ f'.wire.length + rest.length + schedule.countP Option.isSome ≤
        f.wire.length + ps.length) := by
  induction schedule generalizing f w ps with
  | nil =>
    refine ⟨f, [], ps, rfl, rfl, h, by simp [numbered], fun s hs => Or.inl hs, hwaits,
      fun _ => Or.inr ?_⟩
    simp
  | cons e schedule ih =>
    obtain ⟨⟨status, r, n⟩, hcall, hpost⟩ := transportReadPacket_stream h hps e
    let f₁ : Feed :=
      { reader := r, wire := f.wire.drop n, statuses := f.statuses ++ [status] }
    have hstep : feedStep f e = .ok f₁ := by
      rw [feedStep, hcall]
      rfl
    have hwire : f₁.wire.length = f.wire.length - n := length_drop
    have hstatus : ∀ s ∈ f₁.statuses, s ∈ f.statuses ∨ s = status := by
      intro s hs
      simpa using mem_append.mp hs
    have hlast : ∀ s ∈ f₁.statuses.getLast?, s = status := by
      intro s hs
      rw [List.getLast?_concat] at hs
      exact (Option.some.inj hs).symm
    rw [run_cons_ok hstep, List.countP_cons]
    rcases hpost with ⟨hwait, hin, hshort, hprogress⟩ | ⟨p, ps, rfl, hcomplete, hboundary⟩
    · obtain ⟨f', done, rest, hrun, hdone, hin', hdelivered, hok, hwaits', hcount⟩ :=
        ih (f := f₁) hin hps fun _ _ _ => hshort
      have hsame : f₁.delivered = f.delivered := by
        rw [Feed.delivered, filterMap_append, ReadStatus.packet?_of_not_settled hwait,
          append_nil]
        rfl
      refine ⟨f', done, rest, hrun, hdone, hin', hsame ▸ hdelivered, ?_, hwaits', fun hstalls => ?_⟩
      · intro s hs
        rcases hok s hs with hs | hs
        · rcases hstatus s hs with hs | rfl
          · exact Or.inl hs
          · exact Or.inr (ReadStatus.fatal_of_not_settled hwait)
        · exact Or.inr hs
      · by_cases he : e.isSome
        · by_cases hempty : f.wire = []
          · left
            rw [hempty, drop_nil] at hin
            have hnil : ps = [] := (hin.nil_or_stalls hshort).resolve_right fun h => hstalls h.2
            rw [hnil] at hdone
            exact (append_eq_nil_iff.mp hdone.symm).2
          · have hpos : 0 < n := hprogress he hempty
            have hlength : 0 < f.wire.length := length_pos_iff.mpr hempty
            refine (hcount hstalls).imp_right fun hcount => ?_
            rw [if_pos he]
            omega
        · refine (hcount hstalls).imp_right fun hcount => ?_
          rw [if_neg he]
          omega
    · have hcomplete : status = .complete (w.seqno, p.1) := hcomplete
      have hwaits₁ : f₁.Waits := by
        intro s hs hwait
        rw [hlast s hs, hcomplete] at hwait
        cases hwait
      obtain ⟨f', done, rest, hrun, hdone, hin', hdelivered, hok, hwaits', hcount⟩ :=
        ih (f := f₁) (Or.inl hboundary) (fun q hq => hps q (mem_cons_of_mem p hq)) hwaits₁
      have hmore : f₁.delivered = f.delivered ++ [(w.seqno, p.1)] := by
        rw [Feed.delivered, filterMap_append, hcomplete]
        rfl
      refine ⟨f', p :: done, rest, hrun,
        by rw [hdone]; rfl, hin', ?_, ?_, hwaits', fun hstalls => ?_⟩
      · rw [hdelivered, hmore, append_assoc]
        rfl
      · intro s hs
        rcases hok s hs with hs | hs
        · rcases hstatus s hs with hs | rfl
          · exact Or.inl hs
          · exact Or.inr (by rw [hcomplete]; rfl)
        · exact Or.inr hs
      · refine (hcount fun h => hstalls h.of_afterSend).imp_right fun hcount => ?_
        rw [length_cons]
        split <;> omega

theorem numbered_eq_mapIdx (i ps) :
    numbered (i % 2 ^ 32) ps = ps.mapIdx fun j p => ((i + j) % 2 ^ 32, p.1) := by
  induction ps generalizing i with
  | nil => rfl
  | cons p ps ih =>
    have hnext : (i % 2 ^ 32 + 1) % 2 ^ 32 = (i + 1) % 2 ^ 32 := by omega
    rw [numbered, hnext, ih, List.mapIdx_cons]
    simp only [Nat.add_zero, Nat.add_assoc, Nat.add_comm 1]

theorem length_numbered (i : ℕ) (ps : List Outgoing) : (numbered i ps).length = ps.length := by
  induction ps generalizing i with
  | nil => rfl
  | cons p ps ih => rw [numbered, length_cons, ih, length_cons]

/-- A prefix of the payloads is numbered as a prefix. -/
theorem numbered_append (i ps qs) : ∃ rs, numbered i (ps ++ qs) = numbered i ps ++ rs := by
  induction ps generalizing i with
  | nil => exact ⟨_, rfl⟩
  | cons p ps ih =>
    obtain ⟨rs, hrs⟩ := ih ((i + 1) % 2 ^ 32)
    exact ⟨rs, by rw [cons_append, numbered, hrs]; rfl⟩

/-- A new reader with the keys of the writer is at the boundary of the first packet. -/
theorem atBoundary_make {wcrypto rcrypto : Option CryptoInstance}
    (hsy : CryptoSynced wcrypto rcrypto) {mac : Option MacInstance}
    (hmac : MacFresh mac) (ps) :
    AtBoundary ⟨none, wcrypto, mac, 0⟩ ps (wireOf ⟨none, wcrypto, mac, 0⟩ ps)
      (make.newKeys mac rcrypto none) :=
  ⟨rfl, rfl, hsy, rfl, hmac, rfl, rfl,
    ⟨rfl, Nat.zero_le _, Nat.zero_le _, fun h => absurd rfl h⟩, rfl⟩

theorem InStream.data_eq_nil (h : InStream w [] wire r) : r.data = [] ∧ wire = [] := by
  rcases h with h | ⟨p, ps, hps, -, -⟩
  · exact append_eq_nil_iff.mp h.octets
  · cases hps

/-- **The framing round trip.** Encrypt any payloads of 1 to `SSH_MAX_PACKET` octets and feed the
octets to a reader in any pieces. No call fails an assertion or reports an error, and what has been
delivered is always a prefix of the payloads, each with its index as sequence number. When all
octets have been read and a call waits for more, all payloads have been delivered and nothing is
left in the buffer; only the last one can stay undelivered, if it stalls. Reading as often as there
are octets and payloads is enough. -/
theorem run_feedStep_encryptPackets {wcrypto rcrypto : Option CryptoInstance}
    (hsync : CryptoSynced wcrypto rcrypto) {mac : Option MacInstance} (hmac : MacFresh mac)
    {ps : List Outgoing} (hps : ∀ q ∈ ps, 0 < q.1.length ∧ q.1.length ≤ sshMaxPacket)
    (schedule : List (Option (ℕ × Bool))) :
    ∃ wire w f, encryptPackets ⟨none, wcrypto, mac, 0⟩ ps = .ok (wire, w) ∧
      run feedStep ⟨make.newKeys mac rcrypto none, wire, []⟩ schedule = .ok f ∧
      (∀ s ∈ f.statuses, s.fatal = false) ∧
      f.delivered <+: ps.mapIdx (fun i p => (i % 2 ^ 32, p.1)) ∧
      (f.wire = [] → (∃ s ∈ f.statuses.getLast?, s.settled = false) →
        (ps.mapIdx (fun i p => (i % 2 ^ 32, p.1))).dropLast <+: f.delivered ∧
        (¬Stalls ⟨none, wcrypto, mac, 0⟩ ps →
          f.delivered = ps.mapIdx (fun i p => (i % 2 ^ 32, p.1)) ∧ f.reader.data = [])) ∧
      (¬Stalls ⟨none, wcrypto, mac, 0⟩ ps →
        wire.length + ps.length ≤ schedule.countP Option.isSome →
        f.delivered = ps.mapIdx (fun i p => (i % 2 ^ 32, p.1)) ∧ f.reader.data = [] ∧
          f.wire = []) := by
  have hnum : numbered 0 ps = ps.mapIdx fun i p => (i % 2 ^ 32, p.1) := by
    simpa using numbered_eq_mapIdx 0 ps
  obtain ⟨f, done, rest, hrun, hdone, hin, hdelivered, hok, hwaits, hcount⟩ :=
    run_feedStep_stream schedule
      (f := ⟨make.newKeys mac rcrypto none, wireOf ⟨none, wcrypto, mac, 0⟩ ps, []⟩)
      (Or.inl (atBoundary_make hsync hmac ps)) hps nofun
  have hdelivered : f.delivered = numbered 0 done := hdelivered
  obtain ⟨rs, hrs⟩ := numbered_append 0 done rest
  have hpayloads : numbered 0 ps = f.delivered ++ rs := by rw [hdelivered, hdone, hrs]
  -- nothing is left in the buffer when all payloads have been delivered
  have hall (hnil : rest = []) :
      f.delivered = numbered 0 ps ∧ f.reader.data = [] ∧ f.wire = [] := by
    subst hnil
    rw [append_nil] at hdone
    exact ⟨by rw [hdelivered, hdone], hin.data_eq_nil⟩
  rw [← hnum]
  refine ⟨_, _, f, encryptPackets_eq rfl hmac fun q hq => (hps q hq).1, hrun, ?_,
    ⟨rs, hpayloads.symm⟩,
    ?_, ?_⟩
  · exact fun s hs => (hok s hs).resolve_left not_mem_nil
  · rintro hempty ⟨s, hs, hwait⟩
    rw [hempty] at hin
    rcases hin.nil_or_stalls (hwaits s hs hwait) with hnil | ⟨hone, hstalls⟩
    · obtain ⟨heq, hdata, -⟩ := hall hnil
      exact ⟨heq ▸ List.dropLast_prefix _, fun _ => ⟨heq, hdata⟩⟩
    · refine ⟨?_, fun hno => absurd (hdone ▸ hstalls.of_afterSends) hno⟩
      have hlength := congrArg List.length hrs
      rw [length_append, length_numbered, length_numbered, length_append] at hlength
      obtain ⟨x, rfl⟩ := length_eq_one_iff.mp (show rs.length = 1 by omega)
      rw [hpayloads, List.dropLast_concat]
  · intro hstalls hreads
    refine hall ((hcount hstalls).elim id fun hcount => ?_)
    have hzero : rest.length = 0 := by
      dsimp only at hcount
      omega
    exact length_eq_zero_iff.mp hzero

/-- A cipher with blocks of 16 octets that masks the octets of a block with its number. It is its
own inverse. -/
def counterCipher : CryptoInstance where
  blockSize := 16
  cipher := fun processed b => b.map (· ^^^ UInt8.ofNat processed.length)
  blockSize_eq := Or.inr rfl
  length_cipher := fun _ _ => length_map _
  processed := []

theorem cryptoSynced_counterCipher : CryptoSynced (some counterCipher) (some counterCipher) := by
  refine .some (fun a b => a.length = b.length) rfl ⟨?_, ?_, ?_⟩ rfl
  · exact fun s b hb => (counterCipher.length_cipher s b).trans hb
  · intro s t b hst _
    show ((b.map _).map _) = b
    rw [← hst, map_map]
    refine map_id'' (fun x => ?_) b
    show x ^^^ UInt8.ofNat s.length ^^^ UInt8.ofNat s.length = x
    rw [UInt8.xor_assoc, UInt8.xor_self, UInt8.xor_zero]
  · intro s t b hst _
    simp [CryptoInstance.block, hst]

/-- A MAC of the given size that repeats the sum of the octets. -/
def checksumMac (macSize : ℕ) (h : macSize ≤ sshMaxMacSize) : MacInstance where
  macSize := macSize
  mac := fun s => List.replicate macSize s.sum
  length_mac := fun _ => length_replicate
  macSize_le := h
  fed := []

/-- Two payloads, with a MAC of 20 octets. -/
theorem run_feedStep_encryptPackets_two :
    ∃ wire w f, encryptPackets
        ⟨none, some counterCipher, some (checksumMac 20 (by decide)), 0⟩
        [([5], fun _ => 0), ([6, 7], fun _ => 0)] = .ok (wire, w) ∧
      run feedStep ⟨make.newKeys (some (checksumMac 20 (by decide))) (some counterCipher) none,
        wire, []⟩ (List.replicate 74 (some (3, true))) = .ok f ∧
      f.delivered = [(0, [5]), (1, [6, 7])] := by
  have hmac : MacFresh (some (checksumMac 20 (by decide))) := by
    rintro m ⟨⟩
    rfl
  have hps : ∀ q ∈ ([([5], fun _ => 0), ([6, 7], fun _ => 0)] : List Outgoing),
      0 < q.1.length ∧ q.1.length ≤ sshMaxPacket := by
    decide
  have hstl : ¬Stalls ⟨none, some counterCipher, some (checksumMac 20 (by decide)), 0⟩
      [([5], fun _ => 0), ([6, 7], fun _ => 0)] := by
    rintro ⟨p, -, -, -, h, -⟩
    exact absurd h (by decide)
  obtain ⟨wire, w, f, henc, hrun, -, -, -, hall⟩ := run_feedStep_encryptPackets
    cryptoSynced_counterCipher hmac hps (List.replicate 74 (some (3, true)))
  have hwire : wire.length = 72 := by
    cases henc
    decide +kernel
  refine ⟨wire, w, f, henc, hrun, (hall hstl ?_).1⟩
  rw [hwire]
  decide

/-- With a MAC of 4 octets and a payload of one octet, the reader has everything after two reads
and delivers nothing. -/
theorem run_feedStep_stalls :
    (do
      let (wire, _) ← encryptPackets
        ⟨none, some counterCipher, some (checksumMac 4 (by decide)), 0⟩ [([5], fun _ => 0)]
      let f ← run feedStep
        ⟨make.newKeys (some (checksumMac 4 (by decide))) (some counterCipher) none, wire, []⟩
        [some (15, true), some (3, true), none, some (0, true)]
      return (f.delivered, f.wire)) = .ok ([], []) := by
  decide +kernel

end Lsh.Transport
