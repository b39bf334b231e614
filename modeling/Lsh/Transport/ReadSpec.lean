
import Lsh.Transport.Read

/-!
# What the parts of the transport reader do

One specification for each part of `transport_read_packet`, for every state whose unprocessed
input lies inside the buffer. Each says that the assertions on the way hold and gives the state
after the call as an update of the state before it, so that the results about whole runs never
look into the functions again.

## Main results

* `sshReadSome_eq` — `ssh_read_some` within its preconditions
* `fillBlock_ensures`, `fillBody_ensures` — the two reads of `transport_read_packet`
* `processHeader_eq` — the state after the header, in terms of the decrypted block
* `decodePacket_eq` — the state after the body, in terms of the decrypted rest of the packet
-/

namespace Lsh.Transport

open Machine TransportReadState

/-! ### Reading -/

/-- The result that `ssh_read_some` reports when it reads at most `left` octets. -/
def ReadResult.outcome (left : ℕ) : ReadResult → ReadSome
  | error errno => .failed errno
  | octets s readable => .got ((octets s readable).taken left).length

theorem ReadResult.length_taken_le (io : ReadResult) (left) : (io.taken left).length ≤ left := by
  cases io with
  | error errno => exact Nat.zero_le _
  | octets s readable => exact List.length_take_le _ _

variable {self : SshReadState} {need limit : ℕ}

theorem SshReadState.makeRoom_eq (hlim : limit < self.size) (hlen : self.data.length < limit) :
    ∃ start, self.makeRoom limit = .ok { self with start := start } ∧
      start + limit ≤ self.size := by
  by_cases h : self.size < self.start + limit
  · have hstr : 0 < self.start := by omega
    have hne : 0 ≠ self.start := by omega
    have hrm : 0 + self.data.length ≤ self.size := by omega
    refine ⟨0, ?_, by omega⟩
    simp [makeRoom, h, hstr, hne, assertRoom_of hrm]
  · refine ⟨self.start, ?_, by omega⟩
    simp [makeRoom, h]
    rfl

/-- `ssh_read_some` within its preconditions: it appends what it reads, and what is in the buffer
after it fits. -/
theorem sshReadSome_eq (hlim : limit < self.size) (hlen : self.data.length < limit) (io) :
    ∃ start readStatus,
      sshReadSome self limit io = .ok (io.outcome (limit - self.data.length),
        { self with
          start := start
          data := self.data ++ io.taken (limit - self.data.length)
          readStatus := readStatus }) ∧
      start + limit ≤ self.size := by
  obtain ⟨start, hmake, hstr⟩ := self.makeRoom_eq hlim hlen
  have hlef : 0 < limit - self.data.length := by omega
  have hrm : start + self.data.length + (limit - self.data.length) ≤ self.size := by omega
  cases io with
  | error errno =>
    refine ⟨start, self.readStatus, ?_, hstr⟩
    simp [sshReadSome, hlim, hlen, hmake, assertRoom_of hrm, ReadResult.outcome, ReadResult.taken]
  | octets s readable =>
    by_cases hs : (s.take (limit - self.data.length)).length = 0
    · have hnil : s.take (limit - self.data.length) = [] := List.length_eq_zero_iff.mp hs
      refine ⟨start, self.readStatus, ?_, hstr⟩
      simp only [sshReadSome, require_of hlim, require_of hlen, hmake, ok_bind,
        require_of hlef, assertRoom_of hrm, ReadResult.outcome, ReadResult.taken, hnil]
      simp
      rfl
    · refine ⟨start, if (s.take (limit - self.data.length)).length < limit - self.data.length ∨
        readable = false then .push else .pending, ?_, hstr⟩
      simp only [sshReadSome, require_of hlim, require_of hlen, hmake, ok_bind,
        require_of hlef, assertRoom_of hrm, ReadResult.outcome, ReadResult.taken, if_neg hs]
      rfl

/-- The file descriptor delivers octets or nothing at all: no end of file and no error. -/
def Clean : Option ReadResult → Prop
  | none => True
  | some (.error errno) => errno = ewouldblock
  | some (.octets s _) => s ≠ []

/-- The unprocessed input after a read up to `limit` that is only made if fewer than `need` octets
are in the buffer. -/
def input (self : SshReadState) (need limit : ℕ) (fd : Option ReadResult) : Octets :=
  if self.data.length < need then
    self.data ++ (fd.map (·.taken (limit - self.data.length))).getD []
  else
    self.data

/-- The unprocessed input lies inside the buffer. -/
def Inside (self : SshReadState) : Prop := self.start + self.data.length ≤ self.size

theorem blockSizeOf_eq (crypto) : blockSizeOf crypto = 8 ∨ blockSizeOf crypto = 16 := by
  cases crypto with
  | none => exact Or.inl rfl
  | some crypto => exact crypto.blockSize_eq

theorem macSizeOf_le (mac) : macSizeOf mac ≤ sshMaxMacSize := by
  cases mac with
  | none => exact Nat.zero_le _
  | some mac => exact mac.macSize_le

theorem Readiness.settled_toStatus (r : Readiness) :
    (r.toStatus : ReadStatus Packet).settled = false := by
  cases r <;> rfl

theorem Readiness.toStatus_ne_complete (r : Readiness) (p) :
    (r.toStatus : ReadStatus Packet) ≠ .complete p := by
  cases r <;> exact fun h => nomatch h

theorem length_input_le (hlim : self.data.length ≤ limit) (fd) :
    (input self need limit fd).length ≤ limit := by
  unfold input
  split
  · cases fd with
    | none => simpa using hlim
    | some io =>
      have := io.length_taken_le (limit - self.data.length)
      simp
      omega
  · exact hlim

theorem data_prefix_input (self need limit fd) :
    self.data.length ≤ (input self need limit fd).length := by
  unfold input
  split <;> simp

/-- What a read of `transport_read_packet` leaves behind: only the buffer has changed, and it has
at least `need` octets exactly if the call goes on. -/
structure Filled (s : TransportReadState) (need limit : ℕ) (fd : Option ReadResult)
    (r : Option (ReadStatus Packet) × TransportReadState × ℕ) : Prop where
  frame : ∃ start readStatus, r.2.1 =
    { s with
      start := start
      data := input s.toSshReadState need limit fd
      readStatus := readStatus }
  inside : Inside r.2.1.toSshReadState
  none_iff : r.1 = none ↔ need ≤ (input s.toSshReadState need limit fd).length
  waiting : Clean fd → ∀ status, r.1 = some status → status.settled = false
  incomplete : ∀ p, r.1 ≠ some (.complete p)
  count : s.data.length + r.2.2 = (input s.toSshReadState need limit fd).length

section Filled

variable {s : TransportReadState} {need limit : ℕ} {fd : Option ReadResult}
  {r : Option (ReadStatus Packet) × TransportReadState × ℕ}

section
variable (h : Filled s need limit fd r)
include h

theorem Filled.data_eq : r.2.1.data = input s.toSshReadState need limit fd := by
  obtain ⟨start, readStatus, hfr⟩ := h.frame
  rw [hfr]

theorem Filled.blockSize_eq : r.2.1.blockSize = s.blockSize := by
  obtain ⟨start, readStatus, hfr⟩ := h.frame
  rw [hfr]
  rfl

theorem Filled.totalLength_eq : r.2.1.totalLength = s.totalLength := by
  obtain ⟨start, readStatus, hfr⟩ := h.frame
  rw [hfr]

theorem Filled.length_le : s.data.length ≤ r.2.1.data.length := by
  rw [h.data_eq]
  exact data_prefix_input _ _ _ _

theorem Filled.of_none (hr : r.1 = none) : need ≤ r.2.1.data.length := by
  rw [h.data_eq]
  exact h.none_iff.mp hr

theorem Filled.of_some {status : ReadStatus Packet} (hr : r.1 = some status) :
    r.2.1.data.length < need := by
  rw [h.data_eq]
  refine Nat.lt_of_not_le fun hle => ?_
  rw [h.none_iff.mpr hle] at hr
  cases hr

end

end Filled

variable {self : TransportReadState}

/-- A read within the preconditions of `ssh_read_some` fails no assertion. -/
theorem fill_ensures {eof : Octets → ReadStatus Packet} (hlim : limit < self.size)
    (hlen : self.data.length < need → self.data.length < limit) (hin : Inside self.toSshReadState)
    (heof : ∀ data p, eof data ≠ .complete p) (fd) :
    Yields (Filled self need limit fd) (fill self need limit eof fd) := by
  by_cases hnd : self.data.length < need
  · cases fd with
    | none =>
      simp only [fill, if_pos hnd, ensures_pure]
      refine ⟨⟨self.start, self.readStatus, by simp [input]⟩, hin, ?_, ?_, ?_, by simp [input]⟩
      · simpa [input] using hnd
      · rintro _ stat ⟨⟩
        exact Readiness.settled_toStatus _
      · exact fun p hp => Readiness.toStatus_ne_complete _ p (Option.some.inj hp)
    | some io =>
      obtain ⟨start, readStatus, hread, hstr⟩ := sshReadSome_eq hlim (hlen hnd) io
      have htkn := io.length_taken_le (limit - self.data.length)
      have hinp : input self.toSshReadState need limit (some io) =
          self.data ++ io.taken (limit - self.data.length) := by
        simp [input, hnd]
      have hrm : start + (self.data ++ io.taken (limit - self.data.length)).length ≤ self.size := by
        rw [List.length_append]
        omega
      simp only [fill, if_pos hnd, hread, ok_bind]
      cases io with
      | error errno =>
        refine ⟨⟨start, readStatus, by rw [hinp]; rfl⟩, hrm, ?_, ?_, ?_, ?_⟩
        · simpa [hinp, ReadResult.taken] using hnd
        · rintro (hcln : errno = ewouldblock) stat ⟨⟩
          rw [if_pos hcln]
          rfl
        · intro p hp
          split at hp <;> cases hp
        · simp [hinp, ReadResult.taken]
      | octets s readable =>
        simp only [ReadResult.outcome]
        cases hn : ((ReadResult.octets s readable).taken (limit - self.data.length)).length with
        | zero =>
          have hnil := List.length_eq_zero_iff.mp hn
          refine ⟨⟨start, readStatus, by rw [hinp]; rfl⟩, hrm, ?_, ?_, ?_, ?_⟩
          · simpa [hinp, hnil] using hnd
          · intro hcln
            rcases List.take_eq_nil_iff.mp hnil with h | h
            · omega
            · exact absurd h hcln
          · exact fun p hp => heof _ p (Option.some.inj hp)
          · simp [hinp, hnil]
        | succ n =>
          have hcount : self.data.length + (n + 1) =
              (input self.toSshReadState need limit (some (.octets s readable))).length := by
            rw [hinp, List.length_append, hn]
          show Ensures _ _ (if (self.setBuffer _).data.length < need then _ else _)
          split
          · rename_i h
            refine ⟨⟨start, readStatus, by rw [hinp]; rfl⟩, hrm, ?_, ?_, ?_, hcount⟩
            · simpa [hinp, setBuffer] using h
            · rintro _ stat ⟨⟩
              exact Readiness.settled_toStatus _
            · exact fun p hp => Readiness.toStatus_ne_complete _ p (Option.some.inj hp)
          · rename_i h
            refine ⟨⟨start, readStatus, by rw [hinp]; rfl⟩, hrm, ?_, ?_, ?_, hcount⟩
            · simpa [hinp, setBuffer] using h
            · rintro _ stat ⟨⟩
            · simp
  · simp only [fill, if_neg hnd, ensures_pure]
    refine ⟨⟨self.start, self.readStatus, by simp [input, hnd]⟩, hin, ?_, ?_, ?_, ?_⟩
    · rw [input, if_neg hnd]
      simpa using hnd
    · rintro _ stat ⟨⟩
    · simp
    · simp [input, hnd]

theorem fillBlock_ensures (hsize : transportReadAhead < self.size)
    (hin : Inside self.toSshReadState)
    (fd) :
    Yields (Filled self self.blockSize transportReadAhead fd) (fillBlock self fd) := by
  have hb := blockSizeOf_eq self.crypto
  have hbs : self.blockSize = blockSizeOf self.crypto := rfl
  have hah : transportReadAhead = 1000 := rfl
  refine fill_ensures hsize (by omega) hin (fun data p => ?_) fd
  split <;> exact fun hp => nomatch hp

theorem fillBody_ensures (hsize : self.totalLength + transportReadAhead < self.size)
    (hin : Inside self.toSshReadState) (fd) :
    Yields
      (Filled self self.totalLength (self.totalLength + transportReadAhead) fd)
      (fillBody self fd) := by
  refine fill_ensures hsize (fun h => Nat.lt_add_right _ h) hin (fun data p => ?_) fd
  exact fun hp => nomatch hp

/-! ### Decrypting -/

/-- What an optional cipher makes of a string of whole blocks, without the checks of `CRYPT`. -/
def cryptStream (crypto : Option CryptoInstance) (s : Octets) : Octets × Option CryptoInstance :=
  match crypto with
  | none => (s, none)
  | some crypto =>
    let r := BlockStream.crypt (CryptoInstance.block crypto.cipher) crypto.blockSize
      (s.length / crypto.blockSize) crypto.processed s
    (r.2, some { crypto with processed := r.1 })

theorem cryptStream_nil (crypto) : cryptStream crypto [] = ([], crypto) := by
  cases crypto with
  | none => rfl
  | some crypto => simp [cryptStream]

theorem CryptoInstance.length_block {b : Octets} (self : CryptoInstance) (processed)
    (h : b.length = self.blockSize) :
    (block self.cipher processed b).2.length = self.blockSize := by
  rw [← h]
  exact self.length_cipher _ _

variable {s : Octets}

theorem length_cryptStream {crypto : Option CryptoInstance}
    (hs : s.length % blockSizeOf crypto = 0) :
    (cryptStream crypto s).1.length = s.length := by
  cases crypto with
  | none => rfl
  | some crypto =>
    have hd : s.length = s.length / crypto.blockSize * crypto.blockSize :=
      (Nat.div_mul_cancel (Nat.dvd_of_mod_eq_zero hs)).symm
    rw [cryptStream, BlockStream.length_crypt
      (fun processed b => crypto.length_block processed) _ hd, ← hd]

/-- `CRYPT` on a string of whole blocks. -/
theorem CryptoInstance.crypt_eq (self) (hs : s.length % self.blockSize = 0) :
    ∃ self', self.crypt s = .ok ((cryptStream (some self) s).1, self') ∧
      (cryptStream (some self) s).2 = some self' := by
  refine ⟨_, ?_, rfl⟩
  rw [crypt, require_of hs]
  rfl

variable {offset length : ℕ}

theorem length_octets (h : offset + length ≤ self.data.length) :
    (self.octets offset length).length = length := by
  rw [octets, List.length_take, List.length_drop]
  omega

/-- Decrypting a part of the unprocessed input in place. -/
theorem cryptInPlace_eq (hin : Inside self.toSshReadState)
    (hlen : offset + length ≤ self.data.length) (hblocks : length % self.blockSize = 0) :
    self.cryptInPlace offset length = .ok
      { self with
        data := self.data.take offset ++
          (cryptStream self.crypto (self.octets offset length)).1 ++
          self.data.drop (offset + length)
        crypto := (cryptStream self.crypto (self.octets offset length)).2 } := by
  have hocts := length_octets hlen
  have hlth : (cryptStream self.crypto (self.octets offset length)).1.length = length := by
    rw [length_cryptStream (by rwa [hocts]), hocts]
  have hrm : self.start + offset + length ≤ self.size := by
    have : self.start + self.data.length ≤ self.size := hin
    omega
  cases hc : self.crypto with
  | none =>
    have hdata : self.data.take offset ++ self.octets offset length ++
        self.data.drop (offset + length) = self.data := by
      rw [octets, List.append_assoc, ← List.drop_drop, List.take_append_drop, List.take_append_drop]
    simp only [cryptInPlace, hc, cryptStream, hdata]
    rw [← hc]
    rfl
  | some crypto =>
    rw [blockSize, hc] at hblocks
    obtain ⟨crypto', hcry, hcr'⟩ :=
      crypto.crypt_eq (s := self.octets offset length) (by rw [hocts]; exact hblocks)
    rw [hc] at hlth
    simp only [cryptInPlace, hc, assertRoom_of hrm, hcry, ok_bind, hcr', overwrite, hlth]
    rfl

/-! ### The header -/

variable {packetLength : ℕ} {s s' : TransportReadState} {space macSize : ℕ}

theorem checkHeader_eq_none {bsize pad : ℕ} :
    checkHeader bsize packetLength pad = none ↔
      4 ≤ pad ∧ pad < packetLength ∧ 12 ≤ packetLength ∧ bsize - 4 ≤ packetLength ∧
        (packetLength + 4) % 2 ^ 32 % bsize = 0 ∧
        packetLength ≤ sshMaxPacket + sshMaxPacketFuzz := by
  simp only [checkHeader]
  generalize (packetLength + 4) % 2 ^ 32 % bsize = r
  split_ifs <;> simp <;> omega

/-- The decrypted first block of the unprocessed input. -/
def header (self : TransportReadState) : Octets :=
  (cryptStream self.crypto (self.data.take self.blockSize)).1

/-- The packet length that the header announces. -/
def headerLength (self : TransportReadState) : ℕ := Octets.readUint32 (header self)

/-- The padding length that the header announces. -/
def headerPadding (self : TransportReadState) : ℕ := ((header self).getD 4 0).toNat

/-- The state once the header has been decrypted, fed to the MAC and looked at. -/
def headerState (self : TransportReadState) : TransportReadState :=
  { self with
    data := header self ++ self.data.drop self.blockSize
    crypto := (cryptStream self.crypto (self.data.take self.blockSize)).2
    mac := self.mac.map fun mac : MacInstance =>
      (mac.update (Octets.writeUint32 self.seqno)).update (header self)
    padding := headerPadding self }

theorem length_header (h : self.blockSize ≤ self.data.length) :
    (header self).length = self.blockSize := by
  have hta : (self.data.take self.blockSize).length = self.blockSize :=
    List.length_take_of_le h
  rw [header, length_cryptStream (by rw [hta]; exact Nat.mod_self _), hta]

theorem macSizeOf_map (mac f) (hf : ∀ m, (f m).macSize = m.macSize) :
    macSizeOf (mac.map f) = macSizeOf mac := by
  cases mac with
  | none => rfl
  | some mac => exact hf mac

theorem blockSizeOf_cryptStream (crypto s) :
    blockSizeOf (cryptStream crypto s).2 = blockSizeOf crypto := by
  cases crypto <;> rfl

@[simp] theorem blockSize_headerState (self) : (headerState self).blockSize = self.blockSize :=
  blockSizeOf_cryptStream _ _

@[simp] theorem macSize_headerState (self) : (headerState self).macSize = self.macSize :=
  macSizeOf_map _ _ fun _ => rfl

/-- The header is decrypted and checked once; afterwards this part does nothing. -/
theorem processHeader_of_ne_zero (hlen : self.blockSize ≤ self.data.length)
    (htot : self.totalLength ≠ 0) : processHeader self = .ok (none, self) := by
  rw [processHeader, require_of hlen, if_pos htot]
  rfl

/-- What the header of a packet leads to. -/
theorem processHeader_eq (hin : Inside self.toSshReadState)
    (hlen : self.blockSize ≤ self.data.length) (htot : self.totalLength = 0) :
    processHeader self = .ok
      (match checkHeader self.blockSize (headerLength self) (headerPadding self) with
      | some msg => (some (headerError msg), headerState self)
      | none =>
        if self.size < headerLength self - 1 + self.macSize then
          (some (headerError "Packet too large"),
            { headerState self with totalLength := headerLength self - 1 + self.macSize })
        else
          (none,
            { headerState self with
              totalLength := headerLength self - 1 + self.macSize }.skip 5)) := by
  have hne : ¬self.totalLength ≠ 0 := fun h => h htot
  have hcry : self.cryptInPlace 0 self.blockSize = .ok
      { self with
        data := header self ++ self.data.drop self.blockSize
        crypto := (cryptStream self.crypto (self.data.take self.blockSize)).2 } := by
    rw [cryptInPlace_eq hin (by simpa using hlen) (Nat.mod_self _)]
    simp [octets, header]
  have hhd : (header self ++ self.data.drop self.blockSize).take self.blockSize =
      header self := List.take_left' (length_header hlen)
  simp only [processHeader, require_of hlen, ok_bind, if_neg hne, hcry, octets, List.drop_zero, hhd]
  -- everything up to the checks is `headerState`
  change (match checkHeader self.blockSize (headerLength self) (headerPadding self) with
    | some msg => Except.ok (some (headerError msg), headerState self)
    | none =>
      if self.size < headerLength self - 1 + (headerState self).macSize then
        Except.ok (some (headerError "Packet too large"),
          { headerState self with
            totalLength := headerLength self - 1 + (headerState self).macSize })
      else
        Except.ok (none,
          { headerState self with
            totalLength := headerLength self - 1 + (headerState self).macSize }.skip 5)) = _
  rw [macSize_headerState]
  cases checkHeader self.blockSize (headerLength self) (headerPadding self) with
  | some msg => rfl
  | none =>
    by_cases hbig : self.size < headerLength self - 1 + self.macSize
    · simp only [if_pos hbig]
    · simp only [if_neg hbig]

/-! ### The body -/

/-- The unprocessed input holds the rest of a packet whose header has been accepted and announced
`packetLength`. -/
structure Body (s : TransportReadState) (packetLength : ℕ) : Prop where
  inside : Inside s.toSshReadState
  accepted : checkHeader s.blockSize packetLength s.padding = none
  totalLength_eq : s.totalLength = packetLength - 1 + s.macSize
  available : s.totalLength ≤ s.data.length

/-- The number of octets of the packet after its first block. -/
def restLength (self : TransportReadState) (packetLength : ℕ) : ℕ :=
  packetLength - 1 - (self.blockSize - 5)

/-- The decrypted rest of the packet, without the MAC. -/
def rest (self : TransportReadState) (packetLength : ℕ) : Octets :=
  (cryptStream self.crypto (self.octets (self.blockSize - 5) (restLength self packetLength))).1

/-- The state once the whole packet has been decrypted. -/
def bodyState (self : TransportReadState) (packetLength : ℕ) : TransportReadState :=
  { self with
    data := self.data.take (self.blockSize - 5) ++ rest self packetLength ++
      self.data.drop (packetLength - 1)
    crypto := (cryptStream self.crypto
      (self.octets (self.blockSize - 5) (restLength self packetLength))).2 }

/-- The MAC in the buffer is the digest of the packet. -/
def MacMatches (self : TransportReadState) (packetLength : ℕ) : Prop :=
  ∀ mac ∈ self.mac, mac.mac (mac.fed ++ rest self packetLength) =
    self.octets (packetLength - 1) mac.macSize

/-- The state after a digest: the MAC is ready for the next packet. -/
def resetMac (self : TransportReadState) : TransportReadState :=
  { self with mac := self.mac.map fun mac : MacInstance => { mac with fed := [] } }

section
variable (h : Body self packetLength)
include h

theorem Body.facts :
    self.padding < packetLength ∧ 12 ≤ packetLength ∧ packetLength ≤ 35000 ∧
      self.blockSize - 5 + restLength self packetLength = packetLength - 1 ∧
      restLength self packetLength % self.blockSize = 0 ∧
      packetLength - 1 + self.macSize ≤ self.data.length ∧ self.macSize ≤ 20 := by
  obtain ⟨-, hpad, hmin, hbl, hmod, hmax⟩ := checkHeader_eq_none.mp h.accepted
  have htot := h.totalLength_eq
  have hav := h.available
  have hmac := macSizeOf_le self.mac
  have hmax' : packetLength ≤ 35000 := hmax
  have h32 : (packetLength + 4) % 2 ^ 32 = packetLength + 4 := Nat.mod_eq_of_lt (by omega)
  rw [h32] at hmod
  have hre : restLength self packetLength + self.blockSize = packetLength + 4 := by
    rcases blockSizeOf_eq self.crypto with hb | hb <;>
      simp only [restLength, blockSize, hb] at * <;> omega
  refine ⟨hpad, hmin, hmax', ?_, ?_, by omega, hmac⟩
  · rcases blockSizeOf_eq self.crypto with hb | hb <;>
      simp only [restLength, blockSize, hb] at * <;> omega
  · rw [← hre] at hmod
    simpa using hmod

/-- The rest of the packet is decrypted in place. -/
theorem Body.decryptRest_eq :
    decryptRest self (self.blockSize - 5) (restLength self packetLength) =
      .ok (bodyState self packetLength) := by
  obtain ⟨-, -, -, hspl, hmod, hlen, -⟩ := h.facts
  by_cases hpos : 0 < restLength self packetLength
  · rw [decryptRest, if_pos hpos, cryptInPlace_eq h.inside (by omega) hmod, hspl]
    rfl
  · have hz0 : restLength self packetLength = 0 := by omega
    have hdata : self.data.take (self.blockSize - 5) ++ [] ++ self.data.drop (packetLength - 1) =
        self.data := by
      rw [← hspl, hz0, List.append_nil, Nat.add_zero, List.take_append_drop]
    rw [decryptRest, if_neg hpos]
    simp only [bodyState, rest, hz0, octets, List.take_zero, cryptStream_nil, hdata]

theorem Body.length_rest : (rest self packetLength).length = restLength self packetLength := by
  obtain ⟨-, -, -, hspl, hmod, hlen, -⟩ := h.facts
  have hoct : (self.octets (self.blockSize - 5) (restLength self packetLength)).length =
      restLength self packetLength := length_octets (by omega)
  rw [rest, length_cryptStream (by rwa [hoct]), hoct]

theorem Body.octets_rest :
    (bodyState self packetLength).octets (self.blockSize - 5) (restLength self packetLength) =
      rest self packetLength := by
  obtain ⟨-, -, -, hspl, -, hlen, -⟩ := h.facts
  have hta : (self.data.take (self.blockSize - 5)).length = self.blockSize - 5 :=
    List.length_take_of_le (by omega)
  rw [octets, bodyState, List.append_assoc, List.drop_left' hta, List.take_left' h.length_rest]

theorem Body.drop_packet :
    (bodyState self packetLength).data.drop (packetLength - 1) =
      self.data.drop (packetLength - 1) := by
  obtain ⟨-, -, -, hspl, -, hlen, -⟩ := h.facts
  have hlth : (self.data.take (self.blockSize - 5) ++ rest self packetLength).length =
      packetLength - 1 := by
    rw [List.length_append, h.length_rest, List.length_take_of_le (by omega), hspl]
  rw [bodyState, List.drop_left' hlth]

/-- The MAC check sees the decrypted packet and the MAC behind it. -/
theorem Body.checkMac_eq :
    (MacMatches self packetLength ∧
      checkMac (bodyState self packetLength) (self.blockSize - 5) (restLength self packetLength) =
        .ok (some (resetMac (bodyState self packetLength)))) ∨
    (¬MacMatches self packetLength ∧
      checkMac (bodyState self packetLength) (self.blockSize - 5) (restLength self packetLength) =
        .ok none) := by
  have hfd : (bodyState self packetLength).mac = self.mac := rfl
  cases hmac : self.mac with
  | none =>
    refine Or.inl ⟨by simp [MacMatches, hmac], ?_⟩
    simp only [checkMac, resetMac, hfd, hmac, Option.map_none]
    rw [← hmac]
    rfl
  | some mac =>
    have hsize : self.macSize = mac.macSize := by simp [macSize, hmac, macSizeOf]
    have htot : (bodyState self packetLength).totalLength - mac.macSize = packetLength - 1 := by
      have := h.totalLength_eq
      simp only [bodyState]
      omega
    have hfed : (if 0 < restLength self packetLength then mac.update (rest self packetLength)
        else mac) = mac.update (rest self packetLength) := by
      by_cases hpos : 0 < restLength self packetLength
      · rw [if_pos hpos]
      · have hnil : rest self packetLength = [] := by
          apply List.length_eq_zero_iff.mp
          rw [h.length_rest]
          omega
        rw [if_neg hpos, hnil, MacInstance.update, List.append_nil]
    have hrm : 0 + mac.macSize ≤ sshMaxMacSize := by
      rw [Nat.zero_add]
      exact mac.macSize_le
    have hma : MacMatches self packetLength ↔
        mac.mac (mac.fed ++ rest self packetLength) =
          self.octets (packetLength - 1) mac.macSize := by
      simp [MacMatches, hmac]
    have hdig : (bodyState self packetLength).octets (packetLength - 1) mac.macSize =
        self.octets (packetLength - 1) mac.macSize := by
      rw [octets, h.drop_packet, octets]
    simp only [checkMac, hfd, hmac, h.octets_rest, hfed, hma]
    simp only [MacInstance.digest, MacInstance.update, assertRoom_of hrm, ok_bind, htot, hdig]
    by_cases heq : mac.mac (mac.fed ++ rest self packetLength) =
        self.octets (packetLength - 1) mac.macSize
    · left
      refine ⟨heq, ?_⟩
      rw [if_pos heq, resetMac, hfd, hmac]
      rfl
    · exact Or.inr ⟨heq, if_neg heq⟩

/-- **Decoding a packet.** With a wrong MAC nothing is delivered. -/
theorem Body.decodePacket_eq (space) :
    (MacMatches self packetLength ∧ decodePacket self space =
      deliver (resetMac (bodyState self packetLength)) space self.macSize) ∨
    (¬MacMatches self packetLength ∧ decodePacket self space =
      .ok (.protocolError sshDisconnectMacError (some "Invalid MAC"),
        bodyState self packetLength)) := by
  obtain ⟨-, hmin, hmax, hspl, -, hlen, hmacle⟩ := h.facts
  have hlef : sub32 self.totalLength (self.blockSize - 5 + self.macSize) =
      restLength self packetLength := by
    have htot := h.totalLength_eq
    rw [sub32_eq (by omega) (by omega)]
    omega
  rcases h.checkMac_eq with ⟨hma, hchk⟩ | ⟨hma, hchk⟩
  · left
    refine ⟨hma, ?_⟩
    simp only [decodePacket, hlef, h.decryptRest_eq, ok_bind, hchk]
  · right
    refine ⟨hma, ?_⟩
    simp only [decodePacket, hlef, h.decryptRest_eq, ok_bind, hchk]
    rfl

end

/-! ### Delivery -/

/-- The ways in which `do_zlib` can end. -/
theorem CompressInstance.codec_cases (self : CompressInstance) (space input) :
    (input.length = 0 ∧ self.codec space input = .error .zlibLength) ∨
    (0 < input.length ∧ (self.codec space input = .error .zlibAvailIn ∨
      ∃ r, self.codec space input = .ok r)) := by
  by_cases hin : 0 < input.length
  · refine Or.inr ⟨hin, ?_⟩
    simp only [codec, require_of hin, ok_bind]
    split
    · exact Or.inr ⟨_, rfl⟩
    · split
      · exact Or.inr ⟨_, rfl⟩
      · by_cases hav : (self.zlib self.calls (input, space)).availIn = 0
        · exact Or.inr ⟨_, by rw [require_of hav]; rfl⟩
        · exact Or.inl (by rw [require_of_not hav]; rfl)
  · refine Or.inl ⟨by omega, ?_⟩
    rw [codec, require_of_not hin]
    rfl

/-- The state once a packet has been taken out of the buffer. -/
def afterPacket (s : TransportReadState) : TransportReadState :=
  { s.skip s.totalLength with totalLength := 0, seqno := (s.seqno + 1) % 2 ^ 32 }

/-- Without compression a payload is delivered if it fits. -/
theorem deliver_of_le (hinf : s.inflate = none)
    (h : sub32 (sub32 s.totalLength macSize) s.padding ≤ space) :
    deliver s space macSize = .ok
      (.complete (s.seqno,
        s.octets 0 (sub32 (sub32 s.totalLength macSize) s.padding)),
        afterPacket s) := by
  have hrm : 0 + sub32 (sub32 s.totalLength macSize) s.padding ≤ space := by omega
  have hinf' : (s.skip s.totalLength).inflate = none := hinf
  simp only [deliver, hinf', assertRoom_of hrm, ok_bind]
  rw [afterPacket, hinf']
  rfl

theorem deliver_of_not_le (hinf : s.inflate = none)
    (h : ¬sub32 (sub32 s.totalLength macSize) s.padding ≤ space) :
    deliver s space macSize = .error .outputRoom := by
  have hrm : ¬0 + sub32 (sub32 s.totalLength macSize) s.padding ≤ space := by omega
  have hinf' : (s.skip s.totalLength).inflate = none := hinf
  simp only [deliver, hinf', assertRoom_of_not hrm, error_bind]

theorem deliver_inflate {s : TransportReadState} {inflate : CompressInstance}
    (hinf : s.inflate = some inflate) (space macSize) :
    deliver s space macSize = (do
      let r ← inflate.codec space (s.octets 0 (sub32 (sub32 s.totalLength macSize) s.padding))
      return (.complete (s.seqno, r.1), { afterPacket s with inflate := some r.2 })) := by
  have hinf' : (s.skip s.totalLength).inflate = some inflate := hinf
  simp only [deliver, hinf']
  rfl

variable {fd : Option ReadResult} {status : ReadStatus Packet} {n : ℕ}

theorem readBody_of_some (h : fillBody s fd = .ok (some status, s', n)) (space) :
    readBody s space fd = .ok (status, s', n) := by
  rw [readBody, h]
  rfl

theorem readBody_of_none {s'' : TransportReadState} (h : fillBody s fd = .ok (none, s', n)) (space)
    (hdec : decodePacket s' space = .ok (status, s'')) :
    readBody s space fd = .ok (status, s'', n) := by
  rw [readBody, h, ok_bind]
  dsimp only
  rw [hdec]
  rfl

theorem transportReadPacket_of_some (h : fillBlock s fd = .ok (some status, s', n)) (space) :
    transportReadPacket s space fd = .ok (status, s', n) := by
  rw [transportReadPacket, h]
  rfl

theorem transportReadPacket_of_none {s₁ s₂ : TransportReadState} {m : ℕ}
    (hbl : fillBlock s fd = .ok (none, s₁, n))
    (hhd : processHeader s₁ = .ok (none, s₂))
    (hbo : readBody s₂ space (if s.data.length < s.blockSize then none else fd) =
      .ok (status, s', m)) : transportReadPacket s space fd = .ok (status, s', n + m) := by
  rw [transportReadPacket, hbl, ok_bind]
  dsimp only
  rw [hhd, ok_bind]
  dsimp only
  rw [hbo]
  rfl

end Lsh.Transport
