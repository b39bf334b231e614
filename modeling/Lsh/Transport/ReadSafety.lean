
import Lsh.Transport.ReadSpec

/-!
# Safety of the input buffer

A run of the reader is any sequence of calls of `transport_read_line` and
`transport_read_packet`, with any results of `read`, in which new keys may be installed after a
complete packet, and which ends at the first error or end of file. The question is whether the
calls of `ssh_read_some` stay within its asserted preconditions.

They do as long as no accepted header announces more than `maxAnnounced` octets for packet and
MAC. The reader itself accepts a little more: the limit for reading the body is
`TRANSPORT_READ_AHEAD` above the size that was compared with the size of the buffer.

## Main results

* `readerStep_ensures` — what one call keeps
* `run_readerStep_inside` — the assertions of `ssh_read_some` over whole runs
* `run_readerStep_readLimit` — a packet past the limit aborts the reader
-/

namespace Lsh.Transport

open Machine TransportReadState List

/-- The keys that a `NEWKEYS` message installs. -/
structure ReaderKeys where
  mac : Option MacInstance
  crypto : Option CryptoInstance
  inflate : Option CompressInstance

/-- A call of the reader, with the result of `read` if it reads. After a complete packet the
caller may install new keys. -/
inductive ReaderCall
  | line (fd : Option ReadResult)
  | packet (fd : Option ReadResult) (keys : Option ReaderKeys)

/-- A reader and whether its connection still reads. -/
structure Reader where
  state : TransportReadState
  reading : Bool

/-- A reader for a new connection. -/
def Reader.init : Reader := { state := make, reading := true }

/-- The caller closes the connection. -/
def ReadStatus.fatal {α : Type} : ReadStatus α → Bool
  | ioError _ | protocolError _ _ | eof => true
  | _ => false

/-- Install new keys if the status is that of a complete packet. -/
def installKeys (status : ReadStatus Packet) (keys : Option ReaderKeys)
    (self : TransportReadState) : TransportReadState :=
  match status, keys with
  | .complete _, some keys => self.newKeys keys.mac keys.crypto keys.inflate
  | _, _ => self

/-- One call. Payloads are written to a string of `SSH_MAX_PACKET + 1` octets. -/
def readerStep (r : Reader) (call : ReaderCall) : Except Assertion Reader :=
  if r.reading then
    match call with
    | .line fd => do
      let (status, self, _) ← transportReadLine r.state fd
      return { state := self, reading := !status.fatal }
    | .packet fd keys => do
      let (status, self, _) ← transportReadPacket r.state (sshMaxPacket + 1) fd
      return { state := installKeys status keys self, reading := !status.fatal }
  else
    return r

/-- The largest sum of packet length and MAC size for which the body can be read. -/
def maxAnnounced : ℕ := sshMaxPacket + sshMaxPacketFuzz - transportReadAhead

/-- The state in which a call of `transport_read_packet` looks for a header. -/
def filledBlock (self : TransportReadState) (fd : Option ReadResult) : TransportReadState :=
  { self with data := input self.toSshReadState self.blockSize transportReadAhead fd }

/-- A header is due, is in the buffer and passes the checks, and announces more than `maxAnnounced`
octets. -/
def OversizedHeader (s : TransportReadState) : Prop :=
  s.totalLength = 0 ∧ s.blockSize ≤ s.data.length ∧
    checkHeader s.blockSize (headerLength s) (headerPadding s) = none ∧
    headerLength s - 1 + s.macSize ≤ s.size ∧ maxAnnounced < headerLength s + s.macSize

instance (s : TransportReadState) : Decidable (OversizedHeader s) :=
  inferInstanceAs (Decidable (_ ∧ _ ∧ _ ∧ _ ∧ _))

/-- The call finds an oversized header. It is a property of the octets received, as decrypted by
the installed cipher. -/
def Oversized (s : TransportReadState) (fd : Option ReadResult) : Prop :=
  OversizedHeader (filledBlock s fd)

instance (s : TransportReadState) (fd : Option ReadResult) : Decidable (Oversized s fd) :=
  inferInstanceAs (Decidable (OversizedHeader _))

/-- No oversized packet arrives with the call. -/
def ReaderCall.Sized (r : Reader) : ReaderCall → Prop
  | line _ => True
  | packet fd _ => ¬Oversized r.state fd

/-- The invariant of the input buffer. -/
structure Safe (s : TransportReadState) : Prop where
  size_eq : s.size = sshMaxPacket + sshMaxPacketFuzz
  inside : Inside s.toSshReadState
  /-- At most `TRANSPORT_READ_AHEAD` octets beyond the current packet have been read. -/
  ahead : s.data.length ≤ s.totalLength + transportReadAhead
  /-- In the middle of a packet its header has been accepted, and is not oversized. -/
  header : s.totalLength ≠ 0 → ∃ packetLength,
    checkHeader s.blockSize packetLength s.padding = none ∧
      s.totalLength = packetLength - 1 + s.macSize ∧ packetLength + s.macSize ≤ maxAnnounced

theorem safe_make : Safe make :=
  ⟨rfl, Nat.zero_le _, Nat.zero_le _, fun h => absurd rfl h⟩

/-- The assertions of the consumers of a payload. All others are about the input buffer. -/
def Assertion.ofConsumer : Assertion → Prop
  | .outputRoom | .zlibLength | .zlibAvailIn => True
  | _ => False

/-! ### One call -/

theorem findLine_frame (self) :
    ∃ n, (findLine self).2 = { self with start := self.start + n, data := self.data.drop n } ∧
      n ≤ self.data.length := by
  simp only [findLine]
  cases h : self.data.findIdx? (· = 0x0a) with
  | none =>
    refine ⟨0, ?_, Nat.zero_le _⟩
    dsimp only
    split <;> simp
  | some lineLength =>
    obtain ⟨hlt, -⟩ := findIdx?_eq_some_iff_findIdx_eq.mp h
    dsimp only
    split
    · exact ⟨0, by simp, Nat.zero_le _⟩
    · exact ⟨lineLength + 1, rfl, hlt⟩

variable {self : SshReadState}

/-- A line that is still incomplete is short. -/
theorem length_of_findLine (h : (findLine self).1.settled = false) :
    self.data.length < sshMaxLine := by
  simp only [findLine] at h
  split at h
  · split at h <;> exact absurd h (by simp [ReadStatus.settled])
  · split at h
    · exact absurd h (by simp [ReadStatus.settled])
    · omega

variable {s : TransportReadState} {status : ReadStatus Packet} {super : SshReadState}

theorem Safe.of_super (h : Safe s) (hsize : super.size = s.size) (hin : Inside super)
    (hah : super.data.length ≤ s.totalLength + transportReadAhead) : Safe (s.setBuffer super) :=
  ⟨hsize.trans h.size_eq, hin, hah, h.header⟩

/-- Looking for a line in a buffer that is inside its bounds. -/
theorem Safe.findLine (h : Safe s) (hsize : super.size = s.size) (hin : Inside super)
    (hah : super.data.length ≤ s.totalLength + transportReadAhead) :
    Safe (s.setBuffer (findLine super).2) := by
  obtain ⟨n, hfr, hn⟩ := findLine_frame super
  rw [hfr]
  have hin : super.start + super.data.length ≤ super.size := hin
  refine h.of_super hsize ?_ ?_
  · show super.start + n + (super.data.drop n).length ≤ super.size
    rw [length_drop]
    omega
  · rw [length_drop]
    omega

theorem Safe.bufferedLine (h : Safe s) : Safe (s.setBuffer (bufferedLine s.toSshReadState).2) := by
  simp only [Transport.bufferedLine]
  split
  · refine h.of_super rfl ?_ h.ahead
    show 0 + s.data.length ≤ s.size
    omega
  · exact h.findLine rfl h.inside h.ahead

theorem length_of_bufferedLine
    (h : (bufferedLine self).1.settled = false) :
    (bufferedLine self).2.data.length < sshMaxLine := by
  by_cases hz0 : self.data.length = 0
  · rw [bufferedLine, if_pos hz0]
    rw [hz0]
    decide
  · simp only [bufferedLine, if_neg hz0] at h ⊢
    obtain ⟨n, hfr, -⟩ := findLine_frame self
    rw [hfr, length_drop]
    exact Nat.lt_of_le_of_lt (Nat.sub_le _ _) (length_of_findLine h)

theorem Safe.lineAfterRead (h : Safe s) (hsize : super.size = s.size) (hin : Inside super)
    (hah : super.data.length ≤ s.totalLength + transportReadAhead) (res) :
    Safe (s.setBuffer (lineAfterRead res super).2.1) := by
  cases res with
  | failed errno => exact h.of_super hsize hin hah
  | got n =>
    cases n with
    | zero => exact h.of_super hsize hin hah
    | succ n => exact h.findLine hsize hin hah

/-- `transport_read_line` reads at most `TRANSPORT_READ_AHEAD` octets into a buffer with less than
a line in it. -/
theorem transportReadLine_ensures (h : Safe s) (fd) :
    Yields (fun r => Safe r.2.1) (transportReadLine s fd) := by
  have hsa := h.bufferedLine
  simp only [transportReadLine]
  cases hset : (bufferedLine s.toSshReadState).1.settled with
  | true => exact hsa
  | false =>
    cases fd with
    | none => exact hsa
    | some io =>
      have hsize : (bufferedLine s.toSshReadState).2.size = 35000 := hsa.size_eq
      have hlen : (bufferedLine s.toSshReadState).2.data.length < 255 :=
        length_of_bufferedLine hset
      have hlim : transportReadAhead < (bufferedLine s.toSshReadState).2.size := by
        rw [hsize]
        decide
      have hrm : (bufferedLine s.toSshReadState).2.data.length < transportReadAhead :=
        Nat.lt_trans hlen (by decide)
      obtain ⟨start, readStatus, hread, hstr⟩ := sshReadSome_eq hlim hrm io
      have htkn := io.length_taken_le
        (transportReadAhead - (bufferedLine s.toSshReadState).2.data.length)
      simp only [Bool.false_eq_true, if_false, hread, ok_bind, ensures_pure]
      refine h.lineAfterRead ?_ ?_ ?_ _
      · exact hsa.size_eq.trans h.size_eq.symm
      · simp only [Inside, length_append]
        omega
      · simp only [length_append]
        omega

/-- What a call of `transport_read_packet` leaves behind. After an error the connection is closed,
and all that matters is that the buffer was not overrun. -/
structure PacketPost (status : ReadStatus Packet) (s : TransportReadState) : Prop where
  size_eq : s.size = sshMaxPacket + sshMaxPacketFuzz
  inside : Inside s.toSshReadState
  safe : status.fatal = false → Safe s
  complete : ∀ p, status = .complete p → s.totalLength = 0

variable {r : Option (ReadStatus Packet) × TransportReadState × ℕ}
  {need limit : ℕ} {fd : Option ReadResult}

/-- A read leaves a safe state if it does not go too far ahead. -/
theorem Filled.safe (hr : Filled s need limit fd r)
    (h : Safe s) (hlim : (input s.toSshReadState need limit fd).length ≤
      s.totalLength + transportReadAhead) : Safe r.2.1 := by
  obtain ⟨start, readStatus, hfr⟩ := hr.frame
  have hin := hr.inside
  rw [hfr] at hin ⊢
  exact ⟨h.size_eq, hin, hlim, h.header⟩

theorem Filled.packetPost (hr : Filled s need limit fd r)
    (hsa : Safe r.2.1) (hsta : r.1 = some status) :
    PacketPost status r.2.1 :=
  ⟨hsa.size_eq, hsa.inside, fun _ => hsa, fun p hp => absurd (hp ▸ hsta) (hr.incomplete p)⟩

theorem length_data_headerState (hlen : s.blockSize ≤ s.data.length) :
    (headerState s).data.length = s.data.length := by
  show (Transport.header s ++ s.data.drop s.blockSize).length = s.data.length
  rw [length_append, length_header hlen, length_drop]
  omega

/-- Accepting a header that is not oversized. -/
theorem processHeader_safe (h : Safe s) (hlen : s.blockSize ≤ s.data.length)
    (htot : s.totalLength = 0)
    (hszd : checkHeader s.blockSize (headerLength s) (headerPadding s) = none →
      headerLength s - 1 + s.macSize ≤ s.size → headerLength s + s.macSize ≤ maxAnnounced) :
    Yields
      (fun r => (∀ status, r.1 = some status → PacketPost status r.2) ∧
        (r.1 = none → Safe r.2 ∧ r.2.totalLength ≠ 0)) (processHeader s) := by
  have hdata := length_data_headerState hlen
  have hin : s.start + s.data.length ≤ s.size := h.inside
  have hin' : Inside (headerState s).toSshReadState := by
    show s.start + (headerState s).data.length ≤ s.size
    rwa [hdata]
  rw [processHeader_eq h.inside hlen htot]
  cases hchk : checkHeader s.blockSize (headerLength s) (headerPadding s) with
  | some msg =>
    refine ⟨?_, fun hr => nomatch hr⟩
    rintro status ⟨⟩
    exact ⟨h.size_eq, hin', fun hf => (nomatch hf), fun p hp => (nomatch hp)⟩
  | none =>
    dsimp only
    split
    · refine ⟨?_, fun hr => nomatch hr⟩
      rintro status ⟨⟩
      exact ⟨h.size_eq, hin', fun hf => (nomatch hf), fun p hp => (nomatch hp)⟩
    · obtain ⟨-, -, hmin, -, -, -⟩ := checkHeader_eq_none.mp hchk
      have hbl := blockSizeOf_eq s.crypto
      have hah := h.ahead
      have hbs : s.blockSize = blockSizeOf s.crypto := rfl
      refine ⟨fun status hs => (nomatch hs), fun _ => ⟨⟨h.size_eq, ?_, ?_, fun _ => ?_⟩, ?_⟩⟩
      · show s.start + 5 + ((headerState s).data.drop 5).length ≤ s.size
        rw [length_drop]
        omega
      · show ((headerState s).data.drop 5).length ≤ headerLength s - 1 + s.macSize + _
        rw [length_drop]
        omega
      · refine ⟨headerLength s, ?_, ?_, ?_⟩
        · rw [← blockSize_headerState] at hchk
          exact hchk
        · exact congrArg (headerLength s - 1 + ·) (macSize_headerState s).symm
        · have := hszd hchk (by omega)
          rwa [← macSize_headerState] at this
      · show headerLength s - 1 + s.macSize ≠ 0
        omega

theorem CompressInstance.codec_ensures (self : CompressInstance) (space input) :
    Ensures Assertion.ofConsumer (fun _ => True) (self.codec space input) := by
  rcases self.codec_cases space input with ⟨-, h⟩ | ⟨-, h | ⟨r, h⟩⟩ <;> rw [h] <;> trivial

/-- Taking a packet out of the buffer. -/
theorem safe_afterPacket (hsize : s.size = sshMaxPacket + sshMaxPacketFuzz)
    (hin : Inside s.toSshReadState) (hav : s.totalLength ≤ s.data.length)
    (hah : s.data.length ≤ s.totalLength + transportReadAhead) (inflate) :
    Safe { afterPacket s with inflate := inflate } := by
  have hin : s.start + s.data.length ≤ s.size := hin
  refine ⟨hsize, ?_, ?_, fun h => absurd rfl h⟩
  · show s.start + s.totalLength + (s.data.drop s.totalLength).length ≤ s.size
    rw [length_drop]
    omega
  · show (s.data.drop s.totalLength).length ≤ 0 + transportReadAhead
    rw [length_drop]
    omega

theorem Safe.packetPost (h : Safe s) (htot : s.totalLength = 0) (status) : PacketPost status s :=
  ⟨h.size_eq, h.inside, fun _ => h, fun _ _ => htot⟩

/-- Delivering a packet fails at most in the assertions of the consumers. -/
theorem deliver_ensures (hsize : s.size = sshMaxPacket + sshMaxPacketFuzz)
    (hin : Inside s.toSshReadState) (hav : s.totalLength ≤ s.data.length)
    (hah : s.data.length ≤ s.totalLength + transportReadAhead) (space macSize) :
    Ensures Assertion.ofConsumer (fun r => PacketPost r.1 r.2) (deliver s space macSize) := by
  have hsa := safe_afterPacket hsize hin hav hah
  cases hinf : s.inflate with
  | none =>
    by_cases hrm : sub32 (sub32 s.totalLength macSize) s.padding ≤ space
    · rw [deliver_of_le hinf hrm]
      exact (hsa s.inflate).packetPost rfl _
    · rw [deliver_of_not_le hinf hrm]
      trivial
  | some inflate =>
    rw [deliver_inflate hinf]
    exact (inflate.codec_ensures space _).bind fun r _ => (hsa (some r.2)).packetPost rfl _

/-- The decrypted packet lies where the packet was. -/
theorem Body.length_bodyState {packetLength : ℕ} (h : Body s packetLength) :
    (bodyState s packetLength).data.length = s.data.length := by
  obtain ⟨-, -, -, hspl, -, hlen, -⟩ := h.facts
  show (s.data.take (s.blockSize - 5) ++ rest s packetLength ++
    s.data.drop (packetLength - 1)).length = s.data.length
  rw [length_append, length_append, h.length_rest, length_take_of_le (by omega),
    length_drop]
  omega

/-- The part of `transport_read_packet` after the header. -/
theorem readBody_ensures (h : Safe s) (htot : s.totalLength ≠ 0) (space fd) :
    Ensures Assertion.ofConsumer (fun r => PacketPost r.1 r.2.1) (readBody s space fd) := by
  obtain ⟨packetLength, hchk, htotal_eq, hmax⟩ := h.header htot
  have hmax : packetLength + s.macSize ≤ 34000 := hmax
  have hsize : s.size = 35000 := h.size_eq
  have hah : transportReadAhead = 1000 := rfl
  obtain ⟨-, -, hmin, -, -, -⟩ := checkHeader_eq_none.mp hchk
  refine Ensures.bind (Ensures.of_total (fillBody_ensures (by omega) h.inside fd)) ?_
  rintro ⟨status, s', m⟩ hfil
  have hs' : Safe s' := hfil.safe h (length_input_le h.ahead fd)
  cases status with
  | some status => exact hfil.packetPost hs' rfl
  | none =>
    have hbo : Body s' packetLength := by
      obtain ⟨start, readStatus, hfr⟩ := hfil.frame
      have hlen := hfil.none_iff.mp rfl
      have hin := hs'.inside
      subst hfr
      exact ⟨hin, hchk, htotal_eq, hlen⟩
    have hlth := hbo.length_bodyState
    have hin : s'.start + s'.data.length ≤ s'.size := hs'.inside
    have hin' : Inside (bodyState s' packetLength).toSshReadState := by
      show s'.start + (bodyState s' packetLength).data.length ≤ s'.size
      rwa [hlth]
    rcases hbo.decodePacket_eq space with ⟨-, hdec⟩ | ⟨-, hdec⟩
    · dsimp only
      rw [hdec]
      refine Ensures.bind (deliver_ensures (s := resetMac (bodyState s' packetLength))
        hs'.size_eq hin' ?_ ?_ space _) fun r hr => hr
      · show s'.totalLength ≤ (bodyState s' packetLength).data.length
        rw [hlth]
        exact hbo.available
      · show (bodyState s' packetLength).data.length ≤ s'.totalLength + _
        rw [hlth]
        exact hs'.ahead
    · dsimp only
      rw [hdec]
      exact ⟨hs'.size_eq, hin', fun hf => (nomatch hf), fun p hp => (nomatch hp)⟩

/-- **One call of `transport_read_packet`.** Unless an oversized packet arrives, no assertion about
the input buffer fails. -/
theorem transportReadPacket_ensures (h : Safe s) (space) (hszd : ¬Oversized s fd) :
    Ensures Assertion.ofConsumer (fun r => PacketPost r.1 r.2.1)
      (transportReadPacket s space fd) := by
  have hbl := blockSizeOf_eq s.crypto
  have hbs : s.blockSize = blockSizeOf s.crypto := rfl
  have hsize : s.size = 35000 := h.size_eq
  have hah : transportReadAhead = 1000 := rfl
  refine Ensures.bind (Ensures.of_total (fillBlock_ensures (by omega) h.inside fd)) ?_
  rintro ⟨status, s1, n⟩ hfil
  have hs1 : Safe s1 := by
    refine hfil.safe h ?_
    by_cases hsh : s.data.length < s.blockSize
    · exact Nat.le_trans (length_input_le (by omega) fd) (Nat.le_add_left _ _)
    · rw [input, if_neg hsh]
      exact h.ahead
  cases status with
  | some status => exact hfil.packetPost hs1 rfl
  | none =>
    have hlen : s1.blockSize ≤ s1.data.length :=
      hfil.blockSize_eq.le.trans (hfil.of_none rfl)
    -- the header, if it has not been processed before
    have hhd : Yields
        (fun r => (∀ status, r.1 = some status → PacketPost status r.2) ∧
          (r.1 = none → Safe r.2 ∧ r.2.totalLength ≠ 0)) (processHeader s1) := by
      by_cases htot : s1.totalLength = 0
      · refine processHeader_safe hs1 hlen htot fun hchk hft => ?_
        obtain ⟨start, readStatus, hfr⟩ := hfil.frame
        subst hfr
        by_contra hbig
        exact hszd ⟨htot, hlen, hchk, hft, Nat.lt_of_not_le hbig⟩
      · rw [processHeader_of_ne_zero hlen htot]
        exact ⟨by simp, fun _ => ⟨hs1, htot⟩⟩
    refine Ensures.bind (Ensures.of_total hhd) ?_
    rintro ⟨status, s2⟩ ⟨hsome, hno⟩
    cases status with
    | some status => exact hsome status rfl
    | none =>
      obtain ⟨hs2, htot⟩ := hno rfl
      exact (readBody_ensures hs2 htot space _).bind fun r hr => hr

/-! ### Runs -/

/-- The invariant of a run. -/
structure ReaderSafe (r : Reader) : Prop where
  size_eq : r.state.size = sshMaxPacket + sshMaxPacketFuzz
  inside : Inside r.state.toSshReadState
  safe : r.reading → Safe r.state

theorem PacketPost.readerSafe (h : PacketPost status s) (keys) :
    ReaderSafe { state := installKeys status keys s, reading := !status.fatal } := by
  have hold : ReaderSafe { state := s, reading := !status.fatal } :=
    ⟨h.size_eq, h.inside, fun hr => h.safe (by simpa using hr)⟩
  cases status with
  | complete p =>
    cases keys with
    | none => exact hold
    | some keys =>
      have hsa := h.safe rfl
      have hz0 := h.complete p rfl
      exact ⟨h.size_eq, h.inside,
        fun _ => ⟨h.size_eq, h.inside, hsa.ahead, fun hne => absurd hz0 hne⟩⟩
  | _ => exact hold

theorem readerStep_ensures {call : ReaderCall} {r : Reader} (h : ReaderSafe r)
    (hszd : call.Sized r) :
    Ensures Assertion.ofConsumer ReaderSafe (readerStep r call) := by
  cases hrdg : r.reading with
  | false => simpa [readerStep, hrdg] using h
  | true =>
    have hsa := h.safe hrdg
    cases call with
    | line fd =>
      simp only [readerStep, hrdg, if_true]
      refine Ensures.bind (Ensures.of_total (transportReadLine_ensures hsa fd)) ?_
      rintro ⟨status, s, n⟩ hs
      exact ⟨hs.size_eq, hs.inside, fun _ => hs⟩
    | packet fd keys =>
      simp only [readerStep, hrdg, if_true]
      refine Ensures.bind (transportReadPacket_ensures hsa _ hszd) ?_
      rintro ⟨status, s, n⟩ hpost
      exact hpost.readerSafe keys

theorem readerSafe_init : ReaderSafe Reader.init :=
  ⟨rfl, Nat.zero_le _, fun _ => safe_make⟩

/-- **Safety of the input buffer.** In every run in which no oversized packet arrives, the only
assertions that can fail are those of the consumers of a payload, so every call of
`ssh_read_some` is within its preconditions, and the unprocessed input is inside the buffer. -/
theorem run_readerStep_inside (calls : List ReaderCall)
    (h : Guarded readerStep (fun r call => call.Sized r) Reader.init calls) :
    Ensures Assertion.ofConsumer
      (fun r => r.state.start + r.state.data.length ≤ r.state.size)
      (run readerStep Reader.init calls) :=
  (run_of_guarded (fun _ _ hr hcall => readerStep_ensures hr hcall) readerSafe_init h).mono
    fun _ hr => hr.inside

/-- A run that reads a packet with a payload of one octet. -/
theorem run_readerStep_inside_one :
    ∃ r, run readerStep Reader.init
        [.packet (some (.octets [0, 0, 0, 12, 10, 5, 0, 0, 0, 0, 0, 0, 0, 0, 0, 0] true)) none] =
          .ok r ∧
      r.state.start + r.state.data.length ≤ r.state.size :=
  ⟨_, rfl, run_readerStep_inside
    [.packet (some (.octets [0, 0, 0, 12, 10, 5, 0, 0, 0, 0, 0, 0, 0, 0, 0, 0] true)) none]
    ⟨show ¬Oversized _ _ by decide, fun _ _ => trivial⟩⟩

/-- A packet length of 34004 passes all checks, and the next read aborts the process. -/
theorem run_readerStep_readLimit :
    run readerStep Reader.init
      [.packet (some (.octets [0, 0, 0x84, 0xd4, 4, 0, 0, 0, 0, 0, 0, 0, 0, 0, 0, 0] true)) none,
        .packet (some (.octets [0] true)) none] = .error .readLimit := rfl

end Lsh.Transport
