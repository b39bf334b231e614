
import Lsh.Transport.ReadSpec

/-!
# Packets between the processes

A model of `service_read.c`. Two processes that share a connection pass packets to each other
through a pipe or a socket pair. Each packet follows a header of eight octets, its sequence number
and its length. `service_read_packet` takes one packet at a time out of a buffer that it reads
ahead, like `transport_read_packet`, but there is nothing to decrypt.

What the function finds depends only on the stream: the octets that it has read before and not
handed out yet, followed by the octets that it reads now. `front` says what is at the front of a
stream, and `serviceReadPacket_ensures` that the function reports just that, in every state that it
can be in before it has reported an error.

## Main results

* `front_frame_append` — a framed packet is found at the front of the stream
* `serviceReadPacket_ensures` — `service_read_packet`; only a length of `SSH_MAX_PACKET` makes it
  fail
-/

namespace Lsh.Service

open Machine Octets Transport List

/-! ### The reader -/

/-- How much data to read ahead, `SERVICE_READ_AHEAD`. -/
def serviceReadAhead : ℕ := 1000

/-- `SERVICE_HEADER_SIZE`. -/
def serviceHeaderSize : ℕ := 8

/-- `struct service_read_state`. -/
structure ServiceReadState extends SshReadState where
  /-- Zero if the header has not been processed yet. -/
  packetLength : ℕ
  seqno : ℕ

namespace ServiceReadState

/-- `make_service_read_state`. -/
def make : ServiceReadState :=
  { initSshReadState (sshMaxPacket + serviceReadAhead) with packetLength := 0, seqno := 0 }

/-- Replace the part of the state that `ssh_read_some` works on. -/
def setBuffer (self : ServiceReadState) (super : SshReadState) : ServiceReadState :=
  { self with toSshReadState := super }

/-- Advance past the first `n` octets of the unprocessed input. -/
def skip (self : ServiceReadState) (n : ℕ) : ServiceReadState :=
  { self with start := self.start + n, data := self.data.drop n }

end ServiceReadState

/-- A protocol error. It comes with a message, but no error number. -/
def invalid (msg : String) : ReadStatus Packet := .protocolError 0 (some msg)

theorem invalid_ne_complete (msg p) : invalid msg ≠ .complete p := by
  exact nofun

/-- Both reads of `service_read_packet`: if fewer than `need` octets are in the buffer, read up to
`limit`. A status ends the call; `eof` is the status for the end of file. -/
def fill (self : SshReadState) (need limit : ℕ) (eof : Octets → ReadStatus Packet)
    (fd : Option ReadResult) :
    Except Assertion (Option (ReadStatus Packet) × SshReadState × ℕ) := do
  if self.data.length < need then
    match fd with
    | none => return (some self.readStatus.toStatus, self, 0)
    | some io =>
      let (res, self) ← sshReadSome self limit io
      match res with
      | .got 0 => return (some (eof self.data), self, 0)
      | .failed errno =>
        return (some (if errno = ewouldblock then .push else .ioError errno), self, 0)
      | .got n =>
        if self.data.length < need then
          return (some self.readStatus.toStatus, self, n)
        else
          return (none, self, n)
  else
    return (none, self, 0)

/-- The part of `service_read_packet` that parses the header. After an error the header is still in
the buffer. -/
def parseHeader (self : ServiceReadState) : Option (ReadStatus Packet) × ServiceReadState :=
  let self := { self with
    seqno := readUint32 self.data
    packetLength := readUint32 (self.data.drop 4) }
  if self.packetLength = 0 then
    (some (invalid "Received empty packet"), self)
  else if sshMaxPacket < self.packetLength then
    (some (invalid "Packet too large"), self)
  else
    (none, self.skip serviceHeaderSize)

/-- The first part of `service_read_packet`. Besides the status that ends the call, the new state
and the number of octets read, the file descriptor for the second part: it is read only once. -/
def readHeader (self : ServiceReadState) (fd : Option ReadResult) :
    Except Assertion
      (Option (ReadStatus Packet) × ServiceReadState × ℕ × Option ReadResult) := do
  if self.packetLength ≠ 0 then
    return (none, self, 0, fd)
  else
    let fd' := if self.data.length < serviceHeaderSize then none else fd
    match ← fill self.toSshReadState serviceHeaderSize serviceReadAhead
      (fun data => if data.length = 0 then .eof else invalid "Unexpected EOF") fd with
    | (some status, super, n) => return (some status, self.setBuffer super, n, fd')
    | (none, super, n) =>
      require (serviceHeaderSize ≤ super.data.length) .blockAvailable
      let (status, self) := parseHeader (self.setBuffer super)
      return (status, self, n, fd')

/-- The second part of `service_read_packet`. -/
def readBody (self : ServiceReadState) (fd : Option ReadResult) :
    Except Assertion (ReadStatus Packet × ServiceReadState × ℕ) := do
  match ← fill self.toSshReadState self.packetLength (self.packetLength + serviceReadAhead)
    (fun _ => invalid "Unexpected EOF") fd with
  | (some status, super, n) => return (status, self.setBuffer super, n)
  | (none, super, n) =>
    let self := self.setBuffer super
    return (.complete (self.seqno, self.data.take self.packetLength),
      { self.skip self.packetLength with packetLength := 0 }, n)

/-- `service_read_packet`. Besides the status and the new state, the number of octets taken from the
file descriptor. A negative `fd` is `none`. -/
def serviceReadPacket (self : ServiceReadState) (fd : Option ReadResult) :
    Except Assertion (ReadStatus Packet × ServiceReadState × ℕ) := do
  match ← readHeader self fd with
  | (some status, self, n, _) => return (status, self, n)
  | (none, self, n, fd) =>
    let (status, self, m) ← readBody self fd
    return (status, self, n + m)

/-! ### The stream -/

/-- A packet with its header. -/
def frame (p : Packet) : Octets := writeUint32 p.1 ++ (writeUint32 p.2.length ++ p.2)

/-- What can be at the front of a stream. -/
inductive Front where
  /-- Nothing can be said before more octets have arrived. -/
  | incomplete
  /-- A header that is not accepted, with the message of the error. -/
  | bad (msg : String)
  /-- A complete packet. -/
  | packet (p : Packet)
  deriving DecidableEq

/-- There is a complete packet. -/
def Front.isPacket : Front → Bool
  | packet _ => true
  | _ => false

/-- The length field of the header at the front of a stream. -/
def lengthField (s : Octets) : ℕ := readUint32 (s.drop 4)

/-- What is at the front of a stream. -/
def front (s : Octets) : Front :=
  if s.length < serviceHeaderSize then .incomplete
  else if lengthField s = 0 then .bad "Received empty packet"
  else if sshMaxPacket < lengthField s then .bad "Packet too large"
  else if s.length < serviceHeaderSize + lengthField s then .incomplete
  else .packet (readUint32 s, (s.drop serviceHeaderSize).take (lengthField s))

@[simp] theorem length_frame (p) : (frame p).length = serviceHeaderSize + p.2.length := by
  simp only [frame, length_append, length_writeUint32, serviceHeaderSize]
  omega

variable {l : ℕ}

theorem lengthField_header (n) (hl : l < 2 ^ 32) (s) :
    lengthField (writeUint32 n ++ (writeUint32 l ++ s)) = l := by
  rw [lengthField, drop_left' (length_writeUint32 n), readUint32_writeUint32,
    Nat.mod_eq_of_lt hl]

theorem drop_header (n l s) :
    (writeUint32 n ++ (writeUint32 l ++ s)).drop serviceHeaderSize = s := by
  rw [← append_assoc]
  exact drop_left' (by simp [serviceHeaderSize])

theorem sshMaxPacket_lt : sshMaxPacket < 2 ^ 32 := by decide

variable {n : ℕ}

/-- A header of an acceptable packet, with what follows. -/
theorem front_header (hn : n < 2 ^ 32) (hpos : 0 < l) (hl : l ≤ sshMaxPacket) (s) :
    front (writeUint32 n ++ (writeUint32 l ++ s)) =
      if s.length < l then .incomplete else .packet (n, s.take l) := by
  have hmax := sshMaxPacket_lt
  have hfd : lengthField (writeUint32 n ++ (writeUint32 l ++ s)) = l :=
    lengthField_header n (by omega) s
  have hlen : (writeUint32 n ++ (writeUint32 l ++ s)).length = serviceHeaderSize + s.length := by
    simp only [length_append, length_writeUint32, serviceHeaderSize]
    omega
  rw [front, hfd, drop_header, readUint32_writeUint32, Nat.mod_eq_of_lt hn,
    if_neg (by omega), if_neg (by omega), if_neg (by omega)]
  by_cases hs : s.length < l
  · rw [if_pos (by omega), if_pos hs]
  · rw [if_neg (by omega), if_neg hs]

variable {p : Packet}

/-- **Framing.** A packet that has been framed is found at the front of the stream. -/
theorem front_frame_append (hn : p.1 < 2 ^ 32) (hpos : 0 < p.2.length)
    (hl : p.2.length ≤ sshMaxPacket) (s) : front (frame p ++ s) = .packet p := by
  have hfr : frame p ++ s = writeUint32 p.1 ++ (writeUint32 p.2.length ++ (p.2 ++ s)) := by
    simp [frame]
  rw [hfr, front_header hn hpos hl, if_neg (by simp), take_left' rfl]

variable {s : Octets} {packets : List Packet}

theorem length_pos_of_front (h : front s = .packet p) : 0 < p.2.length := by
  rw [front] at h
  split_ifs at h with hhd hz0 hlrg hsh
  cases h
  rw [length_take, length_drop]
  omega

/-- The octets of a header say what it stands for. -/
theorem header_eq (hs : serviceHeaderSize ≤ s.length) :
    s = writeUint32 (readUint32 s) ++
      (writeUint32 (lengthField s) ++ s.drop serviceHeaderSize) := by
  have hwr : ∀ p : Octets, 4 ≤ p.length → writeUint32 (readUint32 p) = p.take 4 := by
    intro p hp
    have hlen : (p.take 4).length = 4 := by
      rw [length_take]
      omega
    have := beEncode_beDecode (p.take 4)
    rwa [hlen] at this
  have hs : 8 ≤ s.length := hs
  have hdp : s.drop serviceHeaderSize = (s.drop 4).drop 4 := by rw [drop_drop]; rfl
  rw [lengthField, hwr s (by omega), hwr (s.drop 4) (by rw [length_drop]; omega), hdp,
    take_append_drop, take_append_drop]

/-- A sequence of packets with their headers. -/
def frames (packets : List Packet) : Octets := (packets.map frame).flatten

@[simp] theorem frames_nil : frames [] = [] := rfl

@[simp] theorem frames_cons (pk packets) :
    frames (pk :: packets) = frame pk ++ frames packets := rfl

@[simp] theorem frames_append (ps qs) : frames (ps ++ qs) = frames ps ++ frames qs := by
  simp [frames]

/-- A packet that the reader can find. -/
structure WellFormed (pk : Packet) : Prop where
  seqno_lt : pk.1 < 2 ^ 32
  length_pos : 0 < pk.2.length
  length_le : pk.2.length ≤ sshMaxPacket

theorem wellFormed_of_front (h : front s = .packet p) : WellFormed p := by
  refine ⟨?_, length_pos_of_front h, ?_⟩ <;> rw [front] at h <;>
    split_ifs at h with hhd hz0 hlrg hsh <;> cases h
  · exact readUint32_lt _
  · exact (length_take_le _ _).trans (Nat.le_of_not_lt hlrg)

theorem WellFormed.front_frame {pk : Packet} (h : WellFormed pk) (s) :
    front (frame pk ++ s) = .packet pk :=
  front_frame_append h.seqno_lt h.length_pos h.length_le s

/-- The complete packets at the front of a stream. The number bounds how many are looked for. -/
def completePackets : ℕ → Octets → List Packet
  | 0, _ => []
  | k + 1, s =>
    match front s with
    | .packet pk => pk :: completePackets k (s.drop (frame pk).length)
    | _ => []

/-- Nothing is in an empty stream. -/
theorem completePackets_nil (k) : completePackets k [] = [] := by
  cases k <;> rfl

theorem completePackets_frames_append (h : ∀ pk ∈ packets, WellFormed pk) (k rest) :
    completePackets (packets.length + k) (frames packets ++ rest) =
      packets ++ completePackets k rest := by
  induction packets with
  | nil => rw [length_nil, Nat.zero_add, frames_nil, nil_append, nil_append]
  | cons pk packets ih =>
    rw [length_cons, Nat.succ_add, frames_cons, append_assoc, completePackets,
      (h pk mem_cons_self).front_frame]
    dsimp only
    rw [drop_left, ih fun p hp => h p (mem_cons_of_mem _ hp), cons_append]

theorem length_le_frames (packets) : packets.length ≤ (frames packets).length := by
  induction packets with
  | nil => exact Nat.le_refl _
  | cons pk packets ih =>
    rw [frames_cons, length_append, length_frame, serviceHeaderSize, length_cons]
    omega

variable {k : ℕ}

theorem completePackets_frames (h : ∀ pk ∈ packets, WellFormed pk) {rest : Octets}
    (hk : (frames packets ++ rest).length ≤ k) :
    packets <+: completePackets k (frames packets ++ rest) := by
  have hlen := length_le_frames packets
  rw [length_append] at hk
  obtain ⟨j, rfl⟩ : ∃ j, k = packets.length + j := ⟨k - packets.length, by omega⟩
  rw [completePackets_frames_append h]
  exact prefix_append _ _

/-- The length fields of the headers in a stream. The number bounds how many are looked at. -/
def headerLengths : ℕ → Octets → List ℕ
  | 0, _ => []
  | k + 1, s =>
    if s.length < serviceHeaderSize then []
    else lengthField s :: headerLengths k (s.drop (serviceHeaderSize + lengthField s))

/-- The header that follows some packets. -/
theorem mem_headerLengths (h : ∀ pk ∈ packets, WellFormed pk) {rest : Octets}
    (hre : serviceHeaderSize ≤ rest.length) (hk : (frames packets ++ rest).length ≤ k) :
    lengthField rest ∈ headerLengths k (frames packets ++ rest) := by
  have hsize : serviceHeaderSize = 8 := rfl
  induction packets generalizing k with
  | nil =>
    rw [frames_nil, nil_append] at hk ⊢
    obtain ⟨k, rfl⟩ : ∃ k', k = k' + 1 := ⟨k - 1, by omega⟩
    rw [headerLengths, if_neg (Nat.not_lt.mpr hre)]
    exact mem_cons_self
  | cons pk packets ih =>
    have hpk := h pk mem_cons_self
    have hfd : lengthField (frame pk ++ (frames packets ++ rest)) = pk.2.length := by
      exact lengthField_header _ (hpk.length_le.trans_lt sshMaxPacket_lt) _
    rw [frames_cons, append_assoc, length_append, length_frame] at hk
    obtain ⟨k, rfl⟩ : ∃ k', k = k' + 1 := ⟨k - 1, by omega⟩
    rw [frames_cons, append_assoc, headerLengths, hfd, drop_left' (length_frame pk)]
    exact mem_cons_of_mem _ (ih (fun p hp => h p (mem_cons_of_mem _ hp)) (by omega))

/-! ### What the reader finds -/

/-- The octets that the reader has read and not handed out: the header belongs to them as long as
its packet is incomplete. -/
def ServiceReadState.pending (self : ServiceReadState) : Octets :=
  if self.packetLength = 0 then self.data
  else writeUint32 self.seqno ++ (writeUint32 self.packetLength ++ self.data)

/-- The first `n` octets that a file descriptor has to offer. -/
def fdOctets (fd : Option ReadResult) (n : ℕ) : Octets := (fd.map (·.taken n)).getD []

/-- How many octets a file descriptor has to offer. -/
def fdLength (fd : Option ReadResult) : ℕ :=
  match fd with
  | some (.octets s _) => s.length
  | _ => 0

/-- What a read from the other process finds. -/
inductive ServiceInput where
  /-- At most `n + 1` octets. -/
  | octets (n : ℕ) (readable : Bool)
  /-- The other process has closed its end. -/
  | eof
  | error (errno : ℕ)

/-- The result of `read`, with these octets in the pipe. -/
def ServiceInput.result (octets : Octets) : ServiceInput → ReadResult
  | .octets n readable =>
    if octets = [] then .error ewouldblock else .octets (octets.take (n + 1)) readable
  | .eof => .octets octets false
  | .error errno => .error errno

/-- The states of a reader that has not reported an error. -/
structure Sound (r : ServiceReadState) : Prop where
  size_eq : r.size = sshMaxPacket + serviceReadAhead
  inside : Inside r.toSshReadState
  packetLength_le : r.packetLength ≤ sshMaxPacket
  seqno_lt : r.seqno < 2 ^ 32
  ahead : r.data.length ≤ r.packetLength + serviceReadAhead

theorem sound_make : Sound .make where
  size_eq := rfl
  inside := Nat.zero_le _
  packetLength_le := Nat.zero_le _
  seqno_lt := by decide
  ahead := Nat.zero_le _

@[simp] theorem fdOctets_zero (fd) : fdOctets fd 0 = [] := by
  rcases fd with _ | _ | _ <;> rfl

@[simp] theorem fdOctets_none (n) : fdOctets none n = [] := rfl

theorem length_fdOctets_le (fd n) : (fdOctets fd n).length ≤ fdLength fd := by
  rcases fd with _ | errno | ⟨s, readable⟩
  · exact Nat.le_refl 0
  · exact Nat.le_refl 0
  · exact length_take_le' _ _

/-- The octets that a read finds are the first ones in the pipe. -/
theorem ServiceInput.fdOctets_append_drop (input : ServiceInput) {octets : Octets}
    (h : (fdOctets (some (input.result octets)) n).length = n) :
    fdOctets (some (input.result octets)) n ++ octets.drop n = octets := by
  have hta : ∀ (s : Octets) (readable : Bool),
      fdOctets (some (.octets s readable)) n = s.take n := fun _ _ => rfl
  cases input with
  | octets k readable =>
    rw [result] at h ⊢
    split at h
    · rename_i hemp
      rw [hemp, drop_nil]
      rfl
    · rename_i hemp
      rw [hta, length_take, length_take] at h
      rw [if_neg hemp, hta, take_take, Nat.min_eq_left (by omega), take_append_drop]
  | eof => exact take_append_drop n octets
  | error errno =>
    have hn : n = 0 := h.symm
    rw [hn]
    rfl

/-- What `service_read_packet` reports and leaves behind, by what is at the front of the stream. -/
structure Outcome (r : ServiceReadState) (fd : Option ReadResult)
    (o : ReadStatus Packet × ServiceReadState × ℕ) : Prop where
  count : (fdOctets fd o.2.2).length = o.2.2
  packet : ∀ p, front (r.pending ++ fdOctets fd o.2.2) = .packet p →
    o.1 = .complete p ∧ Sound o.2.1 ∧ o.2.1.packetLength = 0 ∧
      r.pending ++ fdOctets fd o.2.2 = frame p ++ o.2.1.pending
  bad : ∀ msg, front (r.pending ++ fdOctets fd o.2.2) = .bad msg →
    o.1 = invalid msg ∧ o.2.1.data = r.pending ++ fdOctets fd o.2.2 ∧
      o.2.1.data.length ≤ serviceReadAhead ∧
      o.2.1.packetLength = lengthField (r.pending ++ fdOctets fd o.2.2)
  incomplete : front (r.pending ++ fdOctets fd o.2.2) = .incomplete →
    (∀ p, o.1 ≠ .complete p) ∧ Sound o.2.1 ∧ o.2.1.pending = r.pending ++ fdOctets fd o.2.2 ∧
      (Clean fd → o.1.settled = false)
  progress : front (r.pending ++ fdOctets fd o.2.2) = .incomplete → 0 < fdLength fd → 0 < o.2.2

/-- What a read of `service_read_packet` leaves behind: it has at least `need` octets exactly if the
call goes on. -/
structure Filled (s : SshReadState) (need limit : ℕ) (fd : Option ReadResult)
    (o : Option (ReadStatus Packet) × SshReadState × ℕ) : Prop where
  size_eq : o.2.1.size = s.size
  inside : Inside o.2.1
  data_eq : o.2.1.data = s.data ++ fdOctets fd o.2.2
  length_le : s.data.length ≤ limit → o.2.1.data.length ≤ limit
  none_iff : o.1 = none ↔ need ≤ o.2.1.data.length
  count : (fdOctets fd o.2.2).length = o.2.2
  unread : need ≤ s.data.length ∨ fd = none → o.2.2 = 0
  waiting : Clean fd → ∀ status, o.1 = some status → status.settled = false
  incomplete : ∀ p, o.1 ≠ some (.complete p)
  progress : o.1 ≠ none → 0 < fdLength fd → 0 < o.2.2

/-- A read as one of the transport reader, whose code it repeats. -/
theorem fill_eq (self need limit eof fd) :
    fill self need limit eof fd =
      (fun o => (o.1, o.2.1.toSshReadState, o.2.2)) <$>
        Transport.fill { TransportReadState.make with toSshReadState := self }
          need limit eof fd := by
  unfold fill Transport.fill
  split
  · cases fd with
    | none => rfl
    | some io =>
      dsimp only
      cases sshReadSome self limit io with
      | error e => rfl
      | ok o =>
        obtain ⟨res, self⟩ := o
        rcases res with errno | _ | n
        · rfl
        · rfl
        · by_cases hnd : self.data.length < need <;> simp [TransportReadState.setBuffer, hnd]
  · rfl

variable {self : SshReadState} {fd : Option ReadResult} {need limit : ℕ}

/-- The octets that a read adds to the buffer are the ones that it counts. -/
theorem input_eq
    (hn : self.data.length + n = (input self need limit fd).length) :
    input self need limit fd = self.data ++ fdOctets fd n := by
  rw [input] at hn ⊢
  split at hn
  · rename_i hnd
    rw [if_pos hnd]
    rcases fd with _ | errno | ⟨s, readable⟩
    · rfl
    · rfl
    · have hta : n = (s.take (limit - self.data.length)).length := by
        simpa [ReadResult.taken] using hn
      simp only [Option.map_some, Option.getD_some, ReadResult.taken, fdOctets, hta]
      simp
  · rename_i hnd
    have hz0 : n = 0 := by omega
    rw [if_neg hnd, hz0, fdOctets_zero, append_nil]

/-- Nothing is read, because there is enough in the buffer or no file descriptor. -/
theorem filled_of_no_read {status : Option (ReadStatus Packet)} (hin : Inside self)
    (hsta : status = if self.data.length < need then some self.readStatus.toStatus else none)
    (hfd : self.data.length < need → fd = none) :
    Filled self need limit fd (status, self, 0) where
  size_eq := rfl
  inside := hin
  data_eq := by simp
  length_le := id
  none_iff := by
    rw [hsta]
    split <;> simp <;> omega
  count := by simp
  unread := fun _ => rfl
  waiting := by
    rintro - s h
    rw [hsta] at h
    split at h
    · cases h
      exact Readiness.settled_toStatus _
    · cases h
  incomplete := by
    intro p h
    rw [hsta] at h
    split at h
    · exact Readiness.toStatus_ne_complete _ p (Option.some.inj h)
    · cases h
  progress := by
    intro hends hpos
    rw [hsta] at hends
    split at hends
    · rename_i hshort
      rw [hfd hshort] at hpos
      exact absurd hpos (Nat.lt_irrefl 0)
    · exact absurd rfl hends

/-- A read fails only if it is made, and its limit is the size of the buffer or more. -/
theorem fill_ensures {eof : Octets → ReadStatus Packet}
    (hlen : self.data.length < need → self.data.length < limit) (hin : Inside self)
    (heof : ∀ data p, eof data ≠ .complete p) (fd) :
    Ensures (fun _ => fd ≠ none ∧ self.size ≤ limit) (Filled self need limit fd)
      (fill self need limit eof fd) := by
  by_cases hlim : limit < self.size
  · rw [fill_eq]
    refine Ensures.map (Ensures.of_total (Transport.fill_ensures hlim hlen hin heof fd))
      fun o h => ?_
    obtain ⟨start, readStatus, hfr⟩ := h.frame
    have hdata : o.2.1.data = self.data ++ fdOctets fd o.2.2 := h.data_eq.trans (input_eq h.count)
    have hcnt : self.data.length + o.2.2 = (input self need limit fd).length := h.count
    refine ⟨by rw [hfr], h.inside, hdata, ?_, ?_, ?_, ?_, h.waiting, h.incomplete, ?_⟩
    · intro hle
      rw [h.data_eq]
      exact length_input_le hle fd
    · rw [h.data_eq]
      exact h.none_iff
    · have hlth := congrArg List.length (input_eq hcnt)
      rw [length_append, ← hcnt] at hlth
      exact (Nat.add_left_cancel hlth).symm
    · show need ≤ self.data.length ∨ fd = none → o.2.2 = 0
      rw [input] at hcnt
      rintro (hnd | rfl)
      · rw [if_neg (by omega)] at hcnt
        omega
      · simp only [Option.map_none, Option.getD_none, append_nil, ite_self] at hcnt
        omega
    · intro hends hpos
      have hshort : self.data.length < need := by
        refine Nat.lt_of_not_le fun hle => hends (h.none_iff.mpr ?_)
        have hcount : self.data.length + o.2.2 = (input self need limit fd).length := hcnt
        exact hle.trans ((Nat.le_add_right _ _).trans hcount.le)
      have hlimit := hlen hshort
      rcases fd with _ | errno | ⟨s, readable⟩
      · exact absurd hpos (Nat.lt_irrefl 0)
      · exact absurd hpos (Nat.lt_irrefl 0)
      · have hlength : 0 < s.length := hpos
        rw [input, if_pos hshort, Option.map_some, Option.getD_some, ReadResult.taken,
          length_append, length_take] at hcnt
        show 0 < o.2.2
        omega
  · rw [fill.eq_def]
    split_ifs with hnd
    · cases fd with
      | none => exact filled_of_no_read hin (by rw [if_pos hnd]) fun _ => rfl
      | some io =>
        dsimp only
        rw [sshReadSome, require_of_not hlim]
        exact ⟨by simp, Nat.le_of_not_lt hlim⟩
    · exact filled_of_no_read hin (by rw [if_neg hnd]) fun hlt => absurd hlt hnd

/-! ### The parts of the function -/

section Parts

variable {r : ServiceReadState}

theorem pending_of_ne_zero (hr : r.packetLength ≠ 0) :
    r.pending = writeUint32 r.seqno ++ (writeUint32 r.packetLength ++ r.data) := if_neg hr

theorem pending_of_eq_zero (hr : r.packetLength = 0) : r.pending = r.data := if_pos hr

variable {r' : ServiceReadState}

/-- Nothing complete is at the front of the stream. -/
theorem outcome_of_incomplete {status : ReadStatus Packet}
    (hfrt : front (r.pending ++ fdOctets fd n) = .incomplete)
    (hcount : (fdOctets fd n).length = n) (hsta : ∀ p, status ≠ .complete p) (hsnd : Sound r')
    (hpen : r'.pending = r.pending ++ fdOctets fd n) (hcln : Clean fd → status.settled = false)
    (hprogress : 0 < fdLength fd → 0 < n) :
    Outcome r fd (status, r', n) where
  count := hcount
  packet := fun p hp => by cases hfrt.symm.trans hp
  bad := fun msg hmsg => by cases hfrt.symm.trans hmsg
  incomplete := fun _ => ⟨hsta, hsnd, hpen, hcln⟩
  progress := fun _ => hprogress

/-- The body, after its header has been accepted. -/
theorem readBody_ensures (h : Sound r) (hr : r.packetLength ≠ 0) (fd) :
    Ensures (fun _ => fd ≠ none ∧ r.packetLength = sshMaxPacket) (Outcome r fd)
      (readBody r fd) := by
  have hmax := h.packetLength_le
  refine Ensures.bind (P := Filled r.toSshReadState r.packetLength
    (r.packetLength + serviceReadAhead) fd) ?_ ?_
  · refine (fill_ensures (fun hlt => Nat.lt_add_right _ hlt) h.inside
      (fun _ => invalid_ne_complete _) fd).imp ?_ fun _ => id
    rintro e ⟨hfd, hlim⟩
    rw [h.size_eq] at hlim
    exact ⟨hfd, by omega⟩
  rintro ⟨stat, super, n⟩ hfi
  have hdata : super.data = r.data ++ fdOctets fd n := hfi.data_eq
  have hins : super.start + super.data.length ≤ super.size := hfi.inside
  have hah : super.data.length ≤ r.packetLength + serviceReadAhead := hfi.length_le h.ahead
  have hcount : (fdOctets fd n).length = n := hfi.count
  have hstm : r.pending ++ fdOctets fd n =
      writeUint32 r.seqno ++ (writeUint32 r.packetLength ++ super.data) := by
    rw [pending_of_ne_zero hr, hdata]
    simp
  have hfrt := front_header h.seqno_lt (Nat.pos_of_ne_zero hr) hmax super.data
  rw [← hstm] at hfrt
  cases stat with
  | some stat =>
    have hsh : super.data.length < r.packetLength :=
      Nat.lt_of_not_le fun hle => by cases hfi.none_iff.mpr hle
    rw [if_pos hsh] at hfrt
    refine outcome_of_incomplete hfrt hcount (fun p hp => hfi.incomplete p (congrArg some hp))
      ⟨hfi.size_eq.trans h.size_eq, hins, hmax, h.seqno_lt, hah⟩ ?_
      (fun hcln => hfi.waiting hcln _ rfl) (hfi.progress (by simp))
    rw [hstm, pending_of_ne_zero (r := r.setBuffer super) hr]
    rfl
  | none =>
    have hlg : r.packetLength ≤ super.data.length := hfi.none_iff.mp rfl
    rw [if_neg (Nat.not_lt.mpr hlg)] at hfrt
    refine ⟨hcount, ?_, fun msg hmsg => ?_, fun hi => ?_, fun hi => ?_⟩
    · intro p hp
      cases hfrt.symm.trans hp
      refine ⟨rfl, ⟨hfi.size_eq.trans h.size_eq, ?_, Nat.zero_le _, h.seqno_lt, ?_⟩, rfl, ?_⟩
      · show super.start + r.packetLength + (super.data.drop r.packetLength).length ≤ super.size
        rw [length_drop]
        omega
      · show (super.data.drop r.packetLength).length ≤ 0 + serviceReadAhead
        rw [length_drop]
        omega
      · show r.pending ++ fdOctets fd n = _ ++ super.data.drop r.packetLength
        rw [hstm, frame, length_take_of_le hlg, append_assoc, append_assoc,
          take_append_drop]
    · cases hfrt.symm.trans hmsg
    · cases hfrt.symm.trans hi
    · cases hfrt.symm.trans hi

variable {msg : String}

/-- A header that is not accepted. -/
theorem parseHeader_of_bad (hr : front r.data = .bad msg) :
    parseHeader r = (some (invalid msg),
      { r with seqno := readUint32 r.data, packetLength := lengthField r.data }) := by
  rw [front] at hr
  split_ifs at hr with h1 h2 h3 h4
  · cases hr
    exact if_pos h2
  · cases hr
    exact (if_neg h2).trans (if_pos h3)

/-- The state after a header that is accepted. -/
def ServiceReadState.accept (self : ServiceReadState) : ServiceReadState :=
  { self with
    start := self.start + serviceHeaderSize
    data := self.data.drop serviceHeaderSize
    seqno := readUint32 self.data
    packetLength := lengthField self.data }

theorem parseHeader_of_le (hpos : lengthField r.data ≠ 0)
    (hle : lengthField r.data ≤ sshMaxPacket) :
    parseHeader r = (none, r.accept) := by
  exact (if_neg hpos).trans (if_neg (Nat.not_lt.mpr hle))

theorem pending_accept (hlen : serviceHeaderSize ≤ r.data.length) (hpos : lengthField r.data ≠ 0) :
    r.accept.pending = r.data := by
  rw [pending_of_ne_zero hpos]
  exact (header_eq hlen).symm

theorem sound_accept (hsize : r.size = sshMaxPacket + serviceReadAhead)
    (hins : Inside r.toSshReadState) (hlen : serviceHeaderSize ≤ r.data.length)
    (hah : r.data.length ≤ serviceReadAhead) (hle : lengthField r.data ≤ sshMaxPacket) :
    Sound r.accept := by
  have hin : r.start + r.data.length ≤ r.size := hins
  have hdp : (r.data.drop serviceHeaderSize).length + serviceHeaderSize = r.data.length := by
    rw [length_drop]
    omega
  refine ⟨hsize, ?_, hle, readUint32_lt _, ?_⟩
  · show r.start + serviceHeaderSize + (r.data.drop serviceHeaderSize).length ≤ r.size
    omega
  · show (r.data.drop serviceHeaderSize).length ≤ lengthField r.data + serviceReadAhead
    omega

variable {o : ReadStatus Packet × ServiceReadState × ℕ}

/-- What is found in the rest of a stream is found in the whole of it. -/
theorem Outcome.of_eq {fd' : Option ReadResult} (h : Outcome r' fd' o)
    (hstm : r'.pending ++ fdOctets fd' o.2.2 = r.pending ++ fdOctets fd (n + o.2.2))
    (hcount : (fdOctets fd (n + o.2.2)).length = n + o.2.2) (hcln : Clean fd → Clean fd')
    (hprogress : 0 < fdLength fd → 0 < n ∨ 0 < fdLength fd') :
    Outcome r fd (o.1, o.2.1, n + o.2.2) where
  count := hcount
  packet := by
    rw [← hstm]
    exact h.packet
  bad := by
    rw [← hstm]
    exact h.bad
  incomplete := by
    rw [← hstm]
    intro hf
    obtain ⟨hp, hsnd, hpen, hset⟩ := h.incomplete hf
    exact ⟨hp, hsnd, hpen, fun hc => hset (hcln hc)⟩
  progress := by
    rw [← hstm]
    intro hf hpos
    rcases hprogress hpos with hn | hpos'
    · exact Nat.add_pos_left hn _
    · exact Nat.add_pos_right _ (h.progress hf hpos')

/-- **`service_read_packet`** finds what is at the front of the stream, unless a header with the
length `SSH_MAX_PACKET` is in the buffer. -/
theorem serviceReadPacket_ensures (h : Sound r) (fd) :
    Ensures (fun _ => serviceHeaderSize ≤ r.pending.length ∧ lengthField r.pending = sshMaxPacket)
      (Outcome r fd) (serviceReadPacket r fd) := by
  by_cases hr : r.packetLength = 0
  · have hpen := pending_of_eq_zero hr
    rw [serviceReadPacket, readHeader, if_neg (not_not.mpr hr)]
    have hsize : serviceReadAhead < r.size := by
      rw [h.size_eq]
      exact Nat.lt_add_of_pos_left (by decide)
    have hsh : r.data.length < serviceHeaderSize → r.data.length < serviceReadAhead :=
      fun hlt => Nat.lt_trans hlt (by decide)
    have hfi : Yields
        (Filled r.toSshReadState serviceHeaderSize serviceReadAhead fd)
        (fill r.toSshReadState serviceHeaderSize serviceReadAhead (fun data =>
          if data.length = 0 then .eof else invalid "Unexpected EOF") fd) := by
      refine (fill_ensures hsh h.inside (fun data p => ?_) fd).imp ?_ fun _ => id
      · split
        · exact nofun
        · exact invalid_ne_complete _ p
      · exact fun _ he => absurd hsize (Nat.not_lt.mpr he.2)
    obtain ⟨⟨stat, super, n⟩, heq, hfil⟩ := hfi.exists_ok
    have hdata : super.data = r.pending ++ fdOctets fd n := by
      rw [hpen]
      exact hfil.data_eq
    rw [heq, ok_bind]
    have hcount : (fdOctets fd n).length = n := hfil.count
    cases stat with
    | some stat =>
      have hlen : super.data.length < serviceHeaderSize :=
        Nat.lt_of_not_le fun hle => nomatch hfil.none_iff.mpr hle
      have hf : front (r.pending ++ fdOctets fd n) = .incomplete := by
        rw [← hdata, front, if_pos hlen]
      refine outcome_of_incomplete hf hcount (fun p hp => hfil.incomplete p (congrArg some hp))
        ⟨hfil.size_eq.trans h.size_eq, hfil.inside, h.packetLength_le, h.seqno_lt, ?_⟩ ?_ ?_
        (hfil.progress (by simp))
      · exact (Nat.le_of_lt (Nat.lt_trans hlen (by decide))).trans (Nat.le_add_left _ _)
      · rw [pending_of_eq_zero (r := r.setBuffer super) hr]
        exact hdata
      · exact fun hcln => hfil.waiting hcln _ rfl
    | none =>
      have hlen : serviceHeaderSize ≤ super.data.length := hfil.none_iff.mp rfl
      have hah : super.data.length ≤ serviceReadAhead := by
        refine hfil.length_le ?_
        have := h.ahead
        rwa [hr] at this
      have hsize : super.size = sshMaxPacket + serviceReadAhead := hfil.size_eq.trans h.size_eq
      dsimp only
      rw [require_of hlen]
      by_cases hbad : lengthField super.data = 0 ∨ sshMaxPacket < lengthField super.data
      · obtain ⟨msg, hmsg⟩ : ∃ msg, front super.data = .bad msg := by
          rw [front, if_neg (Nat.not_lt.mpr hlen)]
          by_cases hz0 : lengthField super.data = 0
          · exact ⟨_, if_pos hz0⟩
          · exact ⟨_, (if_neg hz0).trans (if_pos (hbad.resolve_left hz0))⟩
        have hf := hmsg
        rw [hdata] at hf
        rw [parseHeader_of_bad (r := r.setBuffer super) hmsg]
        refine ⟨hcount, fun p hp => ?_, fun msg' hmsg' => ?_, fun hi => ?_, fun hi => ?_⟩
        · cases hf.symm.trans hp
        · cases hf.symm.trans hmsg'
          exact ⟨rfl, hdata, hah, congrArg lengthField hdata⟩
        · cases hf.symm.trans hi
        · cases hf.symm.trans hi
      · obtain ⟨hpos, hle⟩ := not_or.mp hbad
        have hle := Nat.le_of_not_lt hle
        have hsnd := sound_accept (r := r.setBuffer super) hsize hfil.inside hlen hah hle
        have hacp := pending_accept (r := r.setBuffer super) hlen hpos
        rw [parseHeader_of_le (r := r.setBuffer super) hpos hle]
        show Ensures _ _ (readBody (r.setBuffer super).accept
          (if r.data.length < serviceHeaderSize then none else fd) >>=
            fun o => pure (o.1, o.2.1, n + o.2.2))
        refine Ensures.bind ((readBody_ensures hsnd hpos _).imp ?_ fun _ => id) ?_
        · rintro e ⟨hfd, hla⟩
          have hlg : serviceHeaderSize ≤ r.data.length := by
            refine Nat.le_of_not_lt fun hlt => hfd ?_
            rw [if_pos hlt]
          have hz0 : n = 0 := hfil.unread (.inl hlg)
          rw [hz0, fdOctets_zero, append_nil] at hdata
          exact ⟨hdata ▸ hlen, hdata ▸ hla⟩
        · rintro ⟨stat, r', m⟩ ho
          by_cases hlg : r.data.length < serviceHeaderSize
          · rw [if_pos hlg] at ho
            have hm : m = 0 := ho.count.symm
            have hread : 0 < n := by
              have hlength := congrArg List.length hdata
              rw [hpen, length_append, hcount] at hlength
              omega
            refine ho.of_eq ?_ (by rw [hm]; exact hcount) (fun _ => trivial) fun _ => .inl hread
            rw [hacp, hm, fdOctets_zero, append_nil]
            exact hdata
          · rw [if_neg hlg] at ho
            have hz0 : n = 0 := hfil.unread (.inl (Nat.le_of_not_lt hlg))
            refine ho.of_eq ?_ (by rw [hz0, Nat.zero_add]; exact ho.count) id .inr
            rw [hz0, fdOctets_zero, append_nil] at hdata
            rw [hacp, hz0, Nat.zero_add, ← hdata]
            rfl
  · rw [serviceReadPacket, readHeader, if_pos hr]
    show Ensures _ _ (readBody r fd >>= fun o => pure (o.1, o.2.1, 0 + o.2.2))
    refine Ensures.bind ((readBody_ensures h hr fd).imp ?_ fun _ => id) ?_
    · rintro e ⟨-, he⟩
      rw [pending_of_ne_zero hr, lengthField_header _ (by have := sshMaxPacket_lt; omega)]
      refine ⟨?_, he⟩
      simp only [length_append, length_writeUint32, serviceHeaderSize]
      omega
    · rintro ⟨stat, r', m⟩ hbo
      exact hbo.of_eq (by simp) (by rw [Nat.zero_add]; exact hbo.count) id .inr

/-! ### After an error -/

/-- The header of an empty packet stays in the buffer, and is found again by the next call. -/
theorem serviceReadPacket_empty (hr : r.packetLength = 0) (hlen : serviceHeaderSize ≤ r.data.length)
    (hz0 : lengthField r.data = 0) (fd) :
    serviceReadPacket r fd =
      .ok (invalid "Received empty packet", { r with seqno := readUint32 r.data }, 0) := by
  have hfi : ∀ eof, fill r.toSshReadState serviceHeaderSize serviceReadAhead eof fd =
      .ok (none, r.toSshReadState, 0) := by
    intro eof
    rw [fill.eq_def, if_neg (Nat.not_lt.mpr hlen)]
    rfl
  have hfrt : front r.data = .bad "Received empty packet" := by
    rw [front, if_neg (Nat.not_lt.mpr hlen), if_pos hz0]
  have hparse := parseHeader_of_bad (r := r.setBuffer r.toSshReadState) hfrt
  rw [serviceReadPacket, readHeader, if_neg (not_not.mpr hr), hfi, ok_bind]
  dsimp only
  rw [require_of hlen, hparse]
  show Except.ok (invalid _, { r with
    seqno := readUint32 r.data, packetLength := lengthField r.data }, 0) = _
  rw [hz0, ← hr]

/-- A packet of which too little is in the buffer, and nothing to read. -/
theorem serviceReadPacket_short (hr : r.packetLength ≠ 0)
    (hsh : r.data.length < r.packetLength) :
    serviceReadPacket r none = .ok (r.readStatus.toStatus, r, 0) := by
  rw [serviceReadPacket, readHeader, if_pos hr]
  show (readBody r none >>= fun o => pure (o.1, o.2.1, 0 + o.2.2)) = _
  rw [readBody, fill.eq_def, if_pos hsh]
  rfl

/-- A reader that has no packet to return, and will not have one without reading. -/
inductive Quiet (r : ServiceReadState) : Prop where
  | idle (sound : Sound r) (without : (front r.pending).isPacket = false)
  | empty (zero : r.packetLength = 0) (header : serviceHeaderSize ≤ r.data.length)
    (length : lengthField r.data = 0)
  | tooLarge (large : r.packetLength ≠ 0) (short : r.data.length < r.packetLength)

/-- A header that is not accepted leaves the reader without a packet. -/
theorem Outcome.quiet_of_bad (h : Outcome r fd o)
    (hbad : front (r.pending ++ fdOctets fd o.2.2) = .bad msg) : Quiet o.2.1 := by
  obtain ⟨-, hdata, hah, hlen⟩ := h.bad msg hbad
  rw [← hdata] at hbad hlen
  rw [front] at hbad
  split_ifs at hbad with hhd hz0 hlrg
  · exact .empty (hlen.trans hz0) (Nat.le_of_not_lt hhd) hz0
  · refine .tooLarge (hlen ▸ hz0) ?_
    have hmax : serviceReadAhead < sshMaxPacket := by decide
    omega

theorem Quiet.read (h : Quiet r) (ho : serviceReadPacket r none = .ok o) :
    (∀ p, o.1 ≠ .complete p) ∧ Quiet o.2.1 := by
  cases h with
  | idle sound without =>
    have hout := serviceReadPacket_ensures sound none
    rw [ho] at hout
    cases hfrt : front (r.pending ++ fdOctets none o.2.2) with
    | packet p =>
      rw [fdOctets_none, append_nil] at hfrt
      rw [hfrt] at without
      cases without
    | bad msg =>
      refine ⟨fun p hp => ?_, hout.quiet_of_bad hfrt⟩
      exact invalid_ne_complete msg p ((hout.bad msg hfrt).1.symm.trans hp)
    | incomplete =>
      obtain ⟨hcmp, hsnd, hpen, -⟩ := hout.incomplete hfrt
      refine ⟨hcmp, .idle hsnd ?_⟩
      rw [hpen, hfrt]
      rfl
  | empty zero header len =>
    rw [serviceReadPacket_empty zero header len] at ho
    cases ho
    exact ⟨invalid_ne_complete _, .empty zero header len⟩
  | tooLarge large short =>
    rw [serviceReadPacket_short large short] at ho
    cases ho
    exact ⟨Readiness.toStatus_ne_complete _, .tooLarge large short⟩

end Parts

end Lsh.Service
