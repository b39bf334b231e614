
import Lsh.Io.Write
import Lsh.Service.Read

/-!
# Framing on a pipe

One direction of the communication between two processes: a buffer for writing, the octets that are
on their way, and a reader at the other end. The functions that write are
`transport_forward_service_packet` and `write_packet` of `client.c`; the one that reads is
`service_read_packet`.

`Pipe.stream` is all that is on its way, in order. Writing appends to it, flushing does not change
it, and reading takes a packet from its front. A stream is in order (`Carries`) if it is a sequence
of framed packets that are shorter than `SSH_MAX_PACKET`. The reader cannot cope with longer ones:
it reads up to `packet_length + SERVICE_READ_AHEAD` octets, which has to be less than the size of
its buffer.

## Main results

* `Carries.forward`, `Carries.flush`, `Carries.read` — what the operations do to the stream
* `run_pipeStep_lossless` — packets arrive once, in order, however the stream is cut into pieces
* `run_pipeStep_longPacket` — what happens with longer packets
-/

namespace Lsh.Service

open Machine Octets Transport Io List

/-! ### Writing -/

/-- How an operation on a pipe can fail. -/
inductive ServiceFailure where
  /-- An assertion of the functions that read. -/
  | read (assertion : Assertion)
  /-- An assertion of the functions that write. -/
  | write (assertion : WriteAssertion)
  /-- `transport_forward_service_packet`: the packet is not empty. -/
  | length
  /-- The reader reports a protocol error. -/
  | protocolError (msg : Option String)
  deriving DecidableEq

/-- `FORWARD_WRITE_BUFFER_SIZE`. -/
def forwardWriteBufferSize : ℕ := 3 * sshMaxPacket

/-- What `transport_forward_service_packet` does with a packet. -/
inductive Forwarded where
  /-- It returns 0. -/
  | refused
  /-- It returns 1. -/
  | accepted
  /-- It returns 1, after `transport_disconnect`. -/
  | disconnected
  deriving DecidableEq, Repr

/-- A write that has failed for another reason than that it would block. -/
def writeFailed (done : Except WriteError ℕ) : Bool :=
  match done with
  | .ok _ | .error .wouldBlock => false
  | .error .failed | .error .overflow => true

/-- `transport_forward_service_packet`, with the results of the writes of header and packet. Besides
what it does, the new state of the buffer and the octets written. -/
def transportForwardServicePacket (self : SshWriteState) (seqno : ℕ) (packet : Octets)
    (res₁ res₂ : WriteResult) :
    Except ServiceFailure (Forwarded × SshWriteState × Octets) := do
  require (0 < packet.length) .length
  if sshWriteAvailable self < packet.length + serviceHeaderSize then
    return (.refused, self, [])
  else
    let w ← (sshWriteData self 0 (writeUint32 seqno ++ writeUint32 packet.length) res₁).mapError
      .write
    if writeFailed w.done then
      return (.disconnected, w.state, w.output)
    else
      let v ← (sshWriteData w.state 0 packet res₂).mapError .write
      return (if writeFailed v.done then .disconnected else .accepted, v.state,
        w.output ++ v.output)

/-! ### Pipes -/

/-- A pipe with its two ends. -/
structure Pipe where
  writer : SshWriteState
  /-- The octets that have been written and not read. -/
  octets : Octets
  reader : ServiceReadState

namespace Pipe

/-- An empty pipe, with a buffer for writing. -/
def init (bufferSize : ℕ) : Pipe := ⟨initSshWriteState bufferSize, [], .make⟩

/-- All that is on its way. -/
def stream (p : Pipe) : Octets := p.reader.pending ++ (p.octets ++ p.writer.buffer)

/-- `transport_forward_service_packet`. -/
def forward (p : Pipe) (seqno : ℕ) (packet : Octets) (res₁ res₂ : WriteResult) :
    Except ServiceFailure (Forwarded × Pipe) := do
  let (forwarded, writer, output) ← transportForwardServicePacket p.writer seqno packet res₁ res₂
  return (forwarded, { p with writer := writer, octets := p.octets ++ output })

/-- `ssh_write_flush`, if there is something to write. -/
def flush (p : Pipe) (res : WriteResult) : Except ServiceFailure (Except WriteError ℕ × Pipe) := do
  let w ← (sshWriteFlush p.writer 0 res).mapError .write
  return (w.done, { p with writer := w.state, octets := p.octets ++ w.output })

/-- What there is to read: at most `n + 1` octets. Without a size there is no file descriptor. -/
def fd (p : Pipe) (size : Option (ℕ × Bool)) : Option ReadResult :=
  size.map fun (n, readable) => (ServiceInput.octets n readable).result p.octets

/-- `service_read_packet`. Without a size it is called with a negative file descriptor. -/
def read (p : Pipe) (size : Option (ℕ × Bool)) :
    Except ServiceFailure (ReadStatus Packet × Pipe) := do
  let fd := p.fd size
  let (status, reader, n) ← (serviceReadPacket p.reader fd).mapError .read
  return (status, { p with octets := p.octets.drop n, reader := reader })

end Pipe

/-! ### The stream -/

/-- A packet that the reader can cope with. -/
structure Acceptable (pk : Packet) : Prop where
  seqno_lt : pk.1 < 2 ^ 32
  length_pos : 0 < pk.2.length
  length_lt : pk.2.length < sshMaxPacket

/-- The packets on their way are these. -/
structure Carries (p : Pipe) (packets : List Packet) : Prop where
  sound : Sound p.reader
  stream_eq : p.stream = frames packets
  acceptable : ∀ pk ∈ packets, Acceptable pk

theorem carries_init (bufferSize) : Carries (.init bufferSize) [] where
  sound := sound_make
  stream_eq := rfl
  acceptable := nofun

section Prefixes

variable {s t u : Octets} {pk : Packet}

/-- The length of a packet is known as soon as its header has arrived. -/
theorem lengthField_of_append_eq (h : s ++ t = frame pk ++ u) (hs : serviceHeaderSize ≤ s.length)
    (hpk : Acceptable pk) : lengthField s = pk.2.length := by
  have hs' : 8 ≤ s.length := hs
  have hmax := sshMaxPacket_lt
  have hlt := hpk.length_lt
  have hlef : lengthField (s ++ t) = lengthField s := by
    rw [lengthField, drop_append_of_le_length (by omega),
      readUint32_append (by rw [length_drop]; omega), lengthField]
  have hright : lengthField (frame pk ++ u) = pk.2.length := by
    exact lengthField_header _ (by omega) _
  rw [← hlef, h, hright]

/-- A part of a packet is not taken for anything else. -/
theorem front_of_append_eq (h : s ++ t = frame pk ++ u) (hpk : Acceptable pk)
    (hs : s.length < (frame pk).length) : front s = .incomplete := by
  rw [length_frame] at hs
  rw [front]
  by_cases hhd : s.length < serviceHeaderSize
  · rw [if_pos hhd]
  · have hfd := lengthField_of_append_eq h (Nat.le_of_not_lt hhd) hpk
    have hlt := hpk.length_lt
    rw [if_neg hhd, if_neg (by omega), if_neg (by omega), if_pos (by omega)]

/-- What is at the front of the part of a stream that has arrived: nothing yet, or its first
packet. -/
theorem front_of_frames {packets : List Packet} (h : s ++ t = frames packets)
    (hpks : ∀ pk ∈ packets, Acceptable pk) :
    front s = .incomplete ∨
      ∃ pk rest, packets = pk :: rest ∧ front s = .packet pk ∧ (frame pk).length ≤ s.length := by
  cases packets with
  | nil =>
    have hs : s = [] := (List.append_eq_nil_iff.mp h).1
    left
    rw [hs]
    rfl
  | cons pk rest =>
    have hpk := hpks pk mem_cons_self
    by_cases hs : s.length < (frame pk).length
    · exact .inl (front_of_append_eq h hpk hs)
    · have hpre : frame pk <+: s :=
        prefix_of_prefix_length_le ⟨frames rest, h.symm⟩ ⟨t, rfl⟩ (Nat.le_of_not_lt hs)
      obtain ⟨v, rfl⟩ := hpre
      exact .inr ⟨pk, rest, rfl,
        front_frame_append hpk.seqno_lt hpk.length_pos (Nat.le_of_lt hpk.length_lt) v,
        Nat.le_of_not_lt hs⟩

end Prefixes

/-! ### The operations -/

section Operations

variable {packets : List Packet}

/-- What `transport_forward_service_packet` leaves behind. -/
structure Forwards (s : SshWriteState) (pk : Packet) (o : Forwarded × SshWriteState × Octets) :
    Prop where
  size_eq : o.2.1.size = s.size
  refused : o.1 = .refused → o.2.1 = s ∧ o.2.2 = []
  refused_iff : o.1 = .refused ↔ s.size < s.buffer.length + (frame pk).length
  accepted : o.1 = .accepted → o.2.2 ++ o.2.1.buffer = s.buffer ++ frame pk

variable {pk : Packet}

/-- **`transport_forward_service_packet`** puts the whole packet on its way, or nothing if there is
no room for it. -/
theorem transportForwardServicePacket_ensures (s) (hpk : 0 < pk.2.length) (res₁ res₂) :
    Yields (Forwards s pk) (transportForwardServicePacket s pk.1 pk.2 res₁ res₂) := by
  have hfr := length_frame pk
  rw [transportForwardServicePacket, require_of hpk, ok_bind]
  split_ifs with hrm
  · rw [sshWriteAvailable] at hrm
    exact ⟨rfl, fun _ => ⟨rfl, rfl⟩, iff_of_true rfl (by omega), by simp⟩
  · rw [sshWriteAvailable] at hrm
    have hfu : ¬s.size < s.buffer.length + (frame pk).length := by omega
    have hhd : (writeUint32 pk.1 ++ writeUint32 pk.2.length).length = serviceHeaderSize := by
      simp [serviceHeaderSize]
    have hfst : Yields
        (Written.Keeps s (writeUint32 pk.1 ++ writeUint32 pk.2.length))
        (sshWriteData s 0 (writeUint32 pk.1 ++ writeUint32 pk.2.length) res₁) := by
      refine sshWriteData_ensures ?_ ?_ (Nat.zero_le _) res₁
      · omega
      · rw [hhd]
        exact Nat.add_pos_right _ (by decide)
    refine Ensures.bind (Ensures.mapError hfst) fun w hw => ?_
    have hlen := hw.length_le
    split
    · exact ⟨hw.size_eq, by simp, iff_of_false (by simp) hfu, by simp⟩
    · have hsec : Yields (Written.Keeps w.state pk.2) (sshWriteData w.state 0 pk.2 res₂) := by
        refine sshWriteData_ensures ?_ (Nat.add_pos_right _ hpk) (Nat.zero_le _) res₂
        rw [hw.size_eq]
        omega
      refine Ensures.bind (Ensures.mapError hsec) fun v hv => ?_
      refine ⟨hv.size_eq.trans hw.size_eq, ?_, iff_of_false ?_ hfu, fun _ => ?_⟩
      · intro h
        split at h <;> cases h
      · intro h
        split at h <;> cases h
      · rw [append_assoc, hv.append_eq, ← append_assoc, hw.append_eq, frame]
        simp

variable {p : Pipe}

theorem Carries.forward (h : Carries p packets) (hpk : Acceptable pk) (res₁ res₂) : Yields (fun o =>
        (o.1 = .refused ∧ o.2 = p ∧ p.writer.size < p.writer.buffer.length + (frame pk).length) ∨
        (o.1 = .accepted ∧ Carries o.2 (packets ++ [pk])) ∨ o.1 = .disconnected)
      (p.forward pk.1 pk.2 res₁ res₂) := by
  refine Ensures.bind (transportForwardServicePacket_ensures p.writer hpk.length_pos res₁ res₂) ?_
  rintro ⟨forwarded, writer, out⟩ ho
  cases forwarded with
  | refused =>
    obtain ⟨rfl, rfl⟩ : writer = p.writer ∧ out = [] := ho.refused rfl
    refine .inl ⟨rfl, ?_, ho.refused_iff.mp rfl⟩
    simp
  | accepted =>
    refine .inr (.inl ⟨rfl, h.sound, ?_, ?_⟩)
    · have hout : out ++ writer.buffer = p.writer.buffer ++ frame pk := ho.accepted rfl
      have hstm := h.stream_eq
      rw [Pipe.stream] at hstm ⊢
      simp only [append_assoc, hout, frames_append, frames_cons, frames_nil, append_nil,
        ← hstm]
    · simp only [mem_append, mem_singleton]
      rintro pk' (hpk' | rfl)
      · exact h.acceptable pk' hpk'
      · exact hpk
  | disconnected => exact .inr (.inr rfl)

theorem Carries.flush (h : Carries p packets) (hbfr : 0 < p.writer.buffer.length) (res) :
    Yields (fun o => Carries o.2 packets) (p.flush res) := by
  refine Ensures.bind (Ensures.mapError (sshWriteFlush_ensures hbfr (Nat.zero_le _) res)) ?_
  intro w hw
  refine ⟨h.sound, ?_, h.acceptable⟩
  have hout := hw.append_eq
  have hstm := h.stream_eq
  rw [Pipe.stream] at hstm ⊢
  rw [← hstm, append_assoc, hout, append_nil]

/-- Reading from a pipe is neither the end of file nor an error. -/
theorem Pipe.clean_fd (p : Pipe) (size) : Clean (p.fd size) := by
  rcases size with _ | ⟨n, readable⟩
  · trivial
  · simp only [Pipe.fd, Option.map_some, ServiceInput.result]
    split
    · rfl
    · rename_i hoct
      simpa [Clean] using hoct

/-- The octets that a read finds are the first ones in the pipe. -/
theorem Pipe.fdOctets_append_drop {size : Option (ℕ × Bool)} {n : ℕ} (p : Pipe)
    (h : (fdOctets (p.fd size) n).length = n) :
    fdOctets (p.fd size) n ++ p.octets.drop n = p.octets := by
  rcases size with _ | ⟨k, readable⟩
  · have hn : n = 0 := h.symm
    rw [hn]
    rfl
  · exact (ServiceInput.octets k readable).fdOctets_append_drop h

/-- There is something to read. -/
theorem Pipe.fdLength_fd_pos (p : Pipe) (hoctets : p.octets ≠ []) (size : ℕ × Bool) :
    0 < fdLength (p.fd (some size)) := by
  obtain ⟨n, readable⟩ := size
  have hlength := length_pos_iff.mpr hoctets
  have hresult : (ServiceInput.octets n readable).result p.octets =
      .octets (p.octets.take (n + 1)) readable := if_neg hoctets
  have hfd : p.fd (some (n, readable)) = some (.octets (p.octets.take (n + 1)) readable) :=
    congrArg some hresult
  rw [hfd, fdLength, length_take]
  omega

/-- **Reading** takes the first packet, if it has arrived, and nothing otherwise. If there are
octets in the pipe, some of them are read then. -/
theorem Carries.read (h : Carries p packets) (size) : Yields (fun o =>
        (∃ pk rest, packets = pk :: rest ∧ o.1 = .complete pk ∧ Carries o.2 rest) ∨
        (o.1.settled = false ∧ Carries o.2 packets ∧ front o.2.reader.pending = .incomplete ∧
          (size ≠ none → p.octets ≠ [] → o.2.octets.length < p.octets.length)))
      (p.read size) := by
  have hstm := h.stream_eq
  rw [Pipe.stream] at hstm
  refine Ensures.bind (Ensures.mapError
    ((serviceReadPacket_ensures h.sound _).imp ?_ fun _ => id)) ?_
  · rintro e ⟨hlen, hfd⟩
    cases packets with
    | nil =>
      rw [(List.append_eq_nil_iff.mp hstm).1] at hlen
      exact absurd hlen (by decide)
    | cons pk rest =>
      have hpk := h.acceptable pk mem_cons_self
      rw [lengthField_of_append_eq hstm hlen hpk] at hfd
      exact absurd hfd (Nat.ne_of_lt hpk.length_lt)
  · rintro ⟨stat, reader, n⟩ ho
    have hcln := p.clean_fd size
    have hpos : size ≠ none → p.octets ≠ [] → 0 < fdLength (p.fd size) := by
      intro hsize hoctets
      obtain ⟨size, rfl⟩ := Option.ne_none_iff_exists'.mp hsize
      exact p.fdLength_fd_pos hoctets size
    have hoct := p.fdOctets_append_drop ho.count
    generalize p.fd size = fd at *
    have hspl : (p.reader.pending ++ fdOctets fd n) ++ (p.octets.drop n ++ p.writer.buffer) =
        frames packets := by
      rw [← hstm]
      conv_rhs => rw [← hoct]
      simp
    rcases front_of_frames hspl h.acceptable with hf | ⟨pk, rest, rfl, hf, -⟩
    · obtain ⟨-, hsnd, hpen, hset⟩ := ho.incomplete hf
      refine .inr ⟨hset hcln, ⟨hsnd, ?_, h.acceptable⟩, ?_, fun hsize hoctets => ?_⟩
      · rw [Pipe.stream, hpen]
        exact hspl
      · rw [hpen]
        exact hf
      · have hn := ho.progress hf (hpos hsize hoctets)
        have hlength := length_pos_iff.mpr hoctets
        show (p.octets.drop n).length < p.octets.length
        rw [length_drop]
        exact Nat.sub_lt hlength hn
    · obtain ⟨hsta, hsnd, -, hpen⟩ := ho.packet pk hf
      refine .inl ⟨pk, rest, rfl, hsta, hsnd, ?_,
        fun pk' hpk' => h.acceptable pk' (mem_cons_of_mem _ hpk')⟩
      rw [hpen, append_assoc] at hspl
      exact append_cancel_left hspl

end Operations

/-! ### Runs -/

/-- A pipe together with what has gone through it. -/
structure Transfer where
  pipe : Pipe
  /-- The packets that have been accepted. -/
  sent : List Packet
  /-- The packets that have been returned at the other end. -/
  received : List Packet
  /-- The sender has disconnected. -/
  closed : Bool

/-- Before the first packet. -/
def Transfer.init : Transfer := ⟨.init forwardWriteBufferSize, [], [], false⟩

/-- What happens at the ends of a pipe. -/
inductive PipeEvent where
  /-- `transport_forward_service_packet`. -/
  | forward (seqno : UInt32) (packet : Octets) (res₁ res₂ : WriteResult)
  /-- The buffer is flushed. -/
  | flush (res : WriteResult)
  /-- `service_read_packet`, with the largest number of octets that `read` returns. -/
  | read (size : Option (ℕ × Bool))

/-- One event. -/
def pipeStep (t : Transfer) : PipeEvent → Except ServiceFailure Transfer
  | .forward seqno packet res₁ res₂ =>
    if t.closed then return t
    else do
      let (forwarded, pipe) ← t.pipe.forward seqno.toNat packet res₁ res₂
      match forwarded with
      | .refused => return t
      | .accepted => return { t with pipe := pipe, sent := t.sent ++ [(seqno.toNat, packet)] }
      | .disconnected => return { t with pipe := pipe, closed := true }
  | .flush res =>
    if t.closed ∨ t.pipe.writer.buffer.length = 0 then return t
    else do
      let (done, pipe) ← t.pipe.flush res
      return { t with pipe := pipe, closed := writeFailed done }
  | .read size => do
    let (status, pipe) ← t.pipe.read size
    match status with
    | .complete pk => return { t with pipe := pipe, received := t.received ++ [pk] }
    | .protocolError _ msg => throw (.protocolError msg)
    | _ => return { t with pipe := pipe }

/-- The packets have lengths from 1 to `SSH_MAX_PACKET - 1`, and `transport_forward_service_packet`
does not disconnect. -/
def PipeGuard (t : Transfer) : PipeEvent → Prop
  | .forward seqno packet res₁ res₂ =>
    0 < packet.length ∧ packet.length < sshMaxPacket ∧
      (t.pipe.forward seqno.toNat packet res₁ res₂).toOption.all (·.1 ≠ .disconnected) = true
  | _ => True

instance (t : Transfer) (e : PipeEvent) : Decidable (PipeGuard t e) := by
  unfold PipeGuard
  split <;> infer_instance

/-- The packets that have arrived are the first ones that were sent. If nothing is on its way any
more and the reader has no packet to return, they are all of them; and it comes to that, because a
call with octets in the pipe returns a packet or takes some of them. -/
structure Lossless (t : Transfer) : Prop where
  inOrder : t.received <+: t.sent
  arrived : t.pipe.writer.buffer = [] → t.pipe.octets = [] →
    (∀ o pk, serviceReadPacket t.pipe.reader none = .ok o → o.1 ≠ .complete pk) →
    t.received = t.sent
  progress : t.pipe.octets ≠ [] → ∀ size, Yields (fun o =>
    (∃ pk, o.1 = .complete pk) ∨ o.2.octets.length < t.pipe.octets.length)
      (t.pipe.read (some size))

/-- The packets that have not arrived are on their way. -/
def InTransit (t : Transfer) : Prop :=
  ∃ packets, t.sent = t.received ++ packets ∧ Carries t.pipe packets

variable {t : Transfer}

theorem InTransit.lossless (h : InTransit t) : Lossless t := by
  obtain ⟨packets, hsent, hcar⟩ := h
  refine ⟨⟨packets, hsent.symm⟩, fun hwrr hoct hread => ?_, fun hoct size => ?_⟩
  swap
  · refine (hcar.read (some size)).mono fun o ho => ?_
    rcases ho with ⟨pk, -, -, hpk, -⟩ | ⟨-, -, -, hless⟩
    · exact .inl ⟨pk, hpk⟩
    · exact .inr (hless (by simp) hoct)
  have hstm := hcar.stream_eq
  rw [Pipe.stream, hwrr, hoct, append_nil, append_nil] at hstm
  cases packets with
  | nil => rw [hsent, append_nil]
  | cons pk rest =>
    have hpk := hcar.acceptable pk mem_cons_self
    have hfrt : front t.pipe.reader.pending = .packet pk := by
      rw [hstm]
      exact front_frame_append hpk.seqno_lt hpk.length_pos (Nat.le_of_lt hpk.length_lt) _
    have hcall : Yields (Outcome t.pipe.reader none) (serviceReadPacket t.pipe.reader none) := by
      refine (serviceReadPacket_ensures hcar.sound none).imp ?_ fun _ => id
      rintro e ⟨hlen, hfd⟩
      rw [← append_nil t.pipe.reader.pending] at hstm
      rw [lengthField_of_append_eq hstm hlen hpk] at hfd
      exact absurd hfd (Nat.ne_of_lt hpk.length_lt)
    obtain ⟨o, ho, houtcome⟩ := hcall.exists_ok
    refine absurd (houtcome.packet pk ?_).1 (hread o pk ho)
    rw [fdOctets_none, append_nil]
    exact hfrt

theorem pipeStep_inTransit {e : PipeEvent} (h : InTransit t) (hg : PipeGuard t e) :
    Yields InTransit (pipeStep t e) := by
  obtain ⟨packets, hsent, hcar⟩ := h
  cases e with
  | forward seqno pkt res₁ res₂ =>
    obtain ⟨hpos, hlt, hacp⟩ := hg
    rw [pipeStep]
    split
    · exact ⟨packets, hsent, hcar⟩
    · have hpk : Acceptable (seqno.toNat, pkt) := ⟨seqno.toNat_lt, hpos, hlt⟩
      obtain ⟨⟨forwarded, pipe⟩, hfwd, ho⟩ :=
        (hcar.forward hpk res₁ res₂).exists_ok
      rw [hfwd] at hacp ⊢
      rcases ho with ⟨rfl, -⟩ | ⟨rfl, hnew⟩ | rfl
      · exact ⟨packets, hsent, hcar⟩
      · refine ⟨packets ++ [(seqno.toNat, pkt)], ?_, hnew⟩
        rw [hsent, append_assoc]
      · cases hacp
  | flush res =>
    rw [pipeStep]
    split
    · exact ⟨packets, hsent, hcar⟩
    · rename_i hopen
      refine Ensures.bind (hcar.flush (Nat.pos_of_ne_zero fun h => hopen (.inr h)) res) ?_
      exact fun o ho => ⟨packets, hsent, ho⟩
  | read size =>
    refine Ensures.bind (hcar.read size) ?_
    rintro ⟨stat, pipe⟩ (⟨pk, rest, rfl, rfl, hnew⟩ | ⟨hset, hnew, -⟩)
    · refine ⟨rest, ?_, hnew⟩
      rw [hsent, append_assoc]
      rfl
    · cases stat with
      | pending | push | ioError errno | eof => exact ⟨packets, hsent, hnew⟩
      | complete pk | protocolError error msg => cases hset

/-- **The framing is lossless** for packets shorter than `SSH_MAX_PACKET`: however the stream is cut
into pieces, the reader fails no assertion, reports no error, and returns the packets that were
accepted, in order. -/
theorem run_pipeStep_lossless (events : List PipeEvent)
    (hg : Guarded pipeStep PipeGuard .init events) :
    Ensures (fun _ => False) Lossless (run pipeStep .init events) := by
  refine (run_of_guarded (fun t e (ht : InTransit t) => pipeStep_inTransit ht) ?_ hg).mono
    fun t => InTransit.lossless
  exact ⟨[], rfl, carries_init _⟩

/-- A packet of `SSH_MAX_PACKET + 1` octets is accepted, and then refused by the reader. A packet of
`SSH_MAX_PACKET` octets makes the reader fail. -/
theorem run_pipeStep_longPacket :
    ((run pipeStep .init [.forward 0 (List.replicate (sshMaxPacket + 1) 0) (.wrote 7) (.wrote 0)]
        ).toOption.map (·.sent.length) = some 1 ∧
      run pipeStep .init [.forward 0 (List.replicate (sshMaxPacket + 1) 0) (.wrote 7) (.wrote 0),
        .read (some (7, true))] = .error (.protocolError (some "Packet too large"))) ∧
    (run pipeStep .init [.forward 0 (List.replicate sshMaxPacket 0) (.wrote 7) (.wrote 0)]
        ).toOption.map (·.sent.length) = some 1 ∧
      run pipeStep .init [.forward 0 (List.replicate sshMaxPacket 0) (.wrote 7) (.wrote 0),
        .read (some (7, true)), .read (some (0, true))] = .error (.read .readLimit) := by
  decide +kernel

/-- Three packets that are cut in the middle of a header and of a packet. -/
theorem run_pipeStep_lossless_chunks :
    let events : List PipeEvent := [.forward 7 [1, 2, 3] .wouldBlock .wouldBlock, .flush (.wrote 4),
      .forward 4294967295 [4] (.wrote 2) .wouldBlock, .read (some (2, true)),
      .read (some (8, false)),
      .flush (.wrote 40), .forward 9 [5, 6] (.wrote 40) (.wrote 40), .read (some (100, false)),
      .read none, .read none, .read none]
    Guarded pipeStep PipeGuard .init events ∧
      Ensures (fun _ => False) Lossless (run pipeStep .init events) ∧
      (run pipeStep .init events).toOption.map (·.received) =
        some [(7, [1, 2, 3]), (4294967295, [4]), (9, [5, 6])] := by
  intro events
  have hg : Guarded pipeStep PipeGuard .init events := by decide +kernel
  exact ⟨hg, run_pipeStep_lossless events hg, by decide +kernel⟩

end Lsh.Service
