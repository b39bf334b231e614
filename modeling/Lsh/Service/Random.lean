
import Lsh.Service.Client
import Lsh.Service.Pipe
import Lsh.Service.ReadLoops

/-!
# Requests for random octets

`lsh` has no source of randomness. It asks `lsh-transport` for random octets, on its own behalf and
on that of its gateway clients. Neither requests nor replies have an identifier: `lsh` keeps a queue
`pending_random` of those who wait, and takes each reply for the one that the first of them waits
for. So no reply may get lost.

Replies share a buffer with the packets from the network. For those, `forward_packet_handler`
reports that there is no room, and the packet is retried later. But
`lsh_transport_service_packet_handler` ignores what `transport_forward_service_packet` returns, and
then there is no reply.

A run ends when one of the two processes does, which is an error here. The other packets that are in
the pipes have no effect, apart from the room that they take.

## Main results

* `run_randomStep_oneForOne` — if there is always room for the reply, the n-th reply goes to the
  issuer of the n-th request
* `run_randomStep_shifted` — without room, the next reply goes to the wrong issuer
-/

namespace Lsh.Service

open Machine Octets Transport Io Wire List

/-! ### The two processes -/

/-- `SSH_FIRST_LOCAL`. -/
def sshFirstLocal : UInt8 := 192

/-- `RANDOM_REQUEST_MAX`. -/
def randomRequestMax : ℕ := 200

/-- `SSH_MSG_DISCONNECT`. -/
def sshMsgDisconnect : UInt8 := 1

/-- Who waits for random octets. -/
inductive Issuer where
  /-- `lsh` itself. -/
  | client
  /-- One of its gateway clients. -/
  | gateway (id : ℕ)
  deriving DecidableEq, Repr

/-- How a run can end. -/
inductive RandomFailure where
  /-- A failed assertion, or a pipe with something invalid in it. -/
  | service (failure : ServiceFailure)
  /-- `lsh` ends: a write has failed, its buffer is full, or it has received a packet of another
  layer. -/
  | exit
  /-- `lsh-transport` disconnects. -/
  | disconnect
  /-- `handle_random_reply` disconnects. -/
  | invalidReply
  deriving DecidableEq

/-- `lsh` and `lsh-transport`, with the pipes between them. -/
structure RandomState where
  /-- From `lsh` to `lsh-transport`. -/
  requests : Pipe
  /-- From `lsh-transport` to `lsh`. -/
  replies : Pipe
  pendingRandom : List Issuer
  /-- The issuers of all requests. -/
  issued : List Issuer
  /-- The replies that have been made. -/
  answers : List Octets
  /-- The replies that have been given to someone. -/
  delivered : List (Issuer × Octets)

/-- Before the first request. -/
def RandomState.init : RandomState :=
  ⟨.init connectionWriteBufferSize, .init forwardWriteBufferSize, [], [], [], []⟩

/-- `write_packet` of `client.c`, as far as it concerns the pipe. The sequence number is not
supported. -/
def Pipe.writePacket (p : Pipe) (packet : Octets) (res : WriteResult) :
    Except ServiceFailure (Except WriteError ℕ × Pipe) := do
  require (0 < packet.length) .length
  let w ← (sshWriteData p.writer 0 (frame (0, packet)) res).mapError .write
  return (w.done, { p with writer := w.state, octets := p.octets ++ w.output })

namespace RandomState

variable (s : RandomState)

/-- `write_packet`. -/
def writePacket (packet : Octets) (res : WriteResult) : Except RandomFailure RandomState := do
  let (done, requests) ← (s.requests.writePacket packet res).mapError .service
  if writeFailed done then throw .exit
  else return { s with requests := requests }

/-- Someone waits for a reply. -/
def wait (issuer : Issuer) : RandomState :=
  { s with issued := s.issued ++ [issuer], pendingRandom := s.pendingRandom ++ [issuer] }

/-- `client_random_request`. -/
def clientRandomRequest (length : ℕ) (res : WriteResult) : Except RandomFailure RandomState := do
  let s ← s.writePacket (sshLshRandomRequest :: writeUint32 length) res
  return s.wait .client

/-- `client_gateway_random_request`. -/
def clientGatewayRandomRequest (packet : Octets) (gateway : ℕ) (res : WriteResult) :
    Except RandomFailure RandomState := do
  let s ← s.writePacket packet res
  return s.wait (.gateway gateway)

/-- The first of those who wait gets a reply. -/
def deliver (packet : Octets) (issuer : Issuer) (rest : List Issuer) : RandomState :=
  { s with pendingRandom := rest, delivered := s.delivered ++ [(issuer, packet)] }

/-- `handle_random_reply`. The handler of `lsh` itself gets the string in the packet. -/
def handleRandomReply (packet : Octets) : Except RandomFailure RandomState :=
  match s.pendingRandom with
  -- "Unexpected message. Ignoring."
  | [] => return s
  | .gateway id :: rest => return s.deliver packet (.gateway id) rest
  | .client :: rest =>
    match (do let (_, eod) ← parseString packet.tail; parseEod eod) with
    | some () => return s.deliver packet .client rest
    | none => throw .invalidReply

end RandomState

/-- `SSH_LSH_RANDOM_REPLY`. -/
def randomReply (random : Octets) : Octets := sshLshRandomReply :: formatString random

/-- The length in a `SSH_LSH_RANDOM_REQUEST`, limited to `RANDOM_REQUEST_MAX`, of a packet without
its first octet. -/
def parseRandomRequest (body : Octets) : Option ℕ := do
  let (length, eod) ← parseUint32 body
  parseEod eod
  return min length randomRequestMax

/-- `lsh_transport_service_packet_handler`, with the random octets and the results of the writes. -/
def lshTransportServicePacketHandler (s : RandomState) (packet : Octets) (random : ℕ → UInt8)
    (res₁ res₂ : WriteResult) : Except RandomFailure RandomState := do
  require (0 < packet.length) (.service .length)
  if packet.headD 0 = sshLshRandomRequest then
    match parseRandomRequest packet.tail with
    | some length =>
      let response := randomReply ((List.range length).map random)
      -- a bogus sequence number
      let (forwarded, replies) ← (s.replies.forward 0 response res₁ res₂).mapError .service
      if forwarded = .disconnected then throw .disconnect
      -- whether the packet was refused makes no difference
      else return { s with replies := replies, answers := s.answers ++ [response] }
    | none => throw .disconnect
  -- `transport_forward_packet`
  else if packet.headD 0 = sshMsgDisconnect then throw .disconnect
  else return s

/-- `forward_packet_handler`. A packet that is refused is retried later, as another event. -/
def forwardPacketHandler (s : RandomState) (seqno : ℕ) (packet : Octets) (res₁ res₂ : WriteResult) :
    Except RandomFailure RandomState := do
  require (0 < packet.length) (.service .length)
  -- the peer gets `SSH_MSG_UNIMPLEMENTED`
  if sshFirstLocal ≤ packet.headD 0 then return s
  else
    let (forwarded, replies) ← (s.replies.forward seqno packet res₁ res₂).mapError .service
    if forwarded = .disconnected then throw .disconnect
    else return { s with replies := replies }

/-- A packet that `lsh` has read. -/
def lshPacketHandler (s : RandomState) (packet : Octets) : Except RandomFailure RandomState :=
  if packet.headD 0 < sshFirstConnectionGeneric then throw .exit
  else if packet.headD 0 = sshLshRandomReply then s.handleRandomReply packet
  -- `channel_packet_handler`
  else return s

/-! ### Runs -/

/-- What can happen. -/
inductive RandomEvent where
  /-- `lsh` issues a request. -/
  | clientRequest (length : ℕ) (res : WriteResult)
  /-- A gateway client issues a request, with anything after the message number. -/
  | gatewayRequest (gateway : ℕ) (body : Octets) (res : WriteResult)
  /-- `lsh` writes another packet. -/
  | clientWrite (msg : UInt8) (hmsg : msg ≠ sshLshRandomRequest) (body : Octets) (res : WriteResult)
  /-- `lsh` flushes its buffer. -/
  | clientFlush (res : WriteResult)
  /-- `lsh` reads. -/
  | clientRead (size : Option (ℕ × Bool))
  /-- `lsh-transport` receives a packet from the network. -/
  | network (seqno : UInt32) (packet : Octets) (res₁ res₂ : WriteResult)
  /-- `lsh-transport` flushes its buffer. -/
  | transportFlush (res : WriteResult)
  /-- `lsh-transport` reads. -/
  | transportRead (size : Option (ℕ × Bool)) (random : ℕ → UInt8) (res₁ res₂ : WriteResult)

/-- One event. -/
def randomStep (s : RandomState) : RandomEvent → Except RandomFailure RandomState
  | .clientRequest length res => s.clientRandomRequest length res
  | .gatewayRequest gateway body res =>
    s.clientGatewayRandomRequest (sshLshRandomRequest :: body) gateway res
  | .clientWrite msg _ body res => s.writePacket (msg :: body) res
  | .clientFlush res =>
    if s.requests.writer.buffer.length = 0 then return s
    else do
      let (done, requests) ← (s.requests.flush res).mapError .service
      if writeFailed done then throw .exit
      else return { s with requests := requests }
  | .clientRead size => do
    let (status, replies) ← (s.replies.read size).mapError .service
    let s := { s with replies := replies }
    match status with
    | .complete (_, packet) => lshPacketHandler s packet
    | .protocolError _ msg => throw (.service (.protocolError msg))
    | _ => return s
  | .network seqno packet res₁ res₂ => forwardPacketHandler s seqno.toNat packet res₁ res₂
  | .transportFlush res =>
    if s.replies.writer.buffer.length = 0 then return s
    else do
      let (done, replies) ← (s.replies.flush res).mapError .service
      if writeFailed done then throw .disconnect
      else return { s with replies := replies }
  | .transportRead size random res₁ res₂ => do
    let (status, requests) ← (s.requests.read size).mapError .service
    let s := { s with requests := requests }
    match status with
    | .complete (_, packet) => lshTransportServicePacketHandler s packet random res₁ res₂
    | .protocolError _ msg => throw (.service (.protocolError msg))
    | _ => return s

/-- The length of the random octets that a packet asks for. -/
def requestedLength : ReadStatus Packet → Option ℕ
  | .complete (_, packet) =>
    if packet.headD 0 = sshLshRandomRequest then parseRandomRequest packet.tail else none
  | _ => none

/-- When `lsh-transport` reads a request, its buffer has room for the reply. The packets are shorter
than `SSH_MAX_PACKET`, and not empty. -/
def RandomGuard (s : RandomState) : RandomEvent → Prop
  | .gatewayRequest _ body _ => body.length + 1 < sshMaxPacket
  | .clientWrite _ _ body _ => body.length + 1 < sshMaxPacket
  | .network _ packet _ _ => 0 < packet.length ∧ packet.length < sshMaxPacket
  | .transportRead size _ _ _ =>
    (s.requests.read size).toOption.all fun o => (requestedLength o.1).all fun length =>
      5 + length + serviceHeaderSize ≤ sshWriteAvailable s.replies.writer
  | _ => True

instance (s : RandomState) (e : RandomEvent) : Decidable (RandomGuard s e) := by
  unfold RandomGuard
  split <;> infer_instance

/-! ### Matching replies with requests -/

/-- The packets that are on their way. -/
def Pipe.packets (p : Pipe) : List Packet := completePackets p.stream.length p.stream

/-- A packet that begins with this octet. -/
def begins (msg : UInt8) (pk : Packet) : Bool := pk.2.headD 0 = msg

/-- The requests on their way. -/
def RandomState.requestsInFlight (s : RandomState) : List Octets :=
  (s.requests.packets.filter (begins sshLshRandomRequest)).map Prod.snd

/-- The replies on their way. -/
def RandomState.repliesInFlight (s : RandomState) : List Octets :=
  (s.replies.packets.filter (begins sshLshRandomReply)).map Prod.snd

/-- **Requests are answered one for one.** -/
structure OneForOne (s : RandomState) : Prop where
  /-- The n-th reply has been given to the issuer of the n-th request. -/
  delivered : s.delivered <+: s.issued.zip s.answers
  /-- The others wait. -/
  pending : s.pendingRandom = s.issued.drop s.delivered.length
  /-- The replies that they wait for are on their way, in the same order … -/
  replies : s.repliesInFlight = s.answers.drop s.delivered.length
  /-- … or have not been made, since the requests are on their way. -/
  number : s.pendingRandom.length = s.repliesInFlight.length + s.requestsInFlight.length
  /-- If nothing is on its way, every request has got its reply. -/
  settled : s.requestsInFlight = [] → s.repliesInFlight = [] → s.delivered.map Prod.fst = s.issued

/-- The same, with the packets that are in the pipes. -/
structure Outstanding (s : RandomState) (rq rp : List Packet) : Prop where
  requests : Carries s.requests rq
  replies : Carries s.replies rp
  issued_eq : s.issued = s.delivered.map Prod.fst ++ s.pendingRandom
  answers_eq : s.answers =
    s.delivered.map Prod.snd ++ (rp.filter (begins sshLshRandomReply)).map Prod.snd
  number : s.issued.length = s.answers.length + (rq.filter (begins sshLshRandomRequest)).length
  wellFormed : ∀ packet ∈ s.answers, ∃ random, packet = randomReply random ∧
    random.length ≤ randomRequestMax

/-- The same, whatever is in the pipes. -/
abbrev InOrder (s : RandomState) : Prop := ∃ rq rp, Outstanding s rq rp

theorem outstanding_init : Outstanding .init [] [] where
  requests := carries_init _
  replies := carries_init _
  issued_eq := rfl
  answers_eq := rfl
  number := rfl
  wellFormed := nofun

variable {packets : List Packet} {packet : Octets} {p : Pipe}

theorem Carries.packets_eq (h : Carries p packets) : p.packets = packets := by
  have hwf : ∀ pk ∈ packets, WellFormed pk := fun pk hpk =>
    have hacc := h.acceptable pk hpk
    ⟨hacc.seqno_lt, hacc.length_pos, Nat.le_of_lt hacc.length_lt⟩
  have hlen := length_le_frames packets
  obtain ⟨j, hj⟩ : ∃ j, (frames packets).length = packets.length + j :=
    ⟨(frames packets).length - packets.length, by omega⟩
  have happ := completePackets_frames_append hwf j []
  rw [append_nil, completePackets_nil, append_nil] at happ
  rw [Pipe.packets, h.stream_eq, hj, happ]

section Outstanding

variable {s : RandomState} {rq rp : List Packet}

theorem Outstanding.oneForOne (h : Outstanding s rq rp) : OneForOne s := by
  have hrps : s.repliesInFlight = (rp.filter (begins sshLshRandomReply)).map Prod.snd := by
    rw [RandomState.repliesInFlight, h.replies.packets_eq]
  have hrqs : s.requestsInFlight = (rq.filter (begins sshLshRandomRequest)).map Prod.snd := by
    rw [RandomState.requestsInFlight, h.requests.packets_eq]
  have hzip : (s.delivered.map Prod.fst).zip (s.delivered.map Prod.snd) = s.delivered := by
    rw [List.zip_map']
    exact map_id _
  have hnum : s.pendingRandom.length = s.repliesInFlight.length + s.requestsInFlight.length := by
    have hlen := h.number
    rw [h.issued_eq, h.answers_eq] at hlen
    rw [hrps, hrqs]
    simp only [length_append, length_map] at hlen ⊢
    omega
  refine ⟨?_, ?_, ?_, hnum, ?_⟩
  · rw [h.issued_eq, h.answers_eq, List.zip_append (by simp), hzip]
    exact prefix_append _ _
  · rw [h.issued_eq, drop_left' (by simp)]
  · rw [hrps, h.answers_eq, drop_left' (by simp)]
  · intro hnrq hnrp
    rw [hnrq, hnrp] at hnum
    rw [h.issued_eq, length_eq_zero_iff.mp hnum, append_nil]

/-- Nothing has been issued, answered or delivered, and what was put into the pipes is neither a
request nor a reply. -/
theorem Outstanding.frame {rq' rp' : List Packet} (h : Outstanding s rq rp) {reqs reps : Pipe}
    (hrqs : Carries reqs rq') (hrps : Carries reps rp')
    (hrq : rq'.filter (begins sshLshRandomRequest) = rq.filter (begins sshLshRandomRequest))
    (hrp : rp'.filter (begins sshLshRandomReply) = rp.filter (begins sshLshRandomReply)) :
    Outstanding { s with requests := reqs, replies := reps } rq' rp' where
  requests := hrqs
  replies := hrps
  issued_eq := h.issued_eq
  answers_eq := by rw [hrp]; exact h.answers_eq
  number := by rw [hrq]; exact h.number
  wellFormed := h.wellFormed

end Outstanding

/-! ### The steps -/

/-- How a run may end. -/
def Ended (f : RandomFailure) : Prop := f = .exit ∨ f = .disconnect

theorem Carries.writePacket (h : Carries p packets) (hpkt : Acceptable (0, packet)) (res) :
    Yields
      (fun o => writeFailed o.1 = false → Carries o.2 (packets ++ [(0, packet)]))
      (p.writePacket packet res) := by
  have hfr : 0 < (frame (0, packet)).length := by
    rw [length_frame]
    exact Nat.add_pos_left (by decide) _
  rw [Pipe.writePacket, require_of hpkt.length_pos, ok_bind]
  refine Ensures.bind (Ensures.mapError (sshWriteData_appends (.inr hfr) (Nat.zero_le _) res))
    fun w hw hdone => ?_
  have hout : w.output ++ w.state.buffer = p.writer.buffer ++ frame (0, packet) := by
    refine hw.append_eq fun hovf => ?_
    rw [hovf] at hdone
    cases hdone
  refine ⟨h.sound, ?_, ?_⟩
  · have hstm := h.stream_eq
    rw [Pipe.stream] at hstm ⊢
    simp only [append_assoc, hout, frames_append, frames_cons, frames_nil, append_nil,
      ← hstm]
  · simp only [mem_append, mem_singleton]
    rintro pk (hpk | rfl)
    · exact h.acceptable pk hpk
    · exact hpkt

section Steps

variable {s : RandomState} {rq rp : List Packet} {rest : List Packet} {pk : Packet}

/-- Writing a packet. -/
theorem Outstanding.writePacket (h : Outstanding s rq rp) (hpkt : Acceptable (0, packet)) (res) :
    Ensures Ended
      (fun s' => ∃ reqs, s' = { s with requests := reqs } ∧ Carries reqs (rq ++ [(0, packet)]))
      (s.writePacket packet res) := by
  refine Ensures.bind (Ensures.mapError
    ((h.requests.writePacket hpkt res).imp (fun _ => False.elim) fun _ => id)) ?_
  rintro ⟨done, reqs⟩ ho
  dsimp only
  split
  · exact .inl rfl
  · rename_i hdone
    exact ⟨reqs, rfl, ho (by simpa using hdone)⟩

/-- Issuing a request. -/
theorem Outstanding.issue {body : List UInt8} (h : Outstanding s rq rp)
    (hbo : body.length + 1 < sshMaxPacket)
    (res issuer) :
    Ensures Ended InOrder
      (do let s ← s.writePacket (sshLshRandomRequest :: body) res; return s.wait issuer) := by
  have hpkt : Acceptable (0, sshLshRandomRequest :: body) :=
    ⟨Nat.two_pow_pos 32, Nat.succ_pos _, hbo⟩
  refine Ensures.bind (h.writePacket hpkt res) ?_
  rintro _ ⟨reqs, rfl, hcar⟩
  refine ⟨_, rp, hcar, h.replies, ?_, h.answers_eq, ?_, h.wellFormed⟩
  · show s.issued ++ [issuer] = s.delivered.map Prod.fst ++ (s.pendingRandom ++ [issuer])
    rw [h.issued_eq, append_assoc]
  · show (s.issued ++ [issuer]).length = _
    rw [List.filter_append, length_append, length_append, h.number]
    rfl

theorem length_randomReply (random : Octets) : (randomReply random).length = 5 + random.length := by
  simp [randomReply, formatString]
  omega

theorem acceptable_randomReply {random : Octets} (h : random.length ≤ randomRequestMax) :
    Acceptable (0, randomReply random) := by
  have hmax : 5 + randomRequestMax < sshMaxPacket := by decide
  have hlen : (0, randomReply random).2.length = 5 + random.length := length_randomReply random
  exact ⟨Nat.two_pow_pos 32, by omega, by omega⟩

section
variable (h : Outstanding s rq rp)
include h

/-- `lsh_transport_service_packet_handler`, with room for a reply. -/
theorem Outstanding.handler {requests : Pipe} (hrq : rq = pk :: rest) (hrqs : Carries requests rest)
    (hrm : ∀ length ∈ requestedLength (.complete pk),
      5 + length + serviceHeaderSize ≤ sshWriteAvailable s.replies.writer) (random res₁ res₂) :
    Ensures Ended InOrder
      (lshTransportServicePacketHandler { s with requests := requests } pk.2 random res₁ res₂) := by
  have hpk := h.requests.acceptable pk (by rw [hrq]; exact mem_cons_self)
  rw [lshTransportServicePacketHandler, require_of hpk.length_pos, ok_bind]
  by_cases hmsg : pk.2.headD 0 = sshLshRandomRequest
  · rw [if_pos hmsg]
    rw [requestedLength, if_pos hmsg] at hrm
    cases hparse : parseRandomRequest pk.2.tail with
    | none => exact .inr rfl
    | some length =>
      have hle : length ≤ randomRequestMax := by
        simp only [parseRandomRequest, Option.bind_eq_bind, Option.pure_def,
          Option.bind_eq_some_iff, Option.some.injEq] at hparse
        omega
      have hlen : ((List.range length).map random).length = length := by simp
      have hresp := acceptable_randomReply (hlen.trans_le hle)
      have hfr := length_frame (0, randomReply ((List.range length).map random))
      dsimp only
      generalize (List.range length).map random = octets at hlen hresp hfr ⊢
      have hspc := hrm length hparse
      refine Ensures.bind (Ensures.mapError
        ((h.replies.forward hresp res₁ res₂).imp (fun _ => False.elim) fun _ => id)) ?_
      rintro ⟨forwarded, replies⟩ ho
      rcases ho with ⟨-, -, hfu⟩ | ⟨rfl, hrps⟩ | rfl
      · rw [sshWriteAvailable] at hspc
        rw [hfr, length_randomReply] at hfu
        omega
      · refine ⟨rest, _, hrqs, hrps, h.issued_eq, ?_, ?_, ?_⟩
        · rw [h.answers_eq, List.filter_append, map_append, append_assoc]
          rfl
        · have hnum := h.number
          rw [hrq, List.filter_cons_of_pos (by simpa [begins] using hmsg)] at hnum
          rw [length_append, hnum, length_cons, length_singleton]
          omega
        · simp only [mem_append, mem_singleton]
          rintro packet (hpkt | rfl)
          · exact h.wellFormed packet hpkt
          · exact ⟨octets, rfl, hlen.trans_le hle⟩
      · exact .inr rfl
  · rw [if_neg hmsg]
    split
    · exact .inr rfl
    · refine ⟨rest, rp, h.frame hrqs h.replies ?_ rfl⟩
      rw [hrq, List.filter_cons_of_neg (by simpa [begins] using hmsg)]

/-- A reply that arrives is the one that the first of those who wait waits for. -/
theorem Outstanding.handleRandomReply {reps : Pipe} (hrp : rp = pk :: rest)
    (hrps : Carries reps rest)
    (hmsg : pk.2.headD 0 = sshLshRandomReply) :
    Ensures Ended InOrder ({ s with replies := reps }.handleRandomReply pk.2) := by
  have hans := h.answers_eq
  rw [hrp, List.filter_cons_of_pos (by simpa [begins] using hmsg)] at hans
  have hdeliver : ∀ issuer pending, s.pendingRandom = issuer :: pending →
      Outstanding ({ s with replies := reps }.deliver pk.2 issuer pending) rq rest := by
    intro issuer pending hpen
    refine ⟨h.requests, hrps, ?_, ?_, h.number, h.wellFormed⟩
    · show s.issued = (s.delivered ++ [_]).map Prod.fst ++ pending
      rw [h.issued_eq, hpen]
      simp
    · show s.answers = (s.delivered ++ [_]).map Prod.snd ++ _
      rw [hans]
      simp
  rw [RandomState.handleRandomReply]
  cases hpen : s.pendingRandom with
  | nil =>
    have hnum := h.number
    rw [h.issued_eq, hans, hpen] at hnum
    simp only [length_append, length_map, length_cons, length_nil] at hnum
    omega
  | cons issuer pending =>
    have houts := hdeliver issuer pending hpen
    cases issuer with
    | gateway id => exact ⟨rq, rest, houts⟩
    | client =>
      obtain ⟨random, hrandom, hle⟩ := h.wellFormed pk.2 (by rw [hans]; simp)
      have hparse : parseString pk.2.tail = some (random, []) := by
        have hlt : random.length < 2 ^ 32 := by
          rw [randomRequestMax] at hle
          omega
        have htl : pk.2.tail = formatString random := by
          rw [hrandom]
          rfl
        have hformat := parseString_formatString hlt []
        rwa [append_nil, ← htl] at hformat
      rw [hparse]
      exact ⟨rq, rest, houts⟩

/-- `forward_packet_handler`: no reply comes from the network. -/
theorem Outstanding.forwardPacketHandler {seqno : ℕ} (hpkt : Acceptable (seqno, packet))
    (res₁ res₂) :
    Ensures Ended InOrder (forwardPacketHandler s seqno packet res₁ res₂) := by
  rw [Service.forwardPacketHandler, require_of hpkt.length_pos, ok_bind]
  split_ifs with hloc
  · exact ⟨rq, rp, h⟩
  · have hmsg : ¬begins sshLshRandomReply (seqno, packet) = true := by
      rw [begins, decide_eq_true_iff]
      intro hrep
      rw [hrep] at hloc
      exact hloc (by decide)
    refine Ensures.bind (Ensures.mapError
      ((h.replies.forward hpkt res₁ res₂).imp (fun _ => False.elim) fun _ => id)) ?_
    rintro ⟨forwarded, reps⟩ ho
    rcases ho with ⟨rfl, rfl, -⟩ | ⟨rfl, hrps⟩ | rfl
    · exact ⟨rq, rp, h⟩
    · refine ⟨rq, _, h.frame h.requests hrps rfl ?_⟩
      rw [List.filter_append, List.filter_cons_of_neg hmsg, List.filter_nil, append_nil]
    · exact .inr rfl

/-- A packet that `lsh` has read. -/
theorem Outstanding.lshPacketHandler {reps : Pipe} (hrp : rp = pk :: rest)
    (hrps : Carries reps rest) :
    Ensures Ended InOrder (lshPacketHandler { s with replies := reps } pk.2) := by
  rw [Service.lshPacketHandler]
  split
  · exact .inl rfl
  · split
    · rename_i hmsg
      exact h.handleRandomReply hrp hrps hmsg
    · rename_i hmsg
      refine ⟨rq, rest, h.frame h.requests hrps rfl ?_⟩
      rw [hrp, List.filter_cons_of_neg (by simpa [begins] using hmsg)]

theorem randomStep_outstanding {e : RandomEvent} (hg : RandomGuard s e) :
    Ensures Ended InOrder (randomStep s e) := by
  cases e with
  | clientRequest len res =>
    refine h.issue ?_ res .client
    rw [length_writeUint32]
    decide
  | gatewayRequest gateway body res => exact h.issue hg res (.gateway gateway)
  | clientWrite msg hmsg body res =>
    have hpkt : Acceptable (0, msg :: body) := ⟨Nat.two_pow_pos 32, Nat.succ_pos _, hg⟩
    refine (h.writePacket hpkt res).mono ?_
    rintro _ ⟨reqs, rfl, hcar⟩
    refine ⟨_, rp, h.frame hcar h.replies ?_ rfl⟩
    rw [List.filter_append, List.filter_cons_of_neg (by simpa [begins] using hmsg), List.filter_nil,
      append_nil]
  | clientFlush res =>
    rw [randomStep]
    split
    · exact ⟨rq, rp, h⟩
    · rename_i hbfr
      refine Ensures.bind (Ensures.mapError ((h.requests.flush (Nat.pos_of_ne_zero hbfr) res).imp
        (fun _ => False.elim) fun _ => id)) ?_
      rintro ⟨done, reqs⟩ ho
      dsimp only at ho ⊢
      split
      · exact .inl rfl
      · exact ⟨rq, rp, h.frame ho h.replies rfl rfl⟩
  | clientRead size =>
    refine Ensures.bind (Ensures.mapError
      ((h.replies.read size).imp (fun _ => False.elim) fun _ => id)) ?_
    rintro ⟨stat, reps⟩ (⟨pk, rest, hrp, rfl, hrps⟩ | ⟨hset, hrps, -⟩)
    · exact h.lshPacketHandler hrp hrps
    · have hout : Outstanding { s with replies := reps } rq rp :=
        h.frame h.requests hrps rfl rfl
      cases stat with
      | complete pk | protocolError error msg => cases hset
      | pending | push | ioError errno | eof => exact ⟨rq, rp, hout⟩
  | network seqno packet res₁ res₂ =>
    exact h.forwardPacketHandler ⟨seqno.toNat_lt, hg.1, hg.2⟩ res₁ res₂
  | transportFlush res =>
    rw [randomStep]
    split
    · exact ⟨rq, rp, h⟩
    · rename_i hbfr
      refine Ensures.bind (Ensures.mapError ((h.replies.flush (Nat.pos_of_ne_zero hbfr) res).imp
        (fun _ => False.elim) fun _ => id)) ?_
      rintro ⟨done, reps⟩ ho
      dsimp only at ho ⊢
      split
      · exact .inr rfl
      · exact ⟨rq, rp, h.frame h.requests ho rfl rfl⟩
  | transportRead size random res₁ res₂ =>
    obtain ⟨⟨stat, reqs⟩, hread, ho⟩ := (h.requests.read size).exists_ok
    rw [RandomGuard, hread] at hg
    rw [randomStep, hread]
    rcases ho with ⟨pk, rest, hrq, rfl, hrqs⟩ | ⟨hset, hrqs, -⟩
    · refine h.handler hrq hrqs ?_ random res₁ res₂
      intro len hlen
      dsimp only [Except.toOption, Option.all_some] at hg
      rw [Option.mem_def.mp hlen] at hg
      simpa using hg
    · have hout : Outstanding { s with requests := reqs } rq rp :=
        h.frame hrqs h.replies rfl rfl
      cases stat with
      | complete pk | protocolError error msg => cases hset
      | pending | push | ioError errno | eof => exact ⟨rq, rp, hout⟩

end

end Steps

/-- **Requests are answered one for one**, until one of the processes ends, if there is always room
for the reply: the n-th reply is delivered to the issuer of the n-th request, and the queue of those
who wait has the order and the number of the replies and requests that are on their way. -/
theorem run_randomStep_oneForOne (events : List RandomEvent)
    (hg : Guarded randomStep RandomGuard .init events) :
    Ensures (fun f => f = .exit ∨ f = .disconnect) OneForOne (run randomStep .init events) := by
  refine (run_of_guarded (fun s e (hs : ∃ rq rp, Outstanding s rq rp) hg => ?_) ?_ hg).mono ?_
  · obtain ⟨rq, rp, h⟩ := hs
    exact randomStep_outstanding h hg
  · exact ⟨[], [], outstanding_init⟩
  · rintro s ⟨rq, rp, h⟩
    exact h.oneForOne

/-- `transport_forward_service_packet`, when there is room but nothing can be written. -/
theorem Carries.forward_wouldBlock (h : Carries p packets)
    {pk : Packet} (hpk : Acceptable pk)
    (hrm : p.writer.buffer.length + (pk.2.length + serviceHeaderSize) ≤ p.writer.size) :
    ∃ p', p.forward pk.1 pk.2 .wouldBlock .wouldBlock = .ok (.accepted, p') ∧
      Carries p' (packets ++ [pk]) ∧ p'.writer.size = p.writer.size ∧
      p'.writer.buffer.length = p.writer.buffer.length + (pk.2.length + serviceHeaderSize) := by
  have hhd : (writeUint32 pk.1 ++ writeUint32 pk.2.length).length = serviceHeaderSize := by
    simp [serviceHeaderSize]
  have hpos : 0 < serviceHeaderSize := by decide
  have hspc : p.writer.buffer.length +
      (writeUint32 pk.1 ++ writeUint32 pk.2.length).length ≤ p.writer.size := by omega
  obtain ⟨t, ht, htz, htb⟩ := keep_eq hspc [] (.error .wouldBlock)
  have hlen : t.buffer.length = p.writer.buffer.length + serviceHeaderSize := by
    rw [htb, length_append, hhd]
  have hspc' : t.buffer.length + pk.2.length ≤ t.size := by omega
  obtain ⟨u, hu, husize, hub⟩ := keep_eq hspc' [] (.error .wouldBlock)
  have hfwd : p.forward pk.1 pk.2 .wouldBlock .wouldBlock =
      .ok (.accepted, { p with writer := u, octets := p.octets ++ [] }) := by
    rw [Pipe.forward, transportForwardServicePacket, require_of hpk.length_pos,
      if_neg (by rw [sshWriteAvailable]; omega), sshWriteData_wouldBlock (by omega), ht]
    simp only [Except.mapError, ok_bind, writeFailed, sshWriteData_wouldBlock hpk.length_pos, hu]
    rfl
  have hcar := (h.forward hpk .wouldBlock .wouldBlock)
  rw [hfwd] at hcar
  refine ⟨_, hfwd, ?_, husize.trans htz, ?_⟩
  · rcases hcar with ⟨href, -⟩ | ⟨-, hnew⟩ | hcld
    · cases href
    · exact hnew
    · cases hcld
  · rw [hub, length_append]
    omega

/-- `transport_forward_service_packet`, when there is no room. -/
theorem Pipe.forward_refused (hpkt : 0 < packet.length)
    (hfu : sshWriteAvailable p.writer < packet.length + serviceHeaderSize) (seqno res₁ res₂) :
    p.forward seqno packet res₁ res₂ = .ok (.refused, p) := by
  rw [Pipe.forward, transportForwardServicePacket, require_of hpkt, if_pos hfu]
  show Except.ok (Forwarded.refused, { p with octets := p.octets ++ [] }) = _
  rw [append_nil]

/-- So many octets are waiting to be written. -/
structure Waiting (p : Pipe) (packets : List Packet) (length : ℕ) : Prop where
  carries : Carries p packets
  size_eq : p.writer.size = 98304
  length_eq : p.writer.buffer.length = length

/-- A long packet from the network, while nothing can be written. -/
theorem randomStep_network {length : ℕ} {s : RandomState} (h : Waiting s.replies packets length)
    (seqno)
    {rest : Octets} (hre : rest.length = 32699) (hrm : length + 32708 ≤ 98304) :
    ∃ p, randomStep s (.network seqno (94 :: rest) .wouldBlock .wouldBlock) =
      .ok { s with replies := p } ∧
      Waiting p (packets ++ [(seqno.toNat, 94 :: rest)]) (length + 32708) := by
  obtain ⟨hpks, hsize, hlen⟩ := h
  have hpkt : (94 :: rest : Octets).length = 32700 := congrArg Nat.succ hre
  have hpk : Acceptable (seqno.toNat, 94 :: rest) :=
    ⟨seqno.toNat_lt, by rw [hpkt]; decide, by rw [hpkt]; decide⟩
  obtain ⟨p, hfwd, hcar, hsize', hbfr⟩ := hpks.forward_wouldBlock hpk (by
    rw [hpkt, hlen, hsize]
    exact hrm)
  rw [hpkt, hlen] at hbfr
  refine ⟨p, ?_, hcar, hsize'.trans hsize, hbfr⟩
  rw [randomStep, forwardPacketHandler, hfwd]
  rfl

/-- `lsh` requests 200 octets while there is room for 180 only in the buffer of `lsh-transport`. The
request is gone, and there is no reply. Then a gateway client requests 10 octets, and gets a reply,
which `lsh` gives to itself as soon as it arrives. -/
theorem run_randomStep_shifted :
    ∃ s, run randomStep .init
        [.network 1 (List.replicate 32700 94) .wouldBlock .wouldBlock,
          .network 2 (List.replicate 32700 94) .wouldBlock .wouldBlock,
          .network 3 (List.replicate 32700 94) .wouldBlock .wouldBlock,
          .clientRequest 200 (.wrote 12),
          .transportRead (some (12, false)) (fun _ => 1) .wouldBlock .wouldBlock,
          .gatewayRequest 7 (writeUint32 10) (.wrote 12),
          .transportRead (some (12, false)) (fun _ => 2) .wouldBlock .wouldBlock] = .ok s ∧
      s.pendingRandom = [.client, .gateway 7] ∧ s.requestsInFlight = [] ∧
      s.repliesInFlight = [randomReply (List.replicate 10 2)] ∧
      s.handleRandomReply (randomReply (List.replicate 10 2)) =
        .ok (s.deliver (randomReply (List.replicate 10 2)) .client [.gateway 7]) := by
  -- the requests go through their pipe one after the other
  obtain ⟨q₁, q₂, q₃, q₄, hq₁, hq₂, hq₃, hq₄, hemp⟩ : ∃ q₁ q₂ q₃ q₄ : Pipe,
      (Pipe.init connectionWriteBufferSize).writePacket [193, 0, 0, 0, 200] (.wrote 12) =
        .ok (.ok 13, q₁) ∧
      q₁.read (some (12, false)) = .ok (.complete (0, [193, 0, 0, 0, 200]), q₂) ∧
      q₂.writePacket [193, 0, 0, 0, 10] (.wrote 12) = .ok (.ok 13, q₃) ∧
      q₃.read (some (12, false)) = .ok (.complete (0, [193, 0, 0, 0, 10]), q₄) ∧
      q₄.packets = [] := ⟨_, _, _, _, rfl, rfl, rfl, rfl, rfl⟩
  -- the buffer for the replies is filled
  have hlen : (List.replicate 32699 (94 : UInt8)).length = 32699 := length_replicate
  have hini : Waiting RandomState.init.replies [] 0 := ⟨carries_init _, rfl, rfl⟩
  obtain ⟨p₁, hp₁, h₁⟩ := randomStep_network hini 1 hlen (by decide)
  obtain ⟨p₂, hp₂, h₂⟩ :=
    randomStep_network (s := ⟨.init connectionWriteBufferSize, p₁, [], [], [], []⟩) h₁ 2 hlen
      (by decide)
  obtain ⟨p₃, hp₃, hc₃, hsize₃, hlen₃⟩ :=
    randomStep_network (s := ⟨.init connectionWriteBufferSize, p₂, [], [], [], []⟩) h₂ 3 hlen
      (by decide)
  -- there is no room for the first reply, but there is for the second one
  have href : p₃.forward 0 (randomReply (List.replicate 200 1)) .wouldBlock .wouldBlock =
      .ok (.refused, p₃) := by
    have hpos : 0 < (randomReply (List.replicate 200 1)).length := by
      rw [length_randomReply]
      omega
    refine Pipe.forward_refused hpos ?_ _ _ _
    rw [sshWriteAvailable, hlen₃, hsize₃, length_randomReply, length_replicate]
    decide
  have hrep : Acceptable (0, randomReply (List.replicate 10 2)) :=
    acceptable_randomReply (by decide)
  obtain ⟨p₄, hp₄, hc₄, -, -⟩ := hc₃.forward_wouldBlock hrep (by
    rw [hlen₃, hsize₃]
    decide)
  refine ⟨⟨q₄, p₄, [.client, .gateway 7], [.client, .gateway 7],
    [randomReply (List.replicate 200 1), randomReply (List.replicate 10 2)], []⟩, ?_, rfl, ?_, ?_,
    ?_⟩
  · have h₄ : randomStep ⟨.init connectionWriteBufferSize, p₃, [], [], [], []⟩
        (.clientRequest 200 (.wrote 12)) = .ok ⟨q₁, p₃, [.client], [.client], [], []⟩ := by
      rw [randomStep, RandomState.clientRandomRequest, RandomState.writePacket,
        show (Pipe.init connectionWriteBufferSize).writePacket
          (sshLshRandomRequest :: writeUint32 200) (.wrote 12) = _ from hq₁]
      rfl
    have h₅ : randomStep ⟨q₁, p₃, [.client], [.client], [], []⟩
        (.transportRead (some (12, false)) (fun _ => 1) .wouldBlock .wouldBlock) =
        .ok ⟨q₂, p₃, [.client], [.client], [randomReply (List.replicate 200 1)], []⟩ := by
      have hmap : (List.range 200).map (fun _ => (1 : UInt8)) = List.replicate 200 1 := by simp
      have hparse : parseRandomRequest ([193, 0, 0, 0, 200] : Octets).tail = some 200 := by decide
      rw [randomStep, hq₂]
      simp only [Except.mapError, ok_bind, lshTransportServicePacketHandler, hparse, hmap, href]
      rfl
    have h₆ : randomStep ⟨q₂, p₃, [.client], [.client], [randomReply (List.replicate 200 1)], []⟩
        (.gatewayRequest 7 (writeUint32 10) (.wrote 12)) =
        .ok ⟨q₃, p₃, [.client, .gateway 7], [.client, .gateway 7],
          [randomReply (List.replicate 200 1)], []⟩ := by
      rw [randomStep, RandomState.clientGatewayRandomRequest, RandomState.writePacket,
        show q₂.writePacket (sshLshRandomRequest :: writeUint32 10) (.wrote 12) = _ from hq₃]
      rfl
    have h₇ : randomStep ⟨q₃, p₃, [.client, .gateway 7], [.client, .gateway 7],
          [randomReply (List.replicate 200 1)], []⟩
        (.transportRead (some (12, false)) (fun _ => 2) .wouldBlock .wouldBlock) =
        .ok ⟨q₄, p₄, [.client, .gateway 7], [.client, .gateway 7],
          [randomReply (List.replicate 200 1), randomReply (List.replicate 10 2)], []⟩ := by
      have hmap : (List.range 10).map (fun _ => (2 : UInt8)) = List.replicate 10 2 := by simp
      have hparse : parseRandomRequest ([193, 0, 0, 0, 10] : Octets).tail = some 10 := by decide
      rw [randomStep, hq₄]
      simp only [Except.mapError, ok_bind, lshTransportServicePacketHandler, hparse, hmap]
      rw [hp₄]
      rfl
    refine (run_cons_ok hp₁ _).trans ((run_cons_ok hp₂ _).trans ((run_cons_ok hp₃ _).trans ?_))
    exact (run_cons_ok h₄ _).trans ((run_cons_ok h₅ _).trans ((run_cons_ok h₆ _).trans
      (run_cons_ok h₇ _)))
  · rw [RandomState.requestsInFlight, hemp]
    rfl
  · rw [RandomState.repliesInFlight, hc₄.packets_eq]
    rfl
  · have hparse : (do
        let (_, eod) ← parseString (randomReply (List.replicate 10 2)).tail
        parseEod eod) = some () := by decide
    rw [RandomState.handleRandomReply]
    simp only [hparse]
    rfl

/-- Three requests, with packets from the network in between. -/
theorem run_randomStep_oneForOne_three :
    let events : List RandomEvent := [.clientRequest 2 .wouldBlock,
      .gatewayRequest 7 (writeUint32 1) (.wrote 20), .network 9 [94, 0] .wouldBlock .wouldBlock,
      .clientFlush (.wrote 3), .transportRead (some (100, false))
      (fun _ => 1) .wouldBlock .wouldBlock,
      .clientWrite 94 (by decide) [] (.wrote 100), .clientFlush (.wrote 100),
      .transportRead (some (100, false)) (fun _ => 2) (.wrote 100) .wouldBlock,
      .network 10 [194] .wouldBlock .wouldBlock, .transportFlush (.wrote 100),
      .clientRead (some (100, false)), .clientRead none, .clientRead none,
      .clientRequest 0 (.wrote 100),
      .transportRead none (fun _ => 3) .wouldBlock .wouldBlock]
    Guarded randomStep RandomGuard .init events ∧
      Ensures (fun f => f = .exit ∨ f = .disconnect) OneForOne (run randomStep .init events) ∧
      (run randomStep .init events).toOption.map (fun s => (s.delivered, s.pendingRandom)) =
        some ([(.client, randomReply [1, 1]), (.gateway 7, randomReply [2])], [.client]) := by
  intro events
  have hg : Guarded randomStep RandomGuard .init events := by decide +kernel
  exact ⟨hg, run_randomStep_oneForOne events hg, by decide +kernel⟩

end Lsh.Service
