
import Lsh.Service.Read
import Lsh.Transport.Connection

/-!
# The read loops of the connection layer

Three programs read packets from another process and pass them to `channel_packet_handler`: the
client (`oop_read_service` in `client.c`) and the server (`oop_read_service` in `lshd-connection.c`)
from the transport process, and the client from each gateway client (`oop_read_gateway` in
`gateway.c`). The loops are much alike. They differ in what they do with errors, and with messages
of other layers.

What the packet handlers do is a parameter. They change the data of the connection, and they may
kill it. Killing a connection closes its file descriptor, so the callback is not called again. But
no loop looks at the connection after it has passed on a packet, and so the packets that are in the
buffer are handled nevertheless. The loop of the gateway goes on after errors, too. If the reader
reports an empty packet it will do so forever.

## Main results

* `run_readStep_alive` — no packet is handled by a dead connection, if the packet that kills the
  connection is the last one in the buffer
* `run_readStep_returns` — the loop of the gateway ends, if no header has the length 0 or
  `SSH_MAX_PACKET`
-/

namespace Lsh.Service

open Machine Octets Transport List

/-! ### Handlers -/

/-- What a program does with its connection. An operation gets whether the connection is alive and
its data, and returns the new data and whether it has killed the connection, unless the process
exits. -/
structure Handlers (δ : Type) where
  /-- What the kill method does, apart from closing the file descriptor. -/
  kill : δ → δ
  /-- `write_packet` or `gateway_write_packet`. -/
  writePacket : Bool → δ → Octets → Option (δ × Bool)
  /-- `channel_packet_handler`, with its return value. -/
  channelPacketHandler : Bool → δ → Octets → Option (Bool × δ × Bool)
  /-- `handle_random_reply`, or the messages that `gateway_packet_handler` handles itself. -/
  localMessage : Bool → δ → Octets → Option (δ × Bool)

/-- A connection. -/
structure Conn (δ : Type) where
  alive : Bool
  data : δ

section Handlers

variable {δ : Type} (H : Handlers δ)

/-- `KILL_RESOURCE`. -/
def Conn.kill (c : Conn δ) : Conn δ := if c.alive then ⟨false, H.kill c.data⟩ else c

/-- `write_packet`. -/
def Conn.write (c : Conn δ) (packet : Octets) : Option (Conn δ) := do
  let (data, killed) ← H.writePacket c.alive c.data packet
  return ⟨c.alive && !killed, data⟩

/-- `disconnect`. -/
def Conn.disconnect (c : Conn δ) (msg : String) : Option (Conn δ) := do
  let c ← c.write H (formatDisconnect sshDisconnectByApplication msg)
  return c.kill H

/-- A message of the connection layer, or one that nobody knows. -/
def Conn.pass (c : Conn δ) (pk : Packet) : Option (Conn δ) := do
  let (implemented, data, killed) ← H.channelPacketHandler c.alive c.data pk.2
  let c := ⟨c.alive && !killed, data⟩
  if implemented then return c else c.write H (formatUnimplemented pk.1)

/-- A message between the programs. -/
def Conn.local (c : Conn δ) (pk : Packet) : Option (Conn δ) := do
  let (data, killed) ← H.localMessage c.alive c.data pk.2
  return ⟨c.alive && !killed, data⟩

/-- `SSH_FIRST_USERAUTH_GENERIC`. -/
def sshFirstUserauthGeneric : UInt8 := 50

/-- `SSH_FIRST_CONNECTION_GENERIC`. -/
def sshFirstConnectionGeneric : UInt8 := 80

/-- `SSH_LSH_GATEWAY_STOP`. -/
def sshLshGatewayStop : UInt8 := 192

/-- `SSH_LSH_RANDOM_REQUEST`. -/
def sshLshRandomRequest : UInt8 := 193

/-- `SSH_LSH_RANDOM_REPLY`. -/
def sshLshRandomReply : UInt8 := 194

/-- A packet in `client.c`. The loops do not leave after the complaint about an empty packet, and go
on with the octet that follows; here it is zero. -/
def clientPacket (c : Conn δ) (pk : Packet) : Option (Conn δ) := do
  let c ← if pk.2.length = 0 then
      c.disconnect H "lsh received an empty packet from the transport layer"
    else some c
  let msg := pk.2.headD 0
  if msg < sshFirstConnectionGeneric then
    c.disconnect H "lsh received a transport or userauth layer packet"
  else if msg = sshLshRandomReply then c.local H pk
  else c.pass H pk

/-- A packet in `lshd-connection.c`. -/
def lshdConnectionPacket (c : Conn δ) (pk : Packet) : Option (Conn δ) := do
  let c ← if pk.2.length = 0 then c.disconnect H "lshd-connection received an empty packet"
    else some c
  let msg := pk.2.headD 0
  let c ← if msg < sshFirstUserauthGeneric then
      c.disconnect H "lshd-connection received a transport layer packet"
    else some c
  if msg < sshFirstConnectionGeneric then return c
  else c.pass H pk

/-- A packet in `gateway.c`. -/
def gatewayPacket (c : Conn δ) (pk : Packet) : Option (Conn δ) := do
  let c ← if pk.2.length = 0 then c.disconnect H "lsh received an empty packet from a gateway"
    else some c
  let msg := pk.2.headD 0
  if msg < sshFirstConnectionGeneric then
    c.disconnect H "lsh received a transport or userauth layer packet from a gateway"
  else if msg = sshLshGatewayStop ∨ msg = sshLshRandomRequest then c.local H pk
  else c.pass H pk

/-- The programs with a read loop. -/
inductive Program where
  | client
  | lshdConnection
  | gateway
  deriving DecidableEq, Repr

/-- What a program does with a packet. -/
def handlePacket (program : Program) (c : Conn δ) (pk : Packet) : Option (Conn δ) :=
  match program with
  | .client => clientPacket H c pk
  | .lshdConnection => lshdConnectionPacket H c pk
  | .gateway => gatewayPacket H c pk

end Handlers

/-! ### The loops -/

/-- How a callback can end other than by returning. -/
inductive ReadFailure where
  /-- An assertion of the functions that read. -/
  | assertion (assertion : Assertion)
  /-- The process exits. -/
  | exit
  /-- The loop has not been left. -/
  | rounds
  deriving DecidableEq

/-- A connection with the reader for it. -/
structure ReadState (δ : Type) where
  conn : Conn δ
  reader : ServiceReadState
  /-- What has been written by the other process and has not been read. -/
  octets : Octets
  /-- What has been read so far. -/
  seen : Octets
  /-- The packets handled so far, and whether the connection was alive. -/
  handled : List (Bool × Packet)

/-- The variables of a loop. -/
structure ReadRound (δ : Type) where
  state : ReadState δ
  fd : Option ReadResult

/-- The `switch` of the loops, for the state after the read. After an error the loop of the gateway
goes on: the `break` there leaves only the `switch`. -/
def switchStatus {δ : Type} (H : Handlers δ) (program : Program) (s : ReadState δ) :
    ReadStatus Packet → Except ReadFailure (ReadRound δ ⊕ ReadState δ)
  | .ioError _ | .protocolError _ _ =>
    if program = .gateway then return .inl ⟨{ s with conn := s.conn.kill H }, none⟩ else throw .exit
  | .eof =>
    -- the other loops return `OOP_HALT`
    return .inr (if program = .gateway then { s with conn := s.conn.kill H } else s)
  | .push | .pending => return .inr s
  | .complete pk =>
    match handlePacket H program s.conn pk with
    | none => throw .exit
    | some conn =>
      return .inl ⟨{ s with conn := conn, handled := s.handled ++ [(s.conn.alive, pk)] }, none⟩

/-- The state after a read of `n` octets. -/
def ReadRound.afterRead {δ : Type} (l : ReadRound δ) (reader : ServiceReadState) (n : ℕ) :
    ReadState δ :=
  { l.state with
    reader := reader
    octets := l.state.octets.drop n
    seen := l.state.seen ++ fdOctets l.fd n }

/-- The body of the loops. -/
def loopBody {δ : Type} (H : Handlers δ) (program : Program) (l : ReadRound δ) :
    Except ReadFailure (ReadRound δ ⊕ ReadState δ) := do
  let (status, reader, n) ← (serviceReadPacket l.state.reader l.fd).mapError .assertion
  switchStatus H program (l.afterRead reader n) status

/-- `oop_read_service` and `oop_read_gateway`. -/
def oopRead {δ : Type} (H : Handlers δ) (program : Program) (l : ReadRound δ) :
    Except ReadFailure (ReadState δ) :=
  loop (loopBody H program) .rounds (l.state.reader.pending.length + fdLength l.fd + 4) l

/-! ### Runs -/

/-- What can happen. -/
inductive ReadEvent (δ : Type) where
  /-- The other process writes. -/
  | arrive (data : Octets)
  /-- The file descriptor is readable. -/
  | read (input : ServiceInput)
  /-- Something else happens to the connection, which may kill it. -/
  | other (data : δ) (killed : Bool)

/-- One event. Killing the connection cancels the callback. -/
def readStep {δ : Type} (H : Handlers δ) (program : Program) (s : ReadState δ) :
    ReadEvent δ → Except ReadFailure (ReadState δ)
  | .arrive data => return { s with octets := s.octets ++ data }
  | .read input =>
    if s.conn.alive then oopRead H program ⟨s, some (input.result s.octets)⟩ else return s
  | .other data killed => return { s with conn := ⟨s.conn.alive && !killed, data⟩ }

/-- A new connection. -/
def ReadState.init {δ : Type} (data : δ) : ReadState δ := ⟨⟨true, data⟩, .make, [], [], []⟩

/-! ### Dead connections -/

section Alive

variable {δ : Type} {H : Handlers δ} {program : Program}

/-- The packet that kills the connection, if there is one, is the last complete packet of the
stream. The number bounds how many packets are looked at. -/
def fatalLast (H : Handlers δ) (program : Program) : ℕ → Conn δ → Octets → Bool
  | 0, _, _ => true
  | k + 1, c, stream =>
    match front stream with
    | .packet pk =>
      match handlePacket H program c pk with
      | none => true
      | some c =>
        if c.alive then fatalLast H program k c (stream.drop (frame pk).length)
        else !(front (stream.drop (frame pk).length)).isPacket
    | _ => true

/-- No packet that kills the connection is followed by another complete packet in the buffer. -/
def FatalGuard (H : Handlers δ) (program : Program) (s : ReadState δ) : ReadEvent δ → Prop
  | .read input =>
    ∀ o ∈ (serviceReadPacket s.reader (some (input.result s.octets))).toOption,
      let stream := s.reader.pending ++ fdOctets (some (input.result s.octets)) o.2.2
      fatalLast H program stream.length s.conn stream = true
  | _ => True

instance (s : ReadState δ) (e : ReadEvent δ) : Decidable (FatalGuard H program s e) := by
  unfold FatalGuard
  split <;> infer_instance

@[simp] theorem Conn.alive_kill (c : Conn δ) : (c.kill H).alive = false := by
  rw [Conn.kill]
  split
  · rfl
  · rename_i h
    exact Bool.eq_false_of_not_eq_true h

/-- What the condition says about the first packet of a stream. -/
theorem fatalLast_packet {pk : Packet} {k : ℕ} {c c' : Conn δ} {rest : Octets}
    (hk : (frame pk ++ rest).length ≤ k)
    (h : fatalLast H program k c (frame pk ++ rest)) (hfrt : front (frame pk ++ rest) = .packet pk)
    (hc : handlePacket H program c pk = some c') :
    (c'.alive → ∃ k', rest.length ≤ k' ∧ fatalLast H program k' c' rest) ∧
      (c'.alive = false → (front rest).isPacket = false) := by
  rw [length_append, length_frame, serviceHeaderSize] at hk
  obtain ⟨k, rfl⟩ : ∃ k', k = k' + 1 := ⟨k - 1, by omega⟩
  simp only [fatalLast, hfrt, hc, drop_left] at h
  constructor
  · intro hal
    rw [if_pos hal] at h
    exact ⟨k, by omega, h⟩
  · intro hdd
    rw [if_neg (by rw [hdd]; simp)] at h
    simpa using h

/-- What holds at the beginning of each round. -/
structure AliveRound (H : Handlers δ) (program : Program) (l : ReadRound δ) : Prop where
  handled : ∀ x ∈ l.state.handled, x.1
  live : l.state.conn.alive → Sound l.state.reader ∧
    ∀ o, serviceReadPacket l.state.reader l.fd = .ok o →
      ∃ k, (l.state.reader.pending ++ fdOctets l.fd o.2.2).length ≤ k ∧
        fatalLast H program k l.state.conn (l.state.reader.pending ++ fdOctets l.fd o.2.2)
  dead : l.state.conn.alive = false → l.fd = none ∧ Quiet l.state.reader

/-- What holds between callbacks. -/
structure AliveState (s : ReadState δ) : Prop where
  handled : ∀ x ∈ s.handled, x.1
  live : s.conn.alive → Sound s.reader

variable {s : ReadState δ} {Q : ReadRound δ ⊕ ReadState δ → Prop}

/-- After an error: the process exits, or the connection is killed. -/
theorem switchStatus_invalid (msg) (hround : Q (.inl ⟨{ s with conn := s.conn.kill H }, none⟩)) :
    Ensures (fun e => e = .exit) Q (switchStatus H program s (invalid msg)) := by
  rw [invalid, switchStatus]
  split
  · exact hround
  · rfl

/-- No packet has been found. -/
theorem switchStatus_of_ne {status : ReadStatus Packet} (hsta : ∀ p, status ≠ .complete p)
    (hround : status.settled → Q (.inl ⟨{ s with conn := s.conn.kill H }, none⟩))
    (hkl : Q (.inr { s with conn := s.conn.kill H })) (hrtn : Q (.inr s)) :
    Ensures (fun e => e = .exit) Q (switchStatus H program s status) := by
  cases status with
  | ioError errno | protocolError error msg =>
    rw [switchStatus]
    split
    · exact hround rfl
    · rfl
  | eof =>
    show Q (.inr (if program = .gateway then { s with conn := s.conn.kill H } else s))
    split
    · exact hkl
    · exact hrtn
  | push | pending => exact hrtn
  | complete pk => exact absurd rfl (hsta pk)

/-- The connection is dead, or has been killed, and there is no packet in the buffer. -/
theorem aliveRound_kill (hhd : ∀ x ∈ s.handled, x.1) (hrdr : Quiet s.reader) :
    AliveRound H program ⟨{ s with conn := s.conn.kill H }, none⟩ where
  handled := hhd
  live := fun h => absurd (s.conn.alive_kill.symm.trans h) nofun
  dead := fun _ => ⟨rfl, hrdr⟩

theorem aliveState_kill (hhd : ∀ x ∈ s.handled, x.1) :
    AliveState { s with conn := s.conn.kill H } where
  handled := hhd
  live := fun h => absurd (s.conn.alive_kill.symm.trans h) nofun

/-- One round. The packet that kills a connection leaves the reader quiet, and so it stays. -/
theorem loopBody_aliveRound {l : ReadRound δ} (h : AliveRound H program l) :
    Returns (Sum.elim (AliveRound H program) AliveState) (loopBody H program l) := by
  rw [loopBody]
  cases hcall : serviceReadPacket l.state.reader l.fd with
  | error e => trivial
  | ok o =>
    obtain ⟨stat, reader, n⟩ := o
    show Ensures _ _ (switchStatus H program (l.afterRead reader n) stat)
    have hhd : ∀ x ∈ (l.afterRead reader n).handled, x.1 := h.handled
    have hconn : (l.afterRead reader n).conn = l.state.conn := rfl
    have hrdr : (l.afterRead reader n).reader = reader := rfl
    generalize l.afterRead reader n = s at hhd hconn hrdr ⊢
    subst hrdr
    cases halv : l.state.conn.alive with
    | false =>
      obtain ⟨hfd, hqt⟩ := h.dead halv
      rw [hfd] at hcall
      obtain ⟨hsta, hqt⟩ := hqt.read hcall
      refine (switchStatus_of_ne hsta (fun _ => aliveRound_kill hhd hqt)
        (aliveState_kill hhd) ⟨hhd, fun hlive => ?_⟩).imp (fun _ _ => trivial) fun _ => id
      rw [hconn, halv] at hlive
      cases hlive
    | true =>
      obtain ⟨hsnd, hft⟩ := h.live halv
      obtain ⟨k, hk, hft⟩ := hft _ hcall
      have hout := serviceReadPacket_ensures hsnd l.fd
      rw [hcall] at hout
      cases hfrt : front (l.state.reader.pending ++ fdOctets l.fd n) with
      | bad msg =>
        obtain ⟨rfl, -⟩ := hout.bad msg hfrt
        exact (switchStatus_invalid msg
          (aliveRound_kill hhd (hout.quiet_of_bad hfrt))).imp (fun _ _ => trivial) fun _ => id
      | incomplete =>
        obtain ⟨hsta, hsnd', hpen, -⟩ := hout.incomplete hfrt
        have hqt : Quiet s.reader := .idle hsnd' (by rw [hpen, hfrt]; rfl)
        exact (switchStatus_of_ne hsta (fun _ => aliveRound_kill hhd hqt)
          (aliveState_kill hhd) ⟨hhd, fun _ => hsnd'⟩).imp (fun _ _ => trivial)
          fun _ => id
      | packet pk =>
        obtain ⟨rfl, hsnd', -, hpen⟩ := hout.packet pk hfrt
        rw [hpen] at hk hft hfrt
        rw [← hconn] at hft halv
        rw [switchStatus]
        cases hpkt : handlePacket H program s.conn pk with
        | none => trivial
        | some conn =>
          obtain ⟨hlive, hdd⟩ := fatalLast_packet hk hft hfrt hpkt
          refine ⟨?_, fun hal => ⟨hsnd', fun o ho => ?_⟩, fun hd => ⟨rfl, .idle hsnd' (hdd hd)⟩⟩
          · intro x hx
            rcases List.mem_append.mp hx with hx | hx
            · exact hhd x hx
            · rw [List.mem_singleton.mp hx]
              exact halv
          · rw [fdOctets_none, append_nil]
            exact hlive hal

theorem readStep_aliveState {e : ReadEvent δ} (h : AliveState s) (hg : FatalGuard H program s e) :
    Returns AliveState (readStep H program s e) := by
  cases e with
  | arrive data => exact ⟨h.handled, h.live⟩
  | other data killed =>
    refine ⟨h.handled, fun hlive => h.live ?_⟩
    exact (Bool.and_eq_true_iff.mp hlive).1
  | read input =>
    rw [readStep]
    split
    · rename_i hal
      refine loop_ensures_partial (fun l => loopBody_aliveRound) trivial _
        ⟨h.handled, fun _ => ⟨h.live hal, fun o ho => ?_⟩, fun hdd => ?_⟩
      · exact ⟨_, Nat.le_refl _, hg o (by rw [ho]; rfl)⟩
      · simp [hal] at hdd
    · exact h

/-- **A dead connection handles nothing**, if the packet that kills it is the last one in the
buffer. -/
theorem run_readStep_alive (H : Handlers δ) (program : Program) (data : δ)
    (events : List (ReadEvent δ))
    (hg : Guarded (readStep H program) (FatalGuard H program) (.init data) events) :
    Ensures (fun _ => True) (fun s => ∀ x ∈ s.handled, x.1 = true)
      (run (readStep H program) (.init data) events) := by
  refine (run_of_guarded (fun s e (hs : AliveState s) => readStep_aliveState hs) ?_ hg).mono
    fun s => AliveState.handled
  exact ⟨nofun, fun _ => sound_make⟩

end Alive

/-- Handlers that do nothing. -/
def quietHandlers : Handlers Unit where
  kill := id
  writePacket := fun _ _ _ => some ((), false)
  channelPacketHandler := fun _ _ _ => some (true, (), false)
  localMessage := fun _ _ _ => some ((), false)

/-- A message of the transport layer makes each of the programs disconnect. The channel message that
was read with it is handled nevertheless. -/
theorem run_readStep_afterDeath :
    [Program.client, .lshdConnection, .gateway].map (fun program =>
        (run (readStep quietHandlers program) (.init ())
          [.arrive (frame (0, [1]) ++ frame (1, [80, 0])), .read (.octets 30 false)]).toOption.map
          (·.handled)) =
      List.replicate 3 (some [(true, (0, [1])), (false, (1, [80, 0]))]) := by
  decide +kernel

/-- The message that makes the client disconnect comes last. -/
theorem run_readStep_alive_last :
    let events : List (ReadEvent Unit) :=
      [.arrive (frame (0, [80, 0]) ++ frame (1, [1])), .read (.octets 30 false),
        .arrive (frame (1, [80, 0])), .read (.octets 30 false)]
    Guarded (readStep quietHandlers .client) (FatalGuard quietHandlers .client) (.init ()) events ∧
      Ensures (fun _ => True) (fun s => ∀ x ∈ s.handled, x.1 = true)
        (run (readStep quietHandlers .client) (.init ()) events) := by
  intro events
  have hg : Guarded (readStep quietHandlers .client) (FatalGuard quietHandlers .client) (.init ())
      events := by
    decide +kernel
  exact ⟨hg, run_readStep_alive quietHandlers .client () events hg⟩

/-! ### The loop of the gateway -/

section Returns

variable {δ : Type} {H : Handlers δ}

/-- No header has the length 0, which the reader reports again and again, or `SSH_MAX_PACKET`, for
which it fails. -/
def GoodHeaders (stream : Octets) : Prop :=
  ∀ l ∈ headerLengths stream.length stream, l ≠ 0 ∧ l ≠ sshMaxPacket

instance (stream : Octets) : Decidable (GoodHeaders stream) := by
  unfold GoodHeaders
  infer_instance

/-- All that the gateway client has sent has good headers. -/
def HeaderGuard (s : ReadState δ) : ReadEvent δ → Prop
  | .arrive data => GoodHeaders (s.seen ++ (s.octets ++ data))
  | _ => True

instance (s : ReadState δ) (e : ReadEvent δ) : Decidable (HeaderGuard s e) := by
  unfold HeaderGuard
  split <;> infer_instance

/-- The packets that have been handled. -/
def ReadState.packets (s : ReadState δ) : List Packet := s.handled.map (·.2)

/-- What is known of the stream at any time. -/
structure StreamInv (s : ReadState δ) : Prop where
  seen : frames s.packets <+: s.seen
  wellFormed : ∀ pk ∈ s.packets, WellFormed pk
  good : GoodHeaders (s.seen ++ s.octets)

/-- The reader is in order, and what has been seen are the packets that have been handled and what
it has not handed out. -/
structure InStep (s : ReadState δ) : Prop where
  sound : Sound s.reader
  seen : s.seen = frames s.packets ++ s.reader.pending

/-- The reader has found a header that is too large. -/
structure Rejected (s : ReadState δ) : Prop where
  large : sshMaxPacket < s.reader.packetLength
  short : s.reader.data.length < s.reader.packetLength

/-- What holds at the beginning of each round. -/
structure StreamRound (l : ReadRound δ) : Prop where
  stream : StreamInv l.state
  fd : l.fd = none ∨ ∃ input : ServiceInput, l.fd = some (input.result l.state.octets)
  reader : InStep l.state ∨ Rejected l.state ∧ l.fd = none ∧ l.state.conn.alive = false

/-- A bound on the number of rounds. -/
def ReadRound.rounds (l : ReadRound δ) : ℕ :=
  if sshMaxPacket < l.state.reader.packetLength then 1
  else l.state.reader.pending.length + fdLength l.fd + (if l.fd.isSome then 1 else 0) + 2

/-- What holds between callbacks. -/
structure StreamState (s : ReadState δ) : Prop where
  stream : StreamInv s
  live : s.conn.alive → InStep s

variable {s : ReadState δ}

/-- The number of packets that have been handled is at most the number of complete packets that have
been read. -/
theorem StreamInv.length_le (h : StreamInv s) :
    s.handled.length ≤ (completePackets s.seen.length s.seen).length := by
  obtain ⟨rest, hre⟩ := h.seen
  have hpre := completePackets_frames h.wellFormed (Nat.le_refl (frames s.packets ++ rest).length)
  rw [hre] at hpre
  have hlen := hpre.length_le
  rwa [ReadState.packets, length_map] at hlen

/-- The header that the reader is going to look at is good. -/
theorem StreamInv.lengthField_ne (h : StreamInv s) {stream rest : Octets}
    (hse : s.seen ++ s.octets = frames s.packets ++ (stream ++ rest))
    (hlen : serviceHeaderSize ≤ stream.length) :
    lengthField stream ≠ 0 ∧ lengthField stream ≠ sshMaxPacket := by
  have hfd : lengthField (stream ++ rest) = lengthField stream := by
    have hlen' : 8 ≤ stream.length := hlen
    rw [lengthField, drop_append_of_le_length (by omega),
      readUint32_append (by rw [length_drop]; omega), lengthField]
  have hgood := h.good
  rw [hse] at hgood
  rw [← hfd]
  refine hgood _ (mem_headerLengths h.wellFormed ?_ (Nat.le_refl _))
  rw [length_append]
  omega

variable {l : ReadRound δ} {n : ℕ}

/-- A read moves octets from the pipe to what has been seen. -/
theorem StreamRound.seen_append (h : StreamRound l) (hn : (fdOctets l.fd n).length = n) :
    l.state.seen ++ fdOctets l.fd n ++ l.state.octets.drop n = l.state.seen ++ l.state.octets := by
  rw [append_assoc]
  congr 1
  rcases h.fd with hfd | ⟨input, hfd⟩
  · rw [hfd] at hn ⊢
    have hz0 : n = 0 := hn.symm
    rw [hz0]
    rfl
  · rw [hfd] at hn ⊢
    exact input.fdOctets_append_drop hn

theorem StreamRound.afterRead (h : StreamRound l) (reader) (hn : (fdOctets l.fd n).length = n) :
    StreamInv (l.afterRead reader n) where
  seen := h.stream.seen.trans (prefix_append _ _)
  wellFormed := h.stream.wellFormed
  good := by
    show GoodHeaders (l.state.seen ++ fdOctets l.fd n ++ l.state.octets.drop n)
    rw [h.seen_append hn]
    exact h.stream.good

/-- One round of `oop_read_gateway`. -/
theorem loopBody_streamRound (h : StreamRound l) :
    Ensures (fun e => e = .exit) (Round StreamRound ReadRound.rounds StreamState l)
      (loopBody H .gateway l) := by
  rw [loopBody]
  rcases h.reader with hsp | ⟨hrej, hfd, hdd⟩
  · have hrds : l.rounds = l.state.reader.pending.length + fdLength l.fd +
        (if l.fd.isSome then 1 else 0) + 2 := if_neg (Nat.not_lt.mpr hsp.sound.packetLength_le)
    have hread := serviceReadPacket_ensures hsp.sound l.fd
    cases hcall : serviceReadPacket l.state.reader l.fd with
    | error e =>
      rw [hcall] at hread
      obtain ⟨hlen, hfld⟩ := hread
      have hse : l.state.seen ++ l.state.octets =
          frames l.state.packets ++ (l.state.reader.pending ++ l.state.octets) := by
        rw [hsp.seen, append_assoc]
      exact absurd hfld (h.stream.lengthField_ne hse hlen).2
    | ok o =>
      obtain ⟨stat, reader, n⟩ := o
      rw [hcall] at hread
      show Ensures _ _ (switchStatus H .gateway (l.afterRead reader n) stat)
      have hstm := h.afterRead reader hread.count
      have htkn := length_fdOctets_le l.fd n
      have hse : (l.afterRead reader n).seen = frames (l.afterRead reader n).packets ++
          (l.state.reader.pending ++ fdOctets l.fd n) := by
        show l.state.seen ++ fdOctets l.fd n = frames l.state.packets ++ _
        rw [hsp.seen, append_assoc]
      have hrdr : (l.afterRead reader n).reader = reader := rfl
      generalize l.afterRead reader n = s at hstm hse hrdr ⊢
      subst hrdr
      cases hfrt : front (l.state.reader.pending ++ fdOctets l.fd n) with
      | bad msg =>
        obtain ⟨rfl, hdata, hah, hlth⟩ := hread.bad msg hfrt
        dsimp only at hdata hah hlth
        have hrej : Rejected s := by
          have hlrg : sshMaxPacket < lengthField (l.state.reader.pending ++ fdOctets l.fd n) := by
            rw [front] at hfrt
            split_ifs at hfrt with hhd hz0 hlrg
            · have hall : s.seen ++ s.octets = frames s.packets ++
                  (l.state.reader.pending ++ fdOctets l.fd n ++ s.octets) := by
                rw [hse, append_assoc]
              exact absurd hz0 (hstm.lengthField_ne hall (Nat.le_of_not_lt hhd)).1
            · exact hlrg
          have hmax : serviceReadAhead < sshMaxPacket := by decide
          exact ⟨by omega, by omega⟩
        refine switchStatus_invalid msg ⟨⟨{ hstm with }, .inl rfl,
          .inr ⟨⟨hrej.large, hrej.short⟩, rfl, Conn.alive_kill _⟩⟩, ?_⟩
        rw [ReadRound.rounds, if_pos hrej.large]
        omega
      | incomplete =>
        obtain ⟨hsta, hsnd, hpen, hcln⟩ := hread.incomplete hfrt
        dsimp only at hsnd hpen
        have hsp' : InStep s := ⟨hsnd, by rw [hpen]; exact hse⟩
        refine switchStatus_of_ne hsta (fun hset =>
          ⟨⟨{ hstm with }, .inl rfl, .inl ⟨hsnd, hsp'.seen⟩⟩, ?_⟩)
          ⟨{ hstm with }, fun hlive => ?_⟩
          ⟨hstm, fun _ => hsp'⟩
        · have hfd : l.fd.isSome = true := by
            rw [Option.isSome_iff_ne_none]
            intro hno
            rw [hno] at hcln
            rw [hcln trivial] at hset
            cases hset
          rw [hrds, ReadRound.rounds, if_neg (Nat.not_lt.mpr hsnd.packetLength_le), hfd]
          show s.reader.pending.length + 0 + 0 + 2 < _ + 1 + 2
          rw [hpen, length_append]
          omega
        · simp at hlive
      | packet pk =>
        obtain ⟨rfl, hsnd, -, hpen⟩ := hread.packet pk hfrt
        dsimp only at hpen hsnd
        rw [switchStatus]
        cases handlePacket H .gateway s.conn pk with
        | none => rfl
        | some conn =>
          have hpks : (s.handled ++ [(s.conn.alive, pk)]).map (·.2) = s.packets ++ [pk] := by
            rw [map_append]
            rfl
          have hnew : s.seen = frames (s.packets ++ [pk]) ++ s.reader.pending := by
            rw [hse, hpen]
            simp
          refine ⟨⟨⟨⟨s.reader.pending, ?_⟩, ?_, hstm.good⟩, .inl rfl, .inl ⟨hsnd, ?_⟩⟩, ?_⟩
          · rw [ReadState.packets, hpks]
            exact hnew.symm
          · rw [ReadState.packets, hpks]
            intro p hp
            rcases List.mem_append.mp hp with hp | hp
            · exact hstm.wellFormed p hp
            · rw [List.mem_singleton.mp hp]
              exact wellFormed_of_front hfrt
          · rw [ReadState.packets, hpks]
            exact hnew
          · rw [ReadRound.rounds, if_neg (Nat.not_lt.mpr hsnd.packetLength_le)]
            show s.reader.pending.length + 0 + 0 + 2 < _
            have hlth := congrArg List.length hpen
            rw [length_append, length_append, length_frame, serviceHeaderSize] at hlth
            omega
  · have hlrg : l.state.reader.packetLength ≠ 0 := Nat.ne_zero_of_lt hrej.large
    rw [hfd, serviceReadPacket_short hlrg hrej.short]
    have hstm := h.afterRead l.state.reader (n := 0) (by simp)
    refine switchStatus_of_ne (Readiness.toStatus_ne_complete _) (fun hset => ?_) ?_ ?_
    · rw [Readiness.settled_toStatus] at hset
      cases hset
    · exact ⟨{ hstm with }, fun hlive => absurd ((Conn.alive_kill _).symm.trans hlive) (by simp)⟩
    · exact ⟨hstm, fun hlive => absurd (hdd.symm.trans hlive) (by simp)⟩

theorem readStep_streamState {e : ReadEvent δ} (h : StreamState s) (hg : HeaderGuard s e) :
    Ensures (fun e => e = .exit) StreamState (readStep H .gateway s e) := by
  cases e with
  | arrive data => exact ⟨⟨h.stream.seen, h.stream.wellFormed, hg⟩, fun hlive =>
      ⟨(h.live hlive).sound, (h.live hlive).seen⟩⟩
  | other data killed =>
    refine ⟨{ h.stream with }, fun hlive => ?_⟩
    have hsp := h.live (Bool.and_eq_true_iff.mp hlive).1
    exact ⟨hsp.sound, hsp.seen⟩
  | read input =>
    rw [readStep]
    split
    · rename_i hal
      refine loop_ensures ReadRound.rounds (fun l => loopBody_streamRound)
        ⟨h.stream, .inr ⟨input, rfl⟩, .inl (h.live hal)⟩ ?_
      rw [ReadRound.rounds, if_neg (Nat.not_lt.mpr (h.live hal).sound.packetLength_le)]
      exact Nat.lt_succ_self _
    · exact h

/-- **The loop of the gateway ends**, whatever the gateway client sends and however it is cut into
pieces, if no header has the length 0 or `SSH_MAX_PACKET`. Only complete packets are handled. -/
theorem run_readStep_returns (H : Handlers δ) (data : δ) (events : List (ReadEvent δ))
    (hg : Guarded (readStep H .gateway) HeaderGuard (.init data) events) :
    Ensures (fun e => e = .exit)
      (fun s => s.handled.length ≤ (completePackets s.seen.length s.seen).length)
      (run (readStep H .gateway) (.init data) events) := by
  refine (run_of_guarded (fun s e (hs : StreamState s) => readStep_streamState hs) ?_ hg).mono
    fun s h => h.stream.length_le
  exact ⟨⟨List.nil_prefix, nofun, nofun⟩, fun _ => ⟨sound_make, rfl⟩⟩

end Returns

/-- The reader has the header of an empty packet in its buffer. -/
def EmptyHeader (l : ReadRound Unit) : Prop :=
  l.state.reader.packetLength = 0 ∧ serviceHeaderSize ≤ l.state.reader.data.length ∧
    lengthField l.state.reader.data = 0

instance (l : ReadRound Unit) : Decidable (EmptyHeader l) := by
  unfold EmptyHeader
  infer_instance

/-- An empty packet is reported in every round, and the loop goes on. -/
theorem loopBody_emptyHeader {l : ReadRound Unit} (h : EmptyHeader l) :
    ∃ l', loopBody quietHandlers .gateway l = .ok (.inl l') ∧ EmptyHeader l' := by
  obtain ⟨hz0, hlen, hfd⟩ := h
  rw [loopBody, serviceReadPacket_empty hz0 hlen hfd]
  exact ⟨_, rfl, hz0, hlen, hfd⟩

/-- A gateway client sends the header of an empty packet: the callback does not return, however many
rounds it is given. -/
theorem loop_loopBody_diverges :
    ¬∃ n s, loop (loopBody quietHandlers .gateway) .rounds n
        ⟨{ ReadState.init () with octets := List.replicate 8 0 },
          some ((ServiceInput.octets 7 false).result (List.replicate 8 0))⟩ = .ok s := by
  rintro ⟨n, s, h⟩
  obtain ⟨r, hfst, hr⟩ := exists_ok_of_any (x := loopBody quietHandlers .gateway
    ⟨{ ReadState.init () with octets := List.replicate 8 0 },
      some ((ServiceInput.octets 7 false).result (List.replicate 8 0))⟩)
    (p := Sum.elim (fun l => decide (EmptyHeader l)) fun _ => false) (by decide +kernel)
  cases n with
  | zero => cases h
  | succ n =>
    rw [loop, hfst, ok_bind] at h
    rcases r with l | s'
    · dsimp only at h
      rw [loop_diverges (fun l => loopBody_emptyHeader) n (of_decide_eq_true hr)] at h
      cases h
    · cases hr

/-- Packets that are cut in pieces, and the end of file in the middle of one. -/
theorem run_readStep_returns_chunks :
    let events : List (ReadEvent Unit) :=
      [.arrive (frame (0, [90, 0]) ++ frame (0, [94, 1]) ++ [0, 0, 0]), .read (.octets 8 true),
        .read (.octets 30 false), .read .eof]
    Guarded (readStep quietHandlers .gateway) HeaderGuard (.init ()) events ∧
      Ensures (fun e => e = .exit)
        (fun s => s.handled.length ≤ (completePackets s.seen.length s.seen).length)
        (run (readStep quietHandlers .gateway) (.init ()) events) := by
  intro events
  have hg : Guarded (readStep quietHandlers .gateway) HeaderGuard (.init ()) events := by
    decide +kernel
  exact ⟨hg, run_readStep_returns quietHandlers () events hg⟩

end Lsh.Service
