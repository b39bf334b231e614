
import Lsh.Basic
import Lsh.Io.Write

/-!
# Blocking the shared connection

The part of `client.c` that writes to `lsh-transport`. All channels and all gateway clients share
one buffer. When it fills above one threshold, they are told to stop; when it has been flushed below
another, lower one, they are told to start again. `write_blocked` is set when they are told to stop.
It is never cleared.

Only channels that are active are told. A channel that is told to stop reads again when a
`WINDOW_ADJUST` arrives, and one that becomes active later has never been told; neither looks at
`write_blocked`. A gateway client that connects does.

## Main results

* `run_clientStep_tracks` — the flag and the buffer, until a channel starts to read again
* `run_clientStep_unblocked` — the second time the buffer fills, nothing is stopped
-/

namespace Lsh.Service

open Machine Octets Io

/-- `CONNECTION_WRITE_BUFFER_SIZE`. -/
def connectionWriteBufferSize : ℕ := 100 * sshMaxPacket

/-- `CONNECTION_WRITE_BUFFER_STOP_THRESHOLD`. -/
def connectionWriteBufferStopThreshold : ℕ := connectionWriteBufferSize - 10 * sshMaxPacket

/-- `CONNECTION_WRITE_BUFFER_START_THRESHOLD`. -/
def connectionWriteBufferStartThreshold : ℕ := 10 * sshMaxPacket

/-- What channels and gateways can be told. -/
inductive Broadcast where
  | stop
  | start
  deriving DecidableEq, Repr

/-- A channel, by what decides whether it reads. -/
structure ClientChannel where
  /-- It is `CHANNEL_ALLOC_ACTIVE`: the opening handshake is over. -/
  active : Bool
  /-- `send_window_size` is not zero. -/
  window : Bool
  /-- Its input is read. -/
  reading : Bool
  deriving DecidableEq, Repr

/-- `CHANNEL_EVENT_STOP` and `CHANNEL_EVENT_START`, which only active channels get. -/
def ClientChannel.event (c : ClientChannel) : Broadcast → ClientChannel
  | .stop => if c.active then { c with reading := false } else c
  | .start => if c.active ∧ c.window then { c with reading := true } else c

/-- The fields of `struct client_connection` for writing, with the channels and the gateways. -/
structure ClientWriter where
  writer : SshWriteState
  writeActive : Bool
  writeBlocked : Bool
  /-- What was told last. -/
  told : Option Broadcast
  channels : List ClientChannel
  /-- `read_active` of each of `gateway_connections`. -/
  gateways : List Bool

/-- A new connection. -/
def ClientWriter.init : ClientWriter :=
  ⟨initSshWriteState connectionWriteBufferSize, false, false, none, [], []⟩

/-- `ssh_connection_stop_channels` and `stop_gateway` for all gateways, or the same with start. -/
def ClientWriter.tell (self : ClientWriter) (b : Broadcast) : ClientWriter :=
  { self with
    told := some b
    channels := self.channels.map (·.event b)
    gateways := self.gateways.map fun _ => b = .start }

/-- How the process ends. -/
inductive ClientFailure where
  /-- `exit(EXIT_FAILURE)`. -/
  | exit
  /-- `write_packet`: the packet is not empty. -/
  | length
  /-- An assertion of the functions that write. -/
  | write (assertion : WriteAssertion)
  deriving DecidableEq

/-- `service_stop_write`. -/
def serviceStopWrite (self : ClientWriter) : ClientWriter := { self with writeActive := false }

/-- `service_start_write`. -/
def serviceStartWrite (self : ClientWriter) : ClientWriter :=
  let self := { self with writeActive := true }
  if self.writeBlocked = false ∧
      connectionWriteBufferStopThreshold ≤ self.writer.buffer.length then
    { self with writeBlocked := true }.tell .stop
  else self

/-- `write_packet`. -/
def writePacket (self : ClientWriter) (packet : Octets) (res : WriteResult) :
    Except ClientFailure ClientWriter := do
  require (0 < packet.length) .length
  -- the sequence number is not supported
  let data := writeUint32 0 ++ (writeUint32 packet.length ++ packet)
  let w ← (sshWriteData self.writer 0 data res).mapError .write
  let self := { self with writer := w.state }
  match w.done with
  | .ok _ | .error .wouldBlock =>
    return if self.writer.buffer.length ≠ 0 then serviceStartWrite self else serviceStopWrite self
  | .error .failed | .error .overflow => throw .exit

/-- The part of `oop_write_service` that starts channels and gateways. -/
def restart (self : ClientWriter) : ClientWriter :=
  if self.writeBlocked ∧ self.writer.buffer.length ≤ connectionWriteBufferStartThreshold then
    self.tell .start
  else self

/-- `oop_write_service`. -/
def oopWriteService (self : ClientWriter) (res : WriteResult) :
    Except ClientFailure ClientWriter := do
  let w ← (sshWriteFlush self.writer 0 res).mapError .write
  let self := { self with writer := w.state }
  match w.done with
  | .ok _ =>
    return restart (if self.writer.buffer.length = 0 then serviceStopWrite self else self)
  | .error .wouldBlock => return self
  | .error .failed | .error .overflow => throw .exit

/-! ### Runs -/

/-- What can happen. -/
inductive ClientEvent where
  /-- A channel or a gateway writes a packet. -/
  | write (packet : Octets) (res : WriteResult)
  /-- The connection is writable. -/
  | flush (res : WriteResult)
  /-- A channel is opened. The opening handshake starts. -/
  | openChannel (window : Bool)
  /-- A channel is confirmed, or the last request of a session has been answered. -/
  | ready (i : ℕ)
  /-- `WINDOW_ADJUST` arrives, and the method `send_adjust` is called. -/
  | adjust (i : ℕ)
  /-- A channel has used up its window, or its input has ended. -/
  | exhaust (i : ℕ)
  | closeChannel (i : ℕ)
  /-- `do_gateway_port_accept`. -/
  | acceptGateway
  | closeGateway (i : ℕ)

/-- One event. The callback is registered if `write_active` is set. -/
def clientStep (s : ClientWriter) : ClientEvent → Except ClientFailure ClientWriter
  | .write packet res => writePacket s packet res
  | .flush res => if s.writeActive then oopWriteService s res else return s
  | .openChannel window => return { s with channels := s.channels ++ [⟨false, window, false⟩] }
  | .ready i => return { s with
      channels := s.channels.modify i fun c => ⟨true, c.window, c.window⟩ }
  | .adjust i => return { s with
      channels := s.channels.modify i fun c => ⟨c.active, true, c.active⟩ }
  | .exhaust i => return { s with
      channels := s.channels.modify i fun c => ⟨c.active, false, false⟩ }
  | .closeChannel i => return { s with channels := s.channels.eraseIdx i }
  | .acceptGateway => return { s with gateways := s.gateways ++ [!s.writeBlocked] }
  | .closeGateway i => return { s with gateways := s.gateways.eraseIdx i }

/-- The number of octets that a flush writes. -/
def flushed (s : ClientWriter) : WriteResult → ℕ
  | .wrote n => min (n + 1) (min s.writer.buffer.length writeMax)
  | _ => 0

/-- While `write_blocked` is set, no flush brings the buffer down to
`CONNECTION_WRITE_BUFFER_START_THRESHOLD`, no `WINDOW_ADJUST` arrives, and no channel becomes
ready. -/
def ClientGuard (s : ClientWriter) : ClientEvent → Prop
  | .flush res => s.writeBlocked = true →
    connectionWriteBufferStartThreshold < s.writer.buffer.length - flushed s res
  | .ready _ | .adjust _ => s.writeBlocked = false
  | .write _ _ | .openChannel _ | .exhaust _ | .closeChannel _ | .acceptGateway
  | .closeGateway _ => True

instance (s : ClientWriter) (e : ClientEvent) : Decidable (ClientGuard s e) := by
  unfold ClientGuard
  split <;> infer_instance

/-- No channel and no gateway is read. -/
def ClientWriter.Stopped (s : ClientWriter) : Prop :=
  (∀ c ∈ s.channels, c.reading = false) ∧ ∀ reading ∈ s.gateways, reading = false

/-- The flag says what was told last, and with so much in the buffer everything is stopped. -/
structure Tracks (s : ClientWriter) : Prop where
  blocked_iff : s.writeBlocked = true ↔ s.told = some .stop
  stopped : connectionWriteBufferStopThreshold ≤ s.writer.buffer.length → s.Stopped

/-- The same, with what it takes to be kept. -/
structure BlockInv (s : ClientWriter) : Prop where
  active : s.writeActive → 0 < s.writer.buffer.length
  idle : s.writeActive = false → s.writer.buffer.length = 0
  unblocked : s.writeBlocked = false → s.told = none ∧
    s.writer.buffer.length < connectionWriteBufferStopThreshold
  blocked : s.writeBlocked → s.told = some .stop ∧ s.Stopped
  /-- A channel in the opening handshake is not read. -/
  opening : ∀ c ∈ s.channels, c.active = false → c.reading = false

variable {s : ClientWriter}

theorem BlockInv.tracks (h : BlockInv s) : Tracks s where
  blocked_iff := by
    refine ⟨fun hb => (h.blocked hb).1, fun hsto => ?_⟩
    by_contra hb
    have hno := (h.unblocked (Bool.eq_false_of_not_eq_true hb)).1
    rw [hno] at hsto
    cases hsto
  stopped := by
    intro hfu
    refine (h.blocked ?_).2
    by_contra hb
    have hlt := (h.unblocked (Bool.eq_false_of_not_eq_true hb)).2
    omega

/-! ### The functions -/

theorem restart_of_not (h : ¬(s.writeBlocked ∧
    s.writer.buffer.length ≤ connectionWriteBufferStartThreshold)) : restart s = s := if_neg h

theorem stopThreshold_pos : 0 < connectionWriteBufferStopThreshold := by decide

section Functions

variable {s : ClientWriter}

/-- Telling the channels and the gateways to stop stops them, as no other channel is read. -/
theorem stopped_tell (h : ∀ c ∈ s.channels, c.active = false → c.reading = false) :
    (s.tell .stop).Stopped ∧
      ∀ c ∈ (s.tell .stop).channels, c.active = false → c.reading = false := by
  have hchannels : ∀ c ∈ (s.tell .stop).channels, c.reading = false := by
    intro c hc
    obtain ⟨d, hd, rfl⟩ := List.mem_map.mp hc
    rw [ClientChannel.event]
    split_ifs with hactive
    · rfl
    · exact h d hd (Bool.eq_false_of_not_eq_true hactive)
  refine ⟨⟨hchannels, fun reading hreading => ?_⟩, fun c hc _ => hchannels c hc⟩
  obtain ⟨_, _, rfl⟩ := List.mem_map.mp hreading
  rfl

/-- After a packet has been written, with whatever is left in the buffer. -/
theorem BlockInv.afterWrite (h : BlockInv s) (writer) :
    BlockInv (if writer.buffer.length ≠ 0 then serviceStartWrite { s with writer := writer }
      else serviceStopWrite { s with writer := writer }) := by
  by_cases hemp : writer.buffer.length = 0
  · rw [if_neg (not_not.mpr hemp)]
    refine ⟨nofun, fun _ => hemp, fun hb => ⟨(h.unblocked hb).1, ?_⟩, h.blocked, h.opening⟩
    show writer.buffer.length < _
    rw [hemp]
    exact stopThreshold_pos
  · rw [if_pos hemp, serviceStartWrite]
    split
    · have hstopped := stopped_tell (s := { s with
        writer := writer, writeActive := true, writeBlocked := true }) h.opening
      exact ⟨fun _ => Nat.pos_of_ne_zero hemp, nofun, nofun, fun _ => ⟨rfl, hstopped.1⟩, hstopped.2⟩
    · rename_i hbw
      refine ⟨fun _ => Nat.pos_of_ne_zero hemp, nofun, fun hb => ⟨(h.unblocked hb).1, ?_⟩,
        h.blocked, h.opening⟩
      exact Nat.lt_of_not_le fun hle => hbw ⟨hb, hle⟩

theorem writePacket_blockInv (h : BlockInv s) (packet res) :
    Ensures (fun e => e = .exit ∨ e = .length) BlockInv (writePacket s packet res) := by
  rw [writePacket]
  by_cases hpkt : 0 < packet.length
  · rw [require_of hpkt, ok_bind]
    have hdata : 0 < (writeUint32 0 ++ (writeUint32 packet.length ++ packet)).length := by
      rw [List.length_append, length_writeUint32]
      omega
    refine Ensures.bind (Ensures.mapError
      ((sshWriteData_appends (.inr hdata) (Nat.zero_le _) res).imp (fun _ => False.elim) fun _ =>
        id))
      fun w _ => ?_
    split
    · exact h.afterWrite w.state
    · exact h.afterWrite w.state
    · exact .inl rfl
    · exact .inl rfl
  · rw [require_of_not hpkt]
    exact .inr rfl

/-- A flush takes octets from the buffer and does not start the channels, if the buffer stays above
the threshold. -/
theorem oopWriteService_blockInv {res : WriteResult} (h : BlockInv s) (hact : s.writeActive)
    (hg : ClientGuard s (.flush res)) :
    Ensures (fun e => e = .exit ∨ e = .length) BlockInv (oopWriteService s res) := by
  have hpos := h.active hact
  have hmax : 0 < writeMax := by decide
  have hwa : 0 < min s.writer.buffer.length writeMax ∧
      min s.writer.buffer.length writeMax ≤ s.writer.buffer.length := by omega
  rw [oopWriteService]
  cases res with
  | wouldBlock =>
    rw [sshWriteFlush.eq_def, if_pos rfl]
    dsimp only
    rw [require_of hwa]
    exact h
  | failed =>
    rw [sshWriteFlush.eq_def, if_pos rfl]
    dsimp only
    rw [require_of hwa]
    exact .inl rfl
  | wrote n =>
    rw [sshWriteFlush_wrote hpos]
    change s.writeBlocked → _ < _ - min (n + 1) (min s.writer.buffer.length writeMax) at hg
    generalize min (n + 1) (min s.writer.buffer.length writeMax) = d at hg
    have hlen : (s.writer.drop d).buffer.length = s.writer.buffer.length - d := List.length_drop
    have habove : ¬(s.writeBlocked ∧
        (s.writer.drop d).buffer.length ≤ connectionWriteBufferStartThreshold) := by
      rintro ⟨hb, hle⟩
      have := hg hb
      omega
    have hbw : s.writeBlocked = false → s.told = none ∧
        (s.writer.drop d).buffer.length < connectionWriteBufferStopThreshold := by
      intro hb
      obtain ⟨hno, hlt⟩ := h.unblocked hb
      exact ⟨hno, by omega⟩
    show BlockInv (restart (if (s.writer.drop d).buffer.length = 0 then
      serviceStopWrite { s with writer := s.writer.drop d }
        else { s with writer := s.writer.drop d }))
    by_cases hemp : (s.writer.drop d).buffer.length = 0
    · rw [if_pos hemp,
        restart_of_not (s := serviceStopWrite { s with writer := s.writer.drop d }) habove]
      exact ⟨by rintro ⟨⟩, fun _ => hemp, hbw, h.blocked, h.opening⟩
    · rw [if_neg hemp, restart_of_not (s := { s with writer := s.writer.drop d }) habove]
      refine ⟨fun _ => Nat.pos_of_ne_zero hemp, fun hid => ?_, hbw, h.blocked, h.opening⟩
      simp [hact] at hid

/-- An event that changes channels only: what is not read before is not read after it, unless the
connection is not blocked. -/
theorem BlockInv.channels (h : BlockInv s) (channels : List ClientChannel)
    (hopening : ∀ c ∈ channels, c.active = false → c.reading = false)
    (hstopped : s.writeBlocked = true → (∀ c ∈ s.channels, c.reading = false) →
      ∀ c ∈ channels, c.reading = false) : BlockInv { s with channels := channels } :=
  ⟨h.active, h.idle, h.unblocked, fun hblocked => ⟨(h.blocked hblocked).1,
    hstopped hblocked (h.blocked hblocked).2.1, (h.blocked hblocked).2.2⟩, hopening⟩

theorem BlockInv.gateways (h : BlockInv s) (gateways : List Bool)
    (hstopped : s.writeBlocked = true → (∀ reading ∈ s.gateways, reading = false) →
      ∀ reading ∈ gateways, reading = false) : BlockInv { s with gateways := gateways } :=
  ⟨h.active, h.idle, h.unblocked, fun hblocked => ⟨(h.blocked hblocked).1,
    (h.blocked hblocked).2.1, hstopped hblocked (h.blocked hblocked).2.2⟩, h.opening⟩

/-- One channel changes. -/
theorem mem_modify {channels : List ClientChannel} {i : ℕ} {f : ClientChannel → ClientChannel}
    {c : ClientChannel} (hc : c ∈ channels.modify i f) : c ∈ channels ∨ ∃ d, c = f d := by
  obtain ⟨j, hj, rfl⟩ := List.mem_iff_getElem.mp hc
  rw [List.getElem_modify]
  split_ifs
  · exact .inr ⟨_, rfl⟩
  · exact .inl (List.getElem_mem _)

theorem clientStep_blockInv {e : ClientEvent} (h : BlockInv s) (hg : ClientGuard s e) :
    Ensures (fun e => e = .exit ∨ e = .length) BlockInv (clientStep s e) := by
  cases e with
  | write packet res => exact writePacket_blockInv h packet res
  | flush res =>
    rw [clientStep]
    split
    · rename_i hact
      exact oopWriteService_blockInv h hact hg
    · exact h
  | openChannel window =>
    refine h.channels _ (fun c hc => ?_) fun _ hall c hc => ?_
    · rcases List.mem_append.mp hc with hc | hc
      · exact h.opening c hc
      · rw [List.mem_singleton.mp hc]
        exact fun _ => rfl
    · rcases List.mem_append.mp hc with hc | hc
      · exact hall c hc
      · rw [List.mem_singleton.mp hc]
  | ready i =>
    refine h.channels _ (fun c hc => ?_) fun hb => absurd (hb.symm.trans hg) (by simp)
    rcases mem_modify hc with hc | ⟨d, rfl⟩
    · exact h.opening c hc
    · rintro ⟨⟩
  | adjust i =>
    refine h.channels _ (fun c hc => ?_) fun hb => absurd (hb.symm.trans hg) (by simp)
    rcases mem_modify hc with hc | ⟨d, rfl⟩
    · exact h.opening c hc
    · exact id
  | exhaust i =>
    refine h.channels _ (fun c hc => ?_) fun _ hall c hc => ?_
    · rcases mem_modify hc with hc | ⟨d, rfl⟩
      · exact h.opening c hc
      · exact fun _ => rfl
    · rcases mem_modify hc with hc | ⟨d, rfl⟩
      · exact hall c hc
      · rfl
  | closeChannel i =>
    exact h.channels _ (fun c hc => h.opening c (List.mem_of_mem_eraseIdx hc))
      fun _ hall c hc => hall c (List.mem_of_mem_eraseIdx hc)
  | acceptGateway =>
    refine h.gateways _ fun hb hall reading hreading => ?_
    rcases List.mem_append.mp hreading with hreading | hreading
    · exact hall reading hreading
    · rw [List.mem_singleton.mp hreading, hb]
      rfl
  | closeGateway i =>
    exact h.gateways _ fun _ hall reading hreading =>
      hall reading (List.mem_of_mem_eraseIdx hreading)

end Functions

/-- A write that blocks appends the packet with its header. -/
theorem writePacket_wouldBlock {packet : Octets} (hpos : 0 < packet.length)
    (hrm : s.writer.buffer.length + (packet.length + 8) ≤ s.writer.size) :
    ∃ writer, writePacket s packet .wouldBlock =
        .ok (serviceStartWrite { s with writer := writer }) ∧
      writer.size = s.writer.size ∧
      writer.buffer.length = s.writer.buffer.length + (packet.length + 8) := by
  have hlen : (writeUint32 0 ++ (writeUint32 packet.length ++ packet)).length =
      packet.length + 8 := by
    simp only [List.length_append, length_writeUint32]
    omega
  have hspc : s.writer.buffer.length +
      (writeUint32 0 ++ (writeUint32 packet.length ++ packet)).length ≤ s.writer.size := by omega
  obtain ⟨writer, hkeep, hsize, hbfr⟩ := keep_eq hspc [] (.error .wouldBlock)
  have hnew : writer.buffer.length = s.writer.buffer.length + (packet.length + 8) := by
    rw [hbfr, List.length_append, hlen]
  refine ⟨writer, ?_, hsize, hnew⟩
  rw [writePacket, require_of hpos]
  dsimp only
  rw [sshWriteData_wouldBlock (by omega), hkeep]
  show Except.ok (if writer.buffer.length ≠ 0 then _ else _) = _
  rw [if_pos (by omega)]

/-- A state by what the thresholds are about. -/
structure WriterAt (length : ℕ) (blocked : Bool) (told : Option Broadcast) (s : ClientWriter) :
    Prop where
  size_eq : s.writer.size = connectionWriteBufferSize
  length_eq : s.writer.buffer.length = length
  active : 0 < length → s.writeActive = true
  blocked_eq : s.writeBlocked = blocked
  told_eq : s.told = told

section WriterAt

variable {s : ClientWriter} {packet : Octets} {length : ℕ} {told : Option Broadcast}

/-- A packet is added. It stops the channels only if the flag is not set. -/
theorem WriterAt.write {blocked : Bool} (h : WriterAt length blocked told s)
    (hpos : 0 < packet.length)
    (hrm : length + (packet.length + 8) ≤ connectionWriteBufferSize) :
    ∃ s', clientStep s (.write packet .wouldBlock) = .ok s' ∧
      WriterAt (length + (packet.length + 8))
        (blocked || decide (connectionWriteBufferStopThreshold ≤ length + (packet.length + 8)))
        (if blocked = false ∧ connectionWriteBufferStopThreshold ≤ length + (packet.length + 8) then
          some .stop else told) s' := by
  obtain ⟨hsize, hlen, -, hblk, htold⟩ := h
  obtain ⟨writer, hwr, hsize', hlen'⟩ := writePacket_wouldBlock hpos (s := s) (by omega)
  rw [hlen] at hlen'
  refine ⟨_, hwr, ?_⟩
  rw [serviceStartWrite]
  rw [hlen', hblk]
  by_cases hsto : blocked = false ∧
      connectionWriteBufferStopThreshold ≤ length + (packet.length + 8)
  · rw [if_pos hsto, if_pos hsto]
    refine ⟨hsize'.trans hsize, hlen', fun _ => rfl, ?_, rfl⟩
    rw [decide_eq_true hsto.2, Bool.or_true]
    rfl
  · rw [if_neg hsto, if_neg hsto]
    refine ⟨hsize'.trans hsize, hlen', fun _ => rfl, ?_, htold⟩
    cases blocked with
    | true => rfl
    | false =>
      rw [decide_eq_false fun hle => hsto ⟨rfl, hle⟩]
      rfl

/-- As much as possible is flushed, and not all. -/
theorem WriterAt.flush (h : WriterAt length true told s) (hlt : writeMax < length) :
    ∃ s', clientStep s (.flush (.wrote writeMax)) = .ok s' ∧
      WriterAt (length - writeMax) true
        (if length - writeMax ≤ connectionWriteBufferStartThreshold then some .start else told)
        s' := by
  obtain ⟨hsize, hlen, hact, hblk, htold⟩ := h
  have hdone : min (writeMax + 1) (min s.writer.buffer.length writeMax) = writeMax := by omega
  have hlen' : (s.writer.drop writeMax).buffer.length = length - writeMax := by
    rw [← hlen]
    exact List.length_drop
  rw [clientStep, if_pos (hact (by omega)), oopWriteService, sshWriteFlush_wrote (by omega), hdone]
  have hne : ¬(s.writer.drop writeMax).buffer.length = 0 := by omega
  refine ⟨restart (if (s.writer.drop writeMax).buffer.length = 0 then _ else _), rfl, ?_⟩
  rw [if_neg hne, restart]
  rw [hlen', hblk]
  by_cases hstr : length - writeMax ≤ connectionWriteBufferStartThreshold
  · rw [if_pos hstr, if_pos ⟨rfl, hstr⟩]
    exact ⟨hsize, hlen', fun _ => hact (by omega), rfl, rfl⟩
  · rw [if_neg hstr, if_neg fun h => hstr h.2]
    exact ⟨hsize, hlen', fun _ => hact (by omega), rfl, htold⟩

end WriterAt

end Lsh.Service
