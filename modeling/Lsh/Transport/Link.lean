
import Lsh.Transport.Connection
import Lsh.Transport.Read

/-!
# Connections and the event loop

The part of `transport.c` that registers callbacks: closing and killing a connection, starting and
stopping to read and to write, the callbacks `oop_read_ssh`, `oop_write_ssh` and `oop_timer_retry`,
and packets that the application cannot take yet and that are retried. Input and output of a
connection are the same file descriptor, as in all programs but tests. The timer `expire`, which
`Connection` has, is left out.

What is read from the connection, and what is done with it, is given by a list of `Round`s, one for
each time around the loop of a callback. Handlers of packets do some `Call`s. The outcomes of writes
are part of these. When a list ends there is nothing more to read.

There are three ways in which a callback is left behind. `transport_close` with `flush`, while
something is left to write, declares the input closed but does not cancel the callback for reading,
and when the output is closed later this is done with `close`, not with `io_close_fd`. And
`oop_timer_retry` and `transport_handshake` start to read without looking whether the connection has
been closed.

## Main results

* `run_linkStep_registered` — callbacks are registered for the right file descriptor, if connections
  are closed only when there is nothing left to write
* `run_linkStep_outlives` — what happens otherwise
* `run_linkStep_inOrder` — packets are handled once and in order, also if they have to be retried
* `Agrees.performAll` — what an application does with a `Connection` is what calls do with a `Link`
-/

namespace Lsh.Transport

open Machine List

/-! ### State -/

/-- The fields of `struct transport_connection` and of `struct transport_forward` that decide which
callbacks are registered, and these callbacks. A file descriptor is `none` if it is negative. -/
structure Link where
  /-- `transport_handshake` has been called. -/
  started : Bool
  alive : Bool
  sshInput : Option ℕ
  sshOutput : Option ℕ
  readActive : Bool
  writeActive : Bool
  closing : Bool
  /-- `kex.write_state` is not `KEX_STATE_INIT`. -/
  writeState : Bool
  /-- The packet to retry, with its sequence number. There is none if `retry_length` is zero. -/
  retry : Option Packet
  /-- There is a file descriptor `service_out`. -/
  service : Bool
  /-- The last of `START_APPLICATION` and `STOP_APPLICATION` was the latter. -/
  stopped : Bool
  /-- Where `oop_read_ssh` is registered. -/
  onRead : List (Option ℕ)
  /-- Where `oop_write_ssh` is registered. -/
  onWrite : List (Option ℕ)
  /-- `oop_timer_retry` is registered. -/
  onTime : Bool
  /-- The number of lines and packets read so far. -/
  seqno : ℕ
  /-- The packets for the application that were read. -/
  received : List Packet
  /-- Those for which `packet_handler` has returned 1. -/
  handled : List Packet
  deriving DecidableEq

/-- A new connection. -/
def Link.init (fd : ℕ) : Link where
  started := false
  alive := true
  sshInput := some fd
  sshOutput := some fd
  readActive := false
  writeActive := false
  closing := false
  writeState := false
  retry := none
  service := true
  stopped := false
  onRead := []
  onWrite := []
  onTime := false
  seqno := 0
  received := []
  handled := []

/-- Assertions at the start of the callbacks. -/
inductive LinkAssertion where
  /-- `oop_read_ssh`: the file descriptor is `ssh_input`. -/
  | sshInput (fd : ℕ) (sshInput : Option ℕ)
  /-- `oop_read_ssh`: there is no packet to retry. -/
  | noRetry
  /-- `oop_write_ssh`: the file descriptor is `ssh_output`. -/
  | sshOutput
  /-- `oop_timer_retry`: the connection is alive. -/
  | alive
  /-- `oop_timer_retry`: there is a packet to retry. -/
  | retry
  deriving DecidableEq, Repr

namespace Link

variable (c : Link)

/-- `cancel_fd`, for one kind of event. -/
def cancelFd (fd : Option ℕ) (fds : List (Option ℕ)) : List (Option ℕ) := fds.filter (· ≠ fd)

/-- `io_close_fd`. -/
def ioCloseFd (fd : Option ℕ) : Link :=
  if fd = none then c
  else { c with onRead := cancelFd fd c.onRead, onWrite := cancelFd fd c.onWrite }

/-- `transport_connection_kill`, after the service has been closed. -/
def closeAll : Link :=
  let c := { c with alive := false, service := false, onTime := false }
  let c := c.ioCloseFd c.sshInput
  let c := if c.sshOutput ≠ c.sshInput then c.ioCloseFd c.sshOutput else c
  { c with sshInput := none, sshOutput := none }

/-- `KILL_RESOURCE`: `kill_lshd_connection`, and the same in `lsh-transport`. -/
def kill : Link := if c.alive then c.closeAll else c

/-- The first half of `transport_close`: the service is closed, and then the input, unless it is the
output as well. -/
def closeInput : Link :=
  let c := { c with service := false }
  let c := if c.sshInput ≠ c.sshOutput then c.ioCloseFd c.sshInput else c
  { c with sshInput := none }

/-- `transport_close`. -/
def close (flush : Bool) : Link :=
  if c.alive ∧ ¬c.closing then
    if flush ∧ c.writeActive then { c.closeInput with closing := true }
    else kill { c.closeInput.ioCloseFd c.sshOutput with sshOutput := none }
  else c

/-- `transport_start_read`. -/
def startRead : Link :=
  if c.readActive then c
  else if c.retry.isSome then { c with readActive := true, onTime := true }
  else { c with readActive := true, onRead := c.onRead ++ [c.sshInput] }

/-- `transport_stop_read`. -/
def stopRead : Link :=
  { c with readActive := false, onTime := false, onRead := cancelFd c.sshInput c.onRead }

/-- `transport_start_write`. -/
def startWrite (almostFull : Bool) : Link :=
  let c := if c.writeActive then c
    else { c with writeActive := true, onWrite := c.onWrite ++ [c.sshOutput] }
  if ¬c.writeState ∧ almostFull then { c with stopped := true } else c

/-- `transport_stop_write`. -/
def stopWrite (almostFull : Bool) : Link :=
  if c.writeActive then
    let c := { c with writeActive := false, onWrite := cancelFd c.sshOutput c.onWrite }
    -- `close`, which cancels nothing
    if c.closing then kill { c with sshOutput := none, closing := false }
    else if ¬c.writeState ∧ ¬almostFull then { c with stopped := false }
    else c
  else c

/-- The switch in `transport_send_packet`. -/
def afterWrite (o : WriteOutcome) : Link :=
  match o.status with
  | .overflow | .ioError => c.close false
  | .pending => c.startWrite o.almostFull
  | .complete => c.stopWrite o.almostFull

/-- `transport_send_packet`, with or without a packet. -/
def send (o : WriteOutcome) : Link := if c.alive then c.afterWrite o else c

/-- `transport_disconnect`, with the outcome of sending the message, if there is a reason to
send. -/
def disconnect (o : Option WriteOutcome) : Link := (o.elim c c.send).close true

end Link

/-! ### Handlers -/

/-- What a handler does with the connection. -/
inductive LinkCall where
  | send (o : WriteOutcome)
  | disconnect (o : Option WriteOutcome)
  | close (flush : Bool)
  /-- The state of the key exchange changes. -/
  | writeState (b : Bool)

/-- One call. -/
def Link.perform (c : Link) : LinkCall → Link
  | .send o => c.send o
  | .disconnect o => c.disconnect o
  | .close flush => c.close flush
  | .writeState b => { c with writeState := b }

/-- All calls of a handler. -/
def Link.performAll (c : Link) (calls : List LinkCall) : Link := calls.foldl Link.perform c

/-- What happens in one round of the loop that reads packets. -/
inductive Round where
  | ioError
  | eof
  /-- The message may not be sent, when there is no reason to give. -/
  | protocolError (o : Option WriteOutcome)
  /-- `TRANSPORT_EVENT_PUSH`. If writing to the service fails, the connection is closed. -/
  | push (o : Option WriteOutcome)
  | pending
  /-- A line, or a packet that is not for the application. -/
  | other (calls : List LinkCall)
  /-- A packet for the application: what `packet_handler` does, and what it returns. -/
  | packet (octets : Octets) (calls : List LinkCall) (done : Bool)

/-- A packet for the application has been read. -/
def Link.receive (c : Link) (octets : Octets) : Link :=
  { c with received := c.received ++ [(c.seqno, octets)], seqno := c.seqno + 1 }

/-- `packet_handler`. -/
def Link.handle (c : Link) (pk : Packet) (calls : List LinkCall) (done : Bool) : Link :=
  let c := c.performAll calls
  if done then { c with handled := c.handled ++ [pk] } else c

/-- Writing to the service in the handler for `TRANSPORT_EVENT_PUSH`. -/
def Link.push (c : Link) (o : Option WriteOutcome) : Link := o.elim c fun o => c.disconnect (some o)

/-- The loop of `oop_read_ssh`. -/
def readLoop : List Round → Link → Link
  | [], c => c
  | r :: rounds, c =>
    if c.sshInput = none then c
    else match r with
    | .ioError | .eof => readLoop rounds (c.close false)
    | .protocolError o => readLoop rounds (c.disconnect o)
    | .push o => c.push o
    | .pending => c
    | .other calls => readLoop rounds { c.performAll calls with seqno := c.seqno + 1 }
    | .packet octets calls done =>
      let pk := (c.seqno, octets)
      let c := (c.receive octets).handle pk calls done
      if done then readLoop rounds c else { c with retry := some pk }.stopRead

/-- The loop of `oop_timer_retry`. -/
def retryLoop : List Round → Link → Link
  | [], c => if c.sshInput = none then c else c.startRead
  | r :: rounds, c =>
    if c.sshInput = none then c
    else match r with
    | .ioError | .eof => retryLoop rounds (c.close false)
    | .protocolError o => retryLoop rounds (c.disconnect o)
    | .push o => (c.push o).startRead
    | .pending => c.startRead
    | .other calls => retryLoop rounds { c.performAll calls with seqno := c.seqno + 1 }
    | .packet octets calls done =>
      let pk := (c.seqno, octets)
      let c := (c.receive octets).handle pk calls done
      -- wait for the application to wake us up again
      if done then retryLoop rounds c else { c with retry := some pk }

/-! ### Callbacks -/

/-- `oop_read_ssh`. -/
def oopReadSsh (c : Link) (fd : ℕ) (rounds : List Round) : Except LinkAssertion Link := do
  require (c.sshInput = some fd) (.sshInput fd c.sshInput)
  require (c.retry = none) .noRetry
  return readLoop rounds c

/-- What `transport_write_flush` returns in `oop_write_ssh`. There is no overflow. -/
inductive FlushStatus where
  | pending
  | complete
  | ioError
  deriving DecidableEq, Repr

/-- `oop_write_ssh`. -/
def oopWriteSsh (c : Link) (fd : ℕ) (status : FlushStatus) (almostFull : Bool) :
    Except LinkAssertion Link := do
  require (c.sshOutput = some fd) .sshOutput
  match status with
  | .pending => return c
  | .complete => return c.stopWrite almostFull
  | .ioError => return c.close false

/-- `oop_timer_retry`: what `packet_handler` does and returns, the outcome of sending a message if
it returns 0, and the packets that are left in the buffer. -/
def oopTimerRetry (c : Link) (calls : List LinkCall) (done : Bool) (o : WriteOutcome)
    (rounds : List Round) : Except LinkAssertion Link := do
  require (c.alive = true) .alive
  match c.retry with
  | none => throw .retry
  | some pk =>
    let c := { c with retry := none, readActive := false }.handle pk calls done
    if done then return retryLoop rounds c else return c.disconnect (some o)

/-- `transport_handshake`, with the outcomes of writing the version and the `KEXINIT` message. -/
def Link.handshake (c : Link) (line kexinit : WriteOutcome) : Link :=
  let c := { c with started := true }
  let c := match line.status with
    | .overflow | .ioError => c.close false
    | .pending | .complete => c
  ({ c with writeState := true }.send kexinit).startRead

/-! ### Runs -/

/-- What can happen. -/
inductive LinkEvent where
  | handshake (line kexinit : WriteOutcome)
  | readable (fd : ℕ) (rounds : List Round)
  | writable (fd : ℕ) (status : FlushStatus) (almostFull : Bool)
  /-- The timer for packets to retry. -/
  | timer (calls : List LinkCall) (done : Bool) (o : WriteOutcome) (rounds : List Round)
  /-- The service has read enough (`oop_write_service`). -/
  | drained
  /-- Another callback of the program does something with the connection. -/
  | call (call : LinkCall)
  /-- The resource is killed. -/
  | kill

/-- One event. Callbacks are called where they are registered. -/
def linkStep (c : Link) : LinkEvent → Except LinkAssertion Link
  | .handshake line kexinit =>
    if c.started then return c else return c.handshake line kexinit
  | .readable fd rounds => if some fd ∈ c.onRead then oopReadSsh c fd rounds else return c
  | .writable fd status almostFull =>
    if some fd ∈ c.onWrite then oopWriteSsh c fd status almostFull else return c
  | .timer calls done o rounds =>
    -- the timer is called once
    if c.onTime then oopTimerRetry { c with onTime := false } calls done o rounds else return c
  | .drained => if c.started ∧ c.service then return c.startRead else return c
  | .call call => if c.started then return c.perform call else return c
  | .kill => if c.started then return c.kill else return c

/-! ### Connections and links -/

/-- A connection and a link have the same state, as far as both know it. -/
structure Agrees {σ η ε : Type} (c : Connection σ η ε) (l : Link) : Prop where
  alive : l.alive = c.alive
  input : l.sshInput.isSome = c.sshInput
  writeActive : l.writeActive = c.writeActive
  closing : l.closing = c.closing
  writeState : l.writeState = c.kex.writeState

/-- What an action of the application is for a link, with the outcome of the next write. -/
def Action.linkCall {σ : Type} (o : WriteOutcome) : Action σ → Option LinkCall
  | .send _ | .flush => some (.send o)
  | .disconnect reason _ => some (.disconnect (if reason ≠ 0 then some o else none))
  | .close drain => some (.close drain)
  | .become _ => none

namespace Agrees

variable {σ η ε : Type} {app : App σ ε} {c : Connection σ η ε} {l : Link}

theorem ioCloseFd (h : Agrees c l) (fd : Option ℕ) : Agrees c (l.ioCloseFd fd) := by
  rw [Link.ioCloseFd]
  split
  · exact h
  · exact ⟨h.alive, h.input, h.writeActive, h.closing, h.writeState⟩

theorem noInput (h : Agrees c l) (expire : Option Timer) (data : σ) (output : Option ℕ) :
    Agrees { c with expire := expire, sshInput := false, app := data }
      { l with sshInput := none, sshOutput := output } :=
  ⟨h.alive, rfl, h.writeActive, h.closing, h.writeState⟩

/-- `KILL_RESOURCE`. -/
theorem kill (h : Agrees c l) : Agrees (transportConnectionKill app c) l.kill := by
  rw [transportConnectionKill, Link.kill, h.alive]
  split
  · have hdead : Agrees { c with alive := false }
        { l with alive := false, service := false, onTime := false } :=
      ⟨rfl, h.input, h.writeActive, h.closing, h.writeState⟩
    rw [Link.closeAll]
    dsimp only
    split
    · exact ((hdead.ioCloseFd _).ioCloseFd _).noInput _ _ none
    · exact (hdead.ioCloseFd _).noInput _ _ none
  · exact h

theorem closeInput (h : Agrees c l) : Agrees (Lsh.Transport.closeInput app c) l.closeInput := by
  have hclosed : Agrees c { l with service := false } :=
    ⟨h.alive, h.input, h.writeActive, h.closing, h.writeState⟩
  rw [Link.closeInput]
  dsimp only
  split
  · exact (hclosed.ioCloseFd _).noInput _ _ _
  · exact hclosed.noInput _ _ _

/-- `transport_close`. -/
theorem close (h : Agrees c l) (flush : Bool) :
    Agrees (transportClose app c flush) (l.close flush) := by
  rw [transportClose, Link.close, h.alive, h.closing, h.writeActive]
  have hclosed : Agrees (Lsh.Transport.closeInput app c) l.closeInput := h.closeInput
  split_ifs
  · exact ⟨hclosed.alive, hclosed.input, hclosed.writeActive, rfl, hclosed.writeState⟩
  · have hout := hclosed.ioCloseFd l.sshOutput
    exact kill ⟨hout.alive, hout.input, hout.writeActive, hout.closing, hout.writeState⟩
  · exact h

/-- `transport_start_write`. -/
theorem startWrite (h : Agrees c l) (almostFull : Bool) :
    Agrees (transportStartWrite app c almostFull) (l.startWrite almostFull) := by
  by_cases hwrite : l.writeActive = true
  · simp only [transportStartWrite, Link.startWrite, if_pos hwrite, h.writeState]
    split_ifs
    · exact ⟨h.alive, h.input, hwrite, h.closing, rfl⟩
    · exact ⟨h.alive, h.input, hwrite, h.closing, h.writeState⟩
  · simp only [transportStartWrite, Link.startWrite, if_neg hwrite, h.writeState]
    split_ifs <;> exact ⟨h.alive, h.input, rfl, h.closing, rfl⟩

/-- `transport_stop_write`. -/
theorem stopWrite (h : Agrees c l) (almostFull : Bool) :
    Agrees (transportStopWrite app c almostFull) (l.stopWrite almostFull) := by
  rw [transportStopWrite, Link.stopWrite, h.writeActive]
  dsimp only
  rw [h.closing, h.writeState]
  split_ifs
  · exact kill ⟨h.alive, h.input, rfl, rfl, rfl⟩
  · exact ⟨h.alive, h.input, rfl, rfl, rfl⟩
  · exact ⟨h.alive, h.input, rfl, rfl, rfl⟩
  · exact h

theorem afterWrite (h : Agrees c l) (o : WriteOutcome) :
    Agrees (Lsh.Transport.afterWrite app c o) (l.afterWrite o) := by
  rw [Lsh.Transport.afterWrite, Link.afterWrite]
  cases o.status with
  | overflow | ioError => exact h.close false
  | pending => exact h.startWrite _
  | complete => exact h.stopWrite _

variable {oracle : Oracle}

/-- `transport_send_packet`. -/
theorem send (h : Agrees c l) (origin : Origin) (packet : Octets) :
    Agrees (transportSendPacket app oracle c origin packet) (l.send (oracle.outcome c.writes)) := by
  rw [transportSendPacket, Link.send, h.alive]
  split_ifs
  · refine afterWrite ?_ _
    exact ⟨h.alive, h.input, h.writeActive, h.closing, h.writeState⟩
  · exact h

theorem flush (h : Agrees c l) :
    Agrees (transportFlush app oracle c) (l.send (oracle.outcome c.writes)) := by
  rw [transportFlush, Link.send, h.alive]
  split_ifs
  · refine afterWrite ?_ _
    exact ⟨h.alive, h.input, h.writeActive, h.closing, h.writeState⟩
  · exact h

/-- One action of the application. -/
theorem perform (h : Agrees c l) (a : Action σ) :
    Agrees (Lsh.Transport.perform app oracle c a)
      ((a.linkCall (oracle.outcome c.writes)).elim l l.perform) := by
  cases a with
  | send packet => exact h.send .other packet
  | flush => exact h.flush
  | disconnect reason msg =>
    show Agrees (transportDisconnect app oracle c reason msg) (l.disconnect _)
    rw [transportDisconnect, Link.disconnect]
    split_ifs
    · exact (h.send .other _).close true
    · exact h.close true
  | close flush => exact h.close flush
  | become f => exact ⟨h.alive, h.input, h.writeActive, h.closing, h.writeState⟩

/-- **The two models do the same.** -/
theorem performAll (h : Agrees c l) (actions : List (Action σ)) :
    ∃ calls, Agrees (Lsh.Transport.performAll app oracle c actions) (l.performAll calls) := by
  induction actions generalizing c l with
  | nil => exact ⟨[], h⟩
  | cons a actions ih =>
    obtain ⟨calls, hcalls⟩ := ih (h.perform a)
    cases hcall : a.linkCall (oracle.outcome c.writes) with
    | none =>
      rw [hcall] at hcalls
      exact ⟨calls, hcalls⟩
    | some call =>
      rw [hcall] at hcalls
      exact ⟨call :: calls, hcalls⟩

end Agrees

/-! ### What operations do -/

/-- What holds in all states. -/
structure LinkInv (c : Link) : Prop where
  opened : c.sshInput.isSome → c.alive ∧ c.closing = false ∧ c.sshOutput = c.sshInput
  alive : c.alive → c.closing = false → c.sshInput.isSome
  output : c.alive → c.sshOutput.isSome
  dead : c.alive = false → c.sshOutput = none
  service : c.service → c.sshInput.isSome
  write : ∀ fd ∈ c.onWrite, fd = c.sshOutput ∧ fd.isSome
  time : c.onTime → c.alive ∧ c.retry.isSome

namespace Link

variable {c : Link}

theorem mem_cancelFd : x ∈ cancelFd fd fds ↔ x ∈ fds ∧ x ≠ fd := by
  simp [cancelFd]

/-- The connection is closed and killed. -/
def shut (c : Link) : Link :=
  { c with
    alive := false
    service := false
    onTime := false
    onRead := cancelFd c.sshOutput c.onRead
    onWrite := cancelFd c.sshOutput c.onWrite
    sshInput := none
    sshOutput := none }

/-- Killing a connection that is alive, whether or not it waits for its buffers to drain. -/
theorem kill_eq (h : LinkInv c) (hal : c.alive) : c.kill = c.shut := by
  obtain ⟨fd, hfd⟩ := Option.isSome_iff_exists.mp (h.output hal)
  rw [kill, if_pos hal, closeAll, shut]
  cases hinp : c.sshInput with
  | none => simp [ioCloseFd, hfd]
  | some fd' =>
    have hsame := (h.opened (by rw [hinp]; rfl)).2.2
    rw [hinp, hfd] at hsame
    cases hsame
    simp [ioCloseFd, hfd]

/-- `transport_close`, when it has an effect. -/
theorem close_eq (h : LinkInv c) (hal : c.alive = true) (hclg : c.closing = false) (flush) :
    c.close flush = if flush ∧ c.writeActive
      then { c with service := false, sshInput := none, closing := true } else c.shut := by
  have hinp := h.alive hal hclg
  have hsame := (h.opened hinp).2.2
  obtain ⟨fd, hfd⟩ := Option.isSome_iff_exists.mp hinp
  rw [close, if_pos (by simp [hal, hclg])]
  split
  · simp [closeInput, hfd, hsame]
  · simp [closeInput, hfd, hsame, kill, hal, ioCloseFd, closeAll, shut]

theorem close_of_not (h : ¬(c.alive = true ∧ c.closing = false)) : c.close flush = c := by
  rw [close, if_neg (by simpa using h)]

/-- `transport_stop_write`, when the buffer has been drained. -/
theorem stopWrite_closing (hal : c.alive) (hact : c.writeActive) (hclg : c.closing)
    (hinp : c.sshInput = none) (full) :
    c.stopWrite full =
      { c with
        writeActive := false
        onWrite := cancelFd c.sshOutput c.onWrite
        alive := false
        service := false
        onTime := false
        sshOutput := none
        closing := false } := by
  simp [stopWrite, hact, hclg, kill, hal, closeAll, ioCloseFd, hinp]

/-- What calls do to the part of the state that is about reading: nothing, unless they close the
connection. -/
structure Evolves (c c' : Link) : Prop where
  started : c'.started = c.started
  retry : c'.retry = c.retry
  readActive : c'.readActive = c.readActive
  seqno : c'.seqno = c.seqno
  received : c'.received = c.received
  handled : c'.handled = c.handled
  reading : (c'.sshInput = c.sshInput ∧ c'.onRead = c.onRead ∧ c'.onTime = c.onTime) ∨
    (c'.sshInput = none ∧ c'.onRead ⊆ c.onRead)

theorem Evolves.refl (c) : Evolves c c :=
  ⟨rfl, rfl, rfl, rfl, rfl, rfl, .inl ⟨rfl, rfl, rfl⟩⟩

theorem Evolves.trans (h : Evolves c₁ c₂) (h' : Evolves c₂ c₃) :
    Evolves c₁ c₃ where
  started := h'.started.trans h.started
  retry := h'.retry.trans h.retry
  readActive := h'.readActive.trans h.readActive
  seqno := h'.seqno.trans h.seqno
  received := h'.received.trans h.received
  handled := h'.handled.trans h.handled
  reading := by
    rcases h.reading with ⟨hi, hr, ht⟩ | ⟨hi, hr⟩ <;> rcases h'.reading with ⟨hi', hr', ht'⟩ | ⟨hi',
      hr'⟩
    · exact .inl ⟨hi'.trans hi, hr'.trans hr, ht'.trans ht⟩
    · exact .inr ⟨hi', fun x hx => hr ▸ hr' hx⟩
    · exact .inr ⟨hi'.trans hi, fun x hx => hr (hr' ▸ hx)⟩
    · exact .inr ⟨hi', fun x hx => hr (hr' hx)⟩

/-- Kept, and no more than closed. -/
structure Keeps (c c' : Link) : Prop where
  inv : LinkInv c'
  evolves : Evolves c c'

theorem Keeps.trans (h : Keeps c₁ c₂) (h' : LinkInv c₂ → Keeps c₂ c₃) : Keeps c₁ c₃ :=
  ⟨(h' h.inv).inv, h.evolves.trans (h' h.inv).evolves⟩

section
variable (h : LinkInv c)
include h

theorem keeps_shut : Keeps c c.shut where
  inv := by
    refine ⟨nofun, nofun, nofun, fun _ => rfl, nofun, fun fd hfd => ?_, nofun⟩
    obtain ⟨hmem, hne⟩ := mem_cancelFd.mp hfd
    exact absurd (h.write fd hmem).1 hne
  evolves := ⟨rfl, rfl, rfl, rfl, rfl, rfl, .inr ⟨rfl, fun _ hx => (mem_cancelFd.mp hx).1⟩⟩

theorem keeps_kill : Keeps c c.kill := by
  by_cases hal : c.alive
  · rw [kill_eq h hal]
    exact keeps_shut h
  · rw [kill, if_neg hal]
    exact ⟨h, .refl c⟩

theorem keeps_close (flush) : Keeps c (c.close flush) := by
  by_cases hlive : c.alive = true ∧ c.closing = false
  · rw [close_eq h hlive.1 hlive.2]
    split
    · refine ⟨⟨nofun, nofun, h.output, h.dead, nofun, h.write, h.time⟩, ?_⟩
      exact ⟨rfl, rfl, rfl, rfl, rfl, rfl, .inr ⟨rfl, fun _ hx => hx⟩⟩
    · exact keeps_shut h
  · rw [close_of_not hlive]
    exact ⟨h, .refl c⟩

theorem keeps_startWrite (hal : c.alive) (full) : Keeps c (c.startWrite full) := by
  have hwr : ∀ fd ∈ c.onWrite ++ [c.sshOutput], fd = c.sshOutput ∧ fd.isSome := by
    simp only [mem_append, mem_singleton]
    rintro fd (hfd | rfl)
    · exact h.write fd hfd
    · exact ⟨rfl, h.output hal⟩
  rw [startWrite]
  refine ⟨?_, ?_⟩ <;> split_ifs <;>
    first
    | exact { h with }
    | exact { h with write := hwr }
    | exact ⟨rfl, rfl, rfl, rfl, rfl, rfl, .inl ⟨rfl, rfl, rfl⟩⟩

theorem keeps_stopWrite (hal : c.alive) (full) : Keeps c (c.stopWrite full) := by
  have hwr : ∀ fd ∈ cancelFd c.sshOutput c.onWrite, fd = c.sshOutput ∧ fd.isSome :=
    fun fd hfd => h.write fd (mem_cancelFd.mp hfd).1
  by_cases hact : c.writeActive
  · by_cases hclg : c.closing
    · have hinp : c.sshInput = none := by
        by_contra hopen
        have hfls := (h.opened (Option.isSome_iff_ne_none.mpr hopen)).2.1
        rw [hclg] at hfls
        cases hfls
      rw [stopWrite_closing hal hact hclg hinp]
      refine ⟨⟨?_, nofun, nofun, fun _ => rfl, nofun, ?_, nofun⟩, ?_⟩
      · rw [hinp]
        exact nofun
      · intro fd hfd
        exact absurd (hwr fd hfd).1 (mem_cancelFd.mp hfd).2
      · exact ⟨rfl, rfl, rfl, rfl, rfl, rfl, .inr ⟨hinp, fun _ hx => hx⟩⟩
    · rw [stopWrite]
      refine ⟨?_, ?_⟩ <;> rw [if_neg hclg] <;> split_ifs <;>
        first
        | exact { h with write := hwr }
        | exact ⟨rfl, rfl, rfl, rfl, rfl, rfl, .inl ⟨rfl, rfl, rfl⟩⟩
  · rw [stopWrite, if_neg hact]
    exact ⟨h, .refl c⟩

theorem keeps_send (o) : Keeps c (c.send o) := by
  rw [send]
  split
  · rename_i hal
    rw [afterWrite]
    split
    · exact keeps_close h false
    · exact keeps_close h false
    · exact keeps_startWrite h hal _
    · exact keeps_stopWrite h hal _
  · exact ⟨h, .refl c⟩

theorem keeps_disconnect (o) : Keeps c (c.disconnect o) := by
  cases o with
  | none => exact keeps_close h true
  | some o => exact (keeps_send h o).trans fun h' => keeps_close h' true

theorem keeps_perform (call) : Keeps c (c.perform call) := by
  cases call with
  | send o => exact keeps_send h o
  | disconnect o => exact keeps_disconnect h o
  | close flush => exact keeps_close h flush
  | writeState b =>
    exact ⟨{ h with }, ⟨rfl, rfl, rfl, rfl, rfl, rfl, .inl ⟨rfl, rfl, rfl⟩⟩⟩

theorem keeps_performAll (calls) : Keeps c (c.performAll calls) := by
  induction calls generalizing c with
  | nil => exact ⟨h, .refl c⟩
  | cons call calls ih => exact (keeps_perform h call).trans fun h' => ih h'

end

end Link

/-! ### Packets to retry -/

/-- The packets were received in the order of their sequence numbers. -/
structure Ordered (c : Link) : Prop where
  pairwise : c.received.Pairwise (·.1 < ·.1)
  lt : ∀ pk ∈ c.received, pk.1 < c.seqno

/-- All packets have been handled. The callback for reading is registered if reading is active. -/
structure Listening (c : Link) (active : Bool) : Prop where
  retry : c.retry = none
  readActive : c.readActive = active
  onTime : c.onTime = false
  onRead : ∀ fd, fd ∈ c.onRead ↔ active ∧ fd = c.sshInput
  received : c.received = c.handled

/-- All packets but the last one have been handled. Nothing is read. When reading is active, it is
time to retry. -/
structure Deferred (c : Link) (pk : Packet) : Prop where
  retry : c.retry = some pk
  onTime : c.onTime = c.readActive
  onRead : c.onRead = []
  received : c.received = c.handled ++ [pk]

/-- Between callbacks, as long as the connection is open. -/
inductive Settled (c : Link) : Prop
  | fresh (hstarted : c.started = false) (h : Listening c false)
  | listening (hstarted : c.started) (h : Listening c true)
  | deferred (hstarted : c.started) (pk : Packet) (h : Deferred c pk)

/-- In the loop of a callback. -/
structure Looping (c : Link) (active : Bool) : Prop where
  inv : LinkInv c
  ordered : Ordered c
  started : c.started
  retry : c.retry = none
  readActive : c.readActive = active
  listening : c.sshInput.isSome → Listening c active

/-- What all steps keep. -/
structure LinkOk (c : Link) : Prop where
  inv : LinkInv c
  ordered : Ordered c
  settled : c.sshInput.isSome → Settled c
  fresh : c.started = false → ∃ fd, c = .init fd

namespace Link

variable {c c' : Link} {active : Bool}

section
variable (h : Evolves c c')
include h

theorem Evolves.ordered (ho : Ordered c) : Ordered c' := by
  refine ⟨?_, ?_⟩ <;> rw [h.received]
  · exact ho.pairwise
  · rw [h.seqno]
    exact ho.lt

/-- A connection that is still open has been so before. -/
theorem Evolves.opened (hopen : c'.sshInput.isSome) :
    c'.sshInput = c.sshInput ∧ c'.onRead = c.onRead ∧ c'.onTime = c.onTime := by
  rcases h.reading with hsame | ⟨hcld, -⟩
  · exact hsame
  · rw [hcld] at hopen
    cases hopen

theorem Evolves.listening (hopen : c'.sshInput.isSome)
    (hl : c.sshInput.isSome → Listening c active) : Listening c' active := by
  obtain ⟨hinp, hread, htm⟩ := h.opened hopen
  rw [hinp] at hopen
  have hl' := hl hopen
  refine ⟨h.retry.trans hl'.retry, h.readActive.trans hl'.readActive, htm.trans hl'.onTime, ?_, ?_⟩
  · intro fd
    rw [hread, hinp]
    exact hl'.onRead fd
  · rw [h.received, h.handled]
    exact hl'.received

theorem Evolves.settled (hopen : c'.sshInput.isSome)
    (hs : c.sshInput.isSome → Settled c) : Settled c' := by
  obtain ⟨hinp, hread, htm⟩ := h.opened hopen
  have hopen' := hopen
  rw [hinp] at hopen'
  cases hs hopen' with
  | fresh hstd hl => exact .fresh (h.started.trans hstd) (h.listening hopen fun _ => hl)
  | listening hstd hl =>
    exact .listening (h.started.trans hstd) (h.listening hopen fun _ => hl)
  | deferred hstd pk hd =>
    refine .deferred (h.started.trans hstd) pk ⟨h.retry.trans hd.retry, ?_, hread.trans hd.onRead,
      ?_⟩
    · rw [htm, h.readActive]
      exact hd.onTime
    · rw [h.received, h.handled]
      exact hd.received

end

theorem Keeps.looping (h : Keeps c c') (hl : Looping c active) : Looping c' active where
  inv := h.inv
  ordered := h.evolves.ordered hl.ordered
  started := h.evolves.started.trans hl.started
  retry := h.evolves.retry.trans hl.retry
  readActive := h.evolves.readActive.trans hl.readActive
  listening hopen := h.evolves.listening hopen hl.listening

theorem Keeps.linkOk (h : Keeps c c') (hc : LinkOk c) (hstd : c.started) : LinkOk c' where
  inv := h.inv
  ordered := h.evolves.ordered hc.ordered
  settled hopen := h.evolves.settled hopen hc.settled
  fresh hfre := absurd (hfre.symm.trans (h.evolves.started.trans hstd)) nofun

end Link

section Loops

variable {c c' : Link} {active : Bool} {pk : Packet}

theorem LinkInv.receive (h : LinkInv c) (octets) : LinkInv (c.receive octets) :=
  { h with }

theorem Ordered.receive (h : Ordered c) (octets) : Ordered (c.receive octets) where
  pairwise := by
    refine List.pairwise_append.mpr ⟨h.pairwise, pairwise_singleton _ _, fun a ha b hb => ?_⟩
    rw [List.mem_singleton.mp hb]
    exact h.lt a ha
  lt := by
    simp only [Link.receive, mem_append, mem_singleton]
    rintro pk (hpk | rfl)
    · exact Nat.lt_succ_of_lt (h.lt pk hpk)
    · exact Nat.lt_succ_self _

/-- A packet has been read, and its handler has done something. -/
structure Handling (c : Link) (active : Bool) (pk : Packet) : Prop where
  inv : LinkInv c
  ordered : Ordered c
  started : c.started
  retry : c.retry = none
  readActive : c.readActive = active
  opened : c.sshInput.isSome → c.onTime = false ∧
    (∀ fd, fd ∈ c.onRead ↔ active ∧ fd = c.sshInput) ∧ c.received = c.handled ++ [pk]

/-- A packet is read, and its handler does something. -/
theorem Looping.handling (h : Looping c active) (octets calls) :
    Handling ((c.receive octets).performAll calls) active (c.seqno, octets) := by
  have hkp := Link.keeps_performAll (h.inv.receive octets) calls
  have hevo := hkp.evolves
  refine ⟨hkp.inv, hevo.ordered (h.ordered.receive octets), hevo.started.trans h.started,
    hevo.retry.trans h.retry, hevo.readActive.trans h.readActive, fun hopen => ?_⟩
  obtain ⟨hinp, hread, htm⟩ := hevo.opened hopen
  rw [hinp] at hopen
  have hl := h.listening hopen
  refine ⟨htm.trans hl.onTime, fun fd => ?_, ?_⟩
  · rw [hread, hinp]
    exact hl.onRead fd
  · rw [hevo.received, hevo.handled]
    show c.received ++ [_] = c.handled ++ [_]
    rw [hl.received]

/-- The handler returns 1. -/
theorem Handling.done (h : Handling c active pk) :
    Looping { c with handled := c.handled ++ [pk] } active where
  inv := { h.inv with }
  ordered := ⟨h.ordered.pairwise, h.ordered.lt⟩
  started := h.started
  retry := h.retry
  readActive := h.readActive
  listening hopen :=
    have ⟨htm, hread, hrecv⟩ := h.opened hopen
    ⟨h.retry, h.readActive, htm, hread, hrecv⟩

/-- The handler returns 0 in `oop_read_ssh`. -/
theorem Handling.stopRead (h : Handling c true pk) :
    LinkOk { c with retry := some pk }.stopRead where
  inv := { h.inv with time := nofun }
  ordered := ⟨h.ordered.pairwise, h.ordered.lt⟩
  settled hopen := by
    obtain ⟨-, hread, hrecv⟩ := h.opened hopen
    refine .deferred h.started pk ⟨rfl, rfl, ?_, hrecv⟩
    refine List.filter_eq_nil_iff.mpr fun fd hfd => ?_
    simpa using ((hread fd).mp hfd).2
  fresh hfre := absurd (hfre.symm.trans h.started) nofun

/-- The handler returns 0 in `oop_timer_retry`. -/
theorem Handling.wait (h : Handling c false pk) : LinkOk { c with retry := some pk } where
  inv := by
    refine ⟨h.inv.opened, h.inv.alive, h.inv.output, h.inv.dead, h.inv.service, h.inv.write, ?_⟩
    exact fun htm => ⟨(h.inv.time htm).1, rfl⟩
  ordered := ⟨h.ordered.pairwise, h.ordered.lt⟩
  settled hopen := by
    obtain ⟨htm, hread, hrecv⟩ := h.opened hopen
    refine .deferred h.started pk ⟨rfl, htm.trans h.readActive.symm, ?_, hrecv⟩
    refine List.eq_nil_iff_forall_not_mem.mpr fun fd hfd => ?_
    cases ((hread fd).mp hfd).1
  fresh hfre := absurd (hfre.symm.trans h.started) nofun

/-- The end of a loop in `oop_read_ssh`. -/
theorem Looping.linkOk (h : Looping c true) : LinkOk c :=
  ⟨h.inv, h.ordered, fun hopen => .listening h.started (h.listening hopen),
    fun hfre => absurd (hfre.symm.trans h.started) nofun⟩

/-- The end of a loop in `oop_timer_retry`. -/
theorem Looping.startRead (h : Looping c false) : LinkOk c.startRead := by
  have heq : c.startRead = { c with readActive := true, onRead := c.onRead ++ [c.sshInput] } := by
    simp [Link.startRead, h.retry, h.readActive]
  rw [heq]
  refine ⟨{ h.inv with },
    ⟨h.ordered.pairwise, h.ordered.lt⟩, fun hopen => .listening h.started ?_,
    fun hfre => absurd (hfre.symm.trans h.started) nofun⟩
  have hl := h.listening hopen
  refine ⟨hl.retry, rfl, hl.onTime, fun fd => ?_, hl.received⟩
  have hread := hl.onRead fd
  simp [hread]

/-- A connection that has been closed. -/
theorem Looping.closed (h : Looping c active) (hcld : c.sshInput = none) : LinkOk c := by
  refine ⟨h.inv, h.ordered, fun hopen => ?_, fun hfre => absurd (hfre.symm.trans h.started) nofun⟩
  rw [hcld] at hopen
  cases hopen

/-- A round that is not about a packet for the application. -/
theorem Looping.other (h : Looping c active) (calls) :
    Looping { c.performAll calls with seqno := c.seqno + 1 } active := by
  have hkp := Link.keeps_performAll h.inv calls
  have hl := hkp.looping h
  refine ⟨{ hl.inv with }, ⟨hl.ordered.pairwise, fun pk hpk => ?_⟩, hl.started, hl.retry,
    hl.readActive,
    fun hopen => ?_⟩
  · have hlt := hl.ordered.lt pk hpk
    rw [hkp.evolves.seqno] at hlt
    exact Nat.lt_succ_of_lt hlt
  · have hopd := hl.listening hopen
    exact { hopd with }

theorem Link.keeps_push (h : LinkInv c) (o) : Link.Keeps c (c.push o) := by
  cases o with
  | none => exact ⟨h, .refl c⟩
  | some o => exact Link.keeps_disconnect h (some o)

theorem readLoop_linkOk (rounds) (h : Looping c true) : LinkOk (readLoop rounds c) := by
  induction rounds generalizing c with
  | nil => exact h.linkOk
  | cons r rounds ih =>
    rw [readLoop.eq_def]
    dsimp only
    split
    · exact h.linkOk
    · cases r with
      | ioError | eof => exact ih ((Link.keeps_close h.inv false).looping h)
      | protocolError o => exact ih ((Link.keeps_disconnect h.inv o).looping h)
      | push o => exact ((Link.keeps_push h.inv o).looping h).linkOk
      | pending => exact h.linkOk
      | other calls => exact ih (h.other calls)
      | packet octets calls done =>
        have hhan := h.handling octets calls
        cases done with
        | true => exact ih hhan.done
        | false => exact hhan.stopRead

theorem retryLoop_linkOk (rounds) (h : Looping c false) : LinkOk (retryLoop rounds c) := by
  induction rounds generalizing c with
  | nil =>
    rw [retryLoop]
    split
    · rename_i hcld
      exact h.closed hcld
    · exact h.startRead
  | cons r rounds ih =>
    rw [retryLoop.eq_def]
    dsimp only
    split
    · rename_i hcld
      exact h.closed hcld
    · cases r with
      | ioError | eof => exact ih ((Link.keeps_close h.inv false).looping h)
      | protocolError o => exact ih ((Link.keeps_disconnect h.inv o).looping h)
      | push o => exact ((Link.keeps_push h.inv o).looping h).startRead
      | pending => exact h.startRead
      | other calls => exact ih (h.other calls)
      | packet octets calls done =>
        have hhan := h.handling octets calls
        cases done with
        | true => exact ih hhan.done
        | false => exact hhan.wait

/-! ### The callbacks -/

/-- The only assertion that can fail is that of `oop_read_ssh`, after the connection was closed. -/
def AfterClose (e : LinkAssertion) : Prop := ∃ fd, e = .sshInput fd none

theorem oopReadSsh_linkOk (h : LinkOk c) (hfd : some fd ∈ c.onRead) (rounds) :
    Ensures AfterClose LinkOk (oopReadSsh c fd rounds) := by
  rw [oopReadSsh]
  cases hinp : c.sshInput with
  | none =>
    exact ⟨fd, rfl⟩
  | some fd' =>
    have hopen : c.sshInput.isSome := by rw [hinp]; rfl
    cases h.settled hopen with
    | fresh hstd hl => cases ((hl.onRead _).mp hfd).1
    | listening hstd hl =>
      have hsame : some fd = some fd' := (((hl.onRead _).mp hfd).2).trans hinp
      rw [require_of hsame.symm, require_of hl.retry]
      exact readLoop_linkOk rounds ⟨h.inv, h.ordered, hstd, hl.retry, hl.readActive, fun _ => hl⟩
    | deferred hstd pk hd =>
      rw [hd.onRead] at hfd
      cases hfd

theorem oopWriteSsh_linkOk (h : LinkOk c) (hfd : some fd ∈ c.onWrite) (status full) :
    Yields LinkOk (oopWriteSsh c fd status full) := by
  have hout := (h.inv.write _ hfd).1
  have hstd : c.started := by
    by_contra hfre
    obtain ⟨fd, hini⟩ := h.fresh (by simpa using hfre)
    rw [hini] at hfd
    cases hfd
  have hal : c.alive := by
    by_contra hdd
    have hno := h.inv.dead (by simpa using hdd)
    rw [hno] at hout
    cases hout
  rw [oopWriteSsh.eq_def, require_of hout.symm]
  cases status with
  | pending => exact h
  | complete => exact (Link.keeps_stopWrite h.inv hal full).linkOk h hstd
  | ioError => exact (Link.keeps_close h.inv false).linkOk h hstd

/-- After `transport_close` the input is closed. -/
theorem sshInput_close (h : LinkInv c) (flush) : (c.close flush).sshInput = none := by
  by_cases hlive : c.alive = true ∧ c.closing = false
  · rw [Link.close_eq h hlive.1 hlive.2]
    split <;> rfl
  · rw [Link.close_of_not hlive]
    by_contra hopen
    have hopd := h.opened (Option.isSome_iff_ne_none.mpr hopen)
    exact hlive ⟨hopd.1, hopd.2.1⟩

theorem sshInput_disconnect (h : LinkInv c) (o) : (c.disconnect o).sshInput = none := by
  cases o with
  | none => exact sshInput_close h true
  | some o => exact sshInput_close (Link.keeps_send h o).inv true

theorem LinkOk.of_closed (hinv : LinkInv c) (hordered : Ordered c) (hstd : c.started)
    (hcld : c.sshInput = none) : LinkOk c := by
  refine ⟨hinv, hordered, fun hopen => ?_, fun hfre => absurd (hfre.symm.trans hstd) nofun⟩
  rw [hcld] at hopen
  cases hopen

/-- There is a packet to retry. -/
theorem LinkOk.deferred (h : LinkOk c) (hopen : c.sshInput.isSome)
    (hpk : c.retry = some pk) : Deferred c pk := by
  cases h.settled hopen with
  | fresh hstd hl | listening hstd hl => exact absurd (hpk.symm.trans hl.retry) nofun
  | deferred hstd pk' hd =>
    obtain rfl : pk = pk' := Option.some.inj (hpk.symm.trans hd.retry)
    exact hd

/-- The packet is retried. -/
theorem LinkOk.handling (h : LinkOk c) (hpk : c.retry = some pk) (calls) :
    Handling ({ c with onTime := false, retry := none, readActive := false }.performAll calls)
      false pk := by
  generalize hc₀ : ({ c with onTime := false, retry := none, readActive := false } : Link) = c₀
  have hinv : LinkInv c₀ := by
    rw [← hc₀]
    exact { h.inv with time := nofun }
  have hkp := Link.keeps_performAll hinv calls
  have hevo := hkp.evolves
  have hdfd : (c₀.performAll calls).sshInput.isSome → Deferred c pk := by
    intro hopen
    rw [(hevo.opened hopen).1, ← hc₀] at hopen
    exact h.deferred hopen hpk
  have hstd : c.started = true := by
    by_contra hfre
    obtain ⟨fd, hini⟩ := h.fresh (by simpa using hfre)
    rw [hini] at hpk
    cases hpk
  refine ⟨hkp.inv, hevo.ordered ?_, hevo.started.trans ?_, hevo.retry.trans ?_,
    hevo.readActive.trans ?_, fun hopen => ?_⟩
  · rw [← hc₀]
    exact ⟨h.ordered.pairwise, h.ordered.lt⟩
  · rw [← hc₀]
    exact hstd
  · rw [← hc₀]
  · rw [← hc₀]
  · obtain ⟨hinp, hread, htm⟩ := hevo.opened hopen
    have hd := hdfd hopen
    have hemp : c₀.onRead = [] := by
      rw [← hc₀]
      exact hd.onRead
    refine ⟨?_, fun fd => ?_, ?_⟩
    · rw [htm, ← hc₀]
    · rw [hread, hemp]
      simp
    · rw [hevo.received, hevo.handled, ← hc₀]
      exact hd.received

theorem oopTimerRetry_linkOk (h : LinkOk c) (htm : c.onTime) (calls done o rounds) :
    Yields LinkOk (oopTimerRetry { c with onTime := false } calls done o rounds) := by
  obtain ⟨hal, hrt⟩ := h.inv.time htm
  obtain ⟨pk, hpk⟩ := Option.isSome_iff_exists.mp hrt
  have hhan := h.handling hpk calls
  rw [oopTimerRetry, require_of hal]
  simp only [hpk]
  cases done with
  | true => exact retryLoop_linkOk rounds hhan.done
  | false =>
    have hkp := Link.keeps_disconnect hhan.inv (some o)
    exact .of_closed hkp.inv (hkp.evolves.ordered hhan.ordered)
      (hkp.evolves.started.trans hhan.started) (sshInput_disconnect hhan.inv (some o))

theorem linkInv_init (fd) : LinkInv (.init fd) where
  opened _ := ⟨rfl, rfl, rfl⟩
  alive _ _ := rfl
  output _ := rfl
  dead := nofun
  service _ := rfl
  write := nofun
  time := nofun

theorem linkOk_init (fd) : LinkOk (.init fd) where
  inv := linkInv_init fd
  ordered := ⟨List.Pairwise.nil, nofun⟩
  settled _ := .fresh rfl ⟨rfl, rfl, rfl, fun _ => ⟨nofun, nofun⟩, rfl⟩
  fresh _ := ⟨fd, rfl⟩

/-- `transport_handshake`. -/
theorem linkOk_handshake (fd line kexinit) : LinkOk ((Link.init fd).handshake line kexinit) := by
  have hstr : Looping { Link.init fd with started := true } false := by
    refine ⟨?_, ⟨List.Pairwise.nil, nofun⟩, rfl, rfl, rfl, fun _ => ?_⟩
    · exact ⟨fun _ => ⟨rfl, rfl, rfl⟩, fun _ _ => rfl, fun _ => rfl, nofun, fun _ => rfl, nofun,
        nofun⟩
    · exact ⟨rfl, rfl, rfl, fun _ => ⟨nofun, nofun⟩, rfl⟩
  have hkex : ∀ {c : Link}, Looping c false →
      LinkOk ({ c with writeState := true }.send kexinit).startRead := by
    intro c h
    have hst := Link.keeps_perform h.inv (.writeState true)
    have hsnd := Link.keeps_send hst.inv kexinit
    exact (hsnd.looping (hst.looping h)).startRead
  rw [Link.handshake]
  cases hline : line.status with
  | overflow | ioError => exact hkex ((Link.keeps_close hstr.inv false).looping hstr)
  | pending | complete => exact hkex hstr

/-- `transport_start_read`, called by the application. -/
theorem LinkOk.startRead (h : LinkOk c) (hstd : c.started = true) (hsvc : c.service = true) :
    LinkOk c.startRead := by
  have hopen := h.inv.service hsvc
  have hlive := h.inv.opened hopen
  cases h.settled hopen with
  | fresh hfre hl => simp [hfre] at hstd
  | listening _ hl =>
    rw [Link.startRead, if_pos hl.readActive]
    exact h
  | deferred _ pk hd =>
    by_cases hact : c.readActive = true
    · rw [Link.startRead, if_pos hact]
      exact h
    · rw [Link.startRead, if_neg hact, if_pos (by rw [hd.retry]; rfl)]
      refine ⟨⟨h.inv.opened, h.inv.alive, h.inv.output, h.inv.dead, h.inv.service, h.inv.write, ?_⟩,
        ⟨h.ordered.pairwise, h.ordered.lt⟩, fun _ => ?_, ?_⟩
      · exact fun _ => ⟨hlive.1, by rw [hd.retry]; rfl⟩
      · exact .deferred hstd pk ⟨hd.retry, rfl, hd.onRead, hd.received⟩
      · exact fun hfre => absurd (hfre.symm.trans hstd) nofun

theorem linkStep_linkOk (h : LinkOk c) (e) : Ensures AfterClose LinkOk (linkStep c e) := by
  cases e with
  | handshake line kexinit =>
    rw [linkStep]
    split
    · exact h
    · rename_i hfre
      obtain ⟨fd, rfl⟩ := h.fresh (by simpa using hfre)
      exact linkOk_handshake fd line kexinit
  | readable fd rounds =>
    rw [linkStep]
    split
    · rename_i hfd
      exact oopReadSsh_linkOk h hfd rounds
    · exact h
  | writable fd stat full =>
    rw [linkStep]
    split
    · rename_i hfd
      exact (oopWriteSsh_linkOk h hfd stat full).of_total
    · exact h
  | timer calls done o rounds =>
    rw [linkStep]
    split
    · rename_i htm
      exact (oopTimerRetry_linkOk h htm calls done o rounds).of_total
    · exact h
  | drained =>
    rw [linkStep]
    split
    · rename_i hdr
      exact h.startRead hdr.1 hdr.2
    · exact h
  | call call =>
    rw [linkStep]
    split
    · rename_i hstd
      exact (Link.keeps_perform h.inv call).linkOk h hstd
    · exact h
  | kill =>
    rw [linkStep]
    split
    · rename_i hstd
      exact (Link.keeps_kill h.inv).linkOk h hstd
    · exact h

end Loops

/-- **Packets are handled once and in order**, as long as the connection is open. -/
structure InOrder (c : Link) : Prop where
  /-- Packets are received in the order of their sequence numbers. -/
  ordered : c.received.Pairwise (·.1 < ·.1)
  /-- Those that have been handled are those that have been received, in order, but for the one that
  is to be retried. -/
  received : c.received = c.handled ++ c.retry.toList
  /-- While there is a packet to retry, nothing is read. -/
  deferred : c.retry.isSome → c.onRead = []
  /-- When the application has asked for more, it is time to retry. -/
  retries : c.retry.isSome → c.readActive → c.onTime
  /-- Otherwise packets are read. -/
  reads : c.started → c.retry = none → c.sshInput ∈ c.onRead

theorem LinkOk.inOrder (h : LinkOk c) (hopen : c.sshInput.isSome) : InOrder c := by
  refine ⟨h.ordered.pairwise, ?_, ?_, ?_, ?_⟩
  · cases h.settled hopen with
    | fresh _ hl | listening _ hl => rw [hl.received, hl.retry, Option.toList_none, append_nil]
    | deferred _ pk hd => rw [hd.received, hd.retry, Option.toList_some]
  · intro hrt
    obtain ⟨pk, hpk⟩ := Option.isSome_iff_exists.mp hrt
    exact (h.deferred hopen hpk).onRead
  · intro hrt hact
    obtain ⟨pk, hpk⟩ := Option.isSome_iff_exists.mp hrt
    exact (h.deferred hopen hpk).onTime.trans hact
  · intro hstd hrt
    cases h.settled hopen with
    | fresh hfre hl => simp [hfre] at hstd
    | listening _ hl => exact (hl.onRead _).mpr ⟨rfl, rfl⟩
    | deferred _ pk hd => simp [hd.retry] at hrt

/-- Connections are not closed with `flush` while something is left to write. The message of
`transport_disconnect` is written at once, or cannot be written at all. -/
def CallGuard (c : Link) : LinkCall → Prop
  | .send _ => True
  | .disconnect none => c.alive = true → c.writeActive = false
  | .disconnect (some o) => c.alive = true → o.status ≠ .pending
  | .close flush => flush = true → c.alive = true → c.writeActive = false
  | .writeState _ => True

/-- The same for all calls of a handler. -/
def CallsGuard : Link → List LinkCall → Prop
  | _, [] => True
  | c, call :: calls => CallGuard c call ∧ CallsGuard (c.perform call) calls

/-- The same for what happens in a loop. In `oop_timer_retry`, writing to the service succeeds when
`TRANSPORT_EVENT_PUSH` is handled. -/
def RoundsGuard (retrying : Bool) : Link → List Round → Prop
  | _, [] => True
  | c, r :: rounds => c.sshInput.isSome → match r with
    | .ioError | .eof | .pending => True
    | .protocolError o => CallGuard c (.disconnect o)
    | .push none => True
    | .push (some o) => retrying = false ∧ CallGuard c (.disconnect (some o))
    | .other calls => CallsGuard c calls ∧
      RoundsGuard retrying { c.performAll calls with seqno := c.seqno + 1 } rounds
    | .packet octets calls done => CallsGuard (c.receive octets) calls ∧
      (done = true →
        RoundsGuard retrying ((c.receive octets).handle (c.seqno, octets) calls done) rounds)

/-- The same for an event. In `transport_handshake` nothing fails. -/
def LinkGuard (c : Link) : LinkEvent → Prop
  | .handshake line kexinit =>
    (line.status = .pending ∨ line.status = .complete) ∧
      (kexinit.status = .pending ∨ kexinit.status = .complete)
  | .readable _ rounds => RoundsGuard false c rounds
  | .timer calls done o rounds =>
    CallsGuard { c with onTime := false, retry := none, readActive := false } calls ∧
      (done = false → o.status ≠ .pending) ∧
      ∀ pk ∈ c.retry, done = true → RoundsGuard true
        ({ c with onTime := false, retry := none, readActive := false }.handle pk calls done) rounds
  | .call call => CallGuard c call
  | _ => True

instance (c : Link) (call : LinkCall) : Decidable (CallGuard c call) := by
  unfold CallGuard
  split <;> infer_instance

instance decidableCallsGuard : (c : Link) → (calls : List LinkCall) → Decidable (CallsGuard c calls)
  | _, [] => isTrue trivial
  | c, call :: calls =>
    have := decidableCallsGuard (c.perform call) calls
    inferInstanceAs (Decidable (CallGuard c call ∧ CallsGuard (c.perform call) calls))

instance decidableRoundsGuard (retrying : Bool) :
    (c : Link) → (rounds : List Round) → Decidable (RoundsGuard retrying c rounds)
  | _, [] => isTrue trivial
  | c, r :: rounds =>
    have := fun c => decidableRoundsGuard retrying c rounds
    match r with
    | .ioError | .eof | .pending | .push none => isTrue fun _ => trivial
    | .protocolError o =>
      inferInstanceAs (Decidable (c.sshInput.isSome → CallGuard c (.disconnect o)))
    | .push (some o) => inferInstanceAs
      (Decidable (c.sshInput.isSome → retrying = false ∧ CallGuard c (.disconnect (some o))))
    | .other calls => inferInstanceAs (Decidable (c.sshInput.isSome → CallsGuard c calls ∧
        RoundsGuard retrying { c.performAll calls with seqno := c.seqno + 1 } rounds))
    | .packet octets calls done => inferInstanceAs (Decidable (c.sshInput.isSome →
        CallsGuard (c.receive octets) calls ∧ (done = true →
          RoundsGuard retrying ((c.receive octets).handle (c.seqno, octets) calls done) rounds)))

instance (c : Link) (e : LinkEvent) : Decidable (LinkGuard c e) := by
  unfold LinkGuard
  split <;> infer_instance

/-- **Callbacks are registered where they should be.** -/
structure Registered (c : Link) : Prop where
  read : ∀ fd ∈ c.onRead, fd.isSome ∧ fd = c.sshInput ∧ c.retry = none
  write : ∀ fd ∈ c.onWrite, fd.isSome ∧ fd = c.sshOutput
  /-- A dead connection has no callback for its descriptors, and no packet to retry. -/
  dead : c.alive = false → c.onRead = [] ∧ c.onWrite = [] ∧ c.onTime = false

/-- A connection is open, or nothing is left of it. -/
structure Tidy (c : Link) : Prop where
  closed : c.sshInput = none → c.alive = false ∧ c.onRead = []
  read : ∀ fd ∈ c.onRead, fd = c.sshInput

section Tidy

variable {c c' : Link}

section
variable (h : Tidy c)
include h

theorem Tidy.opened (hal : c.alive) : c.sshInput.isSome := by
  rw [Option.isSome_iff_ne_none]
  intro hcld
  exact absurd ((h.closed hcld).1.symm.trans hal) nofun

section
variable (hinv : LinkInv c)
include hinv

theorem Tidy.closing (hal : c.alive = true) : c.closing = false :=
  (hinv.opened (h.opened hal)).2.1

theorem Tidy.shut (hal : c.alive = true) : Tidy c.shut := by
  have hemp : c.shut.onRead = [] := by
    refine List.filter_eq_nil_iff.mpr fun fd hfd => ?_
    have hsame := (hinv.opened (h.opened hal)).2.2
    simpa [hsame] using h.read fd hfd
  refine ⟨fun _ => ⟨rfl, hemp⟩, ?_⟩
  rw [hemp]
  exact nofun

theorem Tidy.kill : Tidy c.kill := by
  by_cases hal : c.alive
  · rw [Link.kill_eq hinv hal]
    exact h.shut hinv hal
  · rw [Link.kill, if_neg hal]
    exact h

theorem Tidy.close (hg : flush = true → c.alive = true → c.writeActive = false) :
    Tidy (c.close flush) := by
  by_cases hal : c.alive = true
  · have hdr : ¬(flush = true ∧ c.writeActive = true) := by
      rintro ⟨hfl, hact⟩
      exact absurd (hact.symm.trans (hg hfl hal)) (by simp)
    rw [Link.close_eq hinv hal (h.closing hinv hal), if_neg hdr]
    exact h.shut hinv hal
  · rw [Link.close_of_not fun hlive => hal hlive.1]
    exact h

end

/-- As long as a connection is open, writing has nothing to do with reading. -/
theorem Tidy.congr (hal : c'.alive = c.alive) (hinp : c'.sshInput = c.sshInput)
    (hread : c'.onRead = c.onRead) : Tidy c' := by
  refine ⟨?_, ?_⟩
  · rw [hinp, hal, hread]
    exact h.closed
  · rw [hread, hinp]
    exact h.read

theorem Tidy.startWrite (full) : Tidy (c.startWrite full) := by
  rw [Link.startWrite]
  split_ifs <;> exact h.congr rfl rfl rfl

theorem Tidy.stopWrite (hinv : LinkInv c) (hal : c.alive = true) (full) :
    Tidy (c.stopWrite full) := by
  rw [Link.stopWrite]
  split
  · rw [if_neg (by simp [h.closing hinv hal])]
    split_ifs <;> exact h.congr rfl rfl rfl
  · exact h

theorem Tidy.send (hinv : LinkInv c) (o) : Tidy (c.send o) := by
  rw [Link.send]
  split
  · rename_i hal
    rw [Link.afterWrite]
    split
    · exact h.close hinv nofun
    · exact h.close hinv nofun
    · exact h.startWrite _
    · exact h.stopWrite hinv hal _
  · exact h

end

/-- What was sent has been written, or the connection is dead. -/
theorem writeActive_send (hinv : LinkInv c) (h : Tidy c) {o : WriteOutcome}
    (hg : c.alive = true → o.status ≠ .pending) (hal : (c.send o).alive = true) :
    (c.send o).writeActive = false := by
  have hcl : ∀ {c : Link}, LinkInv c → Tidy c → (c.close false).alive = true → False := by
    intro c hinv h hal
    by_cases hlive : c.alive = true
    · rw [Link.close_eq hinv hlive (h.closing hinv hlive)] at hal
      cases hal
    · rw [Link.close_of_not fun hopen => hlive hopen.1] at hal
      exact hlive hal
  rw [Link.send] at hal ⊢
  split at hal
  · rename_i hlive
    rw [if_pos hlive]
    rw [Link.afterWrite] at hal ⊢
    cases hsta : o.status with
    | overflow | ioError =>
      rw [hsta] at hal
      exact (hcl hinv h hal).elim
    | pending => exact absurd hsta (hg hlive)
    | complete =>
      show (c.stopWrite _).writeActive = false
      rw [Link.stopWrite]
      split
      · rw [if_neg (by simp [h.closing hinv hlive])]
        split_ifs <;> rfl
      · rename_i hact
        simpa using hact
  · rename_i hdd
    exact absurd hal hdd

theorem Tidy.disconnect (h : Tidy c) (hinv : LinkInv c)
    (hg : CallGuard c (.disconnect o)) : Tidy (c.disconnect o) := by
  cases o with
  | none => exact h.close hinv fun _ => hg
  | some o =>
    exact (h.send hinv o).close (Link.keeps_send hinv o).inv fun _ => writeActive_send hinv h hg

theorem Tidy.perform (h : Tidy c) (hinv : LinkInv c) (hg : CallGuard c call) :
    Tidy (c.perform call) := by
  cases call with
  | send o => exact h.send hinv o
  | disconnect o => exact h.disconnect hinv hg
  | close flush => exact h.close hinv hg
  | writeState b => exact h.congr rfl rfl rfl

theorem Tidy.performAll (h : Tidy c) (hinv : LinkInv c)
    (hg : CallsGuard c calls) : Tidy (c.performAll calls) := by
  induction calls generalizing c with
  | nil => exact h
  | cons call calls ih => exact ih (h.perform hinv hg.1) (Link.keeps_perform hinv call).inv hg.2

/-- There is nothing to guard once a connection has been closed. -/
theorem roundsGuard_of_closed (hcld : c.sshInput = none) : RoundsGuard retrying c rounds := by
  cases rounds with
  | nil => trivial
  | cons r rounds =>
    intro hopen
    rw [hcld] at hopen
    cases hopen

theorem Tidy.push (h : Tidy c) (hinv : LinkInv c)
    (hg : ∀ o', o = some o' → CallGuard c (.disconnect (some o'))) : Tidy (c.push o) := by
  cases o with
  | none => exact h
  | some o => exact h.disconnect hinv (hg o rfl)

theorem Tidy.handle (h : Tidy c) (hinv : LinkInv c) (hg : CallsGuard c calls) (pk done) :
    Tidy (c.handle pk calls done) := by
  have hall := h.performAll hinv hg
  rw [Link.handle]
  split
  · exact hall.congr rfl rfl rfl
  · exact hall

theorem Tidy.receive (h : Tidy c) (octets) : Tidy (c.receive octets) :=
  h.congr rfl rfl rfl

theorem readLoop_tidy (hl : Looping c true) (h : Tidy c)
    (hg : RoundsGuard false c rounds) : Tidy (readLoop rounds c) := by
  induction rounds generalizing c with
  | nil => exact h
  | cons r rounds ih =>
    rw [readLoop.eq_def]
    dsimp only
    split
    · exact h
    · rename_i hinp
      have hguard := hg (Option.isSome_iff_ne_none.mpr hinp)
      have hcl := Link.keeps_close hl.inv false
      have hshut : RoundsGuard false (c.close false) rounds :=
        roundsGuard_of_closed (sshInput_close hl.inv false)
      cases r with
      | ioError | eof => exact ih (hcl.looping hl) (h.close hl.inv nofun) hshut
      | protocolError o =>
        exact ih ((Link.keeps_disconnect hl.inv o).looping hl) (h.disconnect hl.inv hguard)
          (roundsGuard_of_closed (sshInput_disconnect hl.inv o))
      | push o =>
        refine h.push hl.inv fun o' ho' => ?_
        subst ho'
        exact hguard.2
      | pending => exact h
      | other calls =>
        exact ih (hl.other calls) ((h.performAll hl.inv hguard.1).congr rfl rfl rfl) hguard.2
      | packet octets calls done =>
        have hhan := hl.handling octets calls
        have htdy := (h.receive octets).handle (hl.inv.receive octets) hguard.1 (c.seqno,
          octets) done
        cases done with
        | true => exact ih hhan.done htdy (hguard.2 rfl)
        | false =>
          refine ⟨fun hcld => ?_, fun fd hfd => ?_⟩
          · obtain ⟨hdd, hemp⟩ := htdy.closed hcld
            refine ⟨hdd, ?_⟩
            show Link.cancelFd _ _ = []
            rw [show (Link.handle _ _ _ _).onRead = [] from hemp]
            rfl
          · exact htdy.read fd (Link.mem_cancelFd.mp hfd).1

/-- `transport_start_read` on a connection that is open. -/
theorem Tidy.startRead (h : Tidy c) (hopen : c.sshInput.isSome) : Tidy c.startRead := by
  have hne := Option.isSome_iff_ne_none.mp hopen
  rw [Link.startRead]
  split_ifs
  · exact h
  · exact h.congr rfl rfl rfl
  · refine ⟨fun hcld => absurd hcld hne, ?_⟩
    simp only [mem_append, mem_singleton]
    rintro fd (hfd | rfl)
    · exact h.read fd hfd
    · rfl

theorem retryLoop_tidy (hl : Looping c false) (h : Tidy c)
    (hg : RoundsGuard true c rounds) : Tidy (retryLoop rounds c) := by
  induction rounds generalizing c with
  | nil =>
    rw [retryLoop]
    split
    · exact h
    · rename_i hinp
      exact h.startRead (Option.isSome_iff_ne_none.mpr hinp)
  | cons r rounds ih =>
    rw [retryLoop.eq_def]
    dsimp only
    split
    · exact h
    · rename_i hinp
      have hopen := Option.isSome_iff_ne_none.mpr hinp
      have hguard := hg hopen
      have hcl := Link.keeps_close hl.inv false
      have hshut : RoundsGuard true (c.close false) rounds :=
        roundsGuard_of_closed (sshInput_close hl.inv false)
      cases r with
      | ioError | eof => exact ih (hcl.looping hl) (h.close hl.inv nofun) hshut
      | protocolError o =>
        exact ih ((Link.keeps_disconnect hl.inv o).looping hl) (h.disconnect hl.inv hguard)
          (roundsGuard_of_closed (sshInput_disconnect hl.inv o))
      | push o =>
        cases o with
        | none => exact h.startRead hopen
        | some o => cases hguard.1
      | pending => exact h.startRead hopen
      | other calls =>
        exact ih (hl.other calls) ((h.performAll hl.inv hguard.1).congr rfl rfl rfl) hguard.2
      | packet octets calls done =>
        have hhan := hl.handling octets calls
        have htdy := (h.receive octets).handle (hl.inv.receive octets) hguard.1 (c.seqno,
          octets) done
        cases done with
        | true => exact ih hhan.done htdy (hguard.2 rfl)
        | false => exact htdy.congr rfl rfl rfl

theorem tidy_init (fd) : Tidy (.init fd) := ⟨nofun, nofun⟩

/-- Writing does not close the connection, unless it fails. -/
theorem sshInput_send (hclg : c.closing = false) {o : WriteOutcome}
    (ho : o.status = .pending ∨ o.status = .complete) : (c.send o).sshInput = c.sshInput := by
  rw [Link.send]
  split
  · rw [Link.afterWrite]
    rcases ho with ho | ho <;> rw [ho]
    · rw [Link.startWrite]
      split_ifs <;> rfl
    · show (c.stopWrite _).sshInput = _
      rw [Link.stopWrite]
      split
      · rw [if_neg (by simp [hclg])]
        split_ifs <;> rfl
      · rfl
  · rfl

/-- `transport_handshake`, if nothing fails. -/
theorem tidy_handshake (fd) (hline : line.status = .pending ∨ line.status = .complete)
    (hkex : kexinit.status = .pending ∨ kexinit.status = .complete) :
    Tidy ((Link.init fd).handshake line kexinit) := by
  have hstr : ∃ c : Link, (Link.init fd).handshake line kexinit = (c.send kexinit).startRead ∧
      LinkInv c ∧ Tidy c ∧ c.closing = false ∧ c.sshInput = some fd := by
    refine ⟨{ Link.init fd with started := true, writeState := true }, ?_, ?_, ?_, rfl, rfl⟩
    · rw [Link.handshake]
      rcases hline with hline | hline <;> rw [hline]
    · have hinv := linkInv_init fd
      exact { hinv with }
    · exact (tidy_init fd).congr rfl rfl rfl
  obtain ⟨c, heq, hinv, htdy, hclg, hinp⟩ := hstr
  rw [heq]
  refine (htdy.send hinv kexinit).startRead ?_
  rw [sshInput_send hclg hkex, hinp]
  rfl

theorem linkStep_tidy (hc : LinkOk c) (h : Tidy c) (hg : LinkGuard c e) :
    Yields Tidy (linkStep c e) := by
  cases e with
  | handshake line kexinit =>
    rw [linkStep]
    split
    · exact h
    · rename_i hfre
      obtain ⟨fd, rfl⟩ := hc.fresh (by simpa using hfre)
      exact tidy_handshake fd hg.1 hg.2
  | readable fd rounds =>
    rw [linkStep]
    split
    · rename_i hfd
      have hinp := h.read _ hfd
      have hopen : c.sshInput.isSome := by rw [← hinp]; rfl
      rw [oopReadSsh, require_of hinp.symm]
      cases hc.settled hopen with
      | fresh hstd hl => cases ((hl.onRead _).mp hfd).1
      | listening hstd hl =>
        rw [require_of hl.retry]
        exact readLoop_tidy ⟨hc.inv, hc.ordered, hstd, hl.retry, hl.readActive, fun _ => hl⟩ h hg
      | deferred hstd pk hd =>
        rw [hd.onRead] at hfd
        cases hfd
    · exact h
  | writable fd stat full =>
    rw [linkStep]
    split
    · rename_i hfd
      have hout := hc.inv.write _ hfd
      have hal : c.alive = true := by
        by_contra hdd
        have hno := hc.inv.dead (by simpa using hdd)
        exact absurd (hout.1.trans hno) nofun
      rw [oopWriteSsh.eq_def, require_of hout.1.symm]
      cases stat with
      | pending => exact h
      | complete => exact h.stopWrite hc.inv hal full
      | ioError => exact h.close hc.inv nofun
    · exact h
  | timer calls done o rounds =>
    rw [linkStep]
    split
    · rename_i htm
      obtain ⟨hal, hrt⟩ := hc.inv.time htm
      obtain ⟨pk, hpk⟩ := Option.isSome_iff_exists.mp hrt
      obtain ⟨hcas, href, hrds⟩ := hg
      have hhan := hc.handling hpk calls
      have hinv : LinkInv { c with onTime := false, retry := none, readActive := false } :=
        { hc.inv with time := nofun }
      have htdy := (h.congr rfl rfl rfl : Tidy
        { c with onTime := false, retry := none, readActive := false }).handle hinv hcas pk done
      rw [oopTimerRetry, require_of hal]
      simp only [hpk]
      cases done with
      | true => exact retryLoop_tidy hhan.done htdy (hrds pk hpk rfl)
      | false => exact htdy.disconnect hhan.inv fun _ => href rfl
    · exact h
  | drained =>
    rw [linkStep]
    split
    · rename_i hdr
      exact h.startRead (hc.inv.service hdr.2)
    · exact h
  | call call =>
    rw [linkStep]
    split
    · exact h.perform hc.inv hg
    · exact h
  | kill =>
    rw [linkStep]
    split
    · exact h.kill hc.inv
    · exact h

theorem Tidy.registered (h : Tidy c) (hc : LinkOk c) : Registered c := by
  refine ⟨fun fd hfd => ?_, fun fd hfd => ?_, fun hdd => ?_⟩
  · have hinp := h.read fd hfd
    have hopen : c.sshInput.isSome := by
      rw [Option.isSome_iff_ne_none]
      intro hcld
      rw [(h.closed hcld).2] at hfd
      cases hfd
    refine ⟨hinp ▸ hopen, hinp, ?_⟩
    by_contra hrt
    have hdfd := (hc.inOrder hopen).deferred (Option.isSome_iff_ne_none.mpr hrt)
    rw [hdfd] at hfd
    cases hfd
  · exact ⟨(hc.inv.write fd hfd).2, (hc.inv.write fd hfd).1⟩
  · have hno := hc.inv.dead hdd
    refine ⟨?_, ?_, ?_⟩
    · refine (h.closed ?_).2
      by_contra hopen
      exact absurd ((hc.inv.opened (Option.isSome_iff_ne_none.mpr hopen)).1.symm.trans hdd)
        (by simp)
    · refine List.eq_nil_iff_forall_not_mem.mpr fun fd hfd => ?_
      obtain ⟨hfd, hsome⟩ := hc.inv.write fd hfd
      rw [hfd, hno] at hsome
      cases hsome
    · by_contra htm
      exact absurd ((hc.inv.time (by simpa using htm)).1.symm.trans hdd) (by simp)

end Tidy

/-- **Callbacks are registered where they should be**, no assertion at the start of a callback
fails, and none for reading, writing or retrying outlives its connection, if nothing is left to
write when a connection is closed with `flush`, and nothing fails when reading is started. -/
theorem run_linkStep_registered (fd : ℕ) (events : List LinkEvent)
    (hg : Guarded linkStep LinkGuard (.init fd) events) :
    Ensures (fun _ => False) Registered (run linkStep (.init fd) events) := by
  refine (run_of_guarded (fun c e (hc : LinkOk c ∧ Tidy c) hg => ?_)
    ⟨linkOk_init fd, tidy_init fd⟩ hg).mono fun c hc => hc.2.registered hc.1
  have htdy := linkStep_tidy hc.1 hc.2 hg
  obtain ⟨c', hc', htdy'⟩ := htdy.exists_ok
  have hok := linkStep_linkOk hc.1 e
  rw [hc'] at hok ⊢
  exact ⟨hok, htdy'⟩

/-- **What a dead connection releases**, whatever happens: its descriptors, its service, the
callback for writing and the timer for a packet to retry. -/
theorem run_linkStep_released (fd : ℕ) (events : List LinkEvent) :
    Ensures (fun e => ∃ fd, e = .sshInput fd none) (fun c => c.alive = false → c.sshInput = none ∧
        c.sshOutput = none ∧ c.service = false ∧ c.onWrite = [] ∧ c.onTime = false)
      (run linkStep (.init fd) events) := by
  refine (run_of_guarded (fun _ e hc _ => linkStep_linkOk hc e) (linkOk_init fd)
    (guarded_of_forall (G := fun _ _ => True) (fun _ _ _ => trivial) _)).mono fun c hc hdead => ?_
  obtain ⟨hopen, -, -, hout, hsv, hwr, htm⟩ := hc.inv
  have hnone : c.onWrite = [] := eq_nil_iff_forall_not_mem.mpr (by grind)
  simp_all

/-- The peer makes an error while the socket cannot take the message that says so. If it sends
anything else, an assertion fails. If the message is written later, the callback for reading
outlives the connection. And if the version cannot be written, one is registered without a file
descriptor. -/
theorem run_linkStep_outlives :
    run linkStep (.init 4) [.handshake ⟨.complete, false⟩ ⟨.complete, false⟩,
      .readable 4 [.protocolError (some ⟨.pending, false⟩)], .readable 4 []] =
        .error (.sshInput 4 none) ∧
    (run linkStep (.init 4) [.handshake ⟨.complete, false⟩ ⟨.complete, false⟩,
      .readable 4 [.protocolError (some ⟨.pending, false⟩)],
      .writable 4 .complete false]).toOption.map
        (fun c => (c.alive, c.sshInput, c.onRead)) = some (false, none, [some 4]) ∧
    (run linkStep (.init 4) [.handshake ⟨.ioError, false⟩ ⟨.complete, false⟩]).toOption.map
        (fun c => (c.alive, c.onRead)) = some (false, [none]) := by
  decide

/-- A packet is retried, something is left to write for a while, and then the connection is
closed. -/
theorem run_linkStep_registered_retry :
    let events : List LinkEvent := [.handshake ⟨.pending, false⟩ ⟨.pending, false⟩,
      .readable 4 [.other [], .packet [94] [.send ⟨.pending, false⟩] false], .drained,
      .writable 4 .complete false, .timer [] true ⟨.complete, false⟩ [.pending],
      .readable 4 [.protocolError (some ⟨.complete, false⟩)], .writable 4 .complete false]
    Guarded linkStep LinkGuard (.init 4) events ∧
      Ensures (fun _ => False) Registered (run linkStep (.init 4) events) ∧
      (run linkStep (.init 4) events).toOption.map (fun c => (c.alive, c.handled)) =
        some (false, [(1, [94])]) := by
  intro events
  have hg : Guarded linkStep LinkGuard (.init 4) events := by decide +kernel
  exact ⟨hg, run_linkStep_registered 4 events hg, by decide⟩

end Lsh.Transport
