
import Lsh.Channel.Calls
import Lsh.Io.Write

/-!
# Channels and local descriptors

A model of `channel_io.c`: reading from a descriptor what is to be sent on a channel, and writing to
a descriptor what has been received. A function gets the state of the descriptor and what `read` or
`write` does, and returns the state as it leaves it.

Callbacks are registered with the event loop for a descriptor. The flag `active` is what the code
has about that; `registered` is what the event loop has.

## Main results

* `channelIoRead_ensures` — the outcomes of `channel_io_read`
* `channelIoWrite_ensures`, `channelIoFlush_ensures` — what is credited to the window is what has
  left the buffer
-/

namespace Lsh.Channel

open Machine Io List

/-! ### Descriptors -/

/-- What `read` does. -/
inductive ReadResult where
  /-- There is an octet, and maybe more. -/
  | data (b : UInt8) (s : Octets)
  | eof
  | failed (errno : ℕ)
  deriving DecidableEq

/-- The callbacks for reading. -/
inductive ReadCallback where
  | oopReadSocket
  | oopReadSocks
  | oopReadStdin
  | oopReadStdout
  | oopReadStderr
  deriving DecidableEq, Repr

/-- The callbacks for writing. -/
inductive WriteCallback where
  | oopWriteSocket
  | oopWriteSocks
  | oopWriteStdin
  | oopWriteStdout
  | oopWriteStderr
  deriving DecidableEq, Repr

/-- `struct channel_read_state`. -/
structure ReadState where
  /-- There is none if `fd` is negative. -/
  fd : Option ℕ
  ignoredError : ℕ
  active : Bool
  /-- The size of the string `buffer`. -/
  bufferSize : ℕ
  /-- What is registered for reading from the descriptor. -/
  registered : Option ReadCallback
  deriving DecidableEq

/-- `struct channel_write_state`. -/
structure WriteState where
  fd : Option ℕ
  active : Bool
  /-- A null pointer if there has never been a descriptor. -/
  state : Option SshWriteState
  /-- What is registered for writing to the descriptor. -/
  registered : Option WriteCallback
  /-- `EOVERFLOW` has been reported. Only theorems look at it. -/
  overflowed : Bool
  deriving DecidableEq

/-- `init_channel_read_state`. -/
def initChannelReadState (fd : Option ℕ) (bufferSize : ℕ) : ReadState where
  fd := fd
  ignoredError := 0
  active := false
  bufferSize := if fd.isSome then bufferSize else 0
  registered := none

/-- `init_channel_write_state`. -/
def initChannelWriteState (fd : Option ℕ) (bufferSize : ℕ) : WriteState where
  fd := fd
  active := false
  state := fd.map fun _ => initSshWriteState bufferSize
  registered := none
  overflowed := false

namespace ReadState

/-- `channel_io_start_read`. -/
def channelIoStartRead (file : ReadState) (f : ReadCallback) : ReadState :=
  if file.fd.isSome ∧ ¬file.active then { file with active := true, registered := some f } else file

/-- `channel_io_stop_read`. -/
def channelIoStopRead (file : ReadState) : ReadState :=
  if file.active then { file with active := false, registered := none } else file

/-- `channel_read_state_close`. Closing a descriptor cancels its callbacks. -/
def channelReadStateClose (file : ReadState) : ReadState :=
  if file.fd.isSome then { file with fd := none, registered := none } else file

end ReadState

namespace WriteState

/-- The octets that wait to be written. -/
def buffered (file : WriteState) : Octets := (file.state.map SshWriteState.buffer).getD []

/-- The size of the buffer. -/
def size (file : WriteState) : ℕ := (file.state.map SshWriteState.size).getD 0

/-- `channel_io_start_write`. -/
def channelIoStartWrite (file : WriteState) (f : WriteCallback) : WriteState :=
  if file.active then file else { file with active := true, registered := some f }

/-- The change of `channel_io_stop_write`. -/
def channelIoStopWrite (file : WriteState) : WriteState :=
  if file.active then { file with active := false, registered := none } else file

/-- No other callback than `f` is registered, and the flag is right about it. -/
def Uses (f : WriteCallback) (file : WriteState) : Prop :=
  file.registered = none ∨ file.registered = some f ∧ file.active

variable {f : WriteCallback} {file : WriteState}

theorem Uses.eq_of_registered {g : WriteCallback} (h : file.Uses f)
    (hreg : file.registered = some g) : g = f := by
  rcases h with hno | ⟨hsome, _⟩
  · rw [hno] at hreg
    cases hreg
  · rw [hsome] at hreg
    cases hreg
    rfl

theorem Uses.startWrite (h : file.Uses f) : (file.channelIoStartWrite f).Uses f := by
  rw [channelIoStartWrite]
  split_ifs
  · exact h
  · exact .inr ⟨rfl, rfl⟩

@[simp] theorem state_stopWrite (file : WriteState) :
    file.channelIoStopWrite.state = file.state := by
  rw [channelIoStopWrite]
  split_ifs <;> rfl

@[simp] theorem buffered_stopWrite (file : WriteState) :
    file.channelIoStopWrite.buffered = file.buffered := by
  rw [buffered, state_stopWrite, buffered]

@[simp] theorem size_stopWrite (file : WriteState) : file.channelIoStopWrite.size = file.size := by
  rw [size, state_stopWrite, size]

@[simp] theorem overflowed_stopWrite (file : WriteState) :
    file.channelIoStopWrite.overflowed = file.overflowed := by
  rw [channelIoStopWrite]
  split_ifs <;> rfl

/-- After `channel_io_stop_write` nothing is registered. -/
theorem Uses.registered_stopWrite (h : file.Uses f) :
    file.channelIoStopWrite.registered = none := by
  rw [channelIoStopWrite]
  split_ifs with hact
  · rfl
  · rcases h with hno | ⟨_, hact'⟩
    · exact hno
    · exact absurd hact' hact

end WriteState

/-! ### Functions -/

/-- Assertions of programs. -/
inductive ProgramAssertion where
  /-- `assert(channel->sources)`. -/
  | sources
  /-- `assert(channel->sinks)`. -/
  | sinks
  /-- Of `ssh_write.c`. -/
  | write
  /-- Of `lsh_string.c`. -/
  | string
  /-- `assert(pty->super.alive)`. -/
  | pty
  /-- `assert(!session->process)`. -/
  | process
  /-- `assert(session->action_done < LIST_LENGTH(session->actions))`. -/
  | actions
  deriving DecidableEq, Repr

/-- How a program can fail. -/
inductive ProgramError where
  | assertion (a : ProgramAssertion)
  | nullPointer
  /-- `fatal` or `abort`. -/
  | fatal
  /-- `SSH_CONNECTION_ERROR`. -/
  | connectionError (msg : String)
  /-- A failure of `channel.c`. -/
  | channel (e : ChannelError)
  deriving DecidableEq, Repr

/-- `enum channel_io_status`. -/
inductive IoStatus where
  | ok
  | eof
  | error
  deriving DecidableEq, Repr

variable {κ : Type} {x : SshChannel κ}

namespace Turn

/-- The program sets the number of sources. -/
def setSources (t : Turn x) (n : ℕ) : Turn x := t.set fun u => { u with sources := n }

/-- The program sets the number of sinks. -/
def setSinks (t : Turn x) (n : ℕ) : Turn x := t.set fun u => { u with sinks := n }

/-- The data of the program. -/
def app (t : Turn x) : κ := t.channel.app

/-- The program sets its data. -/
def setApp (t : Turn x) (app : κ) : Turn x := t.set fun u => { u with app := app }

@[simp] theorem channel_setSources (t : Turn x) (n) :
    (t.setSources n).channel = { t.channel with sources := n } := t.channel_set _

@[simp] theorem channel_setSinks (t : Turn x) (n) :
    (t.setSinks n).channel = { t.channel with sinks := n } := t.channel_set _

@[simp] theorem channel_setApp (t : Turn x) (app) :
    (t.setApp app).channel = { t.channel with app := app } := t.channel_set _

@[simp] theorem app_setApp (t : Turn x) (app) : (t.setApp app).app = app := by
  rw [Turn.app, channel_setApp]

end Turn

/-- How much `channel_io_read` asks for. -/
def toRead (channel : SshChannel κ) (file : ReadState) : ℕ :=
  min (min file.bufferSize channel.sendWindowSize.toNat) channel.sendMaxPacket.toNat

/-- What `channel_io_read` gets. -/
def readOctets (channel : SshChannel κ) (file : ReadState) (s : Octets) : LshString :=
  ⟨s.take (toRead channel file), by
    have hlt := channel.sendMaxPacket.toNat_lt
    rw [List.length_take, toRead]
    omega⟩

/-- There is nothing more to read: one source less. -/
def readEof (t : Turn x) : Turn x :=
  let t := t.setSources (t.channel.sources - 1)
  if t.channel.sources = 0 then t.call .eof else t

/-- `channel_io_read`. -/
def channelIoRead (t : Turn x) (file : ReadState) (res : ReadResult) :
    Except ProgramError (IoStatus × LshString × ReadState × Turn x) := do
  require (t.channel.sources ≠ 0) (.assertion .sources)
  if toRead t.channel file = 0 then return (.ok, lshString [], file.channelIoStopRead, t)
  else
    match res with
    | .failed errno =>
      if errno = file.ignoredError then
        return (.eof, lshString [], file.channelIoStopRead, readEof t)
      else return (.error, lshString [], file, t.call .close)
    | .eof => return (.eof, lshString [], file.channelIoStopRead, readEof t)
    | .data b s => return (.ok, readOctets t.channel file (b :: s), file, t)

/-- What `channel_io_stop_write` returns. -/
def stopStatus (channel : SshChannel κ) : IoStatus :=
  if channel.flags.receivedEof then .eof else .ok

/-- A function of `ssh_write.c` for the descriptor: the number of octets written, or the error. -/
def WriteState.apply (file : WriteState)
    (f : SshWriteState → Except WriteAssertion Written) :
    Except ProgramError (Except WriteError ℕ × WriteState) :=
  match file.state with
  | none => .error .nullPointer
  | some state =>
    match f state with
    | .error _ => .error (.assertion .write)
    | .ok w => .ok (w.done, { file with
        state := some w.state
        overflowed := file.overflowed || decide (w.done = .error .overflow) })

/-- `channel_io_write`. -/
def channelIoWrite (t : Turn x) (file : WriteState) (f : WriteCallback) (data : Octets)
    (res : WriteResult) : Except ProgramError (IoStatus × WriteState × Turn x) := do
  let (done, file) ← file.apply (sshWriteData · 0 data res)
  if done = .error .failed ∨ done = .error .overflow then return (.error, file, t.call .close)
  else
    let t := t.call (.adjustRecWindow (UInt32.ofNat (done.toOption.getD 0)))
    if file.buffered ≠ [] then return (.ok, file.channelIoStartWrite f, t)
    else return (stopStatus t.channel, file.channelIoStopWrite, t)

/-- `channel_io_flush`. -/
def channelIoFlush (t : Turn x) (file : WriteState) (res : WriteResult) :
    Except ProgramError (IoStatus × WriteState × Turn x) := do
  let (done, file) ← file.apply (sshWriteFlush · 0 res)
  match done with
  | .ok n =>
    let t := t.call (.adjustRecWindow (UInt32.ofNat n))
    if file.buffered = [] then return (stopStatus t.channel, file.channelIoStopWrite, t)
    else return (.ok, file, t)
  | .error .wouldBlock => return (.ok, file, t)
  | .error _ => return (.error, file, t.call .close)

/-- `channel_write_state_close`. -/
def channelWriteStateClose (t : Turn x) (file : WriteState) :
    Except ProgramError (WriteState × Turn x) := do
  if file.fd.isSome then
    require (t.channel.sinks ≠ 0) (.assertion .sinks)
    return ({ file with fd := none, registered := none },
      (t.setSinks (t.channel.sinks - 1)).call .maybeClose)
  else return (file, t)

/-! ### Outcomes -/

variable {t : Turn x}

@[simp] theorem flags_adjustRecWindow (x : SshChannel κ) (written) :
    (x.after (.adjustRecWindow written)).flags = x.flags := by
  rw [SshChannel.after]
  split_ifs <;> rfl

/-- The outcomes of `channel_io_read`. -/
inductive ReadOutcome (t : Turn x) (file : ReadState) (res : ReadResult) :
    IoStatus × LshString × ReadState × Turn x → Prop where
  /-- There is no window left. -/
  | stopped (hzero : toRead t.channel file = 0) :
      ReadOutcome t file res (.ok, lshString [], file.channelIoStopRead, t)
  | data {b : UInt8} {s : Octets} (hres : res = .data b s) (hpos : toRead t.channel file ≠ 0) :
      ReadOutcome t file res (.ok, readOctets t.channel file (b :: s), file, t)
  | eof : ReadOutcome t file res (.eof, lshString [], file.channelIoStopRead, readEof t)
  | failed : ReadOutcome t file res (.error, lshString [], file, t.call .close)

/-- **`channel_io_read`.** It fails only if there are no sources. -/
theorem channelIoRead_ensures (t : Turn x) (file res) :
    Ensures (fun e => e = .assertion .sources ∧ t.channel.sources = 0) (ReadOutcome t file res)
      (channelIoRead t file res) := by
  rw [channelIoRead.eq_def]
  by_cases hsrc : t.channel.sources ≠ 0
  · rw [require_of hsrc]
    split_ifs with hz0
    · exact .stopped hz0
    · cases res with
      | data b s => exact .data rfl hz0
      | eof => exact .eof
      | failed errno =>
        dsimp only
        split_ifs
        · exact .eof
        · exact .failed
  · rw [require_of_not hsrc]
    exact ⟨rfl, not_not.mp hsrc⟩

/-- The calls of `channel_io_write` and `channel_io_flush`. -/
inductive WriteCalls (t : Turn x) : IoStatus × WriteState × Turn x → Prop where
  | blocked (file : WriteState) : WriteCalls t (.ok, file, t)
  | credited {status : IoStatus} (file : WriteState) (n : ℕ)
      (hstatus : status = .ok ∨ status = .eof ∧ t.channel.flags.receivedEof = true) :
      WriteCalls t (status, file, t.call (.adjustRecWindow (UInt32.ofNat n)))
  | failed (file : WriteState) : WriteCalls t (.error, file, t.call .close)

theorem stopStatus_cases (t : Turn x) (n) :
    stopStatus (t.call (.adjustRecWindow n)).channel = .ok ∨
      stopStatus (t.call (.adjustRecWindow n)).channel = .eof ∧ t.channel.flags.receivedEof := by
  rw [stopStatus, Turn.channel_call, flags_adjustRecWindow]
  split_ifs with hfg
  · exact .inr ⟨rfl, hfg⟩
  · exact .inl rfl

theorem channelIoWrite_calls (t : Turn x) (file : WriteState) (f data res) :
    Returns (WriteCalls t) (channelIoWrite t file f data res) := by
  rw [channelIoWrite]
  cases file.apply (sshWriteData · 0 data res) with
  | error e => trivial
  | ok r =>
    rw [ok_bind]
    dsimp only
    split_ifs
    · exact .failed _
    · exact .credited _ _ (.inl rfl)
    · exact .credited _ _ (stopStatus_cases t _)

theorem channelIoFlush_calls (t : Turn x) (file res) :
    Returns (WriteCalls t) (channelIoFlush t file res) := by
  rw [channelIoFlush]
  cases file.apply (sshWriteFlush · 0 res) with
  | error e => trivial
  | ok r =>
    rw [ok_bind]
    dsimp only
    split
    · split_ifs
      · exact .credited _ _ (stopStatus_cases t _)
      · exact .credited _ _ (.inl rfl)
    · exact .blocked _
    · exact .failed _

/-! ### The buffer and the window -/

/-- From `file` to `file'`, data has been added and `n` octets have left. -/
structure Moves (file : WriteState) (data : Octets) (n : ℕ) (file' : WriteState) : Prop where
  fd_eq : file'.fd = file.fd
  size_eq : file'.size = file.size
  overflowed_eq : file'.overflowed = file.overflowed
  state_isSome : file'.state.isSome
  length_eq : file'.buffered.length + n = file.buffered.length + data.length

namespace Moves

variable {file file' : WriteState} {data : Octets} {n : ℕ}

theorem channelIoStartWrite (h : Moves file data n file') (f) :
    Moves file data n (file'.channelIoStartWrite f) := by
  rw [WriteState.channelIoStartWrite]
  split_ifs
  · exact h
  · exact { h with }

theorem channelIoStopWrite (h : Moves file data n file') :
    Moves file data n file'.channelIoStopWrite := by
  rw [WriteState.channelIoStopWrite]
  split_ifs
  · exact { h with }
  · exact h

end Moves

variable {file : WriteState} {data : Octets} {f : SshWriteState → Except WriteAssertion Written}

/-- A function of `ssh_write.c` that loses nothing. -/
theorem apply_moves {state : SshWriteState} (hst : file.state = some state)
    (hf : Yields (Written.Keeps state data) (f state)) :
    Yields
      (fun r => r.1 ≠ .error .overflow ∧ Moves file data (r.1.toOption.getD 0) r.2)
      (file.apply f) := by
  obtain ⟨w, hw, hkp⟩ := hf.exists_ok
  rw [WriteState.apply, hst]
  dsimp only
  rw [hw]
  refine ⟨hkp.not_overflow, rfl, ?_, ?_, rfl, ?_⟩
  · show w.state.size = file.size
    rw [hkp.size_eq, WriteState.size, hst]
    rfl
  · rw [decide_eq_false hkp.not_overflow, Bool.or_false]
  · show w.state.buffer.length + w.done.toOption.getD 0 = file.buffered.length + data.length
    have hbuf : file.buffered = state.buffer := by
      rw [WriteState.buffered, hst]
      rfl
    have hle : w.done.toOption.getD 0 ≤ state.buffer.length + data.length := by
      cases hdone : w.done with
      | ok n => exact hkp.done_le n hdone
      | error e => exact Nat.zero_le _
    rw [hkp.buffer_eq, hbuf, length_drop, length_append]
    omega

/-- Nothing is registered by a function of `ssh_write.c`. -/
theorem apply_uses : Returns (fun r => ∀ cb, file.Uses cb → r.2.Uses cb) (file.apply f) := by
  rw [WriteState.apply]
  split
  · trivial
  · split
    · trivial
    · exact fun _ h => h

/-- There is an assertion that something is to be written. -/
theorem apply_flush_of_nil (hbuf : file.buffered = []) (res) :
    Returns (fun _ => False) (file.apply (sshWriteFlush · 0 res)) := by
  rw [WriteState.apply]
  cases hst : file.state with
  | none => trivial
  | some st =>
    rw [WriteState.buffered, hst] at hbuf
    have hnil : st.buffer = [] := hbuf
    have hfl : sshWriteFlush st 0 res = .error .toWrite := by
      rw [sshWriteFlush.eq_def]
      dsimp only
      rw [require_of_not (by simp [hnil]), error_bind]
    dsimp only
    rw [hfl]
    trivial

/-- So there is in `channel_io_flush`. -/
theorem channelIoFlush_of_nil (hbuf : file.buffered = []) (t : Turn x) (res) :
    Returns (fun _ => False) (channelIoFlush t file res) := by
  exact (apply_flush_of_nil hbuf res).bind fun _ hfls => hfls.elim

/-- What a function that writes does to the window and the buffer: as much is credited as has left,
unless the channel is closed. -/
inductive WriteMoves (t : Turn x) (file : WriteState) (data : Octets) :
    IoStatus × WriteState × Turn x → Prop where
  | blocked {file' : WriteState} (h : Moves file data 0 file') :
      WriteMoves t file data (.ok, file', t)
  | credited {status : IoStatus} {file' : WriteState} {n : ℕ} (h : Moves file data n file')
      (hstatus : status = .ok ∨ status = .eof ∧ t.channel.flags.receivedEof = true) :
      WriteMoves t file data (status, file', t.call (.adjustRecWindow (UInt32.ofNat n)))
  | failed {file' : WriteState} (h : Moves file data 0 file') :
      WriteMoves t file data (.error, file', t.call .close)

/-- **`channel_io_write`**, if there is space for all the data. -/
theorem channelIoWrite_ensures (hst : file.state.isSome)
    (hspc : file.buffered.length + data.length ≤ file.size) (hdata : data ≠ []) (t : Turn x)
    (f res) :
    Yields (WriteMoves t file data) (channelIoWrite t file f data res) := by
  obtain ⟨st, hst⟩ := Option.isSome_iff_exists.mp hst
  rw [WriteState.buffered, WriteState.size, hst] at hspc
  have hlen := length_pos_of_ne_nil hdata
  have hwr : Yields (Written.Keeps st data) (sshWriteData st 0 data res) :=
    sshWriteData_ensures hspc (by omega) (Nat.zero_le _) res
  refine (apply_moves hst hwr).bind fun r hr => ?_
  obtain ⟨done, file'⟩ := r
  obtain ⟨hov, hmv⟩ := hr
  dsimp only at hov hmv ⊢
  by_cases hfa : done = .error .failed ∨ done = .error .overflow
  · rcases hfa with rfl | rfl
    · exact .failed hmv
    · exact absurd rfl hov
  · split_ifs
    · exact .credited (hmv.channelIoStartWrite f) (.inl rfl)
    · exact .credited hmv.channelIoStopWrite (stopStatus_cases t _)

/-- **`channel_io_flush`** of a buffer with something in it. -/
theorem channelIoFlush_ensures (hbuf : file.buffered ≠ []) (t : Turn x) (res) :
    Yields (WriteMoves t file []) (channelIoFlush t file res) := by
  cases hst : file.state with
  | none =>
    rw [WriteState.buffered, hst] at hbuf
    exact absurd rfl hbuf
  | some st =>
    rw [WriteState.buffered, hst] at hbuf
    have hpos := length_pos_of_ne_nil hbuf
    have hfl : Yields (Written.Keeps st []) (sshWriteFlush st 0 res) :=
      sshWriteFlush_ensures hpos (Nat.zero_le _) res
    refine (apply_moves hst hfl).bind fun r hr => ?_
    obtain ⟨done, file'⟩ := r
    obtain ⟨hov, hmv⟩ := hr
    dsimp only at hov hmv ⊢
    split
    · split_ifs
      · exact .credited hmv.channelIoStopWrite (stopStatus_cases t _)
      · exact .credited hmv (.inl rfl)
    · exact .blocked hmv
    · exact .failed hmv

end Lsh.Channel
