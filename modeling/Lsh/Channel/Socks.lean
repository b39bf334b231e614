
import Lsh.Channel.Forward

/-!
# SOCKS channels

A model of `socks.c`. The client of a SOCKS proxy says on a new socket which address it wants. When
that is known a channel is opened, and when the channel is confirmed the socket is forwarded.

The read and write buffers are those of the forwarded channel. The reply at the end of the handshake
may still be in the write buffer when data arrives on the channel, which is why the window is opened
with less than the size of the buffer.

## Main results

* `socksHandshake_waiting` — what a handshake leaves of the read and write buffers
-/

namespace Lsh.Channel

open Machine Io

/-- `SOCKS_MAX_SIZE`. -/
def socksMaxSize : UInt32 := 262

/-- What a SOCKS client asks for. -/
structure SocksTarget where
  host : Octets
  port : ℕ

/-! ### Writing -/

variable {x : SshChannel Forward}

section Functions

variable (t : Turn x) (self : Socks)

/-- `socks_fail`. -/
def socksFail : Turn x := doKillChannelForward t

/-- `socks_start_write`. -/
def socksStartWrite : Turn x := t.setWrite (t.app.write.channelIoStartWrite .oopWriteSocks)

/-- `socks_stop_write`. -/
def socksStopWrite : Turn x :=
  if self.state = .close then doKillChannelForward t else t.setWrite t.app.write.channelIoStopWrite

/-- `socks_close`. -/
def socksClose : Turn x :=
  let t := t.setSelf (.socks { self with state := .close })
  if t.app.write.buffered ≠ [] then t.setRead { t.app.read with registered := none }
  else doKillChannelForward t

/-- `socks_write`. -/
def socksWrite (data : Octets) (res : WriteResult) : Except ProgramError (Turn x) := do
  let (done, write) ← t.app.write.apply (sshWriteData · 0 data res)
  let t := t.setWrite write
  if done = .error .failed ∨ done = .error .overflow then return socksFail t
  else if write.buffered ≠ [] then return socksStartWrite t
  else return socksStopWrite t self

/-- `oop_write_socks`. -/
def oopWriteSocks (res : WriteResult) : Except ProgramError (Turn x) := do
  let (done, write) ← t.app.write.apply (sshWriteFlush · 0 res)
  let t := t.setWrite write
  match done with
  | .error _ => return socksFail t
  | .ok _ => if write.buffered = [] then return socksStopWrite t self else return t

/-- `socks_method`. -/
def socksMethod (method : UInt8) (res : WriteResult) : Except ProgramError (Turn x) :=
  socksWrite t self [self.version, method] res

/-- The octets of a reply, with `SOCKS_NOADDR` and port 0 as in all replies. There is none for an
unknown version. -/
def socksReplyOctets (version status : UInt8) : Option Octets :=
  if version = 5 then some [version, status, 0, 1, 0, 0, 0, 0, 0, 0]
  else if version = 4 then some [0, if status = 0 then 90 else 91, 0, 0, 0, 0, 0, 0]
  else none

/-- `socks_reply`. -/
def socksReply (status : UInt8) (res : WriteResult) : Except ProgramError (Turn x) :=
  match socksReplyOctets self.version status with
  | none => .error .fatal
  | some data => socksWrite t self data res

/-! ### The handshake -/

/-- The octet at a position of the read buffer. -/
def Socks.octet (self : Socks) (n : ℕ) : UInt8 := self.buffer.getD n 0

/-- `READ_UINT16` at a position of the read buffer. -/
def Socks.uint16 (self : Socks) (n : ℕ) : ℕ :=
  (self.octet n).toNat * 256 + (self.octet (n + 1)).toNat

/-- `socks2address_info`: the host, with `inet6` for `lsh_string_ntop`. -/
def socks2addressInfo (inet6 : Octets → Octets) (atype : UInt8) (addr : Octets) :
    Except ProgramError Octets :=
  if atype = 1 then
    .ok (asciiOctets (".".intercalate ((addr.take 4).map fun b => toString b.toNat)))
  else if atype = 4 then .ok (inet6 (addr.take 16))
  else if atype = 3 then .ok ((addr.drop 1).take (addr.getD 0 0).toNat)
  else .error .fatal

/-- What a handshake depends on. -/
structure SocksEnv where
  /-- `lsh_string_ntop` for an address of 16 octets. -/
  inet6 : Octets → Octets
  /-- `channel_open_new_type` finds a free channel for the target. -/
  opens : SocksTarget → Bool

/-- `socks_command`, and what is done with its result. There is a target if a channel is opened for
it. -/
def socksCommand (env : SocksEnv) (command atype : UInt8) (addr : Octets) (port : ℕ)
    (res : WriteResult) : Except ProgramError (Turn x × Option SocksTarget) := do
  if command ≠ 1 then
    let t ← socksReply t self 7 res
    return (socksFail t, none)
  else
    let host ← socks2addressInfo env.inet6 atype addr
    if env.opens ⟨host, port⟩ then
      let t := t.setSelf (.socks { self with state := .commandWait })
      return (t.setRead t.app.read.channelIoStopRead, some ⟨host, port⟩)
    else
      let t ← socksReply t self 1 res
      return (socksFail t, none)

/-- One turn of the loop in `oop_read_socks`. -/
def socksProcess (env : SocksEnv) (res : WriteResult) :
    Except ProgramError (Turn x × Option SocksTarget) := do
  match self.state with
  | .versionHeader =>
    let self := { self with version := self.octet 0 }
    if self.version = 4 then
      return (t.setSelf (.socks { self with length := 9, state := .socks4Command }), none)
    else if self.version = 5 then
      return (t.setSelf (.socks { self with
        length := 2 + (self.octet 1).toNat
        state := .versionMethods }), none)
    else return (socksFail (t.setSelf (.socks self)), none)
  | .versionMethods =>
    if 0 ∈ (self.buffer.drop 2).take (self.octet 1).toNat then
      let t ← socksMethod t self 0 res
      return (t.setSelf (.socks { self with buffer := [], length := 5, state := .commandHeader }),
        none)
    else
      let t ← socksMethod t self 0xff res
      return (socksClose t self, none)
  | .commandHeader =>
    if self.octet 0 ≠ self.version ∨ self.octet 2 ≠ 0 then return (socksFail t, none)
    else
      let self := { self with state := .commandAddr }
      if self.octet 3 = 1 then return (t.setSelf (.socks { self with length := 10 }), none)
      else if self.octet 3 = 4 then return (t.setSelf (.socks { self with length := 22 }), none)
      else if self.octet 3 = 3 then
        if self.octet 4 = 0 then return (socksFail (t.setSelf (.socks self)), none)
        else return (t.setSelf (.socks { self with length := 7 + (self.octet 4).toNat }), none)
      else return (t.setSelf (.socks self), none)
  | .commandAddr =>
    socksCommand t self env (self.octet 1) (self.octet 3) (self.buffer.drop 4)
      (self.uint16 (self.length - 2)) res
  | .socks4Command =>
    socksCommand t self env (self.octet 1) 1 (self.buffer.drop 4) (self.uint16 2) res
  | .commandWait => .error .fatal
  | .close => .error .fatal

end Functions

/-- The loop in `oop_read_socks`. It ends after three turns at most, as each turn leads to a later
state or takes the octets that have been read. -/
def socksLoop (env : SocksEnv) (res : WriteResult) :
    ℕ → Turn x → Except ProgramError (Turn x × Option SocksTarget)
  | 0, t => .ok (t, none)
  | fuel + 1, t =>
    match t.app.self with
    | .socks self =>
      if t.channel.alive ∧ t.app.read.active ∧ self.length ≤ self.buffer.length then do
        let (t, target) ← socksProcess t self env res
        match target with
        | some target => return (t, some target)
        | none => socksLoop env res fuel t
      else .ok (t, none)
    | _ => .ok (t, none)

/-- `oop_read_socks`. -/
def oopReadSocks (t : Turn x) (self : Socks) (env : SocksEnv) (res : ReadResult)
    (write : WriteResult) : Except ProgramError (Turn x × Option SocksTarget) :=
  let toRead := t.app.read.bufferSize - self.buffer.length
  if toRead = 0 then .ok (socksFail t, none)
  else
    match res with
    | .failed _ => .ok (socksFail t, none)
    | .eof => .ok (socksFail t, none)
    | .data b s =>
      socksLoop env write 4
        (t.setSelf (.socks { self with buffer := self.buffer ++ (b :: s).take toRead }))

/-- `make_socks_channel`. -/
def makeSocksChannel (fd : ℕ) : NewChannel Forward :=
  { initChannelForward fd tcpipWindowSize (.socks ⟨.versionHeader, 0, [], 2⟩) with
    recWindowSize := tcpipWindowSize - socksMaxSize }

/-- The event loop calls a callback of a socket in the handshake. -/
inductive SocksInput where
  | read (res : ReadResult) (write : WriteResult)
  | write (res : WriteResult)

/-- One callback. -/
def socksInput (env : SocksEnv) (t : Turn x) (input : SocksInput) :
    Except ProgramError (Turn x × Option SocksTarget) :=
  match t.app.self with
  | .socks self =>
    match input with
    | .read res write =>
      if t.app.read.registered = some .oopReadSocks then oopReadSocks t self env res write
      else .ok (t, none)
    | .write res =>
      if t.app.write.registered = some .oopWriteSocks then do
        let t ← oopWriteSocks t self res
        return (t, none)
      else .ok (t, none)
  | _ => .ok (t, none)

/-- Callbacks one after the other, until a channel is opened. -/
def socksInputs (env : SocksEnv) :
    List SocksInput → Turn x → Except ProgramError (Turn x × Option SocksTarget)
  | [], t => .ok (t, none)
  | input :: inputs, t => do
    let (t, target) ← socksInput env t input
    match target with
    | some target => return (t, some target)
    | none => socksInputs env inputs t

/-- `do_socks_accept`: a new object, with `socks_start_read`. -/
def doSocksAccept (fd : ℕ) : Turn (initChannel (makeSocksChannel fd) none) :=
  let t : Turn (initChannel (makeSocksChannel fd) none) := ⟨[]⟩
  t.setRead (t.app.read.channelIoStartRead .oopReadSocks)

/-- The channel object that a handshake opens, and for which target. -/
def socksHandshake (env : SocksEnv) (fd : ℕ) (inputs : List SocksInput) :
    Except ProgramError (Option (NewChannel Forward × SocksTarget)) := do
  let (t, target) ← socksInputs env inputs (doSocksAccept fd)
  return target.map fun target => ({ makeSocksChannel fd with app := t.app }, target)

/-! ### Events -/

/-- `do_socks_channel_event`. -/
def doSocksChannelEvent (t : Turn x) (self : Socks) (event : ChannelEvent)
    (res : WriteResult) : Except ProgramError (Turn x) := do
  match event with
  | .confirm =>
    let t ← socksReply t self 0 res
    let t := socksStopWrite t self
    let left := socksMaxSize - UInt32.ofNat t.app.write.buffered.length
    let t := if 0 < left then t.call (.adjustRecWindow left) else t
    return channelForwardStartIo t
  | .deny => socksReply t self 5 res
  | event => forwardEvent t event

/-! ### What a handshake leaves -/

variable {self : Socks}

section Handshake

variable {x y z : SshChannel Forward} {k n m : ℕ}

/-- From `x` to `y`, at most `k` octets have been added to the write buffer, some may have been
written, and the socket may have been closed because of an error. -/
structure Sends (x : SshChannel Forward) (k : ℕ) (y : SshChannel Forward) : Prop where
  rest : ∃ alive read write,
    y = { x with alive := alive, app := { x.app with read := read, write := write } }
  size_eq : y.app.write.size = x.app.write.size
  overflowed_eq : y.app.write.overflowed = x.app.write.overflowed
  state_isSome : y.app.write.state.isSome
  length_le : y.app.write.buffered.length ≤ x.app.write.buffered.length + k
  kept : y.alive = x.alive ∧ y.app.read = x.app.read ∨
    y.alive = false ∧ y.app.read = { x.app.read with registered := none } ∧
      y.app.write.registered = none
  uses : x.app.write.Uses .oopWriteSocks → y.app.write.Uses .oopWriteSocks

variable {t : Turn z}

namespace Sends

/-- Writing to the socket. -/
theorem of_moves {data : Octets} {done : ℕ} {write : WriteState}
    (h : Moves x.app.write data done write)
    (hus : ∀ f, x.app.write.Uses f → write.Uses f) :
    Sends x data.length { x with app := { x.app with write := write } } where
  rest := ⟨_, _, _, rfl⟩
  size_eq := h.size_eq
  overflowed_eq := h.overflowed_eq
  state_isSome := h.state_isSome
  length_le := by
    have hlen := h.length_eq
    show write.buffered.length ≤ x.app.write.buffered.length + data.length
    omega
  kept := .inl ⟨rfl, rfl⟩
  uses := hus _

/-- The event loop is told to call a callback, or not to. -/
theorem register {registered : Option WriteCallback} (h : Sends x k y) (active : Bool)
    (hkt : y.alive = x.alive ∧ y.app.read = x.app.read)
    (hus : registered = none ∨ registered = some .oopWriteSocks ∧ active) :
    Sends x k { y with app := { y.app with
      write := { y.app.write with active := active, registered := registered } } } where
  rest := by
    obtain ⟨_, _, _, rfl⟩ := h.rest
    exact ⟨_, _, _, rfl⟩
  size_eq := h.size_eq
  overflowed_eq := h.overflowed_eq
  state_isSome := h.state_isSome
  length_le := h.length_le
  kept := .inl hkt
  uses _ := hus

theorem killed (h : Sends x k y) : Sends x k (killed y) where
  rest := by
    obtain ⟨_, _, _, rfl⟩ := h.rest
    exact ⟨_, _, _, rfl⟩
  size_eq := h.size_eq
  overflowed_eq := h.overflowed_eq
  state_isSome := h.state_isSome
  length_le := h.length_le
  kept := by
    refine .inr ⟨rfl, ?_, rfl⟩
    rcases h.kept with ⟨_, hread⟩ | ⟨_, hread, _⟩
    · show { y.app.read with registered := none } = _
      rw [hread]
    · show { y.app.read with registered := none } = _
      rw [hread]
  uses _ := .inl rfl

theorem kill (h : Sends x k t.channel) : Sends x k (doKillChannelForward t).channel := by
  rw [channel_doKillChannelForward]
  split_ifs
  · exact h.killed
  · exact h

theorem alive_of_alive (h : Sends x k y) (hal : y.alive) : x.alive ∧ y.app.read = x.app.read := by
  rcases h.kept with ⟨heq, hread⟩ | ⟨hfls, _⟩
  · exact ⟨heq ▸ hal, hread⟩
  · rw [hfls] at hal
    cases hal

theorem startWrite (h : Sends x k t.channel)
    (hkt : t.channel.alive = x.alive ∧ t.channel.app.read = x.app.read) :
    Sends x k (socksStartWrite t).channel := by
  rw [socksStartWrite, Turn.channel_setWrite, WriteState.channelIoStartWrite]
  split_ifs
  · exact h
  · exact h.register _ hkt (.inr ⟨rfl, rfl⟩)

theorem stopWrite (h : Sends x k t.channel)
    (hkt : t.channel.alive = x.alive ∧ t.channel.app.read = x.app.read) (self) :
    Sends x k (socksStopWrite t self).channel := by
  rw [socksStopWrite]
  split_ifs
  · exact h.kill
  · rw [Turn.channel_setWrite, WriteState.channelIoStopWrite]
    split_ifs
    · exact h.register _ hkt (.inl rfl)
    · exact h

end Sends

variable {data : List UInt8}

/-- **`socks_write`**, with space for the data. -/
theorem socksWrite_sends (hst : t.channel.app.write.state.isSome)
    (hspc : t.channel.app.write.buffered.length + data.length ≤ t.channel.app.write.size)
    (hdata : data ≠ []) (self res) :
    Yields (fun u : Turn z => Sends t.channel data.length u.channel)
      (socksWrite t self data res) := by
  obtain ⟨st, hst⟩ := Option.isSome_iff_exists.mp hst
  rw [WriteState.buffered, WriteState.size, hst] at hspc
  have hlen := List.length_pos_of_ne_nil hdata
  have hwr : Yields (Written.Keeps st data) (sshWriteData st 0 data res) :=
    sshWriteData_ensures hspc (by omega) (Nat.zero_le _) res
  refine ((apply_moves hst hwr).and apply_uses).bind fun r hr => ?_
  obtain ⟨done, write⟩ := r
  have hsds : Sends t.channel data.length (t.setWrite write).channel := by
    rw [Turn.channel_setWrite]
    exact Sends.of_moves hr.1.2 hr.2
  have hkt : (t.setWrite write).channel.alive = t.channel.alive ∧
      (t.setWrite write).channel.app.read = t.channel.app.read := by simp
  dsimp only
  split_ifs
  · exact hsds.kill
  · exact hsds.startWrite hkt
  · exact hsds.stopWrite hkt self

/-- **`oop_write_socks`**, with something to write. -/
theorem oopWriteSocks_sends (hbuf : t.channel.app.write.buffered ≠ []) (self res) :
    Yields (fun u : Turn z => Sends t.channel 0 u.channel) (oopWriteSocks t self res) := by
  cases hst : t.channel.app.write.state with
  | none =>
    rw [WriteState.buffered, hst] at hbuf
    exact absurd rfl hbuf
  | some st =>
    rw [WriteState.buffered, hst] at hbuf
    have hfl : Yields (Written.Keeps st []) (sshWriteFlush st 0 res) :=
      sshWriteFlush_ensures (List.length_pos_of_ne_nil hbuf) (Nat.zero_le _) res
    refine ((apply_moves hst hfl).and apply_uses).bind fun r hr => ?_
    obtain ⟨done, write⟩ := r
    have hsds : Sends t.channel 0 (t.setWrite write).channel := by
      rw [Turn.channel_setWrite]
      exact Sends.of_moves hr.1.2 hr.2
    have hkt : (t.setWrite write).channel.alive = t.channel.alive ∧
        (t.setWrite write).channel.app.read = t.channel.app.read := by simp
    dsimp only
    split
    · exact hsds.kill
    · split_ifs
      · exact hsds.stopWrite hkt self
      · exact hsds

/-- An object in the handshake, with at most `n` octets to write. Nothing is registered any more if
the socket has been closed. -/
structure Shaking (n : ℕ) (x : SshChannel Forward) : Prop where
  registered_ne : x.app.read.registered ≠ some .oopReadSocket
  active : x.app.read.registered.isSome → x.app.read.active
  state_isSome : x.app.write.state.isSome
  size_eq : x.app.write.size = tcpipWindowSize.toNat
  overflowed_eq : x.app.write.overflowed = false
  discarded_eq : x.app.discarded = 0
  length_le : x.alive → x.app.write.buffered.length ≤ n
  dead : x.alive = false → x.app.read.registered = none ∧ x.app.write.registered = none
  uses : x.app.write.Uses .oopWriteSocks
  receive_eq : x.app.receive = .channelForward

namespace Shaking

theorem sends (h : Shaking n x) (hal : x.alive) (hsds : Sends x k y) :
    Shaking (n + k) y where
  registered_ne := by
    rcases hsds.kept with ⟨_, hread⟩ | ⟨_, hread, _⟩
    · rw [hread]
      exact h.registered_ne
    · rw [hread]
      exact nofun
  active := by
    rcases hsds.kept with ⟨_, hread⟩ | ⟨_, hread, _⟩
    · rw [hread]
      exact h.active
    · rw [hread]
      exact nofun
  state_isSome := hsds.state_isSome
  size_eq := hsds.size_eq.trans h.size_eq
  overflowed_eq := hsds.overflowed_eq.trans h.overflowed_eq
  discarded_eq := by
    obtain ⟨_, _, _, rfl⟩ := hsds.rest
    exact h.discarded_eq
  length_le _ := by
    have hle := h.length_le hal
    have hsds := hsds.length_le
    omega
  dead hfls := by
    rcases hsds.kept with ⟨hsame, _⟩ | ⟨_, hread, hwr⟩
    · rw [hfls, hal] at hsame
      cases hsame
    · rw [hread]
      exact ⟨rfl, hwr⟩
  uses := hsds.uses h.uses
  receive_eq := by
    obtain ⟨_, _, _, rfl⟩ := hsds.rest
    exact h.receive_eq

theorem mono (h : Shaking n x) (hle : n ≤ m) : Shaking m x :=
  ⟨h.registered_ne, h.active, h.state_isSome, h.size_eq, h.overflowed_eq, h.discarded_eq,
    fun hal => (h.length_le hal).trans hle, h.dead, h.uses, h.receive_eq⟩

/-- Nothing is asked of the buffer once the socket has been closed. -/
theorem kill (h : Shaking n t.channel) (m) : Shaking m (doKillChannelForward t).channel := by
  rw [channel_doKillChannelForward]
  split_ifs with hal
  · exact ⟨nofun, nofun, h.state_isSome, h.size_eq, h.overflowed_eq, h.discarded_eq, nofun,
      fun _ => ⟨rfl, rfl⟩, .inl rfl, h.receive_eq⟩
  · exact ⟨h.registered_ne, h.active, h.state_isSome, h.size_eq, h.overflowed_eq, h.discarded_eq,
      fun hal' => absurd hal' hal, h.dead, h.uses, h.receive_eq⟩

theorem setSelf (h : Shaking n t.channel) (hle : n ≤ m) (self) :
    Shaking m (t.setSelf self).channel := by
  rw [Turn.channel_setSelf]
  exact ⟨h.registered_ne, h.active, h.state_isSome, h.size_eq, h.overflowed_eq, h.discarded_eq,
    fun hal => (h.length_le hal).trans hle, h.dead, h.uses, h.receive_eq⟩

theorem setRead (h : Shaking n t.channel) {read : ReadState}
    (hread : read.registered = none ∨ read = t.channel.app.read) :
    Shaking n (t.setRead read).channel := by
  rw [Turn.channel_setRead]
  rcases hread with hno | rfl
  · refine ⟨?_, ?_, h.state_isSome, h.size_eq, h.overflowed_eq, h.discarded_eq, h.length_le,
      fun hdd => ⟨hno, (h.dead hdd).2⟩, h.uses, h.receive_eq⟩
    · rw [hno]
      exact nofun
    · rw [hno]
      exact nofun
  · exact h

end Shaking

/-- How much there can be to write in a state of the handshake: the reply to the first message. -/
def SocksState.pending : SocksState → ℕ
  | versionHeader => 0
  | versionMethods => 0
  | socks4Command => 0
  | commandHeader => 2
  | commandAddr => 2
  | commandWait => 2
  | close => 2

/-- The object of a SOCKS channel in the handshake. -/
def InHandshake (x : SshChannel Forward) : Prop :=
  ∃ self, x.app.self = .socks self ∧ Shaking self.state.pending x

theorem InHandshake.of_setSelf (h : Shaking n t.channel) (hle : n ≤ self.state.pending) :
    InHandshake (t.setSelf (.socks self)).channel := by
  refine ⟨self, ?_, h.setSelf hle _⟩
  rw [Turn.channel_setSelf]

theorem InHandshake.kill (hself : t.channel.app.self = .socks self) (h : Shaking n t.channel) :
    InHandshake (doKillChannelForward t).channel := by
  refine ⟨self, ?_, h.kill _⟩
  rw [channel_doKillChannelForward]
  split_ifs
  · exact hself
  · exact hself

theorem Sends.self_eq (h : Sends x k y) : y.app.self = x.app.self := by
  obtain ⟨_, _, _, rfl⟩ := h.rest
  rfl

theorem length_socksReplyOctets {version status : UInt8} {data : Octets}
    (h : socksReplyOctets version status = some data) :
    data ≠ [] ∧ data.length ≤ 10 := by
  rw [socksReplyOctets] at h
  split_ifs at h
  · cases h
    simp
  · cases h
    simp
  · cases h
    simp

/-- Writing in the handshake. -/
theorem socksWrite_shaking (h : Shaking n t.channel) (hal : t.channel.alive) (hn : n ≤ 2)
    (hdata : data ≠ []) (hlen : data.length ≤ 10) (self res) :
    Yields (fun u : Turn z => Shaking (n + data.length) u.channel ∧
      u.channel.app.self = t.channel.app.self) (socksWrite t self data res) := by
  have hspc : t.channel.app.write.buffered.length + data.length ≤ t.channel.app.write.size := by
    have hle := h.length_le hal
    rw [h.size_eq, show tcpipWindowSize.toNat = 10000 from rfl]
    omega
  refine (socksWrite_sends h.state_isSome hspc hdata self res).mono fun u hu => ?_
  exact ⟨h.sends hal hu, hu.self_eq⟩

theorem socksReply_shaking (h : Shaking n t.channel) (hal : t.channel.alive) (hn : n ≤ 2)
    (self status res) :
    Returns (fun u : Turn z => Shaking (n + 10) u.channel ∧
      u.channel.app.self = t.channel.app.self) (socksReply t self status res) := by
  rw [socksReply]
  cases hdata : socksReplyOctets self.version status with
  | none => trivial
  | some data =>
    obtain ⟨hne, hlen⟩ := length_socksReplyOctets hdata
    refine (socksWrite_shaking h hal hn hne hlen self res).of_total.mono fun u hu => ?_
    exact ⟨hu.1.mono (by omega), hu.2⟩

/-- The handshake is over: nothing is read, and a channel can be opened. -/
structure Waiting (x : SshChannel Forward) : Prop extends Shaking 2 x where
  alive : x.alive
  registered_eq : x.app.read.registered = none
  self_eq : ∃ self, x.app.self = .socks self ∧ self.state = .commandWait

/-- The outcome of a step. -/
def Shaken (r : Turn z × Option SocksTarget) : Prop :=
  InHandshake r.1.channel ∧ ∀ target ∈ r.2, Waiting r.1.channel

/-- `socks_command`. -/
theorem socksCommand_shaken (hself : t.channel.app.self = .socks self) (h : Shaking n t.channel)
    (hal : t.channel.alive = true) (hn : n ≤ 2) (env command atype addr port res) :
    Returns Shaken (socksCommand t self env command atype addr port res) := by
  have hrefuse (status : UInt8) : Returns Shaken (do
      let t ← socksReply t self status res
      return (socksFail t, (none : Option SocksTarget))) := by
    refine (socksReply_shaking h hal hn self status res).bind fun u hu => ?_
    exact ⟨InHandshake.kill (hu.2.trans hself) hu.1, by simp⟩
  rw [socksCommand]
  split_ifs
  · exact hrefuse 7
  · cases socks2addressInfo env.inet6 atype addr with
    | error e => trivial
    | ok host =>
      rw [ok_bind]
      split_ifs
      swap
      · exact hrefuse 1
      have hwt : Shaking 2 (t.setSelf (.socks { self with state := .commandWait })).channel :=
        h.setSelf hn _
      have hno : (t.setSelf (.socks
          { self with state := .commandWait })).app.read.channelIoStopRead.registered
          = none := by
        rw [ReadState.channelIoStopRead]
        split_ifs with hact
        · rfl
        · exact Option.not_isSome_iff_eq_none.mp fun hsome => hact (hwt.active hsome)
      have hread := hwt.setRead (.inl hno)
      have hself' : ((t.setSelf (.socks { self with state := .commandWait })).setRead
          (t.setSelf (.socks
            { self with state := .commandWait })).app.read.channelIoStopRead).channel.app.self =
          .socks { self with state := .commandWait } := by simp
      refine ⟨⟨_, hself', hread⟩, fun _ _ => ⟨hread, ?_, ?_, _, hself', rfl⟩⟩
      · simpa using hal
      · simpa using hno

/-- One turn of the loop. -/
theorem socksProcess_shaken (hself : t.channel.app.self = .socks self)
    (h : Shaking self.state.pending t.channel) (hal : t.channel.alive = true) (env res) :
    Returns Shaken (socksProcess t self env res) := by
  have hset {k : ℕ} {u : Turn z} {self' : Socks} (hu : Shaking k u.channel)
      (hle : k ≤ self'.state.pending) :
      Shaken (u.setSelf (.socks self'), (none : Option SocksTarget)) :=
    ⟨InHandshake.of_setSelf hu hle, nofun⟩
  have hfa {k : ℕ} {u : Turn z} {self' : Socks} (hu : u.channel.app.self = .socks self')
      (hshk : Shaking k u.channel) : Shaken (socksFail u, (none : Option SocksTarget)) :=
    ⟨InHandshake.kill hu hshk, nofun⟩
  rw [socksProcess.eq_def]
  cases hst : self.state with
  | versionHeader =>
    rw [hst] at h
    dsimp only
    split_ifs
    · exact hset h (Nat.zero_le _)
    · exact hset h (Nat.zero_le _)
    · exact hfa (by rw [Turn.channel_setSelf]) (h.setSelf (Nat.le_refl _) _)
  | versionMethods =>
    rw [hst] at h
    dsimp only
    split_ifs
    · refine (socksWrite_shaking h hal (Nat.zero_le _) (by simp) (by simp) self res).of_total.bind
        fun u hu => ?_
      exact hset hu.1 (Nat.le_refl _)
    · refine (socksWrite_shaking h hal (Nat.zero_le _) (by simp) (by simp) self res).of_total.bind
        fun u hu => ?_
      refine ⟨?_, nofun⟩
      have hcl : Shaking 2 (u.setSelf (.socks { self with state := .close })).channel :=
        hu.1.setSelf (Nat.le_refl _) _
      rw [socksClose]
      split_ifs
      · exact ⟨{ self with state := .close }, by simp, hcl.setRead (.inl rfl)⟩
      · have hself : (u.setSelf (.socks { self with state := .close })).channel.app.self =
            .socks { self with state := .close } := by simp
        exact InHandshake.kill hself hcl
  | commandHeader =>
    rw [hst] at h
    dsimp only
    split_ifs
    · exact hfa hself h
    · exact hset h (Nat.le_refl _)
    · exact hset h (Nat.le_refl _)
    · exact hfa (by rw [Turn.channel_setSelf]) (h.setSelf (Nat.le_refl _) _)
    · exact hset h (Nat.le_refl _)
    · exact hset h (Nat.le_refl _)
  | commandAddr =>
    rw [hst] at h
    exact socksCommand_shaken hself h hal (Nat.le_refl _) _ _ _ _ _ _
  | socks4Command =>
    rw [hst] at h
    exact socksCommand_shaken hself h hal (Nat.zero_le _) _ _ _ _ _ _
  | commandWait | close => trivial

theorem socksLoop_shaken (env res fuel) (h : InHandshake t.channel) :
    Returns Shaken (socksLoop env res fuel t) := by
  induction fuel generalizing t with
  | zero => exact ⟨h, nofun⟩
  | succ fuel ih =>
    obtain ⟨self, hself, hshk⟩ := h
    rw [socksLoop, Turn.app, hself]
    dsimp only
    split_ifs with hcd
    · refine (socksProcess_shaken hself hshk hcd.1 env res).bind fun r hr => ?_
      obtain ⟨u, target⟩ := r
      cases target with
      | none => exact ih hr.1
      | some target => exact hr
    · exact ⟨⟨self, hself, hshk⟩, nofun⟩

/-- One callback. -/
theorem socksInput_shaken (env) (h : InHandshake t.channel) (input) :
    Returns Shaken (socksInput env t input) := by
  obtain ⟨self, hself, hshk⟩ := h
  have hhere : InHandshake t.channel := ⟨self, hself, hshk⟩
  have hal (hreg : ¬(t.channel.app.read.registered = none ∧
      t.channel.app.write.registered = none)) : t.channel.alive := by
    by_contra hdd
    exact hreg (hshk.dead (Bool.eq_false_iff.mpr hdd))
  rw [socksInput.eq_def, Turn.app, hself]
  cases input with
  | read data write =>
    dsimp only
    split_ifs
    · rw [oopReadSocks.eq_def]
      dsimp only
      split_ifs
      · exact ⟨InHandshake.kill hself hshk, by simp⟩
      · cases data with
        | failed errno | eof => exact ⟨InHandshake.kill hself hshk, by simp⟩
        | data b s =>
          exact socksLoop_shaken env write 4 (InHandshake.of_setSelf hshk (Nat.le_refl _))
    · exact ⟨hhere, by simp⟩
  | write data =>
    dsimp only
    split_ifs with hreg
    · by_cases hbuf : t.channel.app.write.buffered = []
      · exact ((apply_flush_of_nil hbuf data).bind fun _ h => h.elim).bind fun _ h => h
      · refine (oopWriteSocks_sends hbuf self data).of_total.bind fun u hu => ?_
        refine ⟨⟨self, hu.self_eq.trans hself, ?_⟩, by simp⟩
        exact hshk.sends (hal fun hno => by rw [hreg] at hno; cases hno.2) hu
    · exact ⟨hhere, by simp⟩

theorem socksInputs_shaken (env inputs) (h : InHandshake t.channel) :
    Returns Shaken (socksInputs env inputs t) := by
  induction inputs generalizing t with
  | nil => exact ⟨h, nofun⟩
  | cons input inputs ih =>
    refine (socksInput_shaken env h input).bind fun r hr => ?_
    obtain ⟨u, target⟩ := r
    cases target with
    | none => exact ih hr.1
    | some target => exact hr

/-- **The object that a handshake opens a channel with.** -/
theorem socksHandshake_waiting {env : SocksEnv} {inputs : List SocksInput}
    {new : NewChannel Forward} {target : SocksTarget}
    (h : socksHandshake env fd inputs = .ok (some (new, target))) :
    ∃ y, Waiting y ∧ new = { makeSocksChannel fd with app := y.app } := by
  have hstr : InHandshake (doSocksAccept fd).channel :=
    ⟨⟨.versionHeader, 0, [], 2⟩, rfl, nofun, fun _ => rfl, rfl, rfl, rfl, rfl, fun _ =>
      Nat.le_refl _,
      nofun, .inl rfl, rfl⟩
  have hinps := socksInputs_shaken env inputs hstr
  rw [socksHandshake] at h
  cases hr : socksInputs env inputs (doSocksAccept fd) with
  | error e =>
    rw [hr] at h
    cases h
  | ok r =>
    rw [hr] at h hinps
    obtain ⟨t, found⟩ := r
    cases found with
    | none => cases h
    | some _ =>
      cases h
      exact ⟨t.channel, hinps.2 target rfl, rfl⟩

end Handshake

end Lsh.Channel
