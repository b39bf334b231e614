
import Lsh.Channel.Io

/-!
# Forwarded channels

A model of `channel_forward.c`: a channel whose data goes to a socket, and back. SOCKS channels and
the X11 channels of the client are such channels with data of their own, for what they do before
they forward anything; `Channel/Socks.lean` and `Channel/X11.lean` have their functions.

Reading and writing use the same descriptor. It is closed by the method `kill`, which cancels both
callbacks but leaves the states of the two directions alone.
-/

namespace Lsh.Channel

open Machine Io

/-! ### Objects -/

/-- `enum socks_state`. -/
inductive SocksState where
  | versionHeader
  | versionMethods
  | commandHeader
  | commandAddr
  | socks4Command
  | commandWait
  | close
  deriving DecidableEq, Repr

/-- The fields of `struct socks_channel`. -/
structure Socks where
  state : SocksState
  version : UInt8
  /-- The first `pos` octets of the read buffer. -/
  buffer : Octets
  /-- How much is needed before processing. -/
  length : ℕ
  deriving DecidableEq

/-- The state of an X11 channel of the client. -/
inductive ClientX11State where
  | start
  | gotLengths
  | cantHappen
  deriving DecidableEq, Repr

/-- The cookies of `struct client_x11_display`. -/
structure ClientX11Display where
  fake : LshString
  authName : LshString
  authData : LshString
  /-- `do_client_x11_handle_random_reply` accepts no other length. -/
  fake_length : fake.1.length = 16
  deriving DecidableEq

/-- The fields of `struct client_x11_channel`. -/
structure ClientX11 where
  display : ClientX11Display
  state : ClientX11State
  littleEndian : Bool
  nameLength : ℕ
  authLength : ℕ
  /-- The first `i` octets of the buffer. -/
  buffer : Octets
  deriving DecidableEq

/-- The class of an object. -/
inductive ForwardClass where
  | channelForward
  | socks (self : Socks)
  | clientX11 (self : ClientX11)
  deriving DecidableEq

/-- What the pointer `receive` points to, if it is set. -/
inductive ForwardReceive where
  | channelForward
  | clientX11
  deriving DecidableEq, Repr

/-- `struct channel_forward`, with the fields of the classes that extend it. -/
structure Forward where
  read : ReadState
  write : WriteState
  receive : ForwardReceive
  self : ForwardClass
  /-- How many octets of extended data have been ignored. Only theorems look at it. -/
  discarded : ℕ
  deriving DecidableEq

/-- `FORWARD_READ_BUFFER_SIZE`. -/
def forwardReadBufferSize : ℕ := 0x4000

/-- `SSH_MAX_PACKET`. -/
def sshMaxPacket : UInt32 := 0x8000

/-- `TCPIP_WINDOW_SIZE`. -/
def tcpipWindowSize : UInt32 := 10000

/-- `init_channel_forward`. -/
def initChannelForward (socket : ℕ) (writeBufferSize : UInt32) (self : ForwardClass) :
    NewChannel Forward where
  recWindowSize := writeBufferSize
  recMaxPacket := sshMaxPacket
  requestTypes := []
  requestFallback := false
  noWaitForEof := false
  sources := 0
  sinks := 0
  receive := false
  sendAdjust := false
  closesConnection := false
  app :=
    { read := initChannelReadState (some socket) forwardReadBufferSize
      write := initChannelWriteState (some socket) writeBufferSize.toNat
      receive := .channelForward
      self := self
      discarded := 0 }

/-- `make_channel_forward`. -/
def makeChannelForward (socket : ℕ) (writeBufferSize : UInt32) : NewChannel Forward :=
  initChannelForward socket writeBufferSize .channelForward

/-! ### Functions -/

variable {x : SshChannel Forward}

namespace Turn

/-- The state of the socket for reading. -/
def setRead (t : Turn x) (read : ReadState) : Turn x :=
  t.setApp { t.app with read := read }

/-- The state of the socket for writing. -/
def setWrite (t : Turn x) (write : WriteState) : Turn x :=
  t.setApp { t.app with write := write }

/-- The fields of the class. -/
def setSelf (t : Turn x) (self : ForwardClass) : Turn x :=
  t.setApp { t.app with self := self }

@[simp] theorem channel_setRead (t : Turn x) (read) :
    (t.setRead read).channel = { t.channel with app := { t.channel.app with read := read } } :=
  t.channel_setApp _

@[simp] theorem channel_setWrite (t : Turn x) (write) :
    (t.setWrite write).channel = { t.channel with app := { t.channel.app with write := write } } :=
  t.channel_setApp _

@[simp] theorem channel_setSelf (t : Turn x) (self) :
    (t.setSelf self).channel = { t.channel with app := { t.channel.app with self := self } } :=
  t.channel_setApp _

end Turn

/-- `do_kill_channel_forward`. -/
def doKillChannelForward (t : Turn x) : Turn x :=
  if t.channel.alive then
    (t.setApp { t.app with
      read := { t.app.read with registered := none }
      write := { t.app.write with registered := none } }).call .kill
  else t

/-- The object of a channel whose socket is closed. -/
def killed (x : SshChannel Forward) : SshChannel Forward :=
  { x with
    alive := false
    app := { x.app with
      read := { x.app.read with registered := none }
      write := { x.app.write with registered := none } } }

theorem channel_doKillChannelForward (t : Turn x) :
    (doKillChannelForward t).channel = if t.channel.alive then killed t.channel else t.channel := by
  rw [doKillChannelForward]
  split_ifs
  · rw [Turn.channel_call, Turn.channel_setApp]
    rfl
  · rfl

/-- `channel_forward_shutdown`. -/
def channelForwardShutdown (t : Turn x) : Except ProgramError (Turn x) := do
  require (t.channel.sinks ≠ 0) (.assertion .sinks)
  return (t.setSinks (t.channel.sinks - 1)).call .maybeClose

/-- What follows after writing to the socket. -/
def afterWriteSocket (r : IoStatus × WriteState × Turn x) : Except ProgramError (Turn x) :=
  let t := r.2.2.setWrite r.2.1
  if r.1 = .eof then channelForwardShutdown t else .ok t

/-- `oop_write_socket`. -/
def oopWriteSocket (t : Turn x) (res : WriteResult) : Except ProgramError (Turn x) := do
  let r ← channelIoFlush t t.app.write res
  afterWriteSocket r

/-- `channel_forward_write`. -/
def channelForwardWrite (t : Turn x) (data : Octets) (res : WriteResult) :
    Except ProgramError (Turn x) := do
  let r ← channelIoWrite t t.app.write .oopWriteSocket data res
  afterWriteSocket r

/-- Extended data is ignored. -/
def ignoreData (t : Turn x) (data : Octets) : Turn x :=
  t.setApp { t.app with discarded := t.app.discarded + data.length }

/-- `do_channel_forward_receive`. -/
def doChannelForwardReceive (t : Turn x) (stderr : Bool) (data : Octets) (res : WriteResult) :
    Except ProgramError (Turn x) :=
  if stderr then .ok (ignoreData t data) else channelForwardWrite t data res

/-- `oop_read_socket`. -/
def oopReadSocket (t : Turn x) (res : ReadResult) : Except ProgramError (Turn x) := do
  let (status, data, read, t) ← channelIoRead t t.app.read res
  let t := t.setRead read
  if status = .ok ∧ 0 < data.1.length then return t.call (.transmitData data) else return t

/-- `do_channel_forward_send_adjust`. -/
def doChannelForwardSendAdjust (t : Turn x) : Turn x :=
  t.setRead (t.app.read.channelIoStartRead .oopReadSocket)

/-- `channel_forward_start_read`. -/
def channelForwardStartRead (t : Turn x) : Turn x :=
  if t.channel.sendWindowSize ≠ 0 then t.setRead (t.app.read.channelIoStartRead .oopReadSocket)
  else t

/-- `channel_forward_start_io`. -/
def channelForwardStartIo (t : Turn x) : Turn x :=
  channelForwardStartRead (t.set fun u => { u with
    receive := true
    sendAdjust := true
    sources := u.sources + 1
    sinks := u.sinks + 1
    app := { u.app with receive := .channelForward } })

/-- The event EOF, for all kinds of forwarded channels. -/
def channelForwardEof (t : Turn x) : Except ProgramError (Turn x) :=
  match t.app.write.state with
  | none => .error .nullPointer
  | some state => if state.buffer = [] then channelForwardShutdown t else .ok t

/-- The events after the channel has been opened, for all kinds of forwarded channels. -/
def forwardEvent (t : Turn x) : ChannelEvent → Except ProgramError (Turn x)
  | .eof => channelForwardEof t
  | .stop => .ok (t.setRead t.app.read.channelIoStopRead)
  | .start => .ok (channelForwardStartRead t)
  | _ => .ok t

/-- `do_channel_forward_event`. -/
def doChannelForwardEvent (t : Turn x) (event : ChannelEvent) :
    Except ProgramError (Turn x) :=
  if event = .confirm then .ok (channelForwardStartIo t) else forwardEvent t event

end Lsh.Channel
